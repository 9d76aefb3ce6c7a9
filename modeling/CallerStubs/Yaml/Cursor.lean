/-
  Caller stubs — a place in a YAML text.

  * `Cursor`: a place, by what follows it and by its line and column;
  * `Cursor.advance`: the place behind the next characters of a line;
  * `Cursor.moveTo`: the place on the line from which a text follows;
  * `Cursor.bytesTo`: the bytes between two places on a line.
-/
import CallerStubs.Yaml.Character

namespace CallerStubs.Yaml

/-- A place in a text. -/
structure Cursor where
  rest : List Char
  line : Nat := 0
  column : Nat := 0
  deriving DecidableEq, Repr

namespace Cursor

/-- The place behind the next `n` characters, none of which ends a line. -/
def advance (k : Cursor) (n : Nat) : Cursor :=
  { k with rest := k.rest.drop n, column := k.column + n }

/-- The place on the same line from which `rest` follows. -/
def moveTo (k : Cursor) (rest : List Char) : Cursor :=
  { k with rest, column := k.column + (k.rest.length - rest.length) }

/-- The number of bytes up to another place if it is on the same line, else
    zero. -/
def bytesTo (k l : Cursor) : Nat :=
  if k.line = l.line then (String.ofList (k.rest.take (l.column - k.column))).utf8ByteSize else 0

/-- The place behind the next character if that character ends the line, else
    the same place. -/
def pastBreak (k : Cursor) : Cursor :=
  match k.rest with
  | c :: cs => if isBreak c then ⟨cs, k.line + 1, 0⟩ else k
  | [] => k

end Cursor

end CallerStubs.Yaml
