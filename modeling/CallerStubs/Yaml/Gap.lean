/-
  Caller stubs — white space between two words of a YAML scalar.

  A word is followed by the next one on the same line, on the next line or
  behind empty lines.  Spacing on a line is kept; a single line break is read
  as a space, and of several breaks the first is dropped.

  * `Gap`: the white space read since the last word;
  * `Gap.add`: the gap with one more character;
  * `Gap.text`: what the gap stands for.
-/
import CallerStubs.Yaml.Character

namespace CallerStubs.Yaml

/-- The white space read since the last word. -/
structure Gap where
  /-- The spacing, as long as no line has ended. -/
  spacing : List Char := []
  /-- Has a line ended? -/
  broken : Bool := false
  /-- The first break, unless it was escaped. -/
  first : Option Char := none
  /-- The breaks after the first. -/
  later : List Char := []
  deriving DecidableEq, Repr

namespace Gap

/-- The gap behind a break that does not count. -/
def escapedBreak : Gap := { broken := true }

/-- Has anything been read? -/
def present (g : Gap) : Bool :=
  g.broken || !g.spacing.isEmpty

/-- The gap with one more character.  Spacing around breaks is dropped. -/
def add (g : Gap) (c : Char) : Gap :=
  if isBreak c then
    if g.broken then { g with later := g.later ++ [c] }
    else { spacing := [], broken := true, first := some c }
  else if g.broken then g
  else { g with spacing := g.spacing ++ [c] }

/-- What the gap stands for.  Only a line feed is folded. -/
def text (g : Gap) : List Char :=
  if g.broken then
    match g.first with
    | none => g.later
    | some '\n' => if g.later.isEmpty then [' '] else g.later
    | some c => c :: g.later
  else g.spacing

end Gap

end CallerStubs.Yaml
