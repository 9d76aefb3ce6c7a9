/-
  Caller stubs — plain scalars of a YAML text.

  A plain scalar is written without quotes.  It goes on over several lines as
  long as they are indented, and ends before a comment, a marker or an
  indicator.

  * `endsPlain`, `leavesPlain`: where a plain scalar ends;
  * `readPlain`: the scalar at the start of a text.
-/
import CallerStubs.Yaml.Cursor
import CallerStubs.Yaml.Gap

namespace CallerStubs.Yaml

/-- A plain scalar and what has been read with it. -/
structure PlainScalar where
  text : List Char
  /-- The place of the next token, or before it. -/
  after : Cursor
  /-- Has a line ended behind the scalar? -/
  brokeLine : Bool
  deriving DecidableEq, Repr

/-- The brackets and the comma of a flow collection. -/
def isFlowIndicator (c : Char) : Bool :=
  c == ',' || c == '[' || c == ']' || c == '\x7b' || c == '\x7d'

/-- Does the character `c`, followed by `cs`, end a plain scalar? -/
def endsPlain (inFlow : Bool) (c : Char) (cs : List Char) : Bool :=
  (c == ':' && blankAhead cs) || (inFlow && isFlowIndicator c)

/-- Is the character `c`, followed by `cs`, a colon that no plain scalar of a
    flow collection may hold? -/
def colonMisplaced (inFlow : Bool) (c : Char) (cs : List Char) : Bool :=
  inFlow && c == ':' && (cs.take 1).any fun d => isFlowIndicator d || d == '?'

/-- Does a text that follows white space no longer belong to a plain
    scalar? -/
def leavesPlain (inFlow : Bool) (indent column : Nat) (cs : List Char) : Bool :=
  (!inFlow && column < indent) || (column == 0 && startsMarker cs) || cs.take 1 == ['#']

/-- The plain scalar at the start of a text, of which the white space `gap` has
    been read.  Its lines are indented by `indent`, unless it stands in a flow
    collection. -/
def readPlain (inFlow : Bool) (indent : Nat) (gap : Gap) (line column : Nat) :
    List Char → Option PlainScalar
  | [] => some ⟨[], ⟨[], line, column⟩, gap.broken⟩
  | c :: cs =>
    if isBreak c then readPlain inFlow indent (gap.add c) (line + 1) 0 cs
    else if isSpacing c then
      if c = '\t' ∧ gap.broken ∧ column < indent then none
      else readPlain inFlow indent (gap.add c) line (column + 1) cs
    else if gap.present && leavesPlain inFlow indent column (c :: cs) then
      some ⟨[], ⟨c :: cs, line, column⟩, gap.broken⟩
    else if colonMisplaced inFlow c cs then none
    else if endsPlain inFlow c cs then some ⟨[], ⟨c :: cs, line, column⟩, gap.broken⟩
    else do
      let p ← readPlain inFlow indent {} line (column + 1) cs
      some { p with text := gap.text ++ c :: p.text }

end CallerStubs.Yaml
