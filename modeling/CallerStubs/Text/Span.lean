/-
  Caller stubs — sets of code points.

  Character properties are kept as ascending lists of spans of code points.

  * `Span`: the code points `first, first + step, …, last`;
  * `spanned`: membership of a character in a list of spans;
  * `Shift`: a span whose members are all mapped by one offset.
-/
namespace CallerStubs.Text

/-- The code points `first, first + step, …` up to `last`. -/
structure Span where
  first : Nat
  last : Nat
  step : Nat
  deriving Repr, DecidableEq

/-- Is the code point a member of the span? -/
def Span.contains (s : Span) (n : Nat) : Bool :=
  decide (s.first ≤ n) && decide (n ≤ s.last) && (n - s.first) % s.step == 0

/-- Is the character in one of the spans? -/
def spanned (spans : List Span) (c : Char) : Bool :=
  spans.any (·.contains c.toNat)

/-- A span of code points that are all moved by the same offset. -/
structure Shift where
  span : Span
  offset : Int
  deriving Repr, DecidableEq

/-- The character at the offset from `c`. -/
def Shift.apply (s : Shift) (c : Char) : Char :=
  Char.ofNat (c.toNat + s.offset).toNat

/-- The image of `c` under the first shift that moves it, else `c` itself. -/
def shifted (shifts : List Shift) (c : Char) : Char :=
  match shifts.find? (·.span.contains c.toNat) with
  | some s => s.apply c
  | none => c

end CallerStubs.Text
