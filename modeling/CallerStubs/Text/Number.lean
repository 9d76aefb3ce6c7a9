/-
  Caller stubs — numbers as they are written.

  * `digitValue?`: what a digit stands for in a base up to 16;
  * `number?`: what a row of digits stands for.
-/
namespace CallerStubs.Text

/-- The value of a digit in a base up to 16. -/
def digitValue? (base : Nat) (c : Char) : Option Nat :=
  let n := c.toNat
  let value :=
    if 48 ≤ n ∧ n ≤ 57 then n - 48
    else if 65 ≤ n ∧ n ≤ 70 then n - 55
    else if 97 ≤ n ∧ n ≤ 102 then n - 87
    else base
  if value < base then some value else none

/-- The number that digits stand for, continued from `value`. -/
def digitsFrom? (base value : Nat) : List Char → Option Nat
  | [] => some value
  | c :: cs =>
    match digitValue? base c with
    | some d => digitsFrom? base (value * base + d) cs
    | none => none

/-- The number that a non-empty list of digits stands for. -/
def number? (base : Nat) : List Char → Option Nat
  | [] => none
  | cs => digitsFrom? base 0 cs

end CallerStubs.Text
