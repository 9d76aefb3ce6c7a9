/-
  Caller stubs — texts that look like other values.

  A reader of a YAML text that does not know that a text is wanted takes some
  plain scalars for null, for a truth value or for a number.

  * `isWhole`, `isDecimal`: the texts that are numbers;
  * `looksTyped`: does the text look like another value?
-/
import CallerStubs.Text.Number

namespace CallerStubs.Yaml

/-! ## Whole numbers -/

/-- The text without a sign at its start. -/
def unsigned (cs : List Char) : List Char :=
  match cs with
  | '+' :: cs | '-' :: cs => cs
  | cs => cs

/-- Digits with a zero before them, which are no number. -/
def zeroPadded (cs : List Char) : Bool :=
  match unsigned cs with
  | '0' :: c :: cs => (c :: cs).all (·.isDigit)
  | _ => false

/-- The greatest whole number. -/
def maxWhole : Nat := Nat.pow 2 128 - 1

/-- The greatest size of a negative whole number. -/
def maxNegative : Nat := Nat.pow 2 127

/-- The whole number without a sign that a text writes. -/
def magnitude? : List Char → Option Nat
  | '0' :: 'x' :: cs => Text.number? 16 cs
  | '0' :: 'o' :: cs => Text.number? 8 cs
  | '0' :: 'b' :: cs => Text.number? 2 cs
  | cs => if zeroPadded cs then none else Text.number? 10 cs

/-- Is the text a whole number? -/
def isWhole (cs : List Char) : Bool :=
  match cs with
  | '-' :: cs => (magnitude? cs).any (· ≤ maxNegative)
  | '+' :: cs => (magnitude? cs).any (· ≤ maxWhole)
  | cs => (magnitude? cs).any (· ≤ maxWhole)

/-! ## Decimal numbers -/

/-- Is the decimal number `digits * 10 ^ exponent` one that rounds to a finite
    binary number of double precision? -/
def roundsToFinite (digits : Nat) (exponent : Int) : Bool :=
  let bound := Nat.pow 2 1024 - Nat.pow 2 970
  let size : Int := (toString digits).length + exponent
  if digits = 0 ∨ size < 300 then true
  else if size > 320 then false
  else decide (digits * Nat.pow 10 exponent.toNat < bound * Nat.pow 10 (-exponent).toNat)

/-- The exponent of a decimal number, with its letter; zero if there is none. -/
def exponent? : List Char → Option Int
  | [] => some 0
  | e :: cs =>
    if e = 'e' ∨ e = 'E' then
      match cs with
      | '-' :: cs => (Text.number? 10 cs).map fun n => -(n : Int)
      | '+' :: cs => (Text.number? 10 cs).map Int.ofNat
      | cs => (Text.number? 10 cs).map Int.ofNat
    else none

/-- Is the text a decimal number without a sign that rounds to a finite one? -/
def isDecimal (cs : List Char) : Bool :=
  let whole := cs.takeWhile (·.isDigit)
  let rest := cs.dropWhile (·.isDigit)
  let (fraction, rest) := match rest with
    | '.' :: rest => (rest.takeWhile (·.isDigit), rest.dropWhile (·.isDigit))
    | rest => ([], rest)
  match Text.number? 10 (whole ++ fraction), exponent? rest with
  | some digits, some exponent => roundsToFinite digits (exponent - fraction.length)
  | _, _ => false

/-- The names of the numbers that no digits write, without a sign. -/
def infinities : List String := [".inf", ".Inf", ".INF"]

/-- The names of what is not a number. -/
def notNumbers : List String := [".nan", ".NaN", ".NAN"]

/-- Is the text a number that need not be whole? -/
def isReal (cs : List Char) : Bool :=
  infinities.contains (String.ofList (unsigned cs)) || notNumbers.contains (String.ofList cs) ||
    isDecimal (unsigned cs)

/-! ## Other values -/

/-- The names of null and of the truth values. -/
def constants : List String :=
  ["null", "Null", "NULL", "~", "true", "True", "TRUE", "false", "False", "FALSE"]

/-- Could a reader take the text for another value, or for a number with zeros
    before it? -/
def looksTyped (s : String) : Bool :=
  s.isEmpty || constants.contains s || isWhole s.toList || zeroPadded s.toList || isReal s.toList

end CallerStubs.Yaml
