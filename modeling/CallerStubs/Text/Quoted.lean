/-
  Caller stubs — quoted text in log records.

  A log record shows an attribute value between double quotes, so that its
  end and its invisible characters can be seen.

  * `escaped`: how a character is shown between the quotes;
  * `quoted`: a text between quotes;
  * `quotedOption`: a value that may be absent, as `None` or `Some("…")`.
-/
import CallerStubs.Text.Printable

namespace CallerStubs.Text

/-- A digit of a number in base 16, in lowercase. -/
def hexDigit (n : Nat) : Char :=
  if n < 10 then Char.ofNat (48 + n) else Char.ofNat (87 + n)

/-- A code point in base 16, without leading zeros. -/
def hexDigits (n : Nat) : List Char :=
  if n < 16 then [hexDigit n] else hexDigits (n / 16) ++ [hexDigit (n % 16)]

/-- A character as it is shown between quotes. -/
def escaped (c : Char) : List Char :=
  if c = '\x00' then ['\\', '0']
  else if c = '\t' then ['\\', 't']
  else if c = '\r' then ['\\', 'r']
  else if c = '\n' then ['\\', 'n']
  else if c = '\\' ∨ c = '"' then ['\\', c]
  else if extendsGrapheme c || !isPrintable c then
    ['\\', 'u', '{'] ++ hexDigits c.toNat ++ ['}']
  else [c]

/-- A text between double quotes. -/
def quoted (s : String) : String :=
  String.ofList (['"'] ++ s.toList.flatMap escaped ++ ['"'])

/-- A value that may be absent. -/
def quotedOption : Option String → String
  | none => "None"
  | some s => "Some(" ++ quoted s ++ ")"

end CallerStubs.Text
