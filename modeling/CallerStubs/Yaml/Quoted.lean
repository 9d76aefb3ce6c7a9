/-
  Caller stubs — quoted scalars of a YAML text.

  Between single quotes, a quote is written twice and all else as it is.
  Between double quotes, a backslash starts an escape.  In both, line breaks
  are folded.

  * `readSingleQuoted`, `readDoubleQuoted`: a scalar whose opening quote has
    been read, up to its closing quote;
  * `escapeMeaning?`: the character of an escape that is one letter.
-/
import CallerStubs.Text.Number
import CallerStubs.Yaml.Cursor
import CallerStubs.Yaml.Gap

namespace CallerStubs.Yaml

/-- A scalar and the place behind it. -/
structure QuotedScalar where
  text : List Char
  after : Cursor
  deriving DecidableEq, Repr

/-- The scalar with more text before it. -/
def QuotedScalar.behind (before : List Char) (q : QuotedScalar) : QuotedScalar :=
  { q with text := before ++ q.text }

/-! ## Single quotes -/

/-- The scalar up to the closing single quote; `gap` is the white space read
    since its last word.  No line of it begins with a marker. -/
def readSingleQuoted (gap : Gap) (line column : Nat) : List Char → Option QuotedScalar
  | [] => none
  | c :: cs =>
    if isBreak c then readSingleQuoted (gap.add c) (line + 1) 0 cs
    else if isSpacing c then readSingleQuoted (gap.add c) line (column + 1) cs
    else if column = 0 ∧ startsMarker (c :: cs) then none
    else if c = '\x27' then
      match cs with
      | '\x27' :: cs => (readSingleQuoted {} line (column + 2) cs).map (·.behind (gap.text ++ [c]))
      | cs => some ⟨gap.text, ⟨cs, line, column + 1⟩⟩
    else (readSingleQuoted {} line (column + 1) cs).map (·.behind (gap.text ++ [c]))

/-! ## Double quotes -/

/-- The character that a backslash and a letter stand for. -/
def escapeMeaning? (letter : Char) : Option Char :=
  match letter with
  | '0' => some '\x00'
  | 'a' => some '\x07'
  | 'b' => some '\x08'
  | 't' | '\t' => some '\t'
  | 'n' => some '\n'
  | 'v' => some '\x0b'
  | 'f' => some '\x0c'
  | 'r' => some '\r'
  | 'e' => some '\x1b'
  | ' ' => some ' '
  | '"' => some '"'
  | '/' => some '/'
  | '\\' => some '\\'
  | 'N' => some '\u0085'
  | '_' => some '\u00a0'
  | 'L' => some '\u2028'
  | 'P' => some '\u2029'
  | _ => none

/-- The character with a number in base 16. -/
def numberedChar? (digits : List Char) : Option Char := do
  let n ← Text.number? 16 digits
  if n.isValidChar then some (Char.ofNat n) else none

/-- The scalar up to the closing double quote; `gap` is the white space read
    since its last word.  No line of it begins with a marker. -/
def readDoubleQuoted (gap : Gap) (line column : Nat) : List Char → Option QuotedScalar
  | [] => none
  | c :: cs =>
    if isBreak c then readDoubleQuoted (gap.add c) (line + 1) 0 cs
    else if isSpacing c then readDoubleQuoted (gap.add c) line (column + 1) cs
    else if column = 0 ∧ startsMarker (c :: cs) then none
    else if c = '"' then some ⟨gap.text, ⟨cs, line, column + 1⟩⟩
    else if c = '\\' then
      match cs with
      | [] => none
      | e :: cs =>
        if isBreak e then
          (readDoubleQuoted Gap.escapedBreak (line + 1) 0 cs).map (·.behind gap.text)
        else match escapeMeaning? e, e, cs with
        | some d, _, cs =>
          (readDoubleQuoted {} line (column + 2) cs).map (·.behind (gap.text ++ [d]))
        | none, 'x', a₁ :: a₂ :: cs => do
          let d ← numberedChar? [a₁, a₂]
          (readDoubleQuoted {} line (column + 4) cs).map (·.behind (gap.text ++ [d]))
        | none, 'u', a₁ :: a₂ :: a₃ :: a₄ :: cs => do
          let d ← numberedChar? [a₁, a₂, a₃, a₄]
          (readDoubleQuoted {} line (column + 6) cs).map (·.behind (gap.text ++ [d]))
        | none, 'U', a₁ :: a₂ :: a₃ :: a₄ :: a₅ :: a₆ :: a₇ :: a₈ :: cs => do
          let d ← numberedChar? [a₁, a₂, a₃, a₄, a₅, a₆, a₇, a₈]
          (readDoubleQuoted {} line (column + 10) cs).map (·.behind (gap.text ++ [d]))
        | _, _, _ => none
    else (readDoubleQuoted {} line (column + 1) cs).map (·.behind (gap.text ++ [c]))

end CallerStubs.Yaml
