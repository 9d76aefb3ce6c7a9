/-
  Caller stubs — how a text is written as a YAML scalar.

  A text of several lines is written as a literal block.  Any other text is
  written plainly if that is unambiguous, else between single quotes.  Double
  quotes, between which characters can be escaped, are for the texts that
  cannot be written in the style they should have.

  * `Style`, `styleOf`: how a text is written;
  * `writeScalar`: its written form, in a mapping that is not indented.
-/
import CallerStubs.Yaml.Character
import CallerStubs.Yaml.Typed

namespace CallerStubs.Yaml

/-! ## What a text holds -/

/-- May the character be written as it is? -/
def isPlainlyShown (c : Char) : Bool :=
  let n := c.toNat
  n == 0xA || (0x20 ≤ n && n ≤ 0x7E) || (0xA0 ≤ n && n ≤ 0xFFFD && n != 0xFEFF) || 0x10000 ≤ n

/-- Is the character of white space, among those that are written as they
    are? -/
def isWhite (c : Char) : Bool :=
  c == ' ' || isBreak c

/-- Are there two neighbours of which the first satisfies `p` and the second
    `q`? -/
def hasNeighbours (p q : Char → Bool) (cs : List Char) : Bool :=
  (cs.zip (cs.drop 1)).any fun (a, b) => p a && q b

/-- Does an indicator follow the character `before`, at the start of a text? -/
def indicatorBehind (before : Char) : List Char → Bool
  | [] => false
  | c :: cs => (c == ':' && blankAhead cs) || (c == '#' && blankAhead [before])

/-- Does an indicator follow some character of the text? -/
def hasInnerIndicator : List Char → Bool
  | [] => false
  | c :: cs => indicatorBehind c cs || hasInnerIndicator cs

/-- Does the text begin with an indicator or with a mark? -/
def hasFirstIndicator (cs : List Char) : Bool :=
  "---".toList.isPrefixOf cs || "...".toList.isPrefixOf cs ||
    match cs with
    | [] => false
    | c :: cs =>
      "#,[]\x7b\x7d&*!|>\x27\"%@\x60".toList.contains c ||
        ("?:-".toList.contains c && blankAhead cs)

/-! ## Styles -/

/-- A way to write a scalar. -/
inductive Style where
  | plain
  | singleQuoted
  | doubleQuoted
  | literal
  deriving DecidableEq, Repr

/-- Can the text be written in a style without escapes? -/
def unescaped (cs : List Char) : Bool :=
  cs.all isPlainlyShown && !hasNeighbours (· == ' ') isBreak cs

/-- Can the text be written as a literal block? -/
def allowsLiteral (cs : List Char) : Bool :=
  unescaped cs && cs.getLast? != some ' '

/-- Can the text be written between single quotes? -/
def allowsSingleQuoted (cs : List Char) : Bool :=
  unescaped cs && !hasNeighbours isBreak (· == ' ') cs

/-- Can the text be written plainly? -/
def allowsPlain (cs : List Char) : Bool :=
  cs.all isPlainlyShown && !cs.any isBreak && !cs.head?.any isWhite && !cs.getLast?.any isWhite &&
    !hasFirstIndicator cs && !hasInnerIndicator cs

/-- The style of a text. -/
def styleOf (s : String) : Style :=
  let cs := s.toList
  if cs.contains '\n' then if allowsLiteral cs then .literal else .doubleQuoted
  else if !looksTyped s && allowsPlain cs then .plain
  else if allowsSingleQuoted cs then .singleQuoted
  else .doubleQuoted

/-! ## Written forms -/

/-- The spaces before a line of a scalar. -/
def lineIndent : List Char := [' ', ' ']

/-- A text between single quotes, behind a break if `broken` says so.  The lines
    after the first are indented, and so is the closing quote. -/
def singleQuotedBody (broken : Bool) : List Char → List Char
  | [] => (if broken then lineIndent else []) ++ ['\x27']
  | c :: cs =>
    if isBreak c then c :: singleQuotedBody true cs
    else
      (if broken then lineIndent else []) ++ (if c = '\x27' then [c, c] else [c]) ++
        singleQuotedBody false cs

/-- The lines of a text, at the start of one if `broken` says so. -/
def literalBody (broken : Bool) : List Char → List Char
  | [] => []
  | c :: cs =>
    if isBreak c then c :: literalBody true cs
    else (if broken then lineIndent else []) ++ c :: literalBody false cs

/-- The sign for the breaks at the end of a literal block. -/
def chompingSign (cs : List Char) : List Char :=
  match cs.reverse with
  | [] => ['-']
  | c :: before =>
    if !isBreak c then ['-']
    else if before.isEmpty || (before.take 1).any isBreak then ['+']
    else []

/-- The header of a literal block.  It gives the indentation of a text whose
    first line does not show it. -/
def literalHeader (cs : List Char) : List Char :=
  ['|'] ++ (if cs.head?.any isWhite then ['2'] else []) ++ chompingSign cs ++ ['\n']

/-- A digit in base 16, in uppercase. -/
def hexDigitUpper (n : Nat) : Char :=
  if n < 10 then Char.ofNat (48 + n) else Char.ofNat (55 + n)

/-- The last `width` digits of a number in base 16. -/
def hexPadded : (width : Nat) → Nat → List Char
  | 0, _ => []
  | width + 1, n => hexPadded width (n / 16) ++ [hexDigitUpper (n % 16)]

/-- The letter of the escape that has one. -/
def escapeLetter? (c : Char) : Option Char :=
  match c with
  | '\x00' => some '0'
  | '\x07' => some 'a'
  | '\x08' => some 'b'
  | '\t' => some 't'
  | '\n' => some 'n'
  | '\x0b' => some 'v'
  | '\x0c' => some 'f'
  | '\r' => some 'r'
  | '\x1b' => some 'e'
  | '"' => some '"'
  | '\\' => some '\\'
  | '\u0085' => some 'N'
  | '\u2028' => some 'L'
  | '\u2029' => some 'P'
  | _ => none

/-- A character between double quotes. -/
def doubleQuotedChar (c : Char) : List Char :=
  match escapeLetter? c with
  | some letter => ['\\', letter]
  | none =>
    if isPlainlyShown c then [c]
    else if c.toNat ≤ 0xFF then ['\\', 'x'] ++ hexPadded 2 c.toNat
    else if c.toNat ≤ 0xFFFF then ['\\', 'u'] ++ hexPadded 4 c.toNat
    else ['\\', 'U'] ++ hexPadded 8 c.toNat

/-- A text in a style. -/
def writeIn (style : Style) (cs : List Char) : List Char :=
  match style with
  | .plain => cs
  | .singleQuoted => ['\x27'] ++ singleQuotedBody false cs
  | .doubleQuoted => ['"'] ++ cs.flatMap doubleQuotedChar ++ ['"']
  | .literal => literalHeader cs ++ literalBody true cs

/-- A text as a scalar, with the break that ends its last line.  A literal block
    may have that break already. -/
def writeScalar (s : String) : List Char :=
  let written := writeIn (styleOf s) s.toList
  if written.getLast?.any isBreak then written else written ++ ['\n']

end CallerStubs.Yaml
