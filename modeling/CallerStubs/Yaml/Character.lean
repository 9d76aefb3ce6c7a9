/-
  Caller stubs — characters of a YAML text.

  * `isBreak`, `isSpacing`, `isWordChar`: the classes that the reader asks for;
  * `isReadable`: may the character stand in a text at all?
  * `unifyBreaks`: a text in which every line ends in the same way;
  * `blankAhead`: is a word over where a text begins?
  * `startsMarker`: does a text begin with the marker between documents?
-/
namespace CallerStubs.Yaml

/-! ## Classes -/

/-- A character that ends a line, once the ends have been made alike. -/
def isBreak (c : Char) : Bool :=
  c == '\n' || c == '\u2028' || c == '\u2029'

/-- White space within a line. -/
def isSpacing (c : Char) : Bool :=
  c == ' ' || c == '\t'

/-- A character of a name: a letter or digit of ASCII, `-` or `_`. -/
def isWordChar (c : Char) : Bool :=
  c.isAlphanum || c == '-' || c == '_'

/-- May the character stand in a text?  Control characters and two
    noncharacters may not. -/
def isReadable (c : Char) : Bool :=
  let n := c.toNat
  n == 0x9 || n == 0xA || n == 0xD || (0x20 ≤ n && n ≤ 0x7E) || n == 0x85 ||
    (0xA0 ≤ n && n ≤ 0xFFFD) || 0x10000 ≤ n

/-! ## Lines -/

/-- The text in which a line feed stands for each of the four ways to end a
    line that ASCII and its first extension know. -/
def unifyBreaks : List Char → List Char
  | [] => []
  | '\r' :: '\n' :: cs => '\n' :: unifyBreaks cs
  | c :: cs => (if c = '\r' ∨ c = '\u0085' then '\n' else c) :: unifyBreaks cs

/-- Is there white space, a break or the end where the text begins? -/
def blankAhead : List Char → Bool
  | [] => true
  | c :: _ => isSpacing c || isBreak c

/-- Does the text begin with three equal characters that stand alone? -/
def startsWithThree (mark : Char) : List Char → Bool
  | a :: b :: c :: cs => a == mark && b == mark && c == mark && blankAhead cs
  | _ => false

/-- Does the text begin with the mark that starts or ends a document?  It only
    counts at the start of a line. -/
def startsMarker (cs : List Char) : Bool :=
  startsWithThree '-' cs || startsWithThree '.' cs

end CallerStubs.Yaml
