/-
  Caller stubs — tokens of a YAML text.

  * `Token`: what the structure of a text is made of;
  * `readName`: the name of an anchor;
  * `readTag`: a tag, of which only the handle is kept;
  * `readDirective`: a directive.
-/
import CallerStubs.Text.Number
import CallerStubs.Yaml.Character

namespace CallerStubs.Yaml

/-- A piece of a text that means something for its structure.  Where a block
    collection starts and ends is not written, but follows from the columns. -/
inductive Token where
  | versionDirective (major minor : Nat)
  | tagDirective (handle : List Char)
  | documentStart
  | documentEnd
  | blockSequenceStart
  | blockMappingStart
  | blockEnd
  | flowSequenceStart
  | flowSequenceEnd
  | flowMappingStart
  | flowMappingEnd
  | blockEntry
  | flowEntry
  | key
  | value
  | alias (name : List Char)
  | anchor (name : List Char)
  | tag (handle : List Char)
  | scalar (text : List Char)
  deriving DecidableEq, Repr

/-! ## Names -/

/-- May a text follow a name? -/
def endsName : List Char → Bool
  | [] => true
  | c :: cs => blankAhead (c :: cs) || "?:,]\x7d%@\x60".toList.contains c

/-- The name at the start of a text, and what follows it. -/
def readName (cs : List Char) : Option (List Char × List Char) :=
  let name := cs.takeWhile isWordChar
  let rest := cs.dropWhile isWordChar
  if name.isEmpty || !endsName rest then none else some (name, rest)

/-! ## Tags -/

/-- A character of a tag besides those of a name. -/
def isTagChar (brackets : Bool) (c : Char) : Bool :=
  isWordChar c || ";/?:@&=+$.!~*\x27()".toList.contains c ||
    (brackets && ",[]".toList.contains c)

/-- The number of bytes that follow the first byte of an encoded character. -/
def bytesBehind? (first : Nat) : Option Nat :=
  if first < 0x80 then some 0
  else if 0xC0 ≤ first ∧ first < 0xE0 then some 1
  else if 0xE0 ≤ first ∧ first < 0xF0 then some 2
  else if 0xF0 ≤ first ∧ first < 0xF8 then some 3
  else none

/-- The number of bytes to come after one more, where `missing` have been to
    come before it. -/
def bytesMissing? (missing byte : Nat) : Option Nat :=
  match missing with
  | 0 => bytesBehind? byte
  | n + 1 => if 0x80 ≤ byte ∧ byte < 0xC0 then some n else none

/-- What follows the longest row of tag characters at the start of a text.  A
    percent sign starts an encoded byte; `missing` is how many of them have to
    come before anything else. -/
def pastTag (brackets : Bool) (missing : Nat) : List Char → Option (List Char)
  | [] => if missing = 0 then some [] else none
  | '%' :: a :: b :: cs => do
    let byte ← Text.number? 16 [a, b]
    pastTag brackets (← bytesMissing? missing byte) cs
  | c :: cs =>
    if c = '%' ∨ missing ≠ 0 then none
    else if isTagChar brackets c then pastTag brackets 0 cs
    else some (c :: cs)

/-- What follows a row of tag characters that is not empty. -/
def pastTagName (brackets : Bool) (cs : List Char) : Option (List Char) := do
  let rest ← pastTag brackets 0 cs
  if rest.length < cs.length then some rest else none

/-- The handle and the end of a tag whose exclamation mark has been read.  The
    handle is empty if the tag stands for itself. -/
def readTagName (cs : List Char) : Option (List Char × List Char) :=
  match cs with
  | '<' :: cs => do
    match ← pastTagName true cs with
    | '>' :: rest => some ([], rest)
    | _ => none
  | cs => do
    let word := cs.takeWhile isWordChar
    match cs.dropWhile isWordChar with
    | '!' :: cs => some ('!' :: word ++ ['!'], ← pastTagName false cs)
    | rest =>
      let rest ← pastTag false 0 rest
      some (if rest.length < cs.length then ['!'] else [], rest)

/-- The handle of a tag whose exclamation mark has been read, and what follows
    the tag. -/
def readTag (inFlow : Bool) (cs : List Char) : Option (List Char × List Char) := do
  let (handle, rest) ← readTagName cs
  if blankAhead rest || (inFlow && rest.take 1 == [',']) then some (handle, rest) else none

/-! ## Directives -/

/-- The number at the start of a text, of at most nine digits. -/
def readVersionNumber (cs : List Char) : Option (Nat × List Char) := do
  let digits := cs.takeWhile (·.isDigit)
  if digits.length ≤ 9 then some (← Text.number? 10 digits, cs.dropWhile (·.isDigit)) else none

/-- The version at the start of a text. -/
def readVersion (cs : List Char) : Option (Token × List Char) := do
  let (major, cs) ← readVersionNumber cs
  match cs with
  | '.' :: cs =>
    let (minor, cs) ← readVersionNumber cs
    some (.versionDirective major minor, cs)
  | _ => none

/-- The handle at the start of a text, for the tags with a certain beginning. -/
def readHandle (cs : List Char) : Option (Token × List Char) :=
  match cs with
  | '!' :: cs => do
    let word := cs.takeWhile isWordChar
    let (handle, cs) ← match cs.dropWhile isWordChar with
      | '!' :: rest => some ('!' :: word ++ ['!'], rest)
      | rest => if word.isEmpty then some (['!'], rest) else none
    if (cs.take 1).any isSpacing then
      let rest ← pastTagName true (cs.dropWhile isSpacing)
      if blankAhead rest then some (.tagDirective handle, rest) else none
    else none
  | _ => none

/-- The directive whose percent sign has been read, and what follows it.  There
    are two kinds of directives. -/
def readDirective (cs : List Char) : Option (Token × List Char) :=
  let rest := cs.dropWhile isWordChar
  if blankAhead rest then
    let rest := rest.dropWhile isSpacing
    if cs.takeWhile isWordChar = "YAML".toList then readVersion rest
    else if cs.takeWhile isWordChar = "TAG".toList then readHandle rest
    else none
  else none

end CallerStubs.Yaml
