/-
  Caller stubs — white space.

  White space is the Unicode property White_Space: 25 characters, of which
  core's `Char.isWhitespace` knows four.

  * `isBlank`: the property;
  * `trim`: a text without the white space around it;
  * `blank`: a text of white space only.
-/
import CallerStubs.Text.Span

namespace CallerStubs.Text

/-- The code points with the property White_Space. -/
def blankSpans : List Span := [
  ⟨0x9, 0xD, 1⟩, ⟨0x20, 0x20, 1⟩, ⟨0x85, 0x85, 1⟩, ⟨0xA0, 0xA0, 1⟩, ⟨0x1680, 0x1680, 1⟩,
  ⟨0x2000, 0x200A, 1⟩, ⟨0x2028, 0x2029, 1⟩, ⟨0x202F, 0x202F, 1⟩, ⟨0x205F, 0x205F, 1⟩,
  ⟨0x3000, 0x3000, 1⟩]

/-- The property White_Space. -/
def isBlank (c : Char) : Bool :=
  spanned blankSpans c

/-- The list without the white space at its two ends. -/
def trimChars (cs : List Char) : List Char :=
  ((cs.dropWhile isBlank).reverse.dropWhile isBlank).reverse

/-- The text without the white space at its two ends. -/
def trim (s : String) : String :=
  String.ofList (trimChars s.toList)

/-- Is there nothing but white space in the text? -/
def blank (s : String) : Bool :=
  s.toList.all isBlank

end CallerStubs.Text
