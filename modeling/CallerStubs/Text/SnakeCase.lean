/-
  Caller stubs — names in snake case.

  The file name and the include guard of a generated class are made from the
  words of its name.  A word ends at a dash, an underscore or a space, and
  before an uppercase character that follows a lowercase one; characters that
  are neither letters nor digits are dropped, and uppercase is mapped to
  lowercase.

  * `words`: the words of a name, none of them empty;
  * `snakeCase`: the words with an underscore between each two;
  * `headerGuard`: the guard made from a name, in uppercase and with `_H_` at
    its end.
-/
import CallerStubs.Text.CaseMap
import CallerStubs.Text.Letter

namespace CallerStubs.Text

/-- A character that ends a word. -/
def isSeparator (c : Char) : Bool :=
  c == '-' || c == '_' || c == ' '

/-- The words of a text that continues a word: `word` is what there is of it,
    and `afterLower` says that its last letter or digit is lowercase. -/
def splitWords (word : List Char) (afterLower : Bool) : List Char → List (List Char)
  | [] => [word]
  | c :: cs =>
    if isUpper c then
      if afterLower then word :: splitWords (toLower c) false cs
      else splitWords (word ++ toLower c) false cs
    else if isAlphanumeric c then splitWords (word ++ [c]) (isLower c) cs
    else if isSeparator c then word :: splitWords [] false cs
    else splitWords word afterLower cs

/-- The words of a text. -/
def words (cs : List Char) : List (List Char) :=
  (splitWords [] false cs).filter (!·.isEmpty)

/-- The words of a text, joined by underscores. -/
def snakeChars (cs : List Char) : List Char :=
  List.intercalate ['_'] (words cs)

/-- A name in snake case. -/
def snakeCase (s : String) : String :=
  String.ofList (snakeChars s.toList)

/-- The macro that guards the header of a class, such as `REQUEST_TO_SDL_H_`. -/
def headerGuard (s : String) : String :=
  String.ofList ((snakeChars s.toList).flatMap toUpper) ++ "_H_"

end CallerStubs.Text
