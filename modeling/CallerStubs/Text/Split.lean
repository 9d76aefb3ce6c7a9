/-
  Caller stubs — the parts of a text between separators.

  * `splitChars`, `splitText`: the parts of a text; there is one more part
    than there are separators, and parts may be empty.
-/
namespace CallerStubs.Text

/-- The parts of a list between the members that are equal to `separator`. -/
def splitChars (separator : Char) : List Char → List (List Char)
  | [] => [[]]
  | c :: cs =>
    if c = separator then [] :: splitChars separator cs
    else match splitChars separator cs with
      | part :: parts => (c :: part) :: parts
      | [] => [[c]]

/-- The parts of a text between the characters that are equal to `separator`. -/
def splitText (separator : Char) (s : String) : List String :=
  (splitChars separator s.toList).map String.ofList

end CallerStubs.Text
