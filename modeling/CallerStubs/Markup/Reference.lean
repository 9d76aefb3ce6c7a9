/-
  Caller stubs — references in markup.

  A reference stands for a character that cannot be written as it is.

  * `decodeReference`: the character of a reference;
  * `decodeText`: a text with its references replaced;
  * `encodeText`: a text with every character that needs one written as a
    reference.
-/
import CallerStubs.Markup.Basic
import CallerStubs.Text.Number

namespace CallerStubs.Markup

open Text

/-- The character with a number, other than the one with number zero. -/
def characterOf? (n : Nat) : Option Char :=
  if n.isValidChar ∧ n ≠ 0 then some (Char.ofNat n) else none

/-- The character that a reference stands for: one of the five that have a
    name, or any by its number. -/
def decodeReference : List Char → Option Char
  | '#' :: 'x' :: digits => (number? 16 digits).bind characterOf?
  | '#' :: digits => (number? 10 digits).bind characterOf?
  | name =>
    if name = "amp".toList then some '&'
    else if name = "lt".toList then some '<'
    else if name = "gt".toList then some '>'
    else if name = "quot".toList then some '"'
    else if name = "apos".toList then some '\x27'
    else none

/-- The text from inside a reference of which `name` has been read, or from
    outside of any. -/
def decodeFrom : Option (List Char) → List Char → Option (List Char)
  | none, [] => some []
  | some _, [] => none
  | none, c :: cs =>
    if c = '&' then decodeFrom (some []) cs
    else (decodeFrom none cs).map (c :: ·)
  | some name, c :: cs =>
    if c = ';' then do
      let d ← decodeReference name
      (decodeFrom none cs).map (d :: ·)
    else if c = '&' then none
    else decodeFrom (some (name ++ [c])) cs

/-- A text with its references replaced by what they stand for. -/
def decodeText (cs : List Char) : Option (List Char) :=
  decodeFrom none cs

/-- A character as it is written in an attribute. -/
def encodeChar (c : Char) : List Char :=
  if c = '&' then "&amp;".toList
  else if c = '<' then "&lt;".toList
  else if c = '>' then "&gt;".toList
  else if c = '"' then "&quot;".toList
  else if c = '\x27' then "&apos;".toList
  else [c]

/-- A text as it is written in an attribute. -/
def encodeText (cs : List Char) : List Char :=
  cs.flatMap encodeChar

end CallerStubs.Markup
