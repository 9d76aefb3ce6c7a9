/-
  Caller stubs — attributes of an element.

  * `Attribute`: a name and a value, the value as it is written;
  * `Attribute.readAll`: the attributes written behind the name of an element,
    no two of them under the same name;
  * `Attribute.leading`: those before the first piece that is no attribute;
  * `Attribute.key`: the name under which an attribute is looked up;
  * `Attribute.render`: the written form of an attribute.
-/
import CallerStubs.Markup.Basic

namespace CallerStubs.Markup

/-- An attribute as it is written. -/
structure Attribute where
  name : List Char
  /-- What stands between the quotes. -/
  value : List Char
  deriving DecidableEq, Repr

/-- The first attribute of a text that begins with a name, and the text behind
    it.  Space may surround the equals sign; the value stands in quotes of
    either kind. -/
def Attribute.next? (first : Char) (cs : List Char) : Option (Attribute × List Char) :=
  let inName (c : Char) := c != '=' && !isSpace c
  match (cs.dropWhile inName).dropWhile isSpace with
  | '=' :: afterEquals =>
    match afterEquals.dropWhile isSpace with
    | quote :: value =>
      if quote == '"' || quote == '\x27' then
        match value.dropWhile (· != quote) with
        | _ :: rest => some (⟨first :: cs.takeWhile inName, value.takeWhile (· != quote)⟩, rest)
        | [] => none
      else none
    | [] => none
  | _ => none

/-- The attributes of a text, after those with the names in `seen`.  The first
    argument bounds the number of attributes. -/
def Attribute.readUpTo (seen : List (List Char)) : Nat → List Char → Option (List Attribute)
  | 0, _ => none
  | n + 1, cs =>
    match cs.dropWhile isSpace with
    | [] => some []
    | c :: cs => do
      let (a, rest) ← Attribute.next? c cs
      if a.name ∈ seen then none
      else (Attribute.readUpTo (a.name :: seen) n rest).map (a :: ·)

/-- The attributes of a text.  No two of them have the same name. -/
def Attribute.readAll (cs : List Char) : Option (List Attribute) :=
  Attribute.readUpTo [] (cs.length + 1) cs

/-- The attributes at the start of a text.  The first argument bounds their
    number. -/
def Attribute.leadingUpTo : Nat → List Char → List Attribute
  | 0, _ => []
  | n + 1, cs =>
    match cs.dropWhile isSpace with
    | [] => []
    | c :: cs =>
      match Attribute.next? c cs with
      | some (a, rest) => a :: Attribute.leadingUpTo n rest
      | none => []

/-- The attributes before the first piece of a text that is none.  A name may
    occur several times. -/
def Attribute.leading (cs : List Char) : List Attribute :=
  Attribute.leadingUpTo (cs.length + 1) cs

/-- The name under which an attribute is looked up.  A prefix does not count,
    except for the two that are reserved. -/
def Attribute.key (a : Attribute) : List Char :=
  let before := a.name.takeWhile (· != ':')
  if before = "xml".toList ∨ before = "xmlns".toList then a.name else localName a.name

/-- The written form of an attribute, with a space before it. -/
def Attribute.render (a : Attribute) : List Char :=
  [' '] ++ a.name ++ ['=', '"'] ++ a.value ++ ['"']

end CallerStubs.Markup
