/-
  Caller stubs — lists that an element holds.

  Some elements hold a list of members among other parts.  The list begins
  with its first member and ends with the element; what is no member is set
  aside and read behind the list.

  * `Division`: the parts of an element around its list;
  * `Division.ofMembers`: the division by a first member and those like it;
  * `Division.listed?`: the division by a list of elements of one kind.
-/
import CallerStubs.Markup.Part

namespace CallerStubs.Markup

/-! ## Names of parts -/

/-- Is the part an element of this kind?  The prefix of its name does not
    count. -/
def Part.isKind (kind : String) : Part → Bool
  | .element e => localName e.name == kind.toList
  | .text _ => false

/-- Is the part an element with just this name? -/
def Part.isNamed (name : List Char) : Part → Bool
  | .element e => e.name == name
  | .text _ => false

/-- The name of an element.  Text has none. -/
def Part.name : Part → List Char
  | .element e => e.name
  | .text _ => []

/-- The elements among parts. -/
def elementsOf (parts : List Part) : List Element :=
  parts.filterMap fun
    | .element e => some e
    | .text _ => none

/-! ## Divisions -/

/-- The parts of an element, as the list in it divides them. -/
structure Division where
  /-- The parts before the first member. -/
  early : List Part
  members : List Part
  /-- The parts behind the first member that are none. -/
  late : List Part

namespace Division

/-- The parts of an element without a list. -/
def unlisted (parts : List Part) : Division := ⟨parts, [], []⟩

/-- The division by the first part of a sort, and by the members behind it. -/
def ofMembers (first member : Part → Bool) (parts : List Part) : Division :=
  let rest := parts.dropWhile (!first ·)
  ⟨parts.takeWhile (!first ·), rest.filter member, rest.filter (!member ·)⟩

/-- The division by a list of elements of one kind.  All of them have the name
    of the first; one with another prefix would be a second list. -/
def listed? (kind : String) (parts : List Part) : Option Division :=
  match parts.find? (Part.isKind kind) with
  | none => some (unlisted parts)
  | some first =>
    let d := ofMembers (Part.isKind kind) (Part.isNamed first.name) parts
    if d.late.any (Part.isKind kind) then none else some d

end Division

end CallerStubs.Markup
