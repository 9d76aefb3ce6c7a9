/-
  Caller stubs — the values of an element.

  A value is written as an attribute, or as a child element with an at sign
  before its name, but not twice.  A child element may say that it has no
  value, and its parent may say so of all its children.

  * `Entry`: a value with its name;
  * `entriesOf?`: the values of an element;
  * `valueOf`: the value with a name.
-/
import CallerStubs.Markup.Division

namespace CallerStubs.Markup

/-- A value with its name. -/
structure Entry where
  name : List Char
  /-- The text, which may be absent; a failure if it cannot be read. -/
  value : Option (Option (List Char))
  deriving DecidableEq, Repr

/-- The value that an attribute gives. -/
def Entry.ofAttribute (a : Attribute) : Entry :=
  ⟨a.key, (decodeText a.value).map some⟩

/-- The value that an element gives under a name: its text, unless it is
    absent.  Then the element is passed over. -/
def Entry.ofElement (absent : Bool) (name : List Char) (e : Element) : Entry :=
  if absent then ⟨name, if opensSoundly e.children then some none else none⟩
  else ⟨name, (textOf? e.children).map some⟩

/-- The one of the names whose value an element gives. -/
def Element.entryName? (names : List String) (e : Element) : Option (List Char) :=
  (names.map String.toList).find? fun name => localName e.name == '@' :: name

/-- The values that parts of an element give, and a failure if one of the other
    parts is not in order.  The declarations in `scope` are in force around the
    element.  The parts that were set aside are read at its end, where its own
    declarations are no longer in force. -/
def entriesAmong? (names : List String) (scope : Scope) (attributes : List Char) (late : Bool) :
    List Part → Option (List Entry)
  | [] => some []
  | .text _ :: parts => entriesAmong? names scope attributes late parts
  | .element e :: parts => do
    let more ← entriesAmong? names scope attributes late parts
    let inForce := if late then scope else (scope.within attributes).within e.attributes
    if late && !allInOrder e.children then none
    else match e.entryName? names with
      | some name =>
        let absent := inForce.saysNil attributes || inForce.saysNil e.attributes
        some (.ofElement absent name e :: more)
      | none => if opensSoundly e.children then some more else none

/-- The values of an element, from its attributes and from the parts around its
    list. -/
def entriesOf? (names : List String) (scope : Scope) (attributes : List Char) (d : Division) :
    Option (List Entry) := do
  let written ← Attribute.readAll attributes
  let early ← entriesAmong? names scope attributes false d.early
  let late ← entriesAmong? names scope attributes true d.late
  some (written.map Entry.ofAttribute ++ early ++ late)

/-- The value with a name: absent if there is none, and a failure if there are
    several or if it cannot be read. -/
def valueOf (entries : List Entry) (name : String) : Option (Option String) :=
  match entries.filter (·.name == name.toList) with
  | [] => some none
  | [e] => e.value.map fun text => text.map String.ofList
  | _ => none

end CallerStubs.Markup
