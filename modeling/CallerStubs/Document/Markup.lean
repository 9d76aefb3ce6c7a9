/-
  Caller stubs — interface documents as markup.

  The root of a document holds `interface` elements; an interface holds types
  and messages; a message holds `param` elements.  Elements and attributes
  that have no meaning here are passed over, and so is text, except that text
  and such elements in an interface count as items of their own.

  * `Document.ofElement?`: the document that a root element describes;
  * `Document.parse`: the document that a text describes;
  * `Document.toNode`, `Document.print`: a document as markup.
-/
import CallerStubs.Document.Basic
import CallerStubs.Fault
import CallerStubs.Markup.Entry
import CallerStubs.Markup.Reader

namespace CallerStubs

open Markup

/-! ## Reading -/

/-- The names of the values of a parameter. -/
def paramValueNames : List String :=
  ["name", "type", "mandatory", "array",
    "minvalue", "maxvalue", "minlength", "maxlength", "minsize", "maxsize"]

/-- The names of the values of a message. -/
def messageValueNames : List String := ["name", "messagetype", "provider"]

/-- The parameter that an element describes. -/
def ParamElement.ofElement? (scope : Scope) (e : Element) : Option ParamElement := do
  let parts ← partsOf? e.children
  let entries ← entriesOf? paramValueNames scope e.attributes (.unlisted parts)
  let value := valueOf entries
  let name ← value "name"
  let type ← value "type"
  let mandatory ← value "mandatory"
  let array ← value "array"
  let minValue ← value "minvalue"
  let maxValue ← value "maxvalue"
  let minLength ← value "minlength"
  let maxLength ← value "maxlength"
  let minSize ← value "minsize"
  let maxSize ← value "maxsize"
  some { name, type, mandatory, array, minValue, maxValue, minLength, maxLength, minSize, maxSize }

/-- The message that an element describes. -/
def FunctionElement.ofElement? (scope : Scope) (e : Element) : Option FunctionElement := do
  let d ← Division.listed? "param" (← partsOf? e.children)
  let entries ← entriesOf? messageValueNames scope e.attributes d
  let name ← valueOf entries "name"
  let messageType ← valueOf entries "messagetype"
  let provider ← valueOf entries "provider"
  let params ← (elementsOf d.members).mapM (ParamElement.ofElement? (scope.within e.attributes))
  some { name, messageType, provider, params }

/-- The name of an element of which only the name is read. -/
def nameOf? (scope : Scope) (e : Element) : Option (Option String) := do
  let parts ← partsOf? e.children
  let entries ← entriesOf? ["name"] scope e.attributes (.unlisted parts)
  valueOf entries "name"

/-- The item that an element of an interface describes. -/
def Item.ofElement? (scope : Scope) (e : Element) : Option Item :=
  let kind := localName e.name
  if kind = "enum".toList then (nameOf? scope e).map .enum
  else if kind = "struct".toList then (nameOf? scope e).map .struct
  else if kind = "function".toList then (FunctionElement.ofElement? scope e).map .function
  else if kind = "request".toList then (FunctionElement.ofElement? scope e).map .request
  else if kind = "response".toList then (FunctionElement.ofElement? scope e).map .response
  else if opensSoundly e.children then some .other
  else none

/-- The item that a part of an interface describes. -/
def Item.ofPart? (scope : Scope) : Part → Option Item
  | .text _ => some .other
  | .element e => Item.ofElement? scope e

/-- Does the part of an interface make an item? -/
def makesItem (p : Part) : Bool :=
  !p.isBlank && !p.isKind "@name"

/-- The kind of elements that stand for any item, whatever it is. -/
def anyItem : String := "$value"

/-- The division of an interface by the list of its items.  If some stand for
    any item, all of them do, under one name. -/
def itemized? (parts : List Part) : Option Division :=
  let d := Division.ofMembers makesItem makesItem parts
  let name := (d.members.head?.map Part.name).getD []
  if d.members.any (Part.isKind anyItem) && !d.members.all (Part.isNamed name) then none
  else some d

/-- The interface that an element describes. -/
def InterfaceElement.ofElement? (scope : Scope) (e : Element) : Option InterfaceElement := do
  let d ← itemized? (← partsOf? e.children)
  let entries ← entriesOf? ["name"] scope e.attributes d
  let name ← valueOf entries "name"
  let items ← d.members.mapM (Item.ofPart? (scope.within e.attributes))
  some { name, items }

namespace Document

/-- The document that a root element describes, whatever its name. -/
def ofElement? (e : Element) : Option Document := do
  let d ← Division.listed? "interface" (← partsOf? e.children)
  let entries ← entriesOf? ["name"] [] e.attributes d
  let name ← valueOf entries "name"
  let interfaces ← (elementsOf d.members).mapM
    (InterfaceElement.ofElement? (Scope.within [] e.attributes))
  if declarationsSound e.attributes then some { name, interfaces } else none

/-- The document that a root describes. -/
def ofNode? : Node → Option Document
  | .element name attributes children => ofElement? ⟨name, attributes, children⟩
  | _ => none

/-- The document that a text describes. -/
def parse (text : String) : Except Fault Document :=
  match (Markup.read text.toList).bind ofNode? with
  | some d => .ok d
  | none => .error .markup

end Document

/-! ## Writing -/

/-- An attribute, if its value is present. -/
def attributeText (name : String) (value : Option String) : List Char :=
  match value with
  | none => []
  | some v => Attribute.render ⟨name.toList, encodeText v.toList⟩

/-- The element of a parameter. -/
def ParamElement.toNode (p : ParamElement) : Node :=
  .element "param".toList
    (attributeText "name" p.name ++ attributeText "type" p.type ++
      attributeText "mandatory" p.mandatory ++ attributeText "array" p.array ++
      attributeText "minvalue" p.minValue ++ attributeText "maxvalue" p.maxValue ++
      attributeText "minlength" p.minLength ++ attributeText "maxlength" p.maxLength ++
      attributeText "minsize" p.minSize ++ attributeText "maxsize" p.maxSize) []

/-- The element of a message, under a name that says its form. -/
def FunctionElement.toNode (form : String) (f : FunctionElement) : Node :=
  .element form.toList
    (attributeText "name" f.name ++ attributeText "messagetype" f.messageType ++
      attributeText "provider" f.provider) (f.params.map (·.toNode))

/-- The element of an item; an item without a meaning becomes a description. -/
def Item.toNode : Item → Node
  | .enum name => .element "enum".toList (attributeText "name" name) []
  | .struct name => .element "struct".toList (attributeText "name" name) []
  | .function f => f.toNode "function"
  | .request f => f.toNode "request"
  | .response f => f.toNode "response"
  | .other => .element "description".toList [] []

/-- The element of an interface. -/
def InterfaceElement.toNode (i : InterfaceElement) : Node :=
  .element "interface".toList (attributeText "name" i.name) (i.items.map (·.toNode))

/-- The root element of a document. -/
def Document.toNode (d : Document) : Node :=
  .element "interfaces".toList (attributeText "name" d.name) (d.interfaces.map (·.toNode))

/-- A document as text. -/
def Document.print (d : Document) : String :=
  String.ofList d.toNode.render

end CallerStubs
