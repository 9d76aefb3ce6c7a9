/-
  Caller stubs — interface documents.

  An interface document lists the interfaces of a remote service.  What it
  says is kept as it was said: every attribute is a text or absent, and the
  children of an interface stay in one list in document order.  What it means
  is decided later, in `Api`.

  * `Document`, `InterfaceElement`, `Item`, `FunctionElement`, `ParamElement`:
    the parts of a document;
  * `InterfaceElement.enums`, `InterfaceElement.structs`: the types that an
    interface declares.
-/
namespace CallerStubs

/-- A parameter of a function. -/
structure ParamElement where
  name : Option String := none
  type : Option String := none
  mandatory : Option String := none
  array : Option String := none
  minValue : Option String := none
  maxValue : Option String := none
  minLength : Option String := none
  maxLength : Option String := none
  minSize : Option String := none
  maxSize : Option String := none
  deriving DecidableEq, Repr, Inhabited

/-- A message of an interface. -/
structure FunctionElement where
  name : Option String := none
  /-- `request`, `response`, `notification` or anything else. -/
  messageType : Option String := none
  /-- Who answers the request, or gives the response. -/
  provider : Option String := none
  params : List ParamElement := []
  deriving DecidableEq, Repr, Inhabited

/-- A child of an interface. -/
inductive Item where
  /-- An enumeration; only its name matters here. -/
  | enum (name : Option String)
  /-- A structure; only its name matters here. -/
  | struct (name : Option String)
  /-- A message whose kind is told by its message type. -/
  | function (element : FunctionElement)
  /-- A request in short form. -/
  | request (element : FunctionElement)
  /-- A response in short form. -/
  | response (element : FunctionElement)
  /-- A description, or anything else that is not read. -/
  | other
  deriving DecidableEq, Repr, Inhabited

/-- One interface of the service. -/
structure InterfaceElement where
  name : Option String := none
  items : List Item := []
  deriving DecidableEq, Repr, Inhabited

/-- An interface document. -/
structure Document where
  name : Option String := none
  interfaces : List InterfaceElement := []
  deriving DecidableEq, Repr, Inhabited

/-- The name of the enumeration that an item declares; the name may be absent. -/
def Item.enum? : Item → Option (Option String)
  | .enum name => some name
  | _ => none

/-- The name of the structure that an item declares; the name may be absent. -/
def Item.struct? : Item → Option (Option String)
  | .struct name => some name
  | _ => none

/-- The enumerations that an interface declares. -/
def InterfaceElement.enums (i : InterfaceElement) : List (Option String) :=
  i.items.filterMap Item.enum?

/-- The structures that an interface declares. -/
def InterfaceElement.structs (i : InterfaceElement) : List (Option String) :=
  i.items.filterMap Item.struct?

end CallerStubs
