/-
  Caller stubs — from a document to the service that it describes.

  A document is read from its beginning to its end, and the first fault ends
  the reading.  Types are looked up in the whole document, so a type may be
  declared after its use.

  * `Message`: an item of an interface as a request or a response, whichever
    of the two forms it is written in;
  * `Request.build`, `Response.build`, `Interface.build`, `Api.build`: the
    parts of the service;
  * `Api.buildNotices`: the log of the reading.
-/
import CallerStubs.Api.Basic
import CallerStubs.Notice
import CallerStubs.Text.Quoted

namespace CallerStubs

/-! ## Repetitions -/

/-- The first member of a list that is equal to an earlier one, or to one that
    was seen before the list. -/
def firstRepeat? (seen : List String) : List String → Option String
  | [] => none
  | x :: xs => if x ∈ seen then some x else firstRepeat? (x :: seen) xs

/-! ## Requests and responses -/

/-- A message as the kind that it is. -/
inductive Message where
  | request (element : FunctionElement)
  | response (element : FunctionElement)
  /-- A function that is neither a request nor a response. -/
  | neither (element : FunctionElement)
  deriving DecidableEq, Repr

/-- The message of an item.  A function in long form is what its message type
    says; the message type of a short form is not looked at. -/
def Item.message? : Item → Option Message
  | .function e =>
    if e.messageType = some "request" then some (.request e)
    else if e.messageType = some "response" then some (.response e)
    else some (.neither e)
  | .request e => some (.request e)
  | .response e => some (.response e)
  | .enum _ | .struct _ | .other => none

/-- The parameters of a list of elements.  `seen` holds the names of the
    parameters before them. -/
def Param.buildAll (registry : Registry) (owner request : String) (seen : List String) :
    List ParamElement → Except SchemaFault (List Param)
  | [] => .ok []
  | e :: es => do
    let p ← Param.build registry owner e
    if p.name ∈ seen then .error (.repeatedParam owner request p.name)
    else do
      let ps ← Param.buildAll registry owner request (p.name :: seen) es
      .ok (p :: ps)

/-- The name of a message of the interface `owner`. -/
def FunctionElement.messageName (owner : String) (e : FunctionElement) :
    Except SchemaFault String :=
  match present? e.name with
  | some name => .ok name
  | none => .error (.unnamedFunction owner)

def Request.build (registry : Registry) (owner : String) (e : FunctionElement) :
    Except SchemaFault Request := do
  let name ← e.messageName owner
  let params ← Param.buildAll registry owner name [] e.params
  .ok { name, params, provider := e.provider }

def Response.build (owner : String) (e : FunctionElement) : Except SchemaFault Response := do
  let name ← e.messageName owner
  .ok { name, provider := e.provider }

/-! ## Interfaces -/

/-- The interface with the messages of the items added behind its own. -/
def Interface.extend (registry : Registry) (i : Interface) :
    List Item → Except SchemaFault Interface
  | [] => .ok i
  | item :: items =>
    match item.message? with
    | some (.request e) => do
      let r ← Request.build registry i.name e
      Interface.extend registry { i with requests := i.requests ++ [r] } items
    | some (.response e) => do
      let r ← Response.build i.name e
      Interface.extend registry { i with responses := i.responses ++ [r] } items
    | some (.neither _) | none => Interface.extend registry i items

/-- The interface that an element describes. -/
def Interface.build (registry : Registry) (e : InterfaceElement) :
    Except SchemaFault Interface :=
  match present? e.name with
  | none => .error .unnamedInterface
  | some name => do
    let i ← Interface.extend registry { name } e.items
    match firstRepeat? [] (i.requests.map (·.name)) with
    | some r => .error (.repeatedRequest name r)
    | none => .ok i

/-! ## Services -/

/-- The interfaces of a list of elements.  `seen` holds the names of the
    interfaces before them. -/
def Interface.buildAll (registry : Registry) (seen : List String) :
    List InterfaceElement → Except SchemaFault (List Interface)
  | [] => .ok []
  | e :: es => do
    let i ← Interface.build registry e
    if i.name ∈ seen then .error (.repeatedInterface i.name)
    else do
      let is ← Interface.buildAll registry (i.name :: seen) es
      .ok (i :: is)

/-- The service that a document describes. -/
def Api.build (d : Document) : Except SchemaFault Api := do
  let interfaces ← Interface.buildAll d.registry [] d.interfaces
  .ok { interfaces }

/-! ## The log of the reading -/

/-- The record of a function that is neither a request nor a response. -/
def FunctionElement.ignored (owner : String) (e : FunctionElement) : Notice where
  level := .debug
  text :=
    let name := e.name.getD "<unnamed>"
    let type := Text.quotedOption e.messageType
    s!"Ignoring function {owner}.{name} with message type {type}"

/-- Can the item be read in the interface `owner`? -/
def Item.readable (registry : Registry) (owner : String) (item : Item) : Bool :=
  match item.message? with
  | some (.request e) => (Request.build registry owner e).toBool
  | some (.response e) => (Response.build owner e).toBool
  | some (.neither _) | none => true

/-- The records of an interface: one for each function that is ignored before
    the first item that cannot be read. -/
def InterfaceElement.notices (registry : Registry) (e : InterfaceElement) : List Notice :=
  match present? e.name with
  | none => []
  | some owner =>
    (e.items.takeWhile (·.readable registry owner)).filterMap fun item =>
      match item.message? with
      | some (.neither f) => some (f.ignored owner)
      | _ => none

/-- The records of a list of interfaces, up to the first that cannot be read.
    `seen` holds the names of the interfaces before them. -/
def Interface.noticesOf (registry : Registry) (seen : List String) :
    List InterfaceElement → List Notice
  | [] => []
  | e :: es =>
    e.notices registry ++
      match Interface.build registry e with
      | .ok i =>
        if i.name ∈ seen then [] else Interface.noticesOf registry (i.name :: seen) es
      | .error _ => []

/-- The log of the reading of a document. -/
def Api.buildNotices (d : Document) : List Notice :=
  Interface.noticesOf d.registry [] d.interfaces

end CallerStubs
