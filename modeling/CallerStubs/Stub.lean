/-
  Caller stubs — the methods of the generated class.

  The declaration and the definition of a method are made from one signature,
  so they never disagree.

  * `Signature`: the name and the parameters of a method;
  * `StubTarget`: the class that the methods belong to;
  * `Stub`: a method, declared and defined;
  * `StubGroup`: the methods of one interface;
  * `Interface.stubs`: the methods for the requests that a provider answers.
-/
import CallerStubs.Exchange
import CallerStubs.Marshalling
import CallerStubs.Outline
import CallerStubs.QtRelease

namespace CallerStubs

/-- The name of the last parameter of every method. -/
def callbackName : String := "hmi_callback"

/-- The texts with a comma and a space between each two. -/
def commaJoined (texts : List String) : String :=
  String.intercalate ", " texts

/-! ## Signatures -/

/-- The type and the name of a method's parameter. -/
structure SignatureParam where
  type : HostType
  name : String
  deriving DecidableEq, Repr

/-- The name and the parameters of a method. -/
structure Signature where
  name : String
  params : List SignatureParam
  callbackType : String
  deriving DecidableEq, Repr

namespace Signature

/-- The name of the method for a request. -/
def methodName (interface request : String) : String :=
  interface ++ "_" ++ request

/-- The signature of the method for a request. -/
def ofRequest (release : QtRelease) (interface : String) (r : Request) : Signature where
  name := methodName interface r.name
  params := r.params.map fun p => ⟨p.signatureType, p.name⟩
  callbackType := release.callbackType

/-- The types of the parameters, the callback last. -/
def parameterTypes (s : Signature) : List String :=
  s.params.map (·.type.text) ++ [s.callbackType]

/-- The names of the parameters, the callback last. -/
def parameterNames (s : Signature) : List String :=
  s.params.map (·.name) ++ [callbackName]

/-- The parameters as they stand between the parentheses, the callback last. -/
def parameterList (s : Signature) : String :=
  commaJoined (s.params.map (fun p => p.type.text ++ " " ++ p.name) ++
    [s.callbackType ++ " " ++ callbackName])

/-- The declaration of the method. -/
def declaration (s : Signature) : String :=
  "Q_INVOKABLE void " ++ s.name ++ "(" ++ s.parameterList ++ ");"

/-- The first line of the definition, as a method of a class. -/
def opening (s : Signature) (className : String) : String :=
  "void " ++ className ++ "::" ++ s.name ++ "(" ++ s.parameterList ++ ") \x7b"

end Signature

/-! ## Methods -/

/-- The class that the methods belong to. -/
structure StubTarget where
  release : QtRelease
  className : String
  /-- The namespace of the dispatcher classes. -/
  requestsNamespace : String
  deriving DecidableEq, Repr

/-- A method of the generated class. -/
structure Stub where
  /-- The request that the method sends. -/
  request : String
  /-- The response that answers the request. -/
  response : Option String
  signature : Signature
  declaration : String
  definition : String
  deriving DecidableEq, Repr

/-- The methods of an interface, in the order of its requests. -/
structure StubGroup where
  name : String
  stubs : List Stub
  deriving DecidableEq, Repr

namespace StubTarget

/-- The dispatch of a request of an interface. -/
def dispatch (t : StubTarget) (interface : String) (r : Request) : Dispatch where
  namespaceName := t.requestsNamespace
  interface := interface
  request := r.name
  callback := callbackName

/-- The definition of the method for a request. -/
def definition (t : StubTarget) (interface : String) (r : Request) : Outline :=
  .block ((Signature.ofRequest t.release interface r).opening t.className)
    ((marshalling r.params (t.dispatch interface r)).map .line) "\x7d"

/-- The method for an exchange. -/
def stub (t : StubTarget) (interface : String) (e : Exchange) : Stub :=
  let signature := Signature.ofRequest t.release interface e.request
  { request := e.request.name
    response := e.response.map (·.name)
    signature
    declaration := signature.declaration
    definition := Outline.text 0 [t.definition interface e.request] }

end StubTarget

/-- The methods for the requests of an interface that a provider answers. -/
def Interface.stubs (i : Interface) (t : StubTarget) (provider : String) : StubGroup where
  name := i.name
  stubs := (i.exchanges provider).map (t.stub i.name)

end CallerStubs
