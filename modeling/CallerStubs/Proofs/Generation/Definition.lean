/-
  Caller stubs — the definition of a method, as syntax.

  The text of a definition is laid out from a signature and from the lines of
  a body.  Here its parts are kept apart, and the way each part is written is
  spelled out.  So one can ask which names a definition introduces and which
  dispatches it makes, and knows the texts that stand for them.

  * `Signature.parameterList_eq_zipWith`: the list of parameters, by types and
    names;
  * `DispatchCall`, `Statement`, `bodyOf`: the statements of a body;
  * `Definition`: a definition by its parts, and its text;
  * `Definition.introduced`: the names that it introduces;
  * `Definition.DispatchesTo`: its one dispatch, which ends its text;
  * `Stub.DefinedBy`, `Api.madeInto_stubGroups`: every method of a service has
    the text of such a definition.
-/
import CallerStubs.Generation
import CallerStubs.Proofs.Marshalling
import Mathlib.Data.List.Forall2

namespace CallerStubs

/-! ## Signatures -/

/-- Types and names stand side by side in the list of parameters. -/
theorem Signature.parameterList_eq_zipWith (x : Signature) :
    x.parameterList = String.intercalate ", "
      (List.zipWith (fun type name => type ++ " " ++ name) x.parameterTypes x.parameterNames) := by
  have hlength : (x.params.map (·.type.text)).length = (x.params.map (·.name)).length := by simp
  rw [parameterList, parameterTypes, parameterNames, List.zipWith_append hlength,
    List.zipWith_map, List.zipWith_self]
  rfl

/-! ## Statements -/

/-- A dispatch: a new object of a class, and what it is handed. -/
structure DispatchCall where
  className : String
  /-- The proxy of the interface. -/
  proxy : String
  request : String
  /-- The list of arguments. -/
  arguments : String
  callback : String

def DispatchCall.text (c : DispatchCall) : String :=
  "new " ++ c.className ++ "(" ++ c.proxy ++ ", \"" ++ c.request ++ "\", " ++ c.arguments ++ ", " ++
    c.callback ++ ");"

/-- A statement of a body. -/
inductive Statement where
  | declare (type name : String)
  | assign (target value : String)
  /-- Adds an expression to a list. -/
  | append (list expression : String)
  | dispatch (call : DispatchCall)

namespace Statement

def text : Statement → String
  | declare type name => type ++ " " ++ name ++ ";"
  | assign target value => target ++ " = " ++ value ++ ";"
  | append list expression => list ++ " << " ++ expression ++ ";"
  | dispatch call => call.text

/-- The variable that the statement declares. -/
def declared? : Statement → Option String
  | declare _ name => some name
  | _ => none

/-- The dispatch that the statement makes. -/
def dispatch? : Statement → Option DispatchCall
  | dispatch call => some call
  | _ => none

end Statement

/-- The statements that add a parameter to the list of arguments. -/
def Param.body (p : Param) : List Statement :=
  if p.mandatory then [.append "args" p.name]
  else
    [ .declare ("OptionalArgument< " ++ p.valueType.text ++ " >") ("o_" ++ p.name),
      .assign ("o_" ++ p.name ++ ".presence") ("!" ++ p.name ++ ".isNull()"),
      .assign ("o_" ++ p.name ++ ".val") (p.name ++ ".value< " ++ p.valueType.text ++ " >()"),
      .append "args" ("QVariant::fromValue(o_" ++ p.name ++ ")") ]

/-- The statements of a body. -/
def bodyOf (params : List Param) (call : DispatchCall) : List Statement :=
  .declare "QList<QVariant>" "args" :: (params.flatMap Param.body ++ [.dispatch call])

/-- The call that a dispatch stands for. -/
def Dispatch.call (d : Dispatch) : DispatchCall where
  className := d.namespaceName ++ "::" ++ d.interface ++ "_" ++ d.request
  proxy := d.interface
  request := d.request
  arguments := "args"
  callback := d.callback

theorem Dispatch.statement_eq (d : Dispatch) : d.statement = d.call.text := by
  unfold statement argumentList DispatchCall.text call
  simp only [String.append_assoc]

theorem Param.block_eq_map_text (p : Param) : p.block = p.body.map Statement.text := by
  unfold block body
  split_ifs
  · simp [plainBlock, Statement.text]
  · simp [envelopeBlock, Statement.text, ← String.toList_inj]

/-- The lines of a body are the texts of its statements. -/
theorem marshalling_eq_map_text (params : List Param) (d : Dispatch) :
    marshalling params d = (bodyOf params d.call).map Statement.text := by
  have hparams : params.flatMap Param.block = (params.flatMap Param.body).map Statement.text := by
    rw [List.map_flatMap]
    exact congrArg (params.flatMap ·) (funext Param.block_eq_map_text)
  rw [marshalling_eq, bodyOf, hparams, d.statement_eq, List.map_cons, List.map_append]
  rfl

/-- The parameters of a list that may be left out. -/
def optionals (params : List Param) : List Param :=
  params.filter (!·.mandatory)

theorem filterMap_declared?_bodyOf (params : List Param) (call : DispatchCall) :
    (bodyOf params call).filterMap Statement.declared? =
      "args" :: (optionals params).map fun p => "o_" ++ p.name := by
  have hparams : (params.flatMap Param.body).filterMap Statement.declared? =
      (optionals params).map fun p => "o_" ++ p.name := by
    induction params with
    | nil => rfl
    | cons p params ih =>
      rw [List.flatMap_cons, List.filterMap_append, ih]
      cases hp : p.mandatory <;> simp [optionals, Param.body, Statement.declared?, hp]
  rw [bodyOf, List.filterMap_cons, List.filterMap_append, hparams]
  simp [Statement.declared?]

theorem filterMap_dispatch?_bodyOf (params : List Param) (call : DispatchCall) :
    (bodyOf params call).filterMap Statement.dispatch? = [call] := by
  have hparams : (params.flatMap Param.body).filterMap Statement.dispatch? = [] := by
    induction params with
    | nil => rfl
    | cons p params ih =>
      rw [List.flatMap_cons, List.filterMap_append, ih]
      cases hp : p.mandatory <;> simp [Param.body, Statement.dispatch?, hp]
  rw [bodyOf, List.filterMap_cons_none rfl, List.filterMap_append, hparams]
  rfl

/-! ## Definitions -/

/-- A parameter as it is written between parentheses. -/
structure WrittenParam where
  type : String
  name : String

/-- The definition of a method of a class. -/
structure Definition where
  className : String
  name : String
  /-- The parameters between the parentheses, the callback included. -/
  parameters : List WrittenParam
  body : List Statement

namespace Definition

def parameterList (f : Definition) : String :=
  String.intercalate ", " (f.parameters.map fun p => p.type ++ " " ++ p.name)

/-- The declaration of the method that is defined. -/
def declaration (f : Definition) : String :=
  "Q_INVOKABLE void " ++ f.name ++ "(" ++ f.parameterList ++ ");"

def text (f : Definition) : String :=
  "void " ++ f.className ++ "::" ++ f.name ++ "(" ++ f.parameterList ++ ") \x7b" ++ "\n" ++
    String.join (f.body.map fun s => "  " ++ s.text ++ "\n") ++ "\x7d\n"

/-- The names that a definition introduces: those of its parameters, and those
    of the variables of its body. -/
def introduced (f : Definition) : List String :=
  f.parameters.map (·.name) ++ f.body.filterMap Statement.declared?

/-- The dispatches that a definition makes. -/
def dispatches (f : Definition) : List DispatchCall :=
  f.body.filterMap Statement.dispatch?

/-- **The definition makes this one dispatch**, and its text ends with it. -/
structure DispatchesTo (f : Definition) (call : DispatchCall) : Prop where
  once : f.dispatches = [call]
  ending : ∃ start, f.text = start ++ ("  " ++ call.text ++ "\n" ++ "\x7d\n")

theorem dispatchesTo_of_body_eq {f : Definition} {params : List Param} {call : DispatchCall}
    (h : f.body = bodyOf params call) : f.DispatchesTo call where
  once := by rw [dispatches, h, filterMap_dispatch?_bodyOf]
  ending := by
    have hlast : String.join ([Statement.dispatch call].map fun s => "  " ++ s.text ++ "\n") =
        "  " ++ call.text ++ "\n" := by
      rw [List.map_singleton, String.join_cons, String.join_nil, String.append_empty]
      rfl
    unfold text
    rw [h, bodyOf, ← List.cons_append, List.map_append, String.join_append, hlast,
      ← String.append_assoc, String.append_assoc]
    exact ⟨_, rfl⟩

end Definition

namespace StubTarget

/-- The dispatcher class for a request of an interface. -/
def dispatcherClass (t : StubTarget) (interface request : String) : String :=
  t.requestsNamespace ++ "::" ++ interface ++ "_" ++ request

/-- The dispatch of a request of an interface, with the proxy that is named
    like the interface. -/
def callOf (t : StubTarget) (interface request : String) : DispatchCall where
  className := t.dispatcherClass interface request
  proxy := interface
  request := request
  arguments := "args"
  callback := "hmi_callback"

/-- The definition of the method for a request of an interface. -/
def definitionOf (t : StubTarget) (interface : String) (r : Request) : Definition where
  className := t.className
  name := interface ++ "_" ++ r.name
  parameters := r.params.map (fun p => ⟨p.signatureType.text, p.name⟩) ++
    [⟨t.release.callbackType, "hmi_callback"⟩]
  body := bodyOf r.params (t.callOf interface r.name)

variable (t : StubTarget) (interface : String) (r : Request)

theorem definitionOf_dispatchesTo :
    (t.definitionOf interface r).DispatchesTo (t.callOf interface r.name) :=
  Definition.dispatchesTo_of_body_eq rfl

theorem introduced_definitionOf :
    (t.definitionOf interface r).introduced =
      r.params.map (·.name) ++
        "hmi_callback" :: "args" :: (optionals r.params).map fun p => "o_" ++ p.name := by
  rw [Definition.introduced, definitionOf, filterMap_declared?_bodyOf, List.map_append,
    List.map_map, List.append_assoc]
  rfl

/-! ## The texts of definitions -/

theorem parameterList_definitionOf :
    (t.definitionOf interface r).parameterList =
      (Signature.ofRequest t.release interface r).parameterList := by
  rw [Signature.parameterList, Signature.ofRequest, Definition.parameterList, definitionOf,
    List.map_append, List.map_map, List.map_map]
  rfl

/-- The text of a definition is its first line, the text of the body and the
    closing bracket. -/
theorem text_definition :
    Outline.text 0 [t.definition interface r] =
      (Signature.ofRequest t.release interface r).opening t.className ++ "\n" ++
        bodyText 1 r.params (t.dispatch interface r) ++ "\x7d\n" := by
  have hopening : (Signature.ofRequest t.release interface r).opening t.className ≠ "" := by
    simp [Signature.opening]
  have hclosing : renderLines [⟨0, "\x7d"⟩] = "\x7d\n" := rfl
  rw [definition, Outline.text_block hopening, renderLines_append, hclosing, String.append_assoc,
    String.append_assoc]
  rfl

/-- The text of a body is that of its statements, indented. -/
theorem bodyText_dispatch :
    bodyText 1 r.params (t.dispatch interface r) =
      String.join ((t.definitionOf interface r).body.map fun s => "  " ++ s.text ++ "\n") := by
  rw [bodyText_eq_linesOn, marshalling_eq_map_text, linesOn, List.map_map]
  rfl

theorem text_definition_eq :
    Outline.text 0 [t.definition interface r] = (t.definitionOf interface r).text := by
  rw [text_definition, bodyText_dispatch]
  unfold Signature.opening Definition.text
  rw [parameterList_definitionOf]
  rfl

end StubTarget

/-! ## Methods -/

/-- **The method is declared and defined as the definition says.** -/
structure Stub.DefinedBy (x : Stub) (f : Definition) : Prop where
  name : x.signature.name = f.name
  types : x.signature.parameterTypes = f.parameters.map (·.type)
  declaration : x.declaration = f.declaration
  definition : x.definition = f.text

theorem StubTarget.stub_definedBy (t : StubTarget) (interface : String) (e : Exchange) :
    (t.stub interface e).DefinedBy (t.definitionOf interface e.request) where
  name := rfl
  types := by
    rw [stub, Signature.parameterTypes, Signature.ofRequest, definitionOf, List.map_append,
      List.map_map, List.map_map]
    rfl
  declaration := by
    unfold Definition.declaration
    rw [parameterList_definitionOf]
    rfl
  definition := t.text_definition_eq interface e.request

/-- The method is the one for a request of an interface. -/
structure Request.MadeInto (t : StubTarget) (interface : String) (r : Request) (x : Stub) :
    Prop where
  request : x.request = r.name
  definedBy : x.DefinedBy (t.definitionOf interface r)

/-- The methods of a group are those for the requests of an interface that a
    provider answers. -/
structure Interface.MadeInto (t : StubTarget) (provider : String) (i : Interface)
    (a : StubGroup) : Prop where
  name : a.name = i.name
  stubs : List.Forall₂ (Request.MadeInto t i.name) (i.participants provider) a.stubs

/-- **Every method has the text of the definition for its request.** -/
theorem Api.madeInto_stubGroups (api : Api) (s : Settings) :
    List.Forall₂ (Interface.MadeInto s.target s.provider) api.interfaces (api.stubGroups s) := by
  rw [Api.stubGroups, List.forall₂_map_right_iff, List.forall₂_same]
  intro i _
  refine ⟨rfl, ?_⟩
  rw [Interface.stubs, Interface.exchanges, List.map_map, List.forall₂_map_right_iff,
    List.forall₂_same]
  exact fun r _ => ⟨rfl, s.target.stub_definedBy i.name _⟩

end CallerStubs
