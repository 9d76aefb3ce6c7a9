/-
  Caller stubs — signature, body and summary of a method agree.

  A method shows its parameters in the list between its parentheses, in the
  list of types that a summary prints, and in its body.  At each position the
  three say the same: the type is a `QVariant` where the body has an envelope,
  and the envelope is for the type that is hidden in this way.

  * `Param.signatureType_text_eq_iff`: only what may be left out is shown as a
    `QVariant`, whatever the names of structures are;
  * `Carriage`: how a body carries a parameter;
  * `Stub.Agrees`, `stub_agrees`: the parts of every method agree.
-/
import CallerStubs.Proofs.Generation.Definition
import CallerStubs.Proofs.Marshalling

namespace CallerStubs

/-! ## Types -/

theorem ParamKind.hostType_text_ne (kind : ParamKind) : kind.hostType.text ≠ "QVariant" := by
  cases kind with
  | struct path =>
    intro h
    -- the path of a structure is joined by an underscore
    have hmem : '_' ∈ (path.joined "_").toList := by simp [TypePath.joined]
    rw [show path.joined "_" = "QVariant" from h] at hmem
    exact absurd hmem (by decide)
  | _ => simp [hostType, HostType.text]

theorem Param.valueType_text_ne (p : Param) : p.valueType.text ≠ "QVariant" := by
  unfold valueType
  split_ifs
  · split
    · simp [HostType.text]
    · simp [HostType.text, ← String.toList_inj]
  · exact p.kind.hostType_text_ne

/-- Only what may be left out is shown as a `QVariant`. -/
theorem Param.signatureType_text_eq_iff (p : Param) :
    p.signatureType.text = "QVariant" ↔ p.mandatory = false := by
  unfold signatureType
  split_ifs with h
  · simp [h, p.valueType_text_ne]
  · simp [h, HostType.text]

theorem Param.signatureType_of_mandatory (p : Param) :
    { p with mandatory := true }.signatureType = p.valueType :=
  rfl

theorem QtRelease.callbackType_ne (release : QtRelease) : release.callbackType ≠ "QVariant" := by
  cases release <;> decide

/-! ## Carriages -/

/-- How a body carries a parameter: as it is, or in an envelope for a value of
    a type. -/
inductive Carriage where
  | plain
  | wrapped (type : String)

/-- The block of a parameter of this name. -/
def Carriage.block (name : String) : Carriage → List String
  | plain => plainBlock name
  | wrapped type => envelopeBlock name type

def Param.carriage (p : Param) : Carriage :=
  if p.mandatory then .plain else .wrapped p.valueType.text

theorem Param.block_carriage (p : Param) : p.carriage.block p.name = p.block := by
  unfold carriage block
  split_ifs
  · rfl
  · rfl

theorem Param.carriage_eq_wrapped_iff {p : Param} {type : String} :
    p.carriage = .wrapped type ↔ p.mandatory = false ∧ type = p.valueType.text := by
  unfold carriage
  split_ifs with h
  · simp [h]
  · simp [h, eq_comm]

/-- What is carried in an envelope is what is shown as a `QVariant`. -/
theorem Param.signatureType_text_eq_iff_carriage (p : Param) :
    p.signatureType.text = "QVariant" ↔ ∃ type, p.carriage = .wrapped type := by
  rw [p.signatureType_text_eq_iff]
  constructor
  · intro h
    exact ⟨_, carriage_eq_wrapped_iff.2 ⟨h, rfl⟩⟩
  · rintro ⟨type, h⟩
    exact (carriage_eq_wrapped_iff.1 h).1

/-! ## Methods -/

/-- **The parts of the method for a request agree.**  They have one name and
    one list of parameters, and show at each position of the list what the
    body carries. -/
structure Stub.Agrees (x : Stub) (t : StubTarget) (interface : String) (r : Request)
    (name list : String) (carriages : List Carriage) : Prop where
  name_eq : name = interface ++ "_" ++ r.name
  declaration : x.declaration = "Q_INVOKABLE void " ++ name ++ "(" ++ list ++ ");"
  definition : x.definition =
    "void " ++ t.className ++ "::" ++ name ++ "(" ++ list ++ ") \x7b" ++ "\n" ++
      (linesOn 1 ["QList<QVariant> args;"] ++
        String.join
          (List.zipWith (fun p c => linesOn 1 (Carriage.block p.name c)) r.params carriages) ++
        linesOn 1 [(t.callOf interface r.name).text]) ++ "\x7d\n"
  /-- The list shows each parameter with its type, and the callback last. -/
  list_eq : list = String.intercalate ", "
    (r.params.map (fun p => p.signatureType.text ++ " " ++ p.name) ++
      [t.release.callbackType ++ " " ++ "hmi_callback"])
  list_zipped : list = String.intercalate ", "
    (List.zipWith (fun type name => type ++ " " ++ name) x.signature.parameterTypes
      (r.params.map (·.name) ++ ["hmi_callback"]))
  typeCount : x.signature.parameterTypes.length = r.params.length + 1
  nameCount : (r.params.map (·.name) ++ ["hmi_callback"]).length = r.params.length + 1
  carriageCount : carriages.length = r.params.length
  types : ∀ (k : Nat) (p : Param), r.params[k]? = some p →
    x.signature.parameterTypes[k]? = some p.signatureType.text
  wrapped_iff : ∀ k : Nat, x.signature.parameterTypes[k]? = some "QVariant" ↔
    ∃ type, carriages[k]? = some (.wrapped type)
  wrappedType : ∀ (k : Nat) (p : Param) (type : String), r.params[k]? = some p →
    carriages[k]? = some (.wrapped type) → type = { p with mandatory := true }.signatureType.text

variable (t : StubTarget) (interface : String) (r : Request)

theorem Signature.parameterTypes_ofRequest (release : QtRelease) :
    (ofRequest release interface r).parameterTypes =
      r.params.map (·.signatureType.text) ++ [release.callbackType] := by
  rw [parameterTypes, ofRequest, List.map_map]
  rfl

theorem Signature.parameterNames_ofRequest (release : QtRelease) :
    (ofRequest release interface r).parameterNames = r.params.map (·.name) ++ ["hmi_callback"] := by
  rw [parameterNames, ofRequest, List.map_map]
  rfl

/-- The text of a body, with the blocks taken from the carriages. -/
theorem bodyText_eq_carriages (level : Nat) (params : List Param) (d : Dispatch) :
    bodyText level params d =
      linesOn level ["QList<QVariant> args;"] ++
        String.join (List.zipWith (fun p c => linesOn level (Carriage.block p.name c)) params
          (params.map Param.carriage)) ++ linesOn level [d.call.text] := by
  rw [bodyText_eq, d.statement_eq, List.zipWith_map_right, List.zipWith_self]
  simp only [Param.block_carriage]

theorem Signature.getElem?_parameterTypes (release : QtRelease) {k : Nat} {p : Param}
    (hp : r.params[k]? = some p) :
    (ofRequest release interface r).parameterTypes[k]? = some p.signatureType.text := by
  have hk : k < (r.params.map (·.signatureType.text)).length := by
    rw [List.length_map]
    exact (List.getElem?_eq_some_iff.1 hp).1
  rw [parameterTypes_ofRequest, List.getElem?_append_left hk, List.getElem?_map, hp]
  rfl

/-- Behind the types of the parameters there is that of the callback only. -/
theorem Signature.getElem?_parameterTypes_ne (release : QtRelease) {k : Nat}
    (hp : r.params[k]? = none) :
    (ofRequest release interface r).parameterTypes[k]? ≠ some "QVariant" := by
  have hk : (r.params.map (·.signatureType.text)).length ≤ k := by
    rw [List.length_map]
    exact List.getElem?_eq_none_iff.1 hp
  rw [parameterTypes_ofRequest, List.getElem?_append_right hk]
  intro h
  have hmem := List.mem_of_getElem? h
  rw [List.mem_singleton] at hmem
  exact release.callbackType_ne hmem.symm

theorem Signature.wrapped_iff (release : QtRelease) (k : Nat) :
    (ofRequest release interface r).parameterTypes[k]? = some "QVariant" ↔
      ∃ type, (r.params.map Param.carriage)[k]? = some (.wrapped type) := by
  rw [List.getElem?_map]
  cases hp : r.params[k]? with
  | some p =>
    rw [getElem?_parameterTypes interface r release hp]
    simp only [Option.map_some, Option.some.injEq]
    exact p.signatureType_text_eq_iff_carriage
  | none =>
    simp only [Option.map_none, reduceCtorEq, exists_false, iff_false]
    exact getElem?_parameterTypes_ne interface r release hp

/-- **The parts of every method agree.** -/
theorem stub_agrees (t : StubTarget) (i : Interface) (e : Exchange) :
    ∃ name list carriages, (t.stub i.name e).Agrees t i.name e.request name list carriages := by
  refine ⟨Signature.methodName i.name e.request.name,
    (Signature.ofRequest t.release i.name e.request).parameterList,
    e.request.params.map Param.carriage, ?_⟩
  have hsignature : (t.stub i.name e).signature = Signature.ofRequest t.release i.name e.request :=
    rfl
  constructor
  case name_eq => rfl
  case declaration => rfl
  case definition =>
    refine (t.text_definition i.name e.request).trans ?_
    rw [bodyText_eq_carriages]
    rfl
  case list_eq =>
    rw [Signature.parameterList, Signature.ofRequest, List.map_map]
    rfl
  case list_zipped =>
    rw [hsignature, ← Signature.parameterNames_ofRequest i.name e.request t.release,
      Signature.parameterList_eq_zipWith]
  case typeCount => simp [hsignature, Signature.parameterTypes_ofRequest]
  case nameCount => simp
  case carriageCount => exact List.length_map ..
  case types =>
    intro k p hp
    rw [hsignature]
    exact Signature.getElem?_parameterTypes i.name e.request t.release hp
  case wrapped_iff =>
    intro k
    rw [hsignature]
    exact Signature.wrapped_iff i.name e.request t.release k
  case wrappedType =>
    intro k p type hp hwrapped
    rw [List.getElem?_map, hp, Option.map_some, Option.some.injEq] at hwrapped
    rw [p.signatureType_of_mandatory]
    exact (Param.carriage_eq_wrapped_iff.1 hwrapped).2

end CallerStubs
