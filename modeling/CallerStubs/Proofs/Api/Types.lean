/-
  Caller stubs — the types of a service are those that its document declares.

  * `ParamElement.TypedAs`: what the base type of a parameter says about the
    document and about the element that the parameter comes from;
  * `HostType.structs`, `Request.Prints`: the structures that a host type
    names, and the host types that a generated method prints;
  * `Document.SoundlyTypes`: every parameter of a service is typed as its
    element asks, and every structure that a method prints is declared;
  * `build_types_sound`: that is so for every service that is built.
-/
import CallerStubs.Proofs.Api.Description
import CallerStubs.Stub

namespace CallerStubs

/-! ## Base types -/

/-- The path of a declared type. -/
def ParamKind.path? : ParamKind → Option TypePath
  | enum path | struct path => some path
  | _ => none

/-- **The base type is the one that the element of the interface `owner` asks
    for.**  A primitive type is spelled out.  A declared type is declared in
    the document, a structure under a path of no enumeration, and the element
    gives its path in full, or only its name if it belongs to `owner`. -/
structure ParamElement.TypedAs (d : Document) (owner : String) (e : ParamElement)
    (kind : ParamKind) : Prop where
  enum : ∀ path, kind = .enum path → d.Declares .enum path
  struct : ∀ path, kind = .struct path → d.Declares .struct path ∧ ¬ d.Declares .enum path
  primitive : kind.path? = none → ∃ s, kind.spelling? = some s ∧ e.type = some s
  reference : ∀ path, kind.path? = some path →
    e.type = some path.display ∨
      ('.' ∉ path.name.toList ∧ e.type = some path.name ∧ path.interface = owner ∧
        path.name ∉ ParamKind.spellings)

theorem ParamKind.path?_of_spelling? {kind : ParamKind} {s : String}
    (h : kind.spelling? = some s) : kind.path? = none := by
  cases kind <;> first | rfl | cases h

theorem DeclaredKind.path?_paramKind (kind : DeclaredKind) (path : TypePath) :
    (kind.paramKind path).path? = some path := by
  cases kind <;> rfl

/-- A type that a text names is the one that the text asks for. -/
theorem ParamElement.typedAs_of_types {d : Document} {owner type : String} {kind : ParamKind}
    {e : ParamElement} (he : e.type = some type) (h : d.Types owner type kind) :
    e.TypedAs d owner kind := by
  cases h with
  | primitive hs =>
    have hpath := ParamKind.path?_of_spelling? hs
    refine ⟨?_, ?_, fun _ => ⟨type, hs, he⟩, ?_⟩
    · rintro path rfl; cases hpath
    · rintro path rfl; cases hpath
    · intro path h; rw [hpath] at h; cases h
  | @declared path kind hn hw _ hd hstruct =>
    have hpath := kind.path?_paramKind path
    refine ⟨fun path' h => ?_, fun path' h => ?_, fun h => ?_, fun path' h => ?_⟩
    · cases kind <;> cases h
      exact hd
    · cases kind <;> cases h
      exact ⟨hd, hstruct rfl⟩
    · rw [hpath] at h; cases h
    · rw [hpath] at h
      cases h
      rcases hw.eq_display_or with rfl | ⟨hdot, rfl, howner⟩
      · exact .inl he
      · exact .inr ⟨hdot, he, howner, hn⟩

/-! ## Host types -/

/-- The names of structures in a host type. -/
def HostType.structs : HostType → List String
  | list element => element.structs
  | struct name => [name]
  | variant | stringList | int | string | bool | double => []

/-- The host types that the method for a request of the interface `owner`
    prints: those of its signature and, for what may be left out, those of the
    values in the envelopes of its body. -/
inductive Request.Prints (release : QtRelease) (owner : String) (r : Request) : HostType → Prop
  | signature {q} : q ∈ (Signature.ofRequest release owner r).params →
      Prints release owner r q.type
  | envelope {p} : p ∈ r.params → p.mandatory = false → Prints release owner r p.valueType

/-- The only structure in the type of a value is the one of its base type. -/
theorem Param.mem_structs_valueType {p : Param} {name : String}
    (h : name ∈ p.valueType.structs) : ∃ path, p.kind = .struct path ∧ name = path.joined "_" := by
  unfold valueType at h
  cases hk : p.kind with
  | struct path =>
    refine ⟨path, rfl, ?_⟩
    rw [hk] at h
    split_ifs at h <;> simpa [ParamKind.hostType, HostType.structs] using h
  | _ =>
    rw [hk] at h
    split_ifs at h <;> simp [ParamKind.hostType, HostType.structs] at h

theorem Param.mem_structs_signatureType {p : Param} {name : String}
    (h : name ∈ p.signatureType.structs) : name ∈ p.valueType.structs := by
  unfold signatureType at h
  split_ifs at h
  · exact h
  · simp [HostType.structs] at h

/-- The structures that a method prints are base types of its parameters. -/
theorem Request.Prints.structs {release : QtRelease} {owner : String} {r : Request}
    {type : HostType} (h : r.Prints release owner type) {name : String}
    (hname : name ∈ type.structs) :
    ∃ p ∈ r.params, ∃ path, p.kind = .struct path ∧ name = path.joined "_" := by
  cases h with
  | signature hq =>
    obtain ⟨p, hp, rfl⟩ := List.mem_map.1 hq
    exact ⟨p, hp, Param.mem_structs_valueType (Param.mem_structs_signatureType hname)⟩
  | envelope hp _ => exact ⟨_, hp, Param.mem_structs_valueType hname⟩

/-! ## Services -/

/-- The parameters of a request are typed as their elements ask. -/
def FunctionElement.TypedAs (d : Document) (owner : String) (e : FunctionElement) (r : Request) :
    Prop :=
  List.Forall₂ (fun q p => q.TypedAs d owner p.kind) e.params r.params

/-- The parameters of all requests of an interface are typed as their elements
    ask. -/
def InterfaceElement.TypedAs (d : Document) (e : InterfaceElement) (i : Interface) : Prop :=
  e.name = some i.name ∧
    List.Forall₂ (FunctionElement.TypedAs d i.name) e.requestElements i.requests

/-- **The types of the service are sound.**  Its parameters are typed as their
    elements ask, and every structure that one of its methods prints is
    declared in the document. -/
structure Document.SoundlyTypes (d : Document) (api : Api) : Prop where
  params : List.Forall₂ (InterfaceElement.TypedAs d) d.interfaces api.interfaces
  structs : ∀ i ∈ api.interfaces, ∀ r ∈ i.requests, ∀ release type, r.Prints release i.name type →
    ∀ name ∈ type.structs, ∃ path, d.Declares .struct path ∧ name = path.joined "_"

theorem FunctionElement.DescribesRequest.typedAs {d : Document} {owner : String}
    {e : FunctionElement} {r : Request} (h : e.DescribesRequest d owner r) :
    e.TypedAs d owner r := by
  refine h.params.imp fun q p hp => ?_
  obtain ⟨type, htype, hkind⟩ := hp.type
  exact ParamElement.typedAs_of_types htype hkind

theorem InterfaceElement.Describes.typedAs {d : Document} {e : InterfaceElement} {i : Interface}
    (h : e.Describes d i) : e.TypedAs d i :=
  ⟨h.name, h.requests.imp fun _ _ hr => hr.typedAs⟩

/-- The structures that a method prints are declared. -/
theorem FunctionElement.TypedAs.structs_declared {d : Document} {owner : String}
    {e : FunctionElement} {r : Request} (h : e.TypedAs d owner r) {release : QtRelease}
    {type : HostType} (hprints : r.Prints release owner type) {name : String}
    (hname : name ∈ type.structs) :
    ∃ path, d.Declares .struct path ∧ name = path.joined "_" := by
  obtain ⟨p, hp, path, hkind, rfl⟩ := hprints.structs hname
  obtain ⟨q, -, htyped⟩ := forall₂_mem_right h p hp
  exact ⟨path, (htyped.struct path hkind).1, rfl⟩

/-- **Types are resolved soundly.** -/
theorem build_types_sound {d : Document} {api : Api} (h : Api.build d = .ok api) :
    d.SoundlyTypes api := by
  have hparams : List.Forall₂ (InterfaceElement.TypedAs d) d.interfaces api.interfaces :=
    (Api.build_eq_ok_iff.1 h).interfaces.imp fun _ _ hi => hi.typedAs
  refine ⟨hparams, fun i hi r hr release type hprints name hname => ?_⟩
  obtain ⟨e, -, -, hrequests⟩ := forall₂_mem_right hparams i hi
  obtain ⟨f, -, htyped⟩ := forall₂_mem_right hrequests r hr
  exact htyped.structs_declared hprints hname

/-- Types before and after their declaration, in full and by name, and a name
    that is declared both as an enumeration and as a structure. -/
def mixedTypes : Document where
  interfaces := [
    { name := some "UI"
      items := [
        .function {
          name := some "Show", messageType := some "request", provider := some "sdl"
          params := [
            { name := some "image", type := some "Common.Image", array := some "true" },
            { name := some "field", type := some "Field", mandatory := some "false" },
            { name := some "length", type := some "Integer" }] },
        .struct (some "Field"), .enum none] },
    { name := some "Common"
      items := [
        .struct (some "Result"), .enum (some "Result"), .struct (some "Image"),
        .request { name := some "Ask", params := [{ name := some "code", type := some "Result" }] },
        .response { name := some "Ask", params := [{ name := some "", type := some "Result." }] }] }]

/-- The service that `mixedTypes` describes. -/
def mixedTypesApi : Api where
  interfaces := [
    { name := "UI"
      requests := [
        { name := "Show", provider := some "sdl"
          params := [
            { name := "image", kind := .struct ⟨"Common", "Image"⟩, array := true },
            { name := "field", kind := .struct ⟨"UI", "Field"⟩, mandatory := false },
            { name := "length", kind := .integer }] }] },
    { name := "Common"
      requests := [
        { name := "Ask", params := [{ name := "code", kind := .enum ⟨"Common", "Result"⟩ }] }]
      responses := [{ name := "Ask" }] }]

theorem mixedTypes_soundlyTypes :
    Api.build mixedTypes = .ok mixedTypesApi ∧ mixedTypes.SoundlyTypes mixedTypesApi :=
  ⟨rfl, build_types_sound rfl⟩

end CallerStubs
