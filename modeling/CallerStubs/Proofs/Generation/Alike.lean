/-
  Caller stubs — what of a document reaches the generated files.

  The files show the names of the interfaces and, of the requests that the
  provider answers, the names, and the names, modifiers and host types of
  their parameters.  Documents that agree in this have the same files,
  whatever else they say; so have settings that differ only in paths.

  * `Param.Alike`, `Request.Alike`, `Interface.Alike`, `Document.Alike`:
    documents that agree in what the files show;
  * `Request.Alike.stub_texts`: requests that are alike have methods with the
    same texts, whatever answers them;
  * `classFiles_eq_of_sameTexts`: the files show nothing but the texts of
    methods and the names of interfaces;
  * `ofDocument_files_eq`: documents that are alike have the same files.
-/
import CallerStubs.Proofs.ClassFiles.Layout
import CallerStubs.Proofs.Generation.Methods

namespace CallerStubs

/-! ## Services that are alike -/

/-- The base type as which values travel. -/
def ParamKind.carried : ParamKind → ParamKind
  | enum _ => integer
  | kind => kind

/-- The parameters have the same name, modifiers and base type, where an
    enumeration counts as an integer. -/
structure Param.Alike (p q : Param) : Prop where
  name : p.name = q.name
  mandatory : p.mandatory = q.mandatory
  array : p.array = q.array
  kind : p.kind.carried = q.kind.carried

/-- The requests have the same name and parameters that are alike. -/
structure Request.Alike (r q : Request) : Prop where
  name : r.name = q.name
  params : List.Forall₂ Param.Alike r.params q.params

/-- The interfaces have the same name, and the provider answers requests that
    are alike. -/
structure Interface.Alike (provider : String) (i j : Interface) : Prop where
  name : i.name = j.name
  requests : List.Forall₂ Request.Alike (i.participants provider) (j.participants provider)

/-- **The documents are alike** for a provider: the interfaces of the services
    that they describe are, in their order. -/
def Document.Alike (provider : String) (d e : Document) : Prop :=
  ∃ api api', Api.build d = .ok api ∧ Api.build e = .ok api' ∧
    List.Forall₂ (Interface.Alike provider) api.interfaces api'.interfaces

/-! ## Host types -/

variable {p q : Param}

theorem Param.valueType_carried (p : Param) :
    { p with kind := p.kind.carried }.valueType = p.valueType := by
  unfold valueType
  cases p.kind <;> rfl

namespace Param.Alike

theorem valueType (h : p.Alike q) : p.valueType = q.valueType := by
  rw [← valueType_carried p, ← valueType_carried q]
  unfold Param.valueType
  simp only [h.array, h.kind]

theorem signatureType (h : p.Alike q) : p.signatureType = q.signatureType := by
  rw [Param.signatureType, Param.signatureType, h.mandatory, h.valueType]

theorem statements (h : p.Alike q) : p.statements = q.statements := by
  unfold Param.statements Param.envelope
  rw [h.mandatory, h.valueType, h.name]

end Param.Alike

/-! ## Methods -/

variable {r r' : Request} {i j : Interface} {provider : String}

/-- The methods are declared and defined by the same texts. -/
structure Stub.SameTexts (x y : Stub) : Prop where
  declaration : x.declaration = y.declaration
  definition : x.definition = y.definition

/-- The interfaces have the same name and methods with the same texts. -/
structure StubGroup.SameTexts (a b : StubGroup) : Prop where
  name : a.name = b.name
  stubs : List.Forall₂ Stub.SameTexts a.stubs b.stubs

namespace Request.Alike

theorem signature (h : r.Alike r') (release : QtRelease) (owner : String) :
    Signature.ofRequest release owner r = Signature.ofRequest release owner r' := by
  have hparams : r.params.map (fun p => (⟨p.signatureType, p.name⟩ : SignatureParam)) =
      r'.params.map fun p => ⟨p.signatureType, p.name⟩ :=
    map_eq_map_of_forall₂ (fun p q hp => by rw [hp.signatureType, hp.name]) h.params
  rw [Signature.ofRequest, Signature.ofRequest, hparams, h.name]

theorem body (h : r.Alike r') (t : StubTarget) (owner : String) :
    marshalling r.params (t.dispatch owner r) = marshalling r'.params (t.dispatch owner r') := by
  have hparams : r.params.map Param.statements = r'.params.map Param.statements :=
    map_eq_map_of_forall₂ (fun _ _ hp => hp.statements) h.params
  have hdispatch : t.dispatch owner r = t.dispatch owner r' := by
    rw [StubTarget.dispatch, StubTarget.dispatch, h.name]
  rw [marshalling, marshalling, List.flatMap_def, List.flatMap_def, hparams, hdispatch]

/-- **Requests that are alike have methods with the same texts**, whatever
    answers them. -/
theorem stub_texts (h : r.Alike r') (t : StubTarget) (owner : String)
    (response response' : Option Response) :
    (t.stub owner ⟨r, response⟩).SameTexts (t.stub owner ⟨r', response'⟩) where
  declaration := by
    rw [StubTarget.stub, StubTarget.stub, h.signature]
  definition := by
    rw [StubTarget.stub, StubTarget.stub, StubTarget.definition, StubTarget.definition,
      h.signature, h.body]

end Request.Alike

theorem Interface.Alike.sameTexts (h : i.Alike provider j) (t : StubTarget) :
    (i.stubs t provider).SameTexts (j.stubs t provider) where
  name := h.name
  stubs := by
    simp only [Interface.stubs, exchanges, List.map_map, List.forall₂_map_left_iff,
      List.forall₂_map_right_iff, ← h.name]
    exact h.requests.imp fun _ _ hr => hr.stub_texts t i.name _ _

/-! ## Files -/

variable {groups groups' : List StubGroup}

/-- A row of lines for methods only shows what the lines show. -/
theorem methodTexts_eq_of_sameTexts {line : Stub → String}
    (hline : ∀ x y : Stub, x.SameTexts y → line x = line y)
    (h : List.Forall₂ StubGroup.SameTexts groups groups') :
    methodTexts line groups = methodTexts line groups' := by
  refine congrArg textOf (map_eq_map_of_forall₂ (fun a b hab => ?_) h)
  exact congrArg textOf (map_eq_map_of_forall₂ hline hab.stubs)

/-- **The files show nothing but the texts of methods and the names of
    interfaces.** -/
theorem classFiles_eq_of_sameTexts (f : ClassFrame)
    (h : List.Forall₂ StubGroup.SameTexts groups groups') :
    classHeader f groups = classHeader f groups' ∧
      classSource f groups = classSource f groups' := by
  have hnames : groups.map (·.name) = groups'.map (·.name) :=
    map_eq_map_of_forall₂ (fun _ _ hg => hg.name) h
  have hdeclarations : methodTexts ClassFrame.declarationLine groups =
      methodTexts ClassFrame.declarationLine groups' :=
    methodTexts_eq_of_sameTexts
      (fun x y hxy => by rw [ClassFrame.declarationLine, ClassFrame.declarationLine,
        hxy.declaration]) h
  have hdefinitions : methodTexts ClassFrame.definitionText groups =
      methodTexts ClassFrame.definitionText groups' :=
    methodTexts_eq_of_sameTexts
      (fun x y hxy => by rw [ClassFrame.definitionText, ClassFrame.definitionText,
        hxy.definition]) h
  constructor
  · rw [classHeader, classHeader, headerText_eq_layout, headerText_eq_layout, hnames,
      hdeclarations]
  · rw [classSource, classSource, sourceText_eq_layout, sourceText_eq_layout, hnames,
      hdefinitions]

/-! ## Generations -/

theorem ofApi_files_eq {api api' : Api} (s : Settings)
    (h : List.Forall₂ (Interface.Alike s.provider) api.interfaces api'.interfaces) :
    (Generation.ofApi s api).header = (Generation.ofApi s api').header ∧
      (Generation.ofApi s api).source = (Generation.ofApi s api').source := by
  refine classFiles_eq_of_sameTexts s.frame ?_
  rw [Api.stubGroups, Api.stubGroups, List.forall₂_map_left_iff, List.forall₂_map_right_iff]
  exact h.imp fun _ _ hi => hi.sameTexts s.target

/-- **The files depend on nothing but the interfaces and the requests that the
    provider answers.** -/
theorem ofDocument_files_eq (d d' : Document) (s : Settings) :
    (∀ g g', Generation.ofDocument d s = .ok g → Generation.ofDocument d' s = .ok g' →
      d.Alike s.provider d' → g.header = g'.header ∧ g.source = g'.source) ∧
    ∀ schemaPath outputDir,
      Generation.ofDocument d { s with schemaPath, outputDir } = Generation.ofDocument d s := by
  constructor
  · rintro g g' h h' ⟨api, api', hbuild, hbuild', halike⟩
    obtain ⟨-, _, hapi, rfl⟩ := Generation.ofDocument_eq_ok_iff.1 h
    obtain ⟨-, _, hapi', rfl⟩ := Generation.ofDocument_eq_ok_iff.1 h'
    cases hbuild.symm.trans (Api.build_eq_ok_iff.2 hapi)
    cases hbuild'.symm.trans (Api.build_eq_ok_iff.2 hapi')
    exact ofApi_files_eq s halike
  · exact fun _ _ => rfl

/-- `mixedProviders` said in another way: the requests for the default
    provider in other forms, an enumeration in place of an integer, other
    requests and responses, and things that are not read. -/
def restatedProviders : Document where
  name := some "restated"
  interfaces := [
    { name := some "UI"
      items := [
        .enum (some "Length"),
        .response { name := some "Hide" },
        .request {
          name := some "Show", provider := some "sdl"
          params := [
            { name := some "length", type := some "Length", maxValue := some "500" },
            { name := some "text", type := some "String", mandatory := some "false",
              array := some "no" }] },
        .other,
        .request {
          name := some "Listen", provider := some "tts"
          params := [{ name := some "field", type := some "TTS.Field" }] },
        .function { name := some "OnShow", messageType := some "notification" },
        .function {
          name := some "Hide", messageType := some "request", provider := some "sdl" }] },
    { name := some "TTS"
      items := [.struct (some "Field"), .other] }]

theorem restatedProviders_alike : mixedProviders.Alike "sdl" restatedProviders := by
  refine ⟨_, _, rfl, rfl, ?_⟩
  refine .cons ⟨rfl, .cons ⟨rfl, ?_⟩ (.cons ⟨rfl, .nil⟩ .nil)⟩ (.cons ⟨rfl, .nil⟩ .nil)
  exact .cons ⟨rfl, rfl, rfl, rfl⟩ (.cons ⟨rfl, rfl, rfl, rfl⟩ .nil)

/-- Other responses answer the requests, and the files are the same. -/
theorem mixedProviders_files_eq :
    ∃ g g', Generation.ofDocument mixedProviders (.initial "hmi.xml" "out") = .ok g ∧
      Generation.ofDocument restatedProviders (.initial "hmi.xml" "out") = .ok g' ∧
      (stubsOf g.groups).map (·.response) = [some "Show", none] ∧
      (stubsOf g'.groups).map (·.response) = [none, some "Hide"] ∧
      g.header = g'.header ∧ g.source = g'.source := by
  obtain ⟨hfiles, -⟩ :=
    ofDocument_files_eq mixedProviders restatedProviders (.initial "hmi.xml" "out")
  exact ⟨_, _, rfl, rfl, rfl, rfl, hfiles _ _ rfl rfl restatedProviders_alike⟩

end CallerStubs
