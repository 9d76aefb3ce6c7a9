/-
  Caller stubs — what the Qt release changes in a generation.

  A generation is made without looking at the release, up to a few places that
  are left open.  The release says what stands in them: the type of the
  callback once in each declaration and once in each definition, the header of
  this type once in the header, and the connection mode once in the source
  file.

  * `Gap`: a text with one place left open;
  * `StubForm`, `GroupForm`, `GenerationForm`: methods and files with their
    places left open, and `fill`, what they are for a release;
  * `Signature.parameterList_eq_fill`: the type of the callback has one place
    in a list of parameters;
  * `ofDocument_eq_map_fill`: a generation for a release is a form, filled.
-/
import CallerStubs.Proofs.ClassFiles.Layout
import CallerStubs.Proofs.Generation.Definition
import CallerStubs.Proofs.Generation.Methods
import CallerStubs.Proofs.Outline

namespace CallerStubs

/-! ## Texts with a place left open -/

/-- A text with one place left open. -/
structure Gap where
  before : String
  after : String

namespace Gap

/-- The text with something in its place. -/
def fill (g : Gap) (text : String) : String :=
  g.before ++ text ++ g.after

/-- The text between two others. -/
def within (g : Gap) (left right : String) : Gap where
  before := left ++ g.before
  after := g.after ++ right

theorem fill_within (g : Gap) (left right text : String) :
    (g.within left right).fill text = left ++ g.fill text ++ right := by
  simp only [fill, within, String.append_assoc]

end Gap

/-! ## Forms -/

/-- A method without the type of its callback. -/
structure StubForm where
  request : String
  response : Option String
  name : String
  params : List SignatureParam
  declaration : Gap
  definition : Gap

/-- The methods of an interface without the types of their callbacks. -/
structure GroupForm where
  name : String
  stubs : List StubForm

/-- The methods and the two files without what the release says. -/
structure GenerationForm where
  groups : List GroupForm
  headerName : String
  /-- The header up to the declarations, without the header of the callback
      type. -/
  headerStart : Gap
  headerEnd : String
  sourceName : String
  /-- The source file up to the definitions, without the connection mode. -/
  sourceStart : Gap

/-- The method for a release. -/
def StubForm.fill (release : QtRelease) (f : StubForm) : Stub where
  request := f.request
  response := f.response
  signature := ⟨f.name, f.params, release.callbackType⟩
  declaration := f.declaration.fill release.callbackType
  definition := f.definition.fill release.callbackType

/-- The methods of an interface for a release. -/
def GroupForm.fill (release : QtRelease) (f : GroupForm) : StubGroup where
  name := f.name
  stubs := f.stubs.map (·.fill release)

/-- **The generation for a release.** -/
def GenerationForm.fill (release : QtRelease) (f : GenerationForm) : Generation :=
  let groups := f.groups.map (·.fill release)
  { groups
    header := {
      fileName := f.headerName
      contents := f.headerStart.fill release.callbackInclude ++
        methodTexts (fun x => "  " ++ x.declaration ++ "\n") groups ++ f.headerEnd }
    source := {
      fileName := f.sourceName
      contents := f.sourceStart.fill release.connectionMode ++
        methodTexts (fun x => "\n" ++ x.definition) groups } }

/-! ## Methods -/

theorem commaJoined_concat (texts : List String) (last : String) :
    commaJoined (texts ++ [last]) = textOf (texts.map (· ++ ", ")) ++ last := by
  induction texts with
  | nil => simp [commaJoined]
  | cons text texts ih =>
    have hjoin : commaJoined (text :: (texts ++ [last])) =
        text ++ ", " ++ commaJoined (texts ++ [last]) :=
      String.intercalate_cons_of_ne_nil (by simp)
    rw [List.cons_append, hjoin, ih, List.map_cons, textOf_cons]
    simp only [String.append_assoc]

/-- A list of parameters without the type of the callback. -/
def callbackGap (params : List SignatureParam) : Gap where
  before := textOf (params.map fun q => q.type.text ++ " " ++ q.name ++ ", ")
  after := " " ++ callbackName

/-- **The type of the callback has one place in a list of parameters.** -/
theorem Signature.parameterList_eq_fill (x : Signature) :
    x.parameterList = (callbackGap x.params).fill x.callbackType := by
  rw [parameterList, commaJoined_concat, List.map_map, callbackGap, Gap.fill]
  simp only [Function.comp_def, String.append_assoc]

theorem Signature.declaration_eq_fill (x : Signature) :
    x.declaration =
      ((callbackGap x.params).within ("Q_INVOKABLE void " ++ x.name ++ "(") ");").fill
        x.callbackType := by
  unfold declaration
  rw [parameterList_eq_fill, Gap.fill_within]

theorem Signature.opening_eq_fill (x : Signature) (className : String) :
    x.opening className =
      ((callbackGap x.params).within ("void " ++ className ++ "::" ++ x.name ++ "(")
        ") \x7b").fill x.callbackType := by
  unfold opening
  rw [parameterList_eq_fill, Gap.fill_within]

namespace StubTarget

/-- The method for an exchange, without the type of its callback. -/
def stubForm (t : StubTarget) (interface : String) (e : Exchange) : StubForm :=
  let name := Signature.methodName interface e.request.name
  let params := e.request.params.map fun p => ⟨p.signatureType, p.name⟩
  let body := (marshalling e.request.params (t.dispatch interface e.request)).map .line
  { request := e.request.name
    response := e.response.map (·.name)
    name
    params
    declaration := (callbackGap params).within ("Q_INVOKABLE void " ++ name ++ "(") ");"
    definition :=
      ((callbackGap params).within ("void " ++ t.className ++ "::" ++ name ++ "(") ") \x7b").within
        "" ("\n" ++ renderLines (Outline.linesAll 1 body ++ [⟨0, "\x7d"⟩])) }

theorem stub_eq_fill (t : StubTarget) (release : QtRelease) (interface : String) (e : Exchange) :
    { t with release }.stub interface e = (t.stubForm interface e).fill release := by
  have hdeclaration : ({ t with release }.stub interface e).declaration =
      (t.stubForm interface e).declaration.fill release.callbackType :=
    Signature.declaration_eq_fill _
  have hopening : (Signature.ofRequest release interface e.request).opening t.className ≠ "" := by
    simp [Signature.opening]
  have hdefinition : ({ t with release }.stub interface e).definition =
      (t.stubForm interface e).definition.fill release.callbackType := by
    refine (Outline.text_block hopening _ _).trans ?_
    rw [Signature.opening_eq_fill, stubForm, Gap.fill_within _ "", String.empty_append]
    rfl
  rw [StubForm.fill, ← hdeclaration, ← hdefinition]
  rfl

end StubTarget

/-! ## Files -/

/-- A row of pieces, one of which varies, is a text with one place left open. -/
theorem Gap.exists_eq_fill {α : Type} {text piece : α → String} (start : String)
    (pieces more : List String)
    (h : ∀ a, text a = start ++ textOf (pieces ++ piece a :: more)) :
    ∃ gap : Gap, ∀ a, text a = gap.fill (piece a) := by
  refine ⟨⟨start ++ textOf pieces, textOf more⟩, fun a => ?_⟩
  rw [h, textOf_append, textOf_cons, fill]
  simp only [String.append_assoc]

namespace ClassFrame

variable (f : ClassFrame)

/-- The header of the callback type has one place in the start of the header. -/
theorem exists_headerStart_eq_fill :
    ∃ gap : Gap, ∀ release,
      { f with release }.headerStart = gap.fill release.callbackInclude := by
  dsimp only [headerStart]
  -- nine pieces stand before the place
  exact Gap.exists_eq_fill _ [_, _, _, _, _, _, _, _, _] _ fun _ => rfl

/-- The connection mode has one place in the start of the source file. -/
theorem exists_sourceStart_eq_fill :
    ∃ gap : Gap, ∀ release,
      { f with release }.sourceStart = gap.fill release.connectionMode := by
  dsimp only [sourceStart]
  -- nine pieces stand before the place here as well
  exact Gap.exists_eq_fill _ [_, _, _, _, _, _, _, _, _] _ fun _ => rfl

/-- The connection mode has one place before the definitions. -/
theorem exists_layout_sourceStart_eq_fill (names : List String) :
    ∃ gap : Gap, ∀ release,
      { f with release }.layout.sourceStart names = gap.fill release.connectionMode := by
  obtain ⟨gap, hgap⟩ := f.exists_sourceStart_eq_fill
  refine ⟨gap.within "" (textOf (names.map f.creationLine) ++ f.sourceMiddle ++
    textOf (names.map releaseLine) ++ "\x7d\n"), fun release => ?_⟩
  have hcreation : { f with release }.creationLine = f.creationLine := rfl
  have hmiddle : { f with release }.sourceMiddle = f.sourceMiddle := rfl
  unfold layout
  rw [hgap, hcreation, hmiddle, Gap.fill_within, String.empty_append]
  simp only [String.append_assoc]

end ClassFrame

/-! ## Generations -/

/-- The methods of a service without the types of their callbacks. -/
def Api.groupForms (api : Api) (s : Settings) : List GroupForm :=
  api.interfaces.map fun i =>
    { name := i.name, stubs := (i.exchanges s.provider).map (s.target.stubForm i.name) }

theorem Api.stubGroups_eq_fill (api : Api) (s : Settings) (release : QtRelease) :
    api.stubGroups { s with release } = (api.groupForms s).map (·.fill release) := by
  rw [stubGroups, groupForms, List.map_map]
  refine List.map_congr_left fun i _ => ?_
  rw [Interface.stubs, Function.comp_apply, GroupForm.fill, List.map_map]
  congr 1
  exact List.map_congr_left fun e _ => s.target.stub_eq_fill release i.name e

/-- The generation of a service has one form for all releases. -/
theorem Generation.exists_ofApi_eq_fill (s : Settings) (api : Api) :
    ∃ form : GenerationForm, ∀ release,
      Generation.ofApi { s with release } api = form.fill release := by
  obtain ⟨headerStart, hheaderStart⟩ := s.frame.exists_headerStart_eq_fill
  let names := api.interfaces.map (·.name)
  obtain ⟨sourceStart, hsourceStart⟩ := s.frame.exists_layout_sourceStart_eq_fill names
  let form : GenerationForm := {
    groups := api.groupForms s
    headerName := s.headerName
    headerStart
    headerEnd := s.frame.layout.headerEnd names
    sourceName := s.sourceName
    sourceStart }
  refine ⟨form, fun release => ?_⟩
  have hgroups : api.stubGroups { s with release } = (form.fill release).groups :=
    api.stubGroups_eq_fill s release
  have hnames : (form.fill release).groups.map (·.name) = names := by
    rw [← hgroups, Api.map_name_stubGroups]
  have hheader : { s.frame with release }.headerText (form.fill release).groups =
      (form.fill release).header.contents := by
    rw [headerText_eq_layout, hnames]
    exact congrArg (· ++ _ ++ _) (hheaderStart release)
  have hsource : { s.frame with release }.sourceText (form.fill release).groups =
      (form.fill release).source.contents := by
    rw [sourceText_eq_layout, hnames]
    exact congrArg (· ++ _) (hsourceStart release)
  have hframe : Settings.frame { s with release } = { s.frame with release } := rfl
  rw [Generation.ofApi, Generation.ofGroups, hgroups, classHeader, classSource, hframe, hheader,
    hsource]
  rfl

/-- **The release only says what stands in places left open.** -/
theorem ofDocument_eq_map_fill (d : Document) (s : Settings) :
    ∃ made : Except Fault GenerationForm, ∀ release : QtRelease,
      Generation.ofDocument d { s with release } = made.map (·.fill release) := by
  have hcheck (release : QtRelease) : Settings.check { s with release } = s.check := rfl
  unfold Generation.ofDocument
  cases hs : s.check with
  | error e => exact ⟨.error (.settings e), fun release => by rw [hcheck, hs]; rfl⟩
  | ok =>
    cases hapi : Api.build d with
    | error e => exact ⟨.error (.schema e), fun release => by rw [hcheck, hs]; rfl⟩
    | ok api =>
      obtain ⟨form, hform⟩ := Generation.exists_ofApi_eq_fill s api
      refine ⟨.ok form, fun release => ?_⟩
      rw [hcheck, hs, Except.map, ← hform]
      rfl

end CallerStubs
