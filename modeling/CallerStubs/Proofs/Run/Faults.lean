/-
  Caller stubs — the faults of a run, and their order.

  In memory only the settings and the document can be at fault, in this order:
  whatever service the document describes, its requests are paired, its methods
  are made and the two templates are rendered.  A run reads its document before
  all that, so what is wrong with the file or with its markup hides what is
  wrong with the settings.

  * `Generation.renderApi`, `Generation.rendered`: the generations of a service
    and of a document by an engine, which may fail to render its templates;
  * `Generation.rendered_classEngine`: the engine of the class never does;
  * `Generation.EndsWith`: the ways in which a generation in memory ends;
  * `Settings.PreventedBy`: why a run does not come to its writing;
  * `faults_in_order`: a run fails for the first of these reasons, and else only
    when it writes.
-/
import CallerStubs.Proofs.ClassFiles.Layout
import CallerStubs.Proofs.Run.Generate

namespace CallerStubs

/-! ## Generations by an engine -/

/-- Why there is no generation by an engine. -/
inductive Breakdown where
  | fault (cause : Fault)
  /-- A template is not rendered. -/
  | template

namespace Generation

/-- The generation of a service by an engine, if it renders both templates. -/
def renderApi (engine : Template.Engine) (s : Settings) (api : Api) : Option Generation := do
  let (header, source) ← s.frame.render engine (api.stubGroups s)
  some { groups := api.stubGroups s, header, source }

/-- The generation of a document by an engine. -/
def rendered (engine : Template.Engine) (d : Document) (s : Settings) :
    Except Breakdown Generation := do
  s.check.mapError fun cause => .fault (.settings cause)
  let api ← (Api.build d).mapError fun cause => .fault (.schema cause)
  match renderApi engine s api with
  | some g => .ok g
  | none => .error .template

variable {escape : String → String} {d : Document} {s : Settings}

/-- The engine of the class makes a generation of every service. -/
theorem renderApi_classEngine (api : Api) :
    renderApi (classEngine escape) s api = some (.ofApi s api) := by
  rw [renderApi, render_classEngine]
  rfl

/-- **Rendering never fails**: the engine of the class makes the generation of
    the document, or has its fault. -/
theorem rendered_classEngine :
    rendered (classEngine escape) d s = (ofDocument d s).mapError .fault := by
  rw [rendered, ofDocument]
  cases s.check with
  | error cause => rfl
  | ok =>
    cases Api.build d with
    | error cause => rfl
    | ok api => simp only [Except.mapError, bind, Except.bind, renderApi_classEngine]

/-! ## Faults in memory -/

/-- **The ways in which a generation in memory ends.** -/
inductive EndsWith (d : Document) (s : Settings) : Except Fault Generation → Prop
  /-- The settings are refused, whatever the document is. -/
  | settings {cause} : s.check = .error cause → EndsWith d s (.error (.settings cause))
  | schema {cause} : s.check = .ok () → Api.build d = .error cause →
      EndsWith d s (.error (.schema cause))
  | made {api} : s.check = .ok () → Api.build d = .ok api → EndsWith d s (.ok (.ofApi s api))

theorem ofDocument_endsWith (d : Document) (s : Settings) : EndsWith d s (ofDocument d s) := by
  rw [ofDocument]
  cases hcheck : s.check with
  | error cause => exact .settings hcheck
  | ok =>
    cases hbuild : Api.build d with
    | error cause => exact .schema hcheck hbuild
    | ok api => exact .made hcheck hbuild

theorem EndsWith.eq {result : Except Fault Generation} (h : EndsWith d s result) :
    ofDocument d s = result := by
  rw [ofDocument]
  cases h with
  | settings hcheck => rw [hcheck]; rfl
  | schema hcheck hbuild => rw [hcheck, hbuild]; rfl
  | made hcheck hbuild => rw [hcheck, hbuild]; rfl

/-- A generation ends in exactly one of these ways. -/
theorem ofDocument_eq_iff_endsWith {result : Except Fault Generation} :
    ofDocument d s = result ↔ EndsWith d s result :=
  ⟨fun h => h ▸ ofDocument_endsWith d s, EndsWith.eq⟩

end Generation

/-! ## Faults before the writing -/

/-- Markup is refused for one reason. -/
theorem Document.parse_eq_error {text : String} {fault : Fault}
    (h : Document.parse text = .error fault) : fault = .markup := by
  rw [Document.parse] at h
  split at h
  · cases h
  · exact (Except.error.inj h).symm

namespace Settings

/-- **Why a run does not come to its writing**: the document is not read, or it
    is not well-formed, or its generation ends with a fault. -/
inductive PreventedBy (s : Settings) (t : FileTree) : Fault → Prop
  | unread {cause} : t.readText s.schemaPath = .error cause → PreventedBy s t (.io cause)
  | illFormed {text} : t.readText s.schemaPath = .ok text →
      Document.parse text = .error .markup → PreventedBy s t .markup
  | generation {text d fault} : t.readText s.schemaPath = .ok text →
      Document.parse text = .ok d → Generation.EndsWith d s (.error fault) → PreventedBy s t fault

variable {s : Settings} {t : FileTree} {fault : Fault}

theorem prepare_eq_error_iff :
    s.prepare (t.readText s.schemaPath) = .error fault ↔ s.PreventedBy t fault := by
  simp only [prepare, bind_eq_error_iff, mapError_eq_error_iff, mapError_eq_ok_iff,
    Generation.ofDocument_eq_iff_endsWith]
  constructor
  · rintro (⟨cause, hread, rfl⟩ | ⟨text, hread, hparse | ⟨d, hparse, hends⟩⟩)
    · exact .unread hread
    · cases Document.parse_eq_error hparse
      exact .illFormed hread hparse
    · exact .generation hread hparse hends
  · intro h
    cases h with
    | unread hread => exact .inl ⟨_, hread, rfl⟩
    | illFormed hread hparse => exact .inr ⟨_, hread, .inl hparse⟩
    | generation hread hparse hends => exact .inr ⟨_, hread, .inr ⟨_, hparse, hends⟩⟩

end Settings

/-- **The faults of a run, in their order.**  The pairing, the methods and the
    rendering have no fault, whatever the service is.  So a generation in memory
    has the fault of the settings, else that of the document, and else none.  A
    run that does not read its document, or not as markup, has the fault of
    this, whatever the settings are; then it has the fault of its generation;
    and a run without any of these only fails when it writes. -/
theorem faults_in_order (escape : String → String) (s : Settings) :
    (∀ api, Generation.renderApi (classEngine escape) s api = some (.ofApi s api)) ∧
      (∀ d, Generation.rendered (classEngine escape) d s =
        (Generation.ofDocument d s).mapError .fault) ∧
      (∀ d result, Generation.ofDocument d s = result ↔ Generation.EndsWith d s result) ∧
      ∀ t : FileTree,
        let run := (s.generate FileTree.disk).run t
        (∀ fault, s.PreventedBy t fault → run.1.result = .error fault ∧ run.2 = t) ∧
          ((∀ fault, ¬ s.PreventedBy t fault) →
            ∃ g, s.prepare (t.readText s.schemaPath) = .ok g ∧
              g.Writes s.outputDir t (run.1.result.map fun _ => ()) run.2) := by
  refine ⟨fun api => Generation.renderApi_classEngine api,
    fun d => Generation.rendered_classEngine,
    fun d result => Generation.ofDocument_eq_iff_endsWith, fun t => ?_⟩
  intro run
  constructor
  · intro fault hprevented
    have hrun : run = _ := Settings.run_generate_error (Settings.prepare_eq_error_iff.2 hprevented)
    rw [hrun]
    exact ⟨rfl, rfl⟩
  · intro hnot
    cases hprepared : s.prepare (t.readText s.schemaPath) with
    | error fault => exact absurd (Settings.prepare_eq_error_iff.1 hprepared) (hnot fault)
    | ok g => exact ⟨g, rfl, Settings.writes_of_prepare hprepared⟩

/-- Settings that are refused, for a provider of one space. -/
def blankProvider : Settings :=
  { Settings.initial "api.xml" "out" with provider := " " }

/-- A tree with a document whose root is not closed. -/
def unclosedDocument : FileTree where
  entries := [(["api.xml"], .file "<interfaces>".toUTF8)]

/-- The refused settings are the fault of a run that reads its document, and are
    hidden in one that does not. -/
theorem blankProvider_faults :
    blankProvider.check = .error (.blankField "provider") ∧
      ((blankProvider.generate FileTree.disk).run documentOnly).1.result =
        .error (.settings (.blankField "provider")) ∧
      ((blankProvider.generate FileTree.disk).run unclosedDocument).1.result = .error .markup ∧
      ((blankProvider.generate FileTree.disk).run {}).1.result = .error (.io .notFound) := by
  obtain ⟨-, -, -, hruns⟩ := faults_in_order id blankProvider
  have hunclosed : unclosedDocument.readText "api.xml" = .ok "<interfaces>" :=
    FileTree.readText_eq_ok_iff.2 ⟨rfl, rfl, ["api.xml"], rfl, rfl⟩
  refine ⟨rfl, ((hruns documentOnly).1 _ ?_).1, ((hruns unclosedDocument).1 _ ?_).1,
    ((hruns {}).1 _ ?_).1⟩
  · exact .generation readText_documentOnly rfl (.settings rfl)
  · exact .illFormed hunclosed rfl
  · exact .unread rfl

end CallerStubs
