/-
  Caller stubs — a check foretells the generation.

  A check finds its settings, reads the document and makes the generation in
  memory as a run that generates does, and then stops.  So it succeeds when
  the latter succeeds, says what the latter will write, and leaves only the
  writing itself to fail.

  * `Command.run_check`, `Command.run_generate_ok`: the two commands on a tree;
  * `runArguments_keeps_tree`: only a command line that generates changes the
    tree;
  * `Summary.Foretells`: how a generation can end after its check;
  * `check_foretells_generate`: it ends in one of these ways.
-/
import CallerStubs.Proofs.CommandLine.Settings
import CallerStubs.Proofs.CommandLine.Summary
import CallerStubs.Proofs.Run.Generate

namespace CallerStubs

/-! ## Commands on a tree -/

/-- What a check prints on a tree, or why it fails. -/
def Settings.checkIn (s : Settings) (t : FileTree) : Except Failure String := do
  let d ← (t.document s.schemaPath).mapError (.document s.schemaPath)
  let g ← (Generation.ofDocument d s).mapError .check
  .ok g.checkText

theorem run_runCheck (s : Settings) (t : FileTree) :
    (runCheck FileTree.disk s).run t = (s.checkIn t, t) := by
  rw [runCheck, StateT.run_bind, Document.run_load, Settings.checkIn]
  cases t.document s.schemaPath with
  | error e => rfl
  | ok d =>
    simp only [bind, Except.mapError, Except.bind]
    cases Generation.ofDocument d s with
    | error e => rfl
    | ok g => rfl

/-- What a generation prints, or why it fails, when its run had this result. -/
def Settings.generateResult (s : Settings) : Except Fault Generation → Except Failure String
  | .ok g => .ok (g.doneLine s.outputDir)
  | .error e => .error (.generation s.schemaPath e)

theorem run_runGenerate (s : Settings) (t : FileTree) :
    (runGenerate FileTree.disk s).run t =
      (s.generateResult ((s.generate FileTree.disk).run t).1.result,
        ((s.generate FileTree.disk).run t).2) := by
  rw [runGenerate, StateT.run_bind]
  generalize (s.generate FileTree.disk).run t = made
  obtain ⟨⟨notices, result⟩, t'⟩ := made
  cases result with
  | error e => rfl
  | ok g => rfl

namespace Command

theorem run_check (values : FlagValues) (t : FileTree) :
    (Command.run FileTree.disk .check values).run t =
      (values.resolve t >>= (·.checkIn t), t) := by
  rw [Command.run, StateT.run_bind, FlagValues.run_settings]
  cases values.resolve t with
  | error f => rfl
  | ok s => exact run_runCheck s t

variable {values : FlagValues} {t : FileTree} {f : Failure} {s : Settings}

theorem run_generate_error (h : values.resolve t = .error f) :
    (Command.run FileTree.disk .generate values).run t = (.error f, t) := by
  rw [Command.run, StateT.run_bind, FlagValues.run_settings, h]
  rfl

theorem run_generate_ok (h : values.resolve t = .ok s) :
    (Command.run FileTree.disk .generate values).run t =
      (s.generateResult ((s.generate FileTree.disk).run t).1.result,
        ((s.generate FileTree.disk).run t).2) := by
  rw [Command.run, StateT.run_bind, FlagValues.run_settings, h]
  exact run_runGenerate s t

end Command

/-! ## Command lines on a tree -/

/-- What a command line prints, and its exit code, when its command had this
    result. -/
def Outcome.ofResult : Except Failure String → Outcome
  | .ok output => { exitCode := 0, output }
  | .error f => { exitCode := 1, errors := f.report }

theorem Outcome.exitCode_ofResult_eq_zero_iff {result : Except Failure String} :
    (Outcome.ofResult result).exitCode = 0 ↔ ∃ output, result = .ok output := by
  cases result with
  | error f => simp [ofResult]
  | ok output => simp [ofResult]

variable {arguments arguments' : List String} {command : Command} {values values' : FlagValues}

theorem run_runArguments (h : Invocation.ofArguments? arguments = some (.run command values))
    (t : FileTree) :
    (runArguments FileTree.disk arguments).run t =
      (Outcome.ofResult ((command.run FileTree.disk values).run t).1,
        ((command.run FileTree.disk values).run t).2) := by
  rw [runArguments, h]
  simp only
  rw [StateT.run_bind]
  generalize (command.run FileTree.disk values).run t = ran
  obtain ⟨result, t'⟩ := ran
  cases result with
  | error f => rfl
  | ok output => rfl

/-- Only a command line that generates changes the tree. -/
theorem runArguments_keeps_tree
    (h : ∀ values, Invocation.ofArguments? arguments ≠ some (.run .generate values))
    (t : FileTree) : ((runArguments FileTree.disk arguments).run t).2 = t := by
  cases hmeaning : Invocation.ofArguments? arguments with
  | none => rw [runArguments, hmeaning]; rfl
  | some invocation =>
    cases invocation with
    | help => rw [runArguments, hmeaning]; rfl
    | version => rw [runArguments, hmeaning]; rfl
    | run command values =>
      cases command with
      | generate => exact absurd hmeaning (h values)
      | check => rw [run_runArguments hmeaning, Command.run_check]

/-! ## What a check foretells -/

namespace Settings

variable {s : Settings} {g : Generation} {t : FileTree} {output : String}

/-- The part in memory does not ask for the directory. -/
theorem prepare_withDirectory (s : Settings) (directory : String)
    (read : Except IoFault String) : (s.withDirectory directory).prepare read = s.prepare read :=
  rfl

theorem prepare_eq_ok_iff : s.prepare (t.readText s.schemaPath) = .ok g ↔
    ∃ d, t.document s.schemaPath = .ok d ∧ Generation.ofDocument d s = .ok g := by
  simp only [prepare, FileTree.document, FileTree.loadText, bind_eq_ok_iff]
  constructor
  · rintro ⟨text, htext, d, hd, hg⟩
    exact ⟨d, ⟨text, htext, hd⟩, hg⟩
  · rintro ⟨d, ⟨text, htext, hd⟩, hg⟩
    exact ⟨text, htext, d, hd, hg⟩

/-- A check succeeds iff its generation comes in hand. -/
theorem checkIn_eq_ok_iff : s.checkIn t = .ok output ↔
    ∃ g, s.prepare (t.readText s.schemaPath) = .ok g ∧ output = g.checkText := by
  simp only [checkIn, prepare_eq_ok_iff, bind_eq_ok_iff, mapError_eq_ok_iff, Except.ok.injEq]
  constructor
  · rintro ⟨d, hd, g, hg, rfl⟩
    exact ⟨g, ⟨d, hd, hg⟩, rfl⟩
  · rintro ⟨g, ⟨d, hd, hg⟩, rfl⟩
    exact ⟨d, hd, g, hg, rfl⟩

end Settings

/-- The line printed when the files of a summary have been written. -/
def Summary.doneLine (u : Summary) (sourceName directory : String) : String :=
  s!"Generated {u.total} requests into {u.headerName} and {sourceName} " ++ s!"in {directory}\n"

theorem Generation.doneLine_eq (g : Generation) (directory : String) :
    g.doneLine directory = g.summarized.doneLine g.source.fileName directory :=
  rfl

/-- **The ways in which a generation can end after its check**, with what is
    printed and the tree that is left. -/
inductive Summary.Foretells (u : Summary) (s : Settings) (g : Generation) (t : FileTree) :
    Outcome → FileTree → Prop
  /-- The files are in their directory. -/
  | published {directory t'} : s.Published g directory t t' →
      Foretells u s g t
        { exitCode := 0, output := u.doneLine g.source.fileName s.outputDir } t'
  /-- The directory is not created, or a file is not written. -/
  | refused {e t'} : g.Writes s.outputDir t (.error (.io e)) t' →
      Foretells u s g t
        { exitCode := 1, errors := (Failure.generation s.schemaPath (.io e)).report } t'

/-- A writing only fails because something is refused. -/
theorem Generation.Writes.exists_io {g : Generation} {directory : String} {t t' : FileTree}
    {fault : Fault} (h : g.Writes directory t (.error fault) t') : ∃ e, fault = .io e := by
  cases h with
  | directoryRefused => exact ⟨_, rfl⟩
  | headerRefused => exact ⟨_, rfl⟩
  | sourceRefused => exact ⟨_, rfl⟩

/-- A generation that comes in hand ends as its summary foretells. -/
theorem Settings.foretells_of_prepare {s : Settings} {g : Generation} {t : FileTree}
    (h : s.prepare (t.readText s.schemaPath) = .ok g) :
    g.summarized.Foretells s g t
      (.ofResult (s.generateResult ((s.generate FileTree.disk).run t).1.result))
      ((s.generate FileTree.disk).run t).2 := by
  have hwrites := writes_of_prepare h
  cases hresult : ((s.generate FileTree.disk).run t).1.result with
  | error fault =>
    rw [hresult] at hwrites
    obtain ⟨e, rfl⟩ := Generation.Writes.exists_io hwrites
    exact .refused hwrites
  | ok g' =>
    obtain rfl : g = g' := Except.ok.inj (h.symm.trans (run_generate_eq_ok_iff.1 hresult).1)
    obtain ⟨directory, hpublished⟩ := published_of_generate hresult
    simp only [generateResult, Generation.doneLine_eq]
    exact .published hpublished

namespace Command

variable {t : FileTree} {output : String}

/-- A check succeeds iff the settings are found and the generation comes in
    hand. -/
theorem run_check_eq_ok_iff : ((Command.run FileTree.disk .check values).run t).1 = .ok output ↔
    ∃ s g, values.resolve t = .ok s ∧ s.prepare (t.readText s.schemaPath) = .ok g ∧
      output = g.checkText := by
  simp only [run_check, bind_eq_ok_iff, Settings.checkIn_eq_ok_iff, exists_and_left]

/-- A command that generates and succeeds has had its generation in hand. -/
theorem exists_prepare_of_run_generate
    (h : ((Command.run FileTree.disk .generate values).run t).1 = .ok output) :
    ∃ s g, values.resolve t = .ok s ∧ s.prepare (t.readText s.schemaPath) = .ok g := by
  cases hresolve : values.resolve t with
  | error f =>
    rw [run_generate_error hresolve] at h
    cases h
  | ok s =>
    rw [run_generate_ok hresolve] at h
    cases hresult : ((s.generate FileTree.disk).run t).1.result with
    | error e =>
      rw [hresult] at h
      cases h
    | ok g => exact ⟨s, g, rfl, (Settings.run_generate_eq_ok_iff.1 hresult).1⟩

/-- The check succeeds when the generation does. -/
theorem exists_run_check_of_run_generate (hsame : values.SameInput values')
    (h : ((Command.run FileTree.disk .generate values').run t).1 = .ok output) :
    ∃ output', ((Command.run FileTree.disk .check values).run t).1 = .ok output' := by
  obtain ⟨directory, hresolve⟩ := hsame.resolve_eq_map t
  obtain ⟨s', g, hs', hg⟩ := exists_prepare_of_run_generate h
  obtain ⟨s, hs, rfl⟩ := map_eq_ok_iff.1 (hresolve.symm.trans hs')
  rw [s.prepare_withDirectory] at hg
  exact ⟨_, run_check_eq_ok_iff.2 ⟨s, g, hs, hg, rfl⟩⟩

/-- A check that succeeds prints a summary, and the generation ends as this
    summary foretells. -/
theorem foretells_of_run_check (hsame : values.SameInput values')
    (h : ((Command.run FileTree.disk .check values).run t).1 = .ok output) :
    ∃ (s : Settings) (d : Document) (g : Generation) (u : Summary),
      values'.resolve t = .ok s ∧ t.document s.schemaPath = .ok d ∧
      Generation.ofDocument d s = .ok g ∧ output = u.text ∧ u.Lists d s.frame g.header ∧
      u.Foretells s g t
        (.ofResult ((Command.run FileTree.disk .generate values').run t).1)
        ((Command.run FileTree.disk .generate values').run t).2 := by
  obtain ⟨directory, hresolve⟩ := hsame.resolve_eq_map t
  obtain ⟨s, g, hs, hg, houtput⟩ := run_check_eq_ok_iff.1 h
  have hs' : values'.resolve t = .ok (s.withDirectory directory) := by
    rw [hresolve, map_eq_ok_iff]
    exact ⟨s, hs, rfl⟩
  obtain ⟨d, hd, hofDocument⟩ := Settings.prepare_eq_ok_iff.1 hg
  obtain ⟨-, api, hapi, hofApi⟩ := Generation.ofDocument_eq_ok_iff.1 hofDocument
  refine ⟨s.withDirectory directory, d, g, g.summarized, hs', hd, hofDocument, ?_, ?_, ?_⟩
  · rw [houtput, g.checkText_eq_text]
  · rw [hofApi]
    exact hapi.lists s
  · rw [run_generate_ok hs']
    exact Settings.foretells_of_prepare ((s.prepare_withDirectory directory _).trans hg)

end Command

/-- **A check foretells the generation** with the same flags and any
    directory.  It leaves the tree as it is.  It succeeds when the generation
    does; and when it succeeds, it prints the summary of the document and of
    the header to come, and the generation can only fail when it writes. -/
theorem check_foretells_generate
    (hcheck : Invocation.ofArguments? arguments = some (.run .check values))
    (hgenerate : Invocation.ofArguments? arguments' = some (.run .generate values'))
    (hsame : values.SameInput values') (t : FileTree) :
    let check := (runArguments FileTree.disk arguments).run t
    let generate := (runArguments FileTree.disk arguments').run t
    check.2 = t ∧
      (generate.1.exitCode = 0 → check.1.exitCode = 0) ∧
      (check.1.exitCode = 0 →
        ∃ (s : Settings) (d : Document) (g : Generation) (u : Summary),
          values'.resolve t = .ok s ∧ t.document s.schemaPath = .ok d ∧
          Generation.ofDocument d s = .ok g ∧
          check.1.output = u.text ∧ u.Lists d s.frame g.header ∧
          u.Foretells s g t generate.1 generate.2) := by
  intro check generate
  have hnot : ∀ values, Invocation.ofArguments? arguments ≠ some (.run .generate values) := by
    intro values
    rw [hcheck]
    simp
  have hcheckRun : check = _ := run_runArguments hcheck t
  have hgenerateRun : generate = _ := run_runArguments hgenerate t
  refine ⟨runArguments_keeps_tree hnot t, ?_⟩
  rw [hcheckRun, hgenerateRun, Outcome.exitCode_ofResult_eq_zero_iff,
    Outcome.exitCode_ofResult_eq_zero_iff]
  constructor
  · rintro ⟨output, houtput⟩
    exact Command.exists_run_check_of_run_generate hsame houtput
  · rintro ⟨output, houtput⟩
    rw [houtput]
    exact Command.foretells_of_run_check hsame houtput

/-- A tree with the document of a service with one request. -/
def oneRequest : FileTree where
  entries := [(["api.xml"], .file ("<interfaces><interface name=\"UI\">" ++
    "<request name=\"Show\" provider=\"sdl\"/></interface></interfaces>").toUTF8)]

/-- The document in `oneRequest`. -/
def oneRequestDocument : Document where
  interfaces := [
    { name := some "UI", items := [.request { name := some "Show", provider := some "sdl" }] }]

theorem document_oneRequest : oneRequest.document "api.xml" = .ok oneRequestDocument := by
  have hread : oneRequest.readText "api.xml" = .ok _ :=
    FileTree.readText_eq_ok_iff.2 ⟨rfl, rfl, ["api.xml"], rfl, rfl⟩
  rw [FileTree.document, FileTree.loadText, hread]
  rfl

/-- A check, and a generation with the same flags in another form. -/
theorem oneRequest_foretold :
    ∃ check generate : Outcome × FileTree,
      (runArguments FileTree.disk ["check", "--infile", "api.xml"]).run oneRequest = check ∧
      (runArguments FileTree.disk ["generate", "--outdir=gen/out", "--infile=api.xml"]).run
        oneRequest = generate ∧
      check.2 = oneRequest ∧ check.1.exitCode = 0 ∧
      ∃ (s : Settings) (d : Document) (g : Generation) (u : Summary),
        check.1.output = u.text ∧ u.Lists d s.frame g.header ∧
        u.Foretells s g oneRequest generate.1 generate.2 := by
  have hcheck : Invocation.ofArguments? ["check", "--infile", "api.xml"] =
      some (.run .check [(.infile, "api.xml")]) := rfl
  have hgenerate : Invocation.ofArguments? ["generate", "--outdir=gen/out", "--infile=api.xml"] =
      some (.run .generate [(.outdir, "gen/out"), (.infile, "api.xml")]) := rfl
  have hsame : FlagValues.SameInput [(.infile, "api.xml")]
      [(.outdir, "gen/out"), (.infile, "api.xml")] := by
    intro flag hne
    rw [List.lookup_cons, beq_false_of_ne hne]
  have hforetold := check_foretells_generate hcheck hgenerate hsame oneRequest
  have hzero : ((runArguments FileTree.disk ["check", "--infile", "api.xml"]).run
      oneRequest).1.exitCode = 0 := by
    rw [run_runArguments hcheck, Outcome.exitCode_ofResult_eq_zero_iff]
    exact ⟨_, Command.run_check_eq_ok_iff.2
      ⟨_, _, rfl, Settings.prepare_eq_ok_iff.2 ⟨_, document_oneRequest, rfl⟩, rfl⟩⟩
  -- the runs are known by what has been said of them, and need not be computed
  generalize (runArguments FileTree.disk ["check", "--infile", "api.xml"]).run oneRequest = check,
    (runArguments FileTree.disk ["generate", "--outdir=gen/out", "--infile=api.xml"]).run
      oneRequest = generate at hforetold hzero ⊢
  obtain ⟨htree, -, hends⟩ := hforetold
  obtain ⟨s, d, g, u, -, -, -, hrest⟩ := hends hzero
  exact ⟨check, generate, rfl, rfl, htree, hzero, s, d, g, u, hrest⟩

end CallerStubs
