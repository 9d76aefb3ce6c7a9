/-
  Caller stubs — what a run does to a tree.

  A run has its generation in hand before it writes anything.  When there is
  none, the tree is as it was.  When the run succeeds, the two files are where
  the settings ask for them, and nothing else was changed, besides directories
  on the way to them.

  * `Settings.prepare`: the part of a run that happens in memory;
  * `Settings.generate_eq`: on any disk, a run only reads before this part has
    succeeded;
  * `Settings.Published`, `Settings.published_of_generate`: the tree that a run
    leaves when it succeeds;
  * `generate_touches_only`: the two cases of a run on a tree.
-/
import CallerStubs.Proofs.Generation.Methods
import CallerStubs.Proofs.Run.Write
import CallerStubs.Proofs.Text.SnakeCase

namespace CallerStubs

namespace Settings

/-! ## The part in memory -/

/-- The generation that the settings ask for, when the reading of the document
    had this result. -/
def prepare (s : Settings) (read : Except IoFault String) : Except Fault Generation := do
  let text ← read.mapError Fault.io
  let d ← Document.parse text
  Generation.ofDocument d s

/-- The log of a run up to the writing. -/
def prepareNotices (s : Settings) (read : Except IoFault String) : List Notice :=
  s.startNotices ++
    match read.mapError Fault.io >>= Document.parse with
    | .error _ => []
    | .ok d => Generation.notices d s

/-- **A run only reads before its generation is in hand**, whatever the disk
    is. -/
theorem generate_eq {m : Type → Type} [Monad m] [LawfulMonad m] (disk : Disk m) (s : Settings) :
    s.generate disk = disk.readText s.schemaPath >>= fun read =>
      match s.prepare read with
      | .error e => pure ⟨s.prepareNotices read, .error e⟩
      | .ok g => g.write disk s.outputDir >>= fun written =>
          pure ⟨s.prepareNotices read ++ written.notices, written.result.map fun () => g⟩ := by
  rw [generate, Document.load, bind_assoc]
  congr 1
  funext read
  unfold prepare prepareNotices
  cases read with
  | error e => simp [bind, Except.bind, Except.mapError]
  | ok text =>
    rw [pure_bind]
    simp only [Except.mapError, bind, Except.bind]
    cases Document.parse text with
    | error e => simp
    | ok d =>
      cases Generation.ofDocument d s with
      | error e => rfl
      | ok g => rfl

variable {s : Settings} {g : Generation} {t t' : FileTree} {fault : Fault}

theorem run_generate_error (h : s.prepare (t.readText s.schemaPath) = .error fault) :
    (s.generate FileTree.disk).run t =
      (⟨s.prepareNotices (t.readText s.schemaPath), .error fault⟩, t) := by
  rw [generate_eq, StateT.run_bind]
  simp only [FileTree.disk, StateT.run, bind, h]
  rfl

theorem run_generate_ok (h : s.prepare (t.readText s.schemaPath) = .ok g) :
    (s.generate FileTree.disk).run t =
      (⟨s.prepareNotices (t.readText s.schemaPath) ++
          ((g.write FileTree.disk s.outputDir).run t).1.notices,
        ((g.write FileTree.disk s.outputDir).run t).1.result.map fun () => g⟩,
        ((g.write FileTree.disk s.outputDir).run t).2) := by
  rw [generate_eq, StateT.run_bind]
  simp only [FileTree.disk, StateT.run, bind, h]
  rfl

/-- A run succeeds iff its generation comes in hand and is written. -/
theorem run_generate_eq_ok_iff : ((s.generate FileTree.disk).run t).1.result = .ok g ↔
    s.prepare (t.readText s.schemaPath) = .ok g ∧
      ((g.write FileTree.disk s.outputDir).run t).1.result = .ok () := by
  cases hprepared : s.prepare (t.readText s.schemaPath) with
  | error fault =>
    rw [run_generate_error hprepared]
    simp only [reduceCtorEq, false_and]
  | ok g' =>
    rw [run_generate_ok hprepared, Except.ok.injEq]
    constructor
    · intro hresult
      cases hwrite : ((g'.write FileTree.disk s.outputDir).run t).1.result with
      | error fault =>
        rw [hwrite] at hresult
        cases hresult
      | ok =>
        rw [hwrite] at hresult
        obtain rfl : g' = g := Except.ok.inj hresult
        exact ⟨rfl, hwrite⟩
    · rintro ⟨rfl, hwrite⟩
      rw [hwrite]
      rfl

/-! ## The names of the files -/

theorem fileNames_of_prepare {read : Except IoFault String} (h : s.prepare read = .ok g) :
    g.header.fileName = s.headerName ∧ g.source.fileName = s.sourceName := by
  simp only [prepare, bind_eq_ok_iff] at h
  obtain ⟨text, -, d, -, hg⟩ := h
  obtain ⟨-, api, -, rfl⟩ := Generation.ofDocument_eq_ok_iff.1 hg
  exact ⟨rfl, rfl⟩

theorem isName_stem_append {suffix : String} (hne : suffix ≠ "")
    (hslash : '/' ∉ suffix.toList) : FilePath.IsName (s.stem ++ suffix) where
  nonempty := by simp [hne]
  no_slash := by
    have hstem : '/' ∉ s.stem.toList :=
      Text.notMem_snakeCase (by decide) (by decide) (by decide) s.className
    simp [hstem, hslash]

theorem isName_headerName (s : Settings) : FilePath.IsName s.headerName :=
  isName_stem_append (by decide) (by decide)

theorem isName_sourceName (s : Settings) : FilePath.IsName s.sourceName :=
  isName_stem_append (by decide) (by decide)

theorem headerName_ne_sourceName (s : Settings) : s.headerName ≠ s.sourceName := by
  intro h
  rw [headerName, sourceName, ← String.toList_inj, String.toList_append, String.toList_append,
    List.append_cancel_left_eq] at h
  exact absurd h (by decide)

/-! ## Trees after a run -/

/-- **The tree that a run leaves when it succeeds.**  The two files of the
    generation are in the directory of the settings, and are read back from
    there.  Everything else is as it was, besides directories that were
    missing on the way to them. -/
structure Published (s : Settings) (g : Generation) (dir : Location) (t t' : FileTree) : Prop where
  directory : t'.resolve (.ofText s.outputDir) = .ok dir
  headerEntry : t'.lookup (dir ++ [s.headerName]) = some (.file g.header.contents.toUTF8)
  sourceEntry : t'.lookup (dir ++ [s.sourceName]) = some (.file g.source.contents.toUTF8)
  header : t'.readText (joinPath s.outputDir s.headerName) = .ok g.header.contents
  source : t'.readText (joinPath s.outputDir s.sourceName) = .ok g.source.contents
  /-- No directory gave way to a file. -/
  noDirectory : t.lookup (dir ++ [s.headerName]) ≠ some .directory ∧
    t.lookup (dir ++ [s.sourceName]) ≠ some .directory
  elsewhere : ∀ l, l ≠ dir ++ [s.headerName] → l ≠ dir ++ [s.sourceName] →
    t'.lookup l = t.lookup l ∨
      t.lookup l = none ∧ t'.lookup l = some .directory ∧ t'.OnTheWay s.outputDir l
  workingDirectory : t'.workingDirectory = t.workingDirectory

theorem published_of_writes (hheader : g.header.fileName = s.headerName)
    (hsource : g.source.fileName = s.sourceName)
    (h : g.Writes s.outputDir t (.ok ()) t') : ∃ dir, s.Published g dir t t' := by
  obtain ⟨t₁, t₂, dir, hcreate, hdir, hputs₁, hputs₂⟩ :=
    h.puts (hheader ▸ s.isName_headerName) (hsource ▸ s.isName_sourceName)
  rw [hheader] at hputs₁
  rw [hsource] at hputs₂
  have hgrows := t.createDirectories_grows s.outputDir
  rw [hcreate] at hgrows
  have hkeeps : t₁.Keeps t' := hputs₁.keeps.trans hputs₂.keeps
  have hne : dir ++ [s.headerName] ≠ dir ++ [s.sourceName] := by
    simpa using s.headerName_ne_sourceName
  have hentry : t'.lookup (dir ++ [s.headerName]) = some (.file g.header.contents.toUTF8) :=
    (hputs₂.lookup_of_ne hne).trans hputs₁.lookup_self
  refine ⟨dir, ?_⟩
  exact {
    directory := hkeeps.resolve hdir
    headerEntry := hentry
    sourceEntry := hputs₂.lookup_self
    header := (hputs₁.readText_eq_ok_iff hkeeps).2 hentry
    source := (hputs₂.readText_eq_ok_iff hputs₂.keeps).2 hputs₂.lookup_self
    noDirectory :=
      ⟨fun hl => hputs₁.free (hgrows.keeps.directory _ hl),
        fun hl => hputs₂.free (hputs₁.keeps.directory _ (hgrows.keeps.directory _ hl))⟩
    elsewhere := fun l hl hl' => by
      rw [hputs₂.lookup_of_ne hl', hputs₁.lookup_of_ne hl]
      exact (hgrows.mono fun _ hway => hway.of_keeps hkeeps).lookup l
    workingDirectory := hkeeps.workingDirectory.trans hgrows.workingDirectory }

/-- A run that comes to its writing ends as the writing does. -/
theorem writes_of_prepare (h : s.prepare (t.readText s.schemaPath) = .ok g) :
    g.Writes s.outputDir t (((s.generate FileTree.disk).run t).1.result.map fun _ => ())
      ((s.generate FileTree.disk).run t).2 := by
  have hwrites := g.write_writes s.outputDir t
  rw [run_generate_ok h]
  generalize (g.write FileTree.disk s.outputDir).run t = written at hwrites ⊢
  obtain ⟨⟨notices, result⟩, t'⟩ := written
  cases result with
  | error fault => exact hwrites
  | ok => exact hwrites

/-- A run that succeeds has published its generation. -/
theorem published_of_generate (h : ((s.generate FileTree.disk).run t).1.result = .ok g) :
    ∃ dir, s.Published g dir t ((s.generate FileTree.disk).run t).2 := by
  obtain ⟨hprepared, -⟩ := run_generate_eq_ok_iff.1 h
  obtain ⟨hheader, hsource⟩ := fileNames_of_prepare hprepared
  have hwrites := writes_of_prepare hprepared
  rw [h] at hwrites
  exact published_of_writes hheader hsource hwrites

end Settings

/-- **A run touches a tree only when its generation is in hand.**  Otherwise
    the run fails with the fault that was met, and the tree is as it was.  A
    run that succeeds publishes its generation, and does nothing else. -/
theorem generate_touches_only (s : Settings) (t : FileTree) :
    let run := (s.generate FileTree.disk).run t
    let prepared := s.prepare (t.readText s.schemaPath)
    (∀ fault, prepared = .error fault → run.1.result = .error fault ∧ run.2 = t) ∧
      ∀ g, run.1.result = .ok g → prepared = .ok g ∧ ∃ dir, s.Published g dir t run.2 := by
  intro run prepared
  constructor
  · intro fault hfault
    have hrun : run = _ := Settings.run_generate_error hfault
    rw [hrun]
    exact ⟨rfl, rfl⟩
  · intro g hg
    obtain ⟨hprepared, -⟩ := Settings.run_generate_eq_ok_iff.1 hg
    exact ⟨hprepared, Settings.published_of_generate hg⟩

/-- A tree with a document of a service without interfaces. -/
def documentOnly : FileTree where
  entries := [(["api.xml"], .file "<interfaces/>".toUTF8)]

/-- The tree with the directories for the generated files. -/
def documentAndDirectories : FileTree :=
  (documentOnly.insert ["gen"] .directory).insert ["gen", "out"] .directory

/-- Settings for which there is a document in the tree, but no directory. -/
def nestedSettings : Settings := .initial "api.xml" "gen/out"

theorem readText_documentOnly : documentOnly.readText "api.xml" = .ok "<interfaces/>" :=
  FileTree.readText_eq_ok_iff.2 ⟨rfl, rfl, ["api.xml"], rfl, rfl⟩

theorem prepare_documentOnly :
    nestedSettings.prepare (documentOnly.readText "api.xml") = .ok (.ofApi nestedSettings {}) := by
  rw [readText_documentOnly]
  rfl

theorem createDirectories_documentOnly :
    documentOnly.createDirectories nestedSettings.outputDir = (documentAndDirectories, .ok ()) :=
  rfl

theorem write_documentAndDirectories (header source : String) :
    ∃ t₂ t₃, documentAndDirectories.writeText "gen/out/request_to_sdl.h" header = .ok t₂ ∧
      t₂.writeText "gen/out/request_to_sdl.cc" source = .ok t₃ :=
  ⟨_, _, rfl, rfl⟩

theorem run_write_documentOnly {g : Generation}
    (hheader : joinPath nestedSettings.outputDir g.header.fileName = "gen/out/request_to_sdl.h")
    (hsource : joinPath nestedSettings.outputDir g.source.fileName =
      "gen/out/request_to_sdl.cc") :
    ((g.write FileTree.disk nestedSettings.outputDir).run documentOnly).1.result = .ok () := by
  obtain ⟨t₂, t₃, hwriteHeader, hwriteSource⟩ :=
    write_documentAndDirectories g.header.contents g.source.contents
  rw [← hheader] at hwriteHeader
  rw [← hsource] at hwriteSource
  rw [Generation.run_write_ok createDirectories_documentOnly,
    run_writeArtifacts_ok hwriteHeader (run_writeArtifacts_ok hwriteSource rfl)]
  rfl

theorem run_generate_documentOnly :
    ((nestedSettings.generate FileTree.disk).run documentOnly).1.result =
      .ok (.ofApi nestedSettings {}) :=
  Settings.run_generate_eq_ok_iff.2 ⟨prepare_documentOnly, run_write_documentOnly rfl rfl⟩

/-- A run that publishes its files in directories that were missing, and one
    that does not find its document. -/
theorem documentOnly_generate_touches_only :
    (∃ g dir, nestedSettings.Published g dir documentOnly
      ((nestedSettings.generate FileTree.disk).run documentOnly).2) ∧
    (((Settings.initial "hmi.xml" "out").generate FileTree.disk).run documentOnly).2 =
      documentOnly := by
  constructor
  · obtain ⟨-, hpublished⟩ := generate_touches_only nestedSettings documentOnly
    exact ⟨_, (hpublished _ run_generate_documentOnly).2⟩
  · obtain ⟨hfault, -⟩ := generate_touches_only (.initial "hmi.xml" "out") documentOnly
    exact (hfault (.io .notFound) rfl).2

end CallerStubs
