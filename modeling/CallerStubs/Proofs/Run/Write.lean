/-
  Caller stubs — what writing a generation does to a tree.

  The directory is created, then the header is put into it, then the source
  file.  The first refusal ends the writing, and what was done before it stays
  done: when only the source file is refused, the new header is left without
  it.

  * `Generation.Writes`, `Generation.write_writes`: the ways in which the
    writing can go;
  * `Generation.Writes.puts`: a writing that is not refused puts two files into
    one directory;
  * `Generation.Spares`: the writing stops before the header, or the header
    is there already;
  * `refused_write_sameFiles_iff`: when a refusal leaves all files as they
    were, and what it leaves when it does not.
-/
import CallerStubs.Proofs.FileTree.Operations
import CallerStubs.Run

namespace CallerStubs

variable {t t' t'' : FileTree} {directory path contents : String} {a : Artifact}
  {rest : List Artifact} {e : IoFault}

/-! ## Steps -/

theorem run_writeText_error (h : t.writeText path contents = .error e) :
    (FileTree.disk.writeText path contents).run t = (.error e, t) := by
  simp only [FileTree.disk, StateT.run, h]

theorem run_writeText_ok (h : t.writeText path contents = .ok t') :
    (FileTree.disk.writeText path contents).run t = (.ok (), t') := by
  simp only [FileTree.disk, StateT.run, h]

theorem run_writeArtifacts_error
    (h : t.writeText (joinPath directory a.fileName) a.contents = .error e) :
    (writeArtifacts FileTree.disk directory (a :: rest)).run t = (⟨[], .error (.io e)⟩, t) := by
  rw [writeArtifacts, StateT.run_bind, run_writeText_error h]
  rfl

theorem run_writeArtifacts_ok {more : Logged (Except Fault Unit)}
    (h : t.writeText (joinPath directory a.fileName) a.contents = .ok t')
    (hrest : (writeArtifacts FileTree.disk directory rest).run t' = (more, t'')) :
    (writeArtifacts FileTree.disk directory (a :: rest)).run t =
      (⟨wroteNotice (joinPath directory a.fileName) :: more.notices, more.result⟩, t'') := by
  rw [writeArtifacts, StateT.run_bind, run_writeText_ok h]
  change ((writeArtifacts FileTree.disk directory rest) >>= _).run t' = _
  rw [StateT.run_bind, hrest]
  rfl

namespace Generation

variable {g : Generation} {r : Except Fault Unit} {fault : Fault}

theorem run_write_error (h : t.createDirectories directory = (t', .error e)) :
    (g.write FileTree.disk directory).run t = (⟨[], .error (.io e)⟩, t') := by
  rw [Generation.write, StateT.run_bind]
  simp only [FileTree.disk, StateT.run, h]
  rfl

theorem run_write_ok (h : t.createDirectories directory = (t', .ok ())) :
    (g.write FileTree.disk directory).run t =
      (writeArtifacts FileTree.disk directory [g.header, g.source]).run t' := by
  rw [Generation.write, StateT.run_bind]
  simp only [FileTree.disk, StateT.run, h]
  rfl

/-! ## The whole writing -/

/-- **The ways in which the writing can go**, with the result and the tree that
    is left. -/
inductive Writes (g : Generation) (directory : String) (t : FileTree) :
    Except Fault Unit → FileTree → Prop
  | directoryRefused {t₁ e} : t.createDirectories directory = (t₁, .error e) →
      Writes g directory t (.error (.io e)) t₁
  | headerRefused {t₁ e} : t.createDirectories directory = (t₁, .ok ()) →
      t₁.writeText (joinPath directory g.header.fileName) g.header.contents = .error e →
      Writes g directory t (.error (.io e)) t₁
  | sourceRefused {t₁ t₂ e} : t.createDirectories directory = (t₁, .ok ()) →
      t₁.writeText (joinPath directory g.header.fileName) g.header.contents = .ok t₂ →
      t₂.writeText (joinPath directory g.source.fileName) g.source.contents = .error e →
      Writes g directory t (.error (.io e)) t₂
  | done {t₁ t₂ t₃} : t.createDirectories directory = (t₁, .ok ()) →
      t₁.writeText (joinPath directory g.header.fileName) g.header.contents = .ok t₂ →
      t₂.writeText (joinPath directory g.source.fileName) g.source.contents = .ok t₃ →
      Writes g directory t (.ok ()) t₃

theorem write_writes (g : Generation) (directory : String) (t : FileTree) :
    g.Writes directory t ((g.write FileTree.disk directory).run t).1.result
      ((g.write FileTree.disk directory).run t).2 := by
  obtain ⟨t₁, created, hcreate⟩ : ∃ t₁ created, t.createDirectories directory = (t₁, created) :=
    ⟨_, _, rfl⟩
  cases created with
  | error e =>
    rw [run_write_error hcreate]
    exact .directoryRefused hcreate
  | ok =>
    rw [run_write_ok hcreate]
    cases hheader : t₁.writeText (joinPath directory g.header.fileName) g.header.contents with
    | error e =>
      rw [run_writeArtifacts_error hheader]
      exact .headerRefused hcreate hheader
    | ok t₂ =>
      cases hsource : t₂.writeText (joinPath directory g.source.fileName) g.source.contents with
      | error e =>
        rw [run_writeArtifacts_ok hheader (run_writeArtifacts_error hsource)]
        exact .sourceRefused hcreate hheader hsource
      | ok t₃ =>
        rw [run_writeArtifacts_ok hheader (run_writeArtifacts_ok hsource rfl)]
        exact .done hcreate hheader hsource

/-- A writing that is not refused puts the header and then the source file into
    the directory, which the header leaves where it is. -/
theorem Writes.puts (hheaderName : FilePath.IsName g.header.fileName)
    (hsourceName : FilePath.IsName g.source.fileName) (h : g.Writes directory t (.ok ()) t') :
    ∃ t₁ t₂ dir, t.createDirectories directory = (t₁, .ok ()) ∧
      t₁.resolve (.ofText directory) = .ok dir ∧
      t₁.Puts (joinPath directory g.header.fileName) g.header.contents dir g.header.fileName t₂ ∧
      t₂.Puts (joinPath directory g.source.fileName) g.source.contents dir g.source.fileName
        t' := by
  cases h with
  | @done t₁ t₂ _ hcreate hheader hsource =>
    obtain ⟨dir, _, hputs₁⟩ := FileTree.writeText_eq_ok_iff.1 hheader
    obtain ⟨rfl, hdir⟩ := hputs₁.of_joinPath hheaderName
    obtain ⟨dir', _, hputs₂⟩ := FileTree.writeText_eq_ok_iff.1 hsource
    obtain ⟨rfl, hdir'⟩ := hputs₂.of_joinPath hsourceName
    obtain rfl : dir = dir' := Except.ok.inj ((hputs₁.keeps.resolve hdir).symm.trans hdir')
    exact ⟨t₁, t₂, dir, hcreate, hdir, hputs₁, hputs₂⟩

/-! ## Refusals -/

/-- The writing of a generation stops before the header is changed, or the
    header is there already. -/
def Spares (g : Generation) (directory : String) (t : FileTree) : Prop :=
  (∃ e, (t.createDirectories directory).2 = .error e) ∨
  (∃ e, (t.createDirectories directory).1.writeText (joinPath directory g.header.fileName)
    g.header.contents = .error e) ∨
  (t.createDirectories directory).1.readText (joinPath directory g.header.fileName) =
    .ok g.header.contents

/-- **A refused writing leaves all files as they were only if it spares the
    header.**  Otherwise the new header stays, although the source file is
    refused. -/
theorem refused_write_sameFiles_iff
    (h : ((g.write FileTree.disk directory).run t).1.result = .error fault) :
    let t' := ((g.write FileTree.disk directory).run t).2
    (t.SameFiles t' ↔ g.Spares directory t) ∧
      (¬ g.Spares directory t →
        t'.readText (joinPath directory g.header.fileName) = .ok g.header.contents ∧
        ∃ e, t'.writeText (joinPath directory g.source.fileName) g.source.contents =
          .error e) := by
  intro t'
  have hwrites : g.Writes directory t (.error fault) t' := h ▸ g.write_writes directory t
  have hcreated : t.SameFiles (t.createDirectories directory).1 :=
    (t.createDirectories_grows directory).sameFiles
  generalize t' = t' at hwrites
  cases hwrites with
  | directoryRefused hcreate =>
    have hspares : g.Spares directory t := .inl ⟨_, by rw [hcreate]⟩
    rw [hcreate] at hcreated
    exact ⟨iff_of_true hcreated hspares, fun hnot => absurd hspares hnot⟩
  | headerRefused hcreate hheader =>
    have hspares : g.Spares directory t := .inr (.inl ⟨_, by rw [hcreate]; exact hheader⟩)
    rw [hcreate] at hcreated
    exact ⟨iff_of_true hcreated hspares, fun hnot => absurd hspares hnot⟩
  | @sourceRefused t₁ _ _ hcreate hheader hsource =>
    obtain ⟨l, s, hputs⟩ := FileTree.writeText_eq_ok_iff.1 hheader
    rw [hcreate] at hcreated
    refine ⟨?_, fun _ => ⟨?_, _, hsource⟩⟩
    · -- the directory and the header were not refused
      have hspares : g.Spares directory t ↔
          t₁.readText (joinPath directory g.header.fileName) = .ok g.header.contents := by
        simp [Spares, hcreate, hheader]
      rw [hspares, hcreated.trans_iff, hputs.sameFiles_iff, hputs.readText_eq_ok_iff (.refl t₁)]
    · exact (hputs.readText_eq_ok_iff hputs.keeps).2 hputs.lookup_self

/-- A tree in which the source file of the default class has no place, because
    there is a directory of its name. -/
def blockedSource : FileTree where
  entries := [(["out"], .directory), (["out", "request_to_sdl.cc"], .directory)]

/-- The generation of a service without interfaces. -/
def ofEmptyApi : Generation :=
  .ofApi (.initial "api.xml" "out") {}

/-- The tree after the header has been written. -/
def besideBlockedSource (header : String) : FileTree :=
  blockedSource.insert ["out", "request_to_sdl.h"] (.file header.toUTF8)

theorem createDirectories_blockedSource :
    blockedSource.createDirectories "out" = (blockedSource, .ok ()) := rfl

theorem writeHeader_blockedSource (contents : String) :
    blockedSource.writeText "out/request_to_sdl.h" contents =
      .ok (besideBlockedSource contents) := rfl

theorem writeSource_besideBlockedSource (header contents : String) :
    (besideBlockedSource header).writeText "out/request_to_sdl.cc" contents =
      .error .isDirectory := rfl

theorem run_write_blockedSource
    (hheader : joinPath "out" g.header.fileName = "out/request_to_sdl.h")
    (hsource : joinPath "out" g.source.fileName = "out/request_to_sdl.cc") :
    (g.write FileTree.disk "out").run blockedSource =
      (⟨[wroteNotice "out/request_to_sdl.h"], .error (.io .isDirectory)⟩,
        besideBlockedSource g.header.contents) := by
  have hwritten := writeHeader_blockedSource g.header.contents
  have hrefused := writeSource_besideBlockedSource g.header.contents g.source.contents
  rw [← hheader] at hwritten
  rw [← hsource] at hrefused
  rw [run_write_ok createDirectories_blockedSource,
    run_writeArtifacts_ok hwritten (run_writeArtifacts_error hrefused), hheader]

/-- A refusal that does not spare the header. -/
theorem ofEmptyApi_refused_write :
    let t' := ((ofEmptyApi.write FileTree.disk "out").run blockedSource).2
    ¬ blockedSource.SameFiles t' ∧
      t'.readText (joinPath "out" ofEmptyApi.header.fileName) = .ok ofEmptyApi.header.contents := by
  have hheader : joinPath "out" ofEmptyApi.header.fileName = "out/request_to_sdl.h" := rfl
  have hresult : ((ofEmptyApi.write FileTree.disk "out").run blockedSource).1.result =
      .error (.io .isDirectory) := by rw [run_write_blockedSource hheader rfl]
  obtain ⟨hiff, hleft⟩ := refused_write_sameFiles_iff hresult
  have hread : blockedSource.readText "out/request_to_sdl.h" = .error .notFound := rfl
  have hnot : ¬ ofEmptyApi.Spares "out" blockedSource := by
    simp [Spares, createDirectories_blockedSource, hheader, writeHeader_blockedSource, hread]
  exact ⟨fun hsame => hnot (hiff.1 hsame), (hleft hnot).1⟩

/-- A refused writing can leave a new header without a source file. -/
theorem exists_refused_write_with_header :
    ∃ t', (ofEmptyApi.write FileTree.disk "out").run blockedSource =
        (⟨[wroteNotice "out/request_to_sdl.h"], .error (.io .isDirectory)⟩, t') ∧
      blockedSource.lookup ["out", "request_to_sdl.h"] = none ∧
      t'.lookup ["out", "request_to_sdl.h"] =
        some (.file ofEmptyApi.header.contents.toUTF8) ∧
      t'.lookup ["out", "request_to_sdl.cc"] = some .directory := by
  have hbeside (header : String) :
      (besideBlockedSource header).lookup ["out", "request_to_sdl.h"] =
          some (.file header.toUTF8) ∧
        (besideBlockedSource header).lookup ["out", "request_to_sdl.cc"] = some .directory :=
    ⟨rfl, rfl⟩
  exact ⟨_, run_write_blockedSource rfl rfl, rfl, hbeside _⟩

end Generation

end CallerStubs
