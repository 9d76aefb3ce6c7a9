/-
  Caller stubs — a run that is done again.

  What a run reads is its document.  As long as the run leaves the document as
  it was, a second run has the same generation in hand, finds the directory in
  place, and puts the two files where they are already.

  * `Generation.run_write_done`: a writing that is not refused, with its log;
  * `Generation.run_write_again`: a generation that has been written is written
    again, which leaves the tree as it was;
  * `Settings.Published.readText`: a run leaves every file but its own as it
    was;
  * `generate_again`: a second run repeats the first.
-/
import CallerStubs.Proofs.Run.Generate

namespace CallerStubs

variable {s : Settings} {g : Generation} {t t₁ t₂ t₃ t' : FileTree}
  {directory path contents : String} {dir l : Location}

/-! ## Writing again -/

namespace Generation

theorem run_write_done (hcreate : t.createDirectories directory = (t₁, .ok ()))
    (hheader : t₁.writeText (joinPath directory g.header.fileName) g.header.contents = .ok t₂)
    (hsource : t₂.writeText (joinPath directory g.source.fileName) g.source.contents = .ok t₃) :
    (g.write FileTree.disk directory).run t =
      (⟨[wroteNotice (joinPath directory g.header.fileName),
        wroteNotice (joinPath directory g.source.fileName)], .ok ()⟩, t₃) := by
  rw [run_write_ok hcreate, run_writeArtifacts_ok hheader (run_writeArtifacts_ok hsource rfl)]
  rfl

/-- **A generation that has been written is written again without a change.** -/
theorem run_write_again (hheaderName : FilePath.IsName g.header.fileName)
    (hsourceName : FilePath.IsName g.source.fileName)
    (hne : g.header.fileName ≠ g.source.fileName)
    (h : ((g.write FileTree.disk directory).run t).1.result = .ok ()) :
    (g.write FileTree.disk directory).run ((g.write FileTree.disk directory).run t).2 =
      (g.write FileTree.disk directory).run t := by
  have hwrites := g.write_writes directory t
  rw [h] at hwrites
  generalize ((g.write FileTree.disk directory).run t).2 = t' at hwrites ⊢
  obtain ⟨t₁, t₂, dir, hcreate, hdir, hputs₁, hputs₂⟩ := hwrites.puts hheaderName hsourceName
  have hkeeps : t₁.Keeps t' := hputs₁.keeps.trans hputs₂.keeps
  have hlocations : dir ++ [g.header.fileName] ≠ dir ++ [g.source.fileName] := by simpa using hne
  have hcreate' : t'.createDirectories directory = (t', .ok ()) :=
    FileTree.createDirectories_again hcreate <| FileTree.isDirectory_eq_true_iff.2
      ⟨dir, hkeeps.resolve hdir, hkeeps.directory dir hputs₁.names.directory⟩
  -- the header takes the place of itself, then the source file does
  have hputs₁' := hputs₁.of_keeps hkeeps (by
    rw [hputs₂.lookup_of_ne hlocations, hputs₁.lookup_self]
    simp)
  have hputs₂' := hputs₂.of_keeps (hputs₂.keeps.trans hputs₁'.keeps) (by
    rw [hputs₁'.lookup_of_ne hlocations.symm, hputs₂.lookup_self]
    simp)
  have hsame : (t'.insert (dir ++ [g.header.fileName]) (.file g.header.contents.toUTF8)).insert
      (dir ++ [g.source.fileName]) (.file g.source.contents.toUTF8) = t' := by
    rw [hputs₂.eq_insert, hputs₁.eq_insert]
    exact t₁.insert_insert_again _ _ hlocations
  rw [hsame] at hputs₂'
  rw [run_write_done hcreate hputs₁.writeText_eq hputs₂.writeText_eq,
    run_write_done hcreate' hputs₁'.writeText_eq hputs₂'.writeText_eq]

end Generation

/-! ## Files that a run leaves as they were -/

namespace Settings.Published

theorem keeps (h : s.Published g dir t t') : t.Keeps t' where
  workingDirectory := h.workingDirectory
  directory l hl := by
    have hheader : l ≠ dir ++ [s.headerName] := fun heq => h.noDirectory.1 (heq ▸ hl)
    have hsource : l ≠ dir ++ [s.sourceName] := fun heq => h.noDirectory.2 (heq ▸ hl)
    rcases h.elsewhere l hheader hsource with hsame | ⟨-, hnew, -⟩
    · exact hsame.trans hl
    · exact hnew
  isSome l hl := by
    by_cases hheader : l = dir ++ [s.headerName]
    · rw [hheader, h.headerEntry]; rfl
    by_cases hsource : l = dir ++ [s.sourceName]
    · rw [hsource, h.sourceEntry]; rfl
    rcases h.elsewhere l hheader hsource with hsame | ⟨-, hnew, -⟩
    · rwa [hsame]
    · rw [hnew]; rfl

/-- **A run leaves every file but its own as it was.** -/
theorem readText (h : s.Published g dir t t') (hread : t.readText path = .ok contents)
    (hresolve : t.resolve (.ofText path) = .ok l) (hheader : l ≠ dir ++ [s.headerName])
    (hsource : l ≠ dir ++ [s.sourceName]) : t'.readText path = .ok contents := by
  obtain ⟨hcheck, hslash, l', hresolve', hfile⟩ := FileTree.readText_eq_ok_iff.1 hread
  obtain rfl : l = l' := Except.ok.inj (hresolve.symm.trans hresolve')
  refine FileTree.readText_eq_ok_iff.2 ⟨hcheck, hslash, l, h.keeps.resolve hresolve, ?_⟩
  rcases h.elsewhere l hheader hsource with hsame | ⟨hnone, -⟩
  · exact hsame.trans hfile
  · rw [hfile] at hnone
    cases hnone

end Settings.Published

/-! ## Running again -/

/-- A run repeats itself on the tree that it leaves, if it reads the same
    there. -/
theorem Settings.run_generate_again
    (hresult : ((s.generate FileTree.disk).run t).1.result = .ok g)
    (hdocument : ((s.generate FileTree.disk).run t).2.readText s.schemaPath =
      t.readText s.schemaPath) :
    (s.generate FileTree.disk).run ((s.generate FileTree.disk).run t).2 =
      (s.generate FileTree.disk).run t := by
  obtain ⟨hprepared, hwritten⟩ := run_generate_eq_ok_iff.1 hresult
  obtain ⟨hheader, hsource⟩ := fileNames_of_prepare hprepared
  have hfirst := run_generate_ok hprepared
  have hleft : ((s.generate FileTree.disk).run t).2 =
      ((g.write FileTree.disk s.outputDir).run t).2 := congrArg Prod.snd hfirst
  have hwrittenAgain := Generation.run_write_again (hheader ▸ s.isName_headerName)
    (hsource ▸ s.isName_sourceName) (by
      rw [hheader, hsource]
      exact s.headerName_ne_sourceName) hwritten
  rw [hleft] at hdocument ⊢
  rw [run_generate_ok (hdocument.symm ▸ hprepared), hdocument, hwrittenAgain, hfirst]

/-- **A second run repeats the first**: if a run succeeds and does not change
    what is in the file of its document, then the same run succeeds on the tree
    that it leaves, with the same generation and the same log, and leaves every
    file and directory as they are. -/
theorem generate_again
    (hresult : ((s.generate FileTree.disk).run t).1.result = .ok g)
    (hdocument : ((s.generate FileTree.disk).run t).2.readText s.schemaPath =
      t.readText s.schemaPath) :
    let first := (s.generate FileTree.disk).run t
    let again := (s.generate FileTree.disk).run first.2
    again.1.result = .ok g ∧ again.1.notices = first.1.notices ∧ again.2 = first.2 := by
  intro first again
  have hsame : again = first := Settings.run_generate_again hresult hdocument
  rw [hsame]
  exact ⟨hresult, rfl, rfl⟩

theorem fileNames_nestedSettings : nestedSettings.headerName = "request_to_sdl.h" ∧
    nestedSettings.sourceName = "request_to_sdl.cc" :=
  ⟨rfl, rfl⟩

/-- The run that publishes its files beside a document leaves the document as
    it was. -/
theorem readText_generate_documentOnly :
    ((nestedSettings.generate FileTree.disk).run documentOnly).2.readText "api.xml" =
      .ok "<interfaces/>" := by
  obtain ⟨dir, hpublished⟩ := Settings.published_of_generate run_generate_documentOnly
  have hne (name : String) (hname : name ≠ "api.xml") : ["api.xml"] ≠ dir ++ [name] := by
    intro h
    obtain ⟨-, hlast⟩ := List.append_inj' (show [] ++ ["api.xml"] = dir ++ [name] from h) rfl
    exact hname (List.singleton_inj.1 hlast).symm
  obtain ⟨hheader, hsource⟩ := fileNames_nestedSettings
  refine hpublished.readText readText_documentOnly rfl (hne _ ?_) (hne _ ?_)
  · rw [hheader]; decide
  · rw [hsource]; decide

/-- A run that creates its directories, and then finds them. -/
theorem documentOnly_generate_again :
    let first := (nestedSettings.generate FileTree.disk).run documentOnly
    let again := (nestedSettings.generate FileTree.disk).run first.2
    again.1.result = .ok (.ofApi nestedSettings {}) ∧ again.1.notices = first.1.notices ∧
      again.2 = first.2 :=
  generate_again run_generate_documentOnly
    (readText_generate_documentOnly.trans readText_documentOnly.symm)

end CallerStubs
