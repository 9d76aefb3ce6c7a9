/-
  Caller stubs — no class name leads out of the directory of the files.

  The two files are named after the class, in snake case, which drops whatever
  could be a part of a path.  So the files are entries of the directory that
  they are written to, whatever the class is called, and the source file
  includes its header by the name that the header has.

  * `Settings.NamedBy`, `Settings.namedBy_stem`: the names of the files that
    checked settings ask for;
  * `Generation.write_confinedTo`, `Settings.generate_confinedTo`: writing, and
    so a run, changes nothing outside of its directory, however it ends;
  * `className_confined`: all this for every class name.
-/
import CallerStubs.Proofs.ClassFiles.Includes
import CallerStubs.Proofs.FileTree.Confinement
import CallerStubs.Proofs.Run.Generate

namespace CallerStubs

variable {s : Settings} {g : Generation} {t : FileTree} {directory : String} {names : List String}

/-! ## The names of the files -/

namespace Settings

/-- Settings pass the check iff no required field is blank and there is
    something to name the files by. -/
theorem check_eq_ok_iff : s.check = .ok () ↔
    (∀ field ∈ s.required, Text.blank field.2 = false) ∧ s.stem ≠ "" := by
  unfold check
  cases hblank : s.required.find? (Text.blank ·.2) with
  | some field =>
    have hfield := List.find?_some hblank
    simp only [reduceCtorEq, false_iff, not_and]
    intro hfields
    rw [hfields field (List.mem_of_find?_eq_some hblank)] at hfield
    cases hfield
  | none =>
    have hfields : ∀ field ∈ s.required, Text.blank field.2 = false := by
      simpa using List.find?_eq_none.1 hblank
    simp only [and_iff_right hfields]
    split_ifs with hstem
    · exact iff_of_false nofun (not_not_intro hstem)
    · exact iff_of_true rfl hstem

/-- **The two files are named by a stem** that is no path, and not empty. -/
structure NamedBy (s : Settings) (stem : String) : Prop where
  header : s.headerName = stem ++ ".h"
  source : s.sourceName = stem ++ ".cc"
  distinct : s.headerName ≠ s.sourceName
  nonempty : stem ≠ ""
  plain : ∀ c ∈ ['/', '\\', '.', '\x00'], c ∉ stem.toList

/-- What separates paths, and texts around a path, is in no stem. -/
theorem notMem_stem (s : Settings) :
    ∀ c ∈ ['/', '\\', '.', '\x00', '\n', '"'], c ∉ s.stem.toList := by
  have hdropped : ['/', '\\', '.', '\x00', '\n', '"'].all fun c =>
      c.toNat < 0x61 && c != '_' && !Text.isAlphanumeric c := rfl
  intro c hc
  obtain ⟨⟨hlow, hne⟩, halnum⟩ : (c.toNat < 0x61 ∧ c ≠ '_') ∧ Text.isAlphanumeric c = false := by
    simpa using List.all_eq_true.1 hdropped c hc
  exact Text.notMem_snakeCase hlow hne halnum s.className

theorem namedBy_stem (h : s.check = .ok ()) : s.NamedBy s.stem where
  header := rfl
  source := rfl
  distinct := s.headerName_ne_sourceName
  nonempty := (check_eq_ok_iff.1 h).2
  plain c hc := s.notMem_stem c (List.mem_append_left ['\n', '"'] hc)

/-- What is in neither the stem nor the endings is in no name of a file. -/
theorem notMem_fileNames {c : Char} (hc : c ∈ ['\n', '"']) :
    c ∉ s.headerName.toList ∧ c ∉ s.sourceName.toList := by
  have hstem := s.notMem_stem c (List.mem_append_right ['/', '\\', '.', '\x00'] hc)
  simp only [List.mem_cons, List.not_mem_nil, or_false] at hc
  rcases hc with rfl | rfl <;> simp [headerName, sourceName, hstem]

end Settings

/-! ## Writing -/

/-- Writing files into a directory is confined to them, also when one of them
    is refused. -/
theorem writeArtifacts_confinedTo : ∀ {artifacts : List Artifact} {t : FileTree},
    (∀ a ∈ artifacts, FilePath.IsName a.fileName ∧ a.fileName ∈ names) →
    t.ConfinedTo directory names ((writeArtifacts FileTree.disk directory artifacts).run t).2
  | [], t, _ => .refl t
  | a :: rest, t, h => by
    obtain ⟨hname, hmem⟩ := h a (List.mem_cons_self ..)
    cases hwrite : t.writeText (joinPath directory a.fileName) a.contents with
    | error e =>
      rw [run_writeArtifacts_error hwrite]
      exact .refl t
    | ok t' =>
      rw [run_writeArtifacts_ok hwrite rfl]
      exact (FileTree.writeText_confinedTo hname hmem hwrite).trans
        (writeArtifacts_confinedTo fun a' ha' => h a' (List.mem_cons_of_mem _ ha'))

/-- **Writing a generation is confined to its two files**, also when it is
    refused. -/
theorem Generation.write_confinedTo (hheader : FilePath.IsName g.header.fileName)
    (hsource : FilePath.IsName g.source.fileName) (directory : String) (t : FileTree) :
    t.ConfinedTo directory [g.header.fileName, g.source.fileName]
      ((g.write FileTree.disk directory).run t).2 := by
  have hcreated := t.createDirectories_confinedTo directory [g.header.fileName, g.source.fileName]
  obtain ⟨t₁, created, hcreate⟩ : ∃ t₁ created, t.createDirectories directory = (t₁, created) :=
    ⟨_, _, rfl⟩
  rw [hcreate] at hcreated
  cases created with
  | error e =>
    rw [run_write_error hcreate]
    exact hcreated
  | ok =>
    rw [run_write_ok hcreate]
    refine hcreated.trans (writeArtifacts_confinedTo fun a ha => ?_)
    simp only [List.mem_cons, List.not_mem_nil, or_false] at ha
    rcases ha with rfl | rfl
    · exact ⟨hheader, by simp⟩
    · exact ⟨hsource, by simp⟩

/-- **A run is confined to its two files**, whatever its settings are and
    however it ends. -/
theorem Settings.generate_confinedTo (s : Settings) (t : FileTree) :
    t.ConfinedTo s.outputDir [s.headerName, s.sourceName]
      ((s.generate FileTree.disk).run t).2 := by
  cases hprepared : s.prepare (t.readText s.schemaPath) with
  | error fault =>
    rw [run_generate_error hprepared]
    exact .refl t
  | ok g =>
    obtain ⟨hheader, hsource⟩ := fileNames_of_prepare hprepared
    rw [run_generate_ok hprepared, ← hheader, ← hsource]
    exact Generation.write_confinedTo (hheader ▸ s.isName_headerName)
      (hsource ▸ s.isName_sourceName) s.outputDir t

/-! ## Every class name -/

/-- **No class name leads out of the directory of the files**: settings that
    pass the check name the two files by one stem, which is no path.  So
    writing them, whether or not it is refused, changes nothing but these
    entries of the directory, besides creating the directory; and the file that
    the source file includes first is its header. -/
theorem className_confined (h : s.check = .ok ()) :
    s.NamedBy s.stem ∧
      ∀ groups, let g := Generation.ofGroups s groups
        (g.header.fileName = s.headerName ∧ g.source.fileName = s.sourceName) ∧
        (∀ directory (t : FileTree), t.ConfinedTo directory [g.header.fileName, g.source.fileName]
          ((g.write FileTree.disk directory).run t).2) ∧
        [g.header.fileName, "hmi_requests.h"] <+: quotedIncludes g.source.contents := by
  refine ⟨s.namedBy_stem h, fun groups => ⟨⟨rfl, rfl⟩, fun directory t => ?_, ?_⟩⟩
  · exact Generation.write_confinedTo (g := .ofGroups s groups) s.isName_headerName
      s.isName_sourceName directory t
  · obtain ⟨hnewline, hnewline'⟩ := s.notMem_fileNames (c := '\n') (by simp)
    obtain ⟨hquote, -⟩ := s.notMem_fileNames (c := '"') (by simp)
    exact ClassFrame.quotedIncludes_sourceText (f := s.frame) hnewline hquote hnewline' groups

/-- Settings with a class that is called like a path. -/
def pathLikeClass : Settings :=
  { Settings.initial "api.xml" "out" with className := "../../X" }

/-- The class that is called like a path is in files of the directory. -/
theorem pathLikeClass_confined :
    pathLikeClass.stem = "x" ∧ pathLikeClass.NamedBy "x" ∧
      ∀ t : FileTree, t.ConfinedTo "out" ["x.h", "x.cc"]
        (((Generation.ofGroups pathLikeClass []).write FileTree.disk "out").run t).2 := by
  have hstem : pathLikeClass.stem = "x" := rfl
  obtain ⟨hnamed, hgroups⟩ := className_confined (s := pathLikeClass) rfl
  obtain ⟨-, hconfined, -⟩ := hgroups []
  exact ⟨hstem, hstem ▸ hnamed, hconfined "out"⟩

end CallerStubs
