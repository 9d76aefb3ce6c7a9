/-
  Caller stubs — what happens inside of one directory.

  A tree that is confined to a directory may get the directory, with those
  above it, and files of given names in it.  Whatever else there is stays as it
  is.

  * `Change`: what may have become of a location;
  * `ConfinedTo`: nothing else has become of any location;
  * `ConfinedTo.trans`: so it is after steps of which each is confined;
  * `createDirectories_confinedTo`, `writeText_confinedTo`: the steps.
-/
import CallerStubs.Proofs.FileTree.Operations

namespace CallerStubs.FileTree

variable {t t' t'' : FileTree} {directory name contents : String} {names : List String}
  {l : Location}

/-- **What may have become of a location** when only files of these names were
    put into a directory. -/
inductive Change (directory : String) (names : List String) (t t' : FileTree) (l : Location) :
    Prop
  | kept : t'.lookup l = t.lookup l → Change directory names t t' l
  /-- A missing directory, or a missing one above it, was created. -/
  | created : t.lookup l = none → t'.lookup l = some .directory → t'.OnTheWay directory l →
      Change directory names t t' l
  /-- The location is that of a file in the directory. -/
  | written {dir : Location} {name : String} {bytes : ByteArray} :
      t'.resolve (.ofText directory) = .ok dir → t'.lookup dir = some .directory →
      name ∈ names → l = dir ++ [name] → t.lookup l ≠ some .directory →
      t'.lookup l = some (.file bytes) → Change directory names t t' l

/-- Nothing was changed but the directory, those above it, and files of these
    names in it. -/
structure ConfinedTo (directory : String) (names : List String) (t t' : FileTree) : Prop where
  workingDirectory : t'.workingDirectory = t.workingDirectory
  change : ∀ l, t.Change directory names t' l

namespace ConfinedTo

theorem refl (t : FileTree) : t.ConfinedTo directory names t :=
  ⟨rfl, fun _ => .kept rfl⟩

theorem keeps (h : t.ConfinedTo directory names t') : t.Keeps t' where
  workingDirectory := h.workingDirectory
  directory l hl := by
    cases h.change l with
    | kept hsame => exact hsame.trans hl
    | created _ hnew => exact hnew
    | written _ _ _ _ hfree => exact absurd hl hfree
  isSome l hl := by
    cases h.change l with
    | kept hsame => rwa [hsame]
    | created _ hnew => rw [hnew]; rfl
    | written _ _ _ _ _ hfile => rw [hfile]; rfl

theorem trans (h : t.ConfinedTo directory names t') (h' : t'.ConfinedTo directory names t'') :
    t.ConfinedTo directory names t'' where
  workingDirectory := h'.workingDirectory.trans h.workingDirectory
  change l := by
    cases h'.change l with
    | kept hsame' =>
      -- what the first step did is still there, and paths still lead to it
      cases h.change l with
      | kept hsame => exact .kept (hsame'.trans hsame)
      | created hnone hnew hway =>
        exact .created hnone (hsame'.trans hnew) (hway.of_keeps h'.keeps)
      | written hdir hdirectory hname hl hfree hfile =>
        exact .written (h'.keeps.resolve hdir) (h'.keeps.directory _ hdirectory) hname hl hfree
          (hsame'.trans hfile)
    | created hnone' hnew' hway' =>
      have hnone : t.lookup l = none := by
        by_contra hsome
        have hkept := h.keeps.isSome l (Option.isSome_iff_ne_none.2 hsome)
        rw [hnone'] at hkept
        cases hkept
      exact .created hnone hnew' hway'
    | written hdir hdirectory hname hl hfree' hfile =>
      exact .written hdir hdirectory hname hl
        (fun hoccupied => hfree' (h.keeps.directory l hoccupied)) hfile

end ConfinedTo

theorem createDirectories_confinedTo (t : FileTree) (directory : String) (names : List String) :
    t.ConfinedTo directory names (t.createDirectories directory).1 := by
  have hgrows := t.createDirectories_grows directory
  refine ⟨hgrows.workingDirectory, fun l => ?_⟩
  rcases hgrows.lookup l with hsame | ⟨hnone, hnew, hway⟩
  · exact .kept hsame
  · exact .created hnone hnew hway

/-- **Writing a file of a directory is confined to the directory.** -/
theorem writeText_confinedTo (hname : FilePath.IsName name) (hmem : name ∈ names)
    (h : t.writeText (joinPath directory name) contents = .ok t') :
    t.ConfinedTo directory names t' := by
  obtain ⟨dir, s, hputs⟩ := writeText_eq_ok_iff.1 h
  obtain ⟨rfl, hdir⟩ := hputs.of_joinPath hname
  refine ⟨hputs.keeps.workingDirectory, fun l => ?_⟩
  by_cases hl : l = dir ++ [s]
  · exact .written (hputs.keeps.resolve hdir) (hputs.keeps.directory _ hputs.names.directory) hmem
      hl (hl ▸ hputs.free) (hl ▸ hputs.lookup_self)
  · exact .kept (hputs.lookup_of_ne hl)

end CallerStubs.FileTree
