/-
  Caller stubs — what the operations on a tree do to it.

  Each operation either refuses or makes one change: a file is put where a
  path names a place for it, and directories are added where a path leads.

  * `readText_eq_ok_iff`, `writeText_eq_ok_iff`, `createDirectory_eq_ok_iff`:
    when the operations succeed, and with which tree;
  * `Puts`: a file was put where a path names a place;
  * `Grows`: directories were added at some locations, and nothing else was
    changed;
  * `createDirectories_grows`: creating a directory, whether or not it
    succeeds, adds only directories to which its path, or one above it, leads;
  * `createDirectories_again`: a directory that is there is left as it is;
  * `SameFiles`: two trees with the same files.
-/
import CallerStubs.Proofs.FileTree.Path
import CallerStubs.Proofs.FileTree.Walk

namespace CallerStubs.FileTree

variable {t t' t'' t₁ : FileTree} {l l' : Location} {p : FilePath} {ps : List FilePath}
  {text contents : String} {new new' : Location → Prop}

/-! ## Files -/

theorem fromUTF8?_eq_some_iff {bytes : ByteArray} {s : String} :
    String.fromUTF8? bytes = some s ↔ bytes = s.toUTF8 := by
  unfold String.fromUTF8?
  constructor
  · intro h
    split_ifs at h with hvalid
    cases h
    rfl
  · rintro rfl
    have hvalid : s.toUTF8.IsValidUTF8 := s.isValidUTF8
    rw [dif_pos hvalid]
    rfl

/-- A text is read iff the path leads to a file that holds it. -/
theorem readText_eq_ok_iff : t.readText text = .ok contents ↔
    checkPath text = .ok () ∧ (FilePath.ofText text).endsWithSlash = false ∧
      ∃ l, t.resolve (FilePath.ofText text) = .ok l ∧
        t.lookup l = some (.file contents.toUTF8) := by
  simp only [readText, bind_eq_ok_iff]
  constructor
  · rintro ⟨⟨⟩, hcheck, l, hresolve, h⟩
    split at h
    · cases h
    · cases h
    · next bytes hfile =>
      split_ifs at h with hslash
      split at h
      · next s hs =>
        cases h
        rw [fromUTF8?_eq_some_iff.1 hs] at hfile
        exact ⟨hcheck, by simpa using hslash, l, hresolve, hfile⟩
      · cases h
  · rintro ⟨hcheck, hslash, l, hresolve, hfile⟩
    have htext : String.fromUTF8? contents.toUTF8 = some contents :=
      fromUTF8?_eq_some_iff.2 rfl
    exact ⟨(), hcheck, l, hresolve, by simp only [hfile, hslash, htext]; rfl⟩

/-- The path named the place for `s` in the directory at `l`, and a file was
    put there. -/
structure Puts (text contents : String) (l : Location) (s : String) (t t' : FileTree) : Prop where
  check : checkPath text = .ok ()
  endsWithSlash : (FilePath.ofText text).endsWithSlash = false
  names : t.Names (.ofText text) l s
  free : t.lookup (l ++ [s]) ≠ some .directory
  eq_insert : t' = t.insert (l ++ [s]) (.file contents.toUTF8)

/-- A file is written iff the path names a place in a directory that is not
    itself a directory. -/
theorem writeText_eq_ok_iff :
    t.writeText text contents = .ok t' ↔ ∃ l s, t.Puts text contents l s t' := by
  simp only [writeText, bind_eq_ok_iff, Prod.exists]
  constructor
  · rintro ⟨⟨⟩, hcheck, l, name, hplace, h⟩
    split at h
    · cases h
    · next s =>
      split_ifs at h with hdots hsize hoccupied
      cases h
      obtain ⟨hhere, hup, hslash⟩ : s ≠ "." ∧ s ≠ ".." ∧
          (FilePath.ofText text).endsWithSlash = false := by simpa using hdots
      have hnames := names_iff.2 ⟨hplace, hhere, hup, Nat.not_lt.1 hsize⟩
      refine ⟨l, s, hcheck, hslash, hnames, ?_, rfl⟩
      intro hdirectory
      rw [hdirectory] at hoccupied
      exact hoccupied rfl
  · rintro ⟨l, s, hcheck, hslash, hnames, hfree, rfl⟩
    have hoccupied : (t.lookup (l ++ [s])).any Entry.isDirectory = false := by
      cases hentry : t.lookup (l ++ [s]) with
      | none => rfl
      | some e =>
        cases e with
        | file => rfl
        | directory => exact absurd hentry hfree
    refine ⟨(), hcheck, l, some s, hnames.place, ?_⟩
    simp [hnames.ne_here, hnames.ne_up, hslash, Nat.not_lt.2 hnames.size_le, hoccupied]

namespace Puts

variable {s : String}

theorem writeText_eq (h : t.Puts text contents l s t') : t.writeText text contents = .ok t' :=
  writeText_eq_ok_iff.2 ⟨l, s, h⟩

theorem keeps (h : t.Puts text contents l s t') : t.Keeps t' :=
  h.eq_insert ▸ keeps_insert fun hdir => absurd hdir h.free

/-- The file can be put there again, as long as no directory takes its place. -/
theorem of_keeps (h : t.Puts text contents l s t') (hk : t.Keeps t'')
    (hfree : t''.lookup (l ++ [s]) ≠ some .directory) :
    t''.Puts text contents l s (t''.insert (l ++ [s]) (.file contents.toUTF8)) :=
  ⟨h.check, h.endsWithSlash, h.names.of_keeps hk, hfree, rfl⟩

theorem lookup_self (h : t.Puts text contents l s t') :
    t'.lookup (l ++ [s]) = some (.file contents.toUTF8) :=
  h.eq_insert ▸ lookup_insert_self

theorem lookup_of_ne (h : t.Puts text contents l s t') (hl : l' ≠ l ++ [s]) :
    t'.lookup l' = t.lookup l' :=
  h.eq_insert ▸ lookup_insert_of_ne hl

/-- The path is read where the file was put, in every tree that keeps what
    there was. -/
theorem readText_eq_ok_iff {read : String} (h : t.Puts text contents l s t')
    (hk : t.Keeps t'') :
    t''.readText text = .ok read ↔ t''.lookup (l ++ [s]) = some (.file read.toUTF8) := by
  simp only [FileTree.readText_eq_ok_iff, h.check, h.endsWithSlash,
    (h.names.of_keeps hk).resolve_eq_ok_iff, true_and]
  constructor
  · rintro ⟨-, ⟨rfl, -⟩, hfile⟩
    exact hfile
  · intro hfile
    exact ⟨_, ⟨rfl, by rw [hfile]; rfl⟩, hfile⟩

/-- A file that is put into a directory has its own name, and is where the path
    of the directory leads. -/
theorem of_joinPath {directory name : String} (hname : FilePath.IsName name)
    (h : t.Puts (joinPath directory name) contents l s t') :
    s = name ∧ t.resolve (.ofText directory) = .ok l := by
  have hpath : FilePath.ofText (joinPath directory name) = _ := FilePath.ofText_joinPath hname
  have hlast := h.names.last
  rw [hpath, List.getLast?_concat] at hlast
  cases hlast
  exact ⟨rfl, h.names.resolve_directory (by rw [hpath]) (by rw [hpath])⟩

end Puts

/-! ## Directories -/

/-- A directory is created iff the path names a place in a directory where
    there is nothing. -/
theorem createDirectory_eq_ok_iff : t.createDirectory p = .ok t' ↔
    ∃ l s, t.Names p l s ∧ t.lookup (l ++ [s]) = none ∧
      t' = t.insert (l ++ [s]) .directory := by
  simp only [createDirectory, bind_eq_ok_iff, Prod.exists]
  constructor
  · rintro ⟨l, name, hplace, h⟩
    split at h
    · cases h
    · next s =>
      split_ifs at h with hdots hsize hoccupied
      cases h
      obtain ⟨hhere, hup⟩ := not_or.1 hdots
      have hnames := names_iff.2 ⟨hplace, hhere, hup, Nat.not_lt.1 hsize⟩
      exact ⟨l, s, hnames, by simpa using hoccupied, rfl⟩
  · rintro ⟨l, s, hnames, hfree, rfl⟩
    refine ⟨l, some s, hnames.place, ?_⟩
    simp [hnames.ne_here, hnames.ne_up, Nat.not_lt.2 hnames.size_le, hfree]

/-- Directories were added, all of them at locations with a property, and
    nothing else was changed. -/
structure Grows (new : Location → Prop) (t t' : FileTree) : Prop where
  workingDirectory : t'.workingDirectory = t.workingDirectory
  lookup : ∀ l, t'.lookup l = t.lookup l ∨
    t.lookup l = none ∧ t'.lookup l = some .directory ∧ new l

namespace Grows

theorem refl (t : FileTree) : t.Grows new t :=
  ⟨rfl, fun _ => .inl rfl⟩

theorem trans (h : t.Grows new t') (h' : t'.Grows new t'') : t.Grows new t'' where
  workingDirectory := h'.workingDirectory.trans h.workingDirectory
  lookup l := by
    rcases h'.lookup l with hsame' | ⟨hnone', hdir', hnew'⟩
    · rw [hsame']
      exact h.lookup l
    · rcases h.lookup l with hsame | ⟨-, hdir, -⟩
      · exact .inr ⟨hsame ▸ hnone', hdir', hnew'⟩
      · rw [hdir] at hnone'
        cases hnone'

theorem mono (h : t.Grows new t') (himp : ∀ l, new l → new' l) : t.Grows new' t' where
  workingDirectory := h.workingDirectory
  lookup l := (h.lookup l).imp_right fun ⟨hnone, hdir, hnew⟩ => ⟨hnone, hdir, himp l hnew⟩

theorem keeps (h : t.Grows new t') : t.Keeps t' where
  workingDirectory := h.workingDirectory
  directory l hl := by
    rcases h.lookup l with hsame | ⟨-, hdir, -⟩
    · exact hsame.trans hl
    · exact hdir
  isSome l hl := by
    rcases h.lookup l with hsame | ⟨-, hdir, -⟩
    · rwa [hsame]
    · rw [hdir]; rfl

end Grows

theorem createDirectory_grows (h : t.createDirectory p = .ok t') :
    t.Grows (fun l => t'.resolve p = .ok l) t' := by
  obtain ⟨l, s, hnames, hfree, rfl⟩ := createDirectory_eq_ok_iff.1 h
  have hkeeps : t.Keeps (t.insert (l ++ [s]) .directory) := keeps_insert fun _ => rfl
  refine ⟨rfl, fun l' => ?_⟩
  by_cases hl : l' = l ++ [s]
  · subst hl
    have hself : (t.insert (l ++ [s]) .directory).lookup (l ++ [s]) = some .directory :=
      lookup_insert_self
    have hresolve := (hnames.of_keeps hkeeps).resolve_eq_ok_iff.2 ⟨rfl, by rw [hself]; rfl⟩
    exact .inr ⟨hfree, hself, hresolve⟩
  · exact .inl (lookup_insert_of_ne hl)

/-- The first directory of a list is created last, if it is at all: in the tree
    as it was, or in the one with the directories above it. -/
theorem createAll_cons (t : FileTree) (p : FilePath) (above : List FilePath) :
    ∃ t₁, (t₁ = t ∨ t₁ = (t.createAll above).1) ∧
      ((t.createAll (p :: above)).1 = t₁ ∨
        t₁.createDirectory p = .ok (t.createAll (p :: above)).1) := by
  rw [createAll]
  split
  · next hcreate => exact ⟨t, .inl rfl, .inr hcreate⟩
  · split
    · next habove => exact ⟨_, .inr rfl, .inl (by rw [habove])⟩
    · next t₁ habove =>
      refine ⟨t₁, .inr (by rw [habove]), ?_⟩
      split
      · next hcreate => exact .inr hcreate
      · exact .inl rfl
  · exact ⟨t, .inl rfl, .inl rfl⟩

/-- Creating directories adds those to which the paths lead. -/
theorem createAll_grows (t : FileTree) : ∀ ps : List FilePath,
    t.Grows (fun l => ∃ p ∈ ps, (t.createAll ps).1.resolve p = .ok l) (t.createAll ps).1
  | [] => .refl t
  | p :: above => by
    obtain ⟨t₁, hfirst, hlast⟩ := createAll_cons t p above
    -- up to the last directory, only directories above it are added
    have habove : t.Grows (fun l => ∃ q ∈ above, t₁.resolve q = .ok l) t₁ := by
      rcases hfirst with rfl | rfl
      · exact .refl _
      · exact createAll_grows t above
    generalize (t.createAll (p :: above)).1 = t' at hlast ⊢
    have hgrows : t₁.Grows (fun l => t'.resolve p = .ok l) t' := by
      rcases hlast with rfl | hcreate
      · exact .refl _
      · exact createDirectory_grows hcreate
    refine (habove.mono ?_).trans (hgrows.mono ?_)
    · rintro l ⟨q, hq, hl⟩
      exact ⟨q, List.mem_cons_of_mem _ hq, hgrows.keeps.resolve hl⟩
    · exact fun l hl => ⟨p, List.mem_cons_self .., hl⟩

/-- The location is where the path, or one of the paths above it, leads. -/
def OnTheWay (t : FileTree) (text : String) (l : Location) : Prop :=
  ∃ p ∈ FilePath.ofText text :: (FilePath.ofText text).ancestors, t.resolve p = .ok l

theorem OnTheWay.of_keeps (hk : t.Keeps t') (h : t.OnTheWay text l) : t'.OnTheWay text l := by
  obtain ⟨p, hp, hl⟩ := h
  exact ⟨p, hp, hk.resolve hl⟩

/-- **Creating a directory adds only directories on the way to it**, also when
    it is refused. -/
theorem createDirectories_grows (t : FileTree) (text : String) :
    t.Grows ((t.createDirectories text).1.OnTheWay text) (t.createDirectories text).1 := by
  unfold createDirectories
  split_ifs
  · exact .refl t
  · split
    · exact .refl t
    · exact createAll_grows t _

/-! ## Directories that are there -/

theorem isDirectory_eq_true_iff : t.isDirectory p = true ↔
    ∃ l, t.resolve p = .ok l ∧ t.lookup l = some .directory := by
  unfold isDirectory
  cases t.resolve p with
  | error e => simp
  | ok l =>
    cases hentry : t.lookup l with
    | none => simp [hentry]
    | some e => cases e <;> simp [hentry, Entry.isDirectory]

/-- A directory is not created where there is one. -/
theorem createDirectory_of_isDirectory (h : t.isDirectory p = true) :
    t.createDirectory p = .error .alreadyExists := by
  obtain ⟨l, hresolve, hdir⟩ := isDirectory_eq_true_iff.1 h
  unfold resolve at hresolve
  unfold createDirectory
  -- the place of a path is told from its last segment, if it has one
  rcases List.eq_nil_or_concat' p.segments with hnil | ⟨above, s, hsegments⟩
  · rw [hnil] at hresolve
    cases hresolve
    have hplace : t.place p = .ok (t.origin p, none) := by
      simp [place, hnil, walk, hdir, bind, Except.bind]
    simp [hplace, bind, Except.bind]
  · rw [hsegments, walk_append_eq_ok_iff] at hresolve
    obtain ⟨m, hwalk, hlast⟩ := hresolve
    obtain ⟨k, hstep, ⟨⟩⟩ := walk_cons_eq_ok_iff.1 hlast
    have hplace : t.place p = .ok (m, some s) := by
      simp [place, hsegments, hwalk, hstep.directory, bind, Except.bind]
    cases hstep with
    | here => simp [hplace, bind, Except.bind]
    | up => simp [hplace, bind, Except.bind]
    | down _ hhere hup hsize hsome =>
      simp [hplace, bind, Except.bind, hhere, hup, Nat.not_lt.2 hsize, hsome]

/-- **Creating a directory changes nothing when it is done again**, in any tree
    that has the directory. -/
theorem createDirectories_again (h : t.createDirectories text = (t₁, .ok ()))
    (hdir : t'.isDirectory (.ofText text) = true) : t'.createDirectories text = (t', .ok ()) := by
  unfold createDirectories at h ⊢
  split_ifs at h ⊢ with hempty
  · rfl
  · cases hcheck : checkPath text with
    | error e => simp [hcheck] at h
    | ok => simp [createAll, createDirectory_of_isDirectory hdir, hdir]

/-! ## Trees with the same files -/

/-- Each file of one tree is in the other, with the same contents. -/
def SameFiles (t t' : FileTree) : Prop :=
  ∀ l bytes, t'.lookup l = some (.file bytes) ↔ t.lookup l = some (.file bytes)

theorem Grows.sameFiles (h : t.Grows new t') : t.SameFiles t' := by
  intro l bytes
  rcases h.lookup l with hsame | ⟨hnone, hdir, -⟩
  · rw [hsame]
  · rw [hnone, hdir]
    exact ⟨nofun, nofun⟩

/-- Putting a file changes no file iff it was there before. -/
theorem Puts.sameFiles_iff {s : String} (h : t.Puts text contents l s t') :
    t.SameFiles t' ↔ t.lookup (l ++ [s]) = some (.file contents.toUTF8) := by
  constructor
  · intro hsame
    exact (hsame _ _).1 h.lookup_self
  · intro hfile l' bytes
    by_cases hl : l' = l ++ [s]
    · subst hl
      rw [h.lookup_self, hfile]
    · rw [h.lookup_of_ne hl]

theorem SameFiles.trans_iff (h : t.SameFiles t') : t.SameFiles t'' ↔ t'.SameFiles t'' :=
  ⟨fun h' l bytes => (h' l bytes).trans (h l bytes).symm,
    fun h' l bytes => (h' l bytes).trans (h l bytes)⟩

end CallerStubs.FileTree
