/-
  Caller stubs — where paths lead in a tree.

  A path is followed segment by segment.  What was found on the way stays
  there when the tree only grows, and when contents of files change; so such a
  path still leads to the same location.

  * `lookup_insert`, `insert_insert_again`: an insertion changes one location,
    and nothing when it is done again;
  * `Leads`, `walk_cons_eq_ok_iff`: one step of a walk;
  * `Keeps`: whatever is there stays there, and directories stay directories;
  * `Keeps.resolve`: paths lead to the same locations in a tree that keeps
    what there was;
  * `Names`: the path names an entry of a directory, which may be missing.
-/
import CallerStubs.FileTree
import CallerStubs.Proofs.Correspondence

namespace CallerStubs.FileTree

variable {t t' t'' : FileTree} {l l' m : Location} {s : String} {ss : List String} {e : Entry}
  {p : FilePath}

/-! ## Entries -/

theorem lookup_filter_ne (entries : List (Location × Entry)) (h : l' ≠ l) :
    (entries.filter (·.1 ≠ l)).lookup l' = entries.lookup l' := by
  induction entries with
  | nil => rfl
  | cons entry entries ih =>
    obtain ⟨k, e⟩ := entry
    by_cases hk : k = l
    · subst hk
      rw [List.filter_cons_of_neg (by simp), List.lookup_cons, beq_false_of_ne h, ih]
    · rw [List.filter_cons_of_pos (by simpa using hk), List.lookup_cons, List.lookup_cons, ih]

/-- An insertion changes one location. -/
theorem lookup_insert (t : FileTree) (l : Location) (s : String) (e : Entry) (l' : Location) :
    (t.insert (l ++ [s]) e).lookup l' = if l' = l ++ [s] then some e else t.lookup l' := by
  unfold lookup insert
  by_cases hl : l' = l ++ [s]
  · subst hl
    simp
  · simp only [if_neg hl, List.lookup_cons, beq_false_of_ne hl, lookup_filter_ne _ hl]

theorem lookup_insert_self : (t.insert (l ++ [s]) e).lookup (l ++ [s]) = some e := by
  rw [lookup_insert, if_pos rfl]

theorem lookup_insert_of_ne (h : l' ≠ l ++ [s]) :
    (t.insert (l ++ [s]) e).lookup l' = t.lookup l' := by
  rw [lookup_insert, if_neg h]

/-- Two entries that are put into a tree again are as they were. -/
theorem insert_insert_again (t : FileTree) (e e' : Entry) (h : l ≠ l') :
    (((t.insert l e).insert l' e').insert l e).insert l' e' = (t.insert l e).insert l' e' := by
  have hothers : t.entries.filter (fun entry =>
        entry.1 ≠ l' && (entry.1 ≠ l && (entry.1 ≠ l' && entry.1 ≠ l))) =
      t.entries.filter fun entry => entry.1 ≠ l' && entry.1 ≠ l :=
    List.filter_congr fun entry _ => by
      cases decide (entry.1 ≠ l) <;> cases decide (entry.1 ≠ l') <;> rfl
  simpa [insert, h, h.symm] using hothers

/-! ## Steps of a walk -/

/-- A segment leads from a directory to a location where there is something. -/
inductive Leads (t : FileTree) (l : Location) : String → Location → Prop
  | here : t.lookup l = some .directory → Leads t l "." l
  | up : t.lookup l = some .directory → Leads t l ".." l.dropLast
  | down {name : String} : t.lookup l = some .directory → name ≠ "." → name ≠ ".." →
      name.utf8ByteSize ≤ maxNameSize → (t.lookup (l ++ [name])).isSome →
      Leads t l name (l ++ [name])

theorem Leads.directory (h : t.Leads l s m) : t.lookup l = some .directory := by
  cases h <;> assumption

theorem walk_cons_eq_ok_iff :
    t.walk l (s :: ss) = .ok l' ↔ ∃ m, t.Leads l s m ∧ t.walk m ss = .ok l' := by
  constructor
  · intro h
    rw [walk] at h
    split at h
    · cases h
    · cases h
    · next hdir =>
      split_ifs at h with hhere hup hsize hnone
      · exact ⟨l, hhere ▸ .here hdir, h⟩
      · exact ⟨l.dropLast, hup ▸ .up hdir, h⟩
      · have hsome : (t.lookup (l ++ [s])).isSome := by
          simpa [Option.isSome_iff_ne_none] using hnone
        exact ⟨l ++ [s], .down hdir hhere hup (by omega) hsome, h⟩
  · rintro ⟨m, hstep, hrest⟩
    rw [walk, hstep.directory]
    cases hstep with
    | here => simpa using hrest
    | up => simpa using hrest
    | down _ hhere hup hsize hsome =>
      have hnone : (t.lookup (l ++ [s])).isNone = false := by
        simpa [Option.isSome_iff_ne_none] using hsome
      simpa [hhere, hup, hnone, Nat.not_lt.2 hsize] using hrest

theorem walk_append_eq_ok_iff : ∀ {ss ss' : List String} {l : Location},
    t.walk l (ss ++ ss') = .ok l' ↔ ∃ m, t.walk l ss = .ok m ∧ t.walk m ss' = .ok l'
  | [], ss', l => by simp [walk]
  | s :: ss, ss', l => by
    simp only [List.cons_append, walk_cons_eq_ok_iff, walk_append_eq_ok_iff]
    constructor
    · rintro ⟨m, hstep, k, hk, hrest⟩
      exact ⟨k, ⟨m, hstep, hk⟩, hrest⟩
    · rintro ⟨k, ⟨m, hstep, hk⟩, hrest⟩
      exact ⟨m, hstep, k, hk, hrest⟩

/-! ## Trees that keep what there was -/

/-- Whatever is in the first tree is in the second one, and directories are
    directories there, too. -/
structure Keeps (t t' : FileTree) : Prop where
  workingDirectory : t'.workingDirectory = t.workingDirectory
  directory : ∀ l, t.lookup l = some .directory → t'.lookup l = some .directory
  isSome : ∀ l, (t.lookup l).isSome → (t'.lookup l).isSome

theorem Keeps.refl (t : FileTree) : t.Keeps t :=
  ⟨rfl, fun _ h => h, fun _ h => h⟩

theorem Keeps.trans (h : t.Keeps t') (h' : t'.Keeps t'') : t.Keeps t'' :=
  ⟨h'.workingDirectory.trans h.workingDirectory, fun l hl => h'.directory l (h.directory l hl),
    fun l hl => h'.isSome l (h.isSome l hl)⟩

/-- An insertion keeps what there was, unless it puts a file in the place of a
    directory. -/
theorem keeps_insert (h : t.lookup (l ++ [s]) = some .directory → e = .directory) :
    t.Keeps (t.insert (l ++ [s]) e) where
  workingDirectory := rfl
  directory l' hl' := by
    rw [lookup_insert]
    split_ifs with heq
    · rw [h (heq ▸ hl')]
    · exact hl'
  isSome l' hl' := by
    rw [lookup_insert]
    split_ifs
    · rfl
    · exact hl'

theorem Leads.of_keeps (hk : t.Keeps t') (h : t.Leads l s m) : t'.Leads l s m := by
  cases h with
  | here hdir => exact .here (hk.directory l hdir)
  | up hdir => exact .up (hk.directory l hdir)
  | down hdir hhere hup hsize hsome =>
    exact .down (hk.directory l hdir) hhere hup hsize (hk.isSome _ hsome)

theorem Keeps.walk (hk : t.Keeps t') : ∀ {ss : List String} {l : Location},
    t.walk l ss = .ok l' → t'.walk l ss = .ok l'
  | [], _, h => h
  | s :: ss, l, h => by
    obtain ⟨m, hstep, hrest⟩ := walk_cons_eq_ok_iff.1 h
    exact walk_cons_eq_ok_iff.2 ⟨m, hstep.of_keeps hk, hk.walk hrest⟩

theorem Keeps.origin (hk : t.Keeps t') (p : FilePath) : t'.origin p = t.origin p := by
  unfold FileTree.origin
  rw [hk.workingDirectory]

/-- **Paths lead to the same locations in a tree that keeps what there was.** -/
theorem Keeps.resolve (hk : t.Keeps t') (h : t.resolve p = .ok l) : t'.resolve p = .ok l := by
  unfold FileTree.resolve at h ⊢
  rw [hk.origin]
  exact hk.walk h

/-! ## Places for entries -/

/-- The path names the entry `s` of the directory at `l`, whether or not there
    is one. -/
structure Names (t : FileTree) (p : FilePath) (l : Location) (s : String) : Prop where
  walk : t.walk (t.origin p) p.segments.dropLast = .ok l
  directory : t.lookup l = some .directory
  last : p.segments.getLast? = some s
  ne_here : s ≠ "."
  ne_up : s ≠ ".."
  size_le : s.utf8ByteSize ≤ maxNameSize

/-- An entry is named iff there is a place for it, and its name leads
    nowhere else and is not too long. -/
theorem names_iff : t.Names p l s ↔ t.place p = .ok (l, some s) ∧ s ≠ "." ∧ s ≠ ".." ∧
    s.utf8ByteSize ≤ maxNameSize := by
  unfold place
  rw [bind_eq_ok_iff]
  constructor
  · rintro ⟨hwalk, hdir, hlast, hhere, hup, hsize⟩
    exact ⟨⟨l, hwalk, by rw [hdir, hlast]⟩, hhere, hup, hsize⟩
  · rintro ⟨⟨m, hwalk, h⟩, hhere, hup, hsize⟩
    split at h
    · next hdir =>
      simp only [Except.ok.injEq, Prod.mk.injEq] at h
      obtain ⟨rfl, hlast⟩ := h
      exact ⟨hwalk, hdir, hlast, hhere, hup, hsize⟩
    · cases h
    · cases h

theorem Names.place (h : t.Names p l s) : t.place p = .ok (l, some s) :=
  (names_iff.1 h).1

theorem Names.of_keeps (hk : t.Keeps t') (h : t.Names p l s) : t'.Names p l s :=
  { h with
    walk := by rw [hk.origin]; exact hk.walk h.walk
    directory := hk.directory l h.directory }

/-- The path leads to the entry that it names, if there is one. -/
theorem Names.resolve_eq_ok_iff (h : t.Names p l s) :
    t.resolve p = .ok l' ↔ l' = l ++ [s] ∧ (t.lookup (l ++ [s])).isSome := by
  have hsegments : p.segments = p.segments.dropLast ++ [s] :=
    (List.dropLast_append_getLast? s h.last).symm
  unfold FileTree.resolve
  rw [hsegments, walk_append_eq_ok_iff]
  constructor
  · rintro ⟨m, hwalk, hlast⟩
    cases h.walk.symm.trans hwalk
    obtain ⟨k, hstep, ⟨⟩⟩ := walk_cons_eq_ok_iff.1 hlast
    cases hstep with
    | here => exact absurd rfl h.ne_here
    | up => exact absurd rfl h.ne_up
    | down _ _ _ _ hsome => exact ⟨rfl, hsome⟩
  · rintro ⟨rfl, hsome⟩
    refine ⟨l, h.walk, walk_cons_eq_ok_iff.2 ⟨l ++ [s], ?_, rfl⟩⟩
    exact .down h.directory h.ne_here h.ne_up h.size_le hsome

/-- The directory of an entry that a path names is where its other segments
    lead to. -/
theorem Names.resolve_directory {q : FilePath} (h : t.Names p l s)
    (habsolute : p.absolute = q.absolute) (hsegments : p.segments = q.segments ++ [s]) :
    t.resolve q = .ok l := by
  have hwalk := h.walk
  rw [hsegments, List.dropLast_concat] at hwalk
  unfold FileTree.resolve
  rwa [show t.origin q = t.origin p by rw [origin, origin, habsolute]]

end CallerStubs.FileTree
