/-
  Caller stubs — which references stand for which paths.

  * `TypePath.Written`: the written forms of a path in an interface: its name
    alone for a type of the interface itself, else both segments with a dot
    between them;
  * `TypePath.Solid`: neither segment is blank;
  * `TypePath.parse_eq_ok_iff`: a reference is read as a path iff it is a
    written form of it and the path is solid;
  * `TypePath.parse_of_length`, `TypePath.Written.parse_of_not_solid`: why a
    reference is refused.
-/
import CallerStubs.Proofs.Text.Split
import CallerStubs.TypePath

namespace CallerStubs.TypePath

/-- The reference is a written form of the path in the interface `owner`. -/
inductive Written (owner : String) : String → TypePath → Prop
  | bare {name} : '.' ∉ name.toList → Written owner name ⟨owner, name⟩
  | qualified {interface name} : '.' ∉ interface.toList → '.' ∉ name.toList →
      Written owner (interface ++ "." ++ name) ⟨interface, name⟩

/-- Both segments hold something besides white space. -/
def Solid (path : TypePath) : Prop :=
  Text.blank path.interface = false ∧ Text.blank path.name = false

theorem segments_eq_one_iff {reference name : String} :
    segments reference = [name] ↔ '.' ∉ name.toList ∧ reference = name := by
  rw [segments, Text.splitText_eq_iff (by simp)]
  simp

theorem segments_eq_two_iff {reference interface name : String} :
    segments reference = [interface, name] ↔
      ('.' ∉ interface.toList ∧ '.' ∉ name.toList) ∧ reference = interface ++ "." ++ name := by
  rw [segments, Text.splitText_eq_iff (by simp), String.intercalate_cons_cons,
    String.intercalate_singleton, show String.singleton '.' = "." from rfl]
  simp

/-- The written forms of a path, by their segments. -/
theorem written_iff {owner reference : String} {path : TypePath} :
    Written owner reference path ↔
      (segments reference = [path.name] ∧ path.interface = owner) ∨
        segments reference = [path.interface, path.name] := by
  rw [segments_eq_one_iff, segments_eq_two_iff]
  constructor
  · rintro (hn | ⟨hi, hn⟩)
    · exact .inl ⟨⟨hn, rfl⟩, rfl⟩
    · exact .inr ⟨⟨hi, hn⟩, rfl⟩
  · obtain ⟨interface, name⟩ := path
    rintro (⟨⟨hn, rfl⟩, rfl⟩ | ⟨⟨hi, hn⟩, rfl⟩)
    · exact .bare hn
    · exact .qualified hi hn

/-- **A reference is read as exactly the solid path that it is a written form
    of.** -/
theorem parse_eq_ok_iff {reference owner : String} {path : TypePath} :
    parse reference owner = .ok path ↔ Written owner reference path ∧ path.Solid := by
  have hchecked : ∀ p : TypePath,
      (if Text.blank p.interface || Text.blank p.name then
          Except.error (SchemaFault.blankSegment reference) else Except.ok p) = .ok path ↔
        p = path ∧ path.Solid := by
    intro p
    simp only [Solid]
    split_ifs with h
    · simp only [false_iff, not_and]
      rintro rfl hi
      simpa [hi] using h
    · simp only [Bool.or_eq_true, not_or, Bool.not_eq_true] at h
      simp only [Except.ok.injEq, iff_self_and]
      rintro rfl
      exact h
  rw [written_iff, parse]
  split
  · next name h =>
    rw [h, hchecked]
    refine and_congr_left fun _ => ?_
    cases path; simp [and_comm, eq_comm]
  · next interface name h =>
    rw [h, hchecked]
    refine and_congr_left fun _ => ?_
    cases path; simp [eq_comm]
  · next h₁ h₂ =>
    simp only [reduceCtorEq, false_iff, not_and]
    rintro (⟨h, -⟩ | h)
    · exact absurd h (h₁ _)
    · exact absurd h (h₂ _ _)

/-- A reference is a written form of one path. -/
theorem Written.eq {owner reference : String} {path path' : TypePath}
    (h : Written owner reference path) (h' : Written owner reference path') : path = path' := by
  cases path
  cases path'
  rcases written_iff.1 h with ⟨hone, hinterface⟩ | htwo <;>
    rcases written_iff.1 h' with ⟨hone', hinterface'⟩ | htwo' <;> simp_all

/-- A written form has at most two segments. -/
theorem Written.length_le {owner reference : String} {path : TypePath}
    (h : Written owner reference path) : (segments reference).length ≤ 2 := by
  rcases written_iff.1 h with ⟨hone, -⟩ | htwo
  · simp [hone]
  · simp [htwo]

/-- A reference of at most two segments is a written form of a path. -/
theorem exists_written_iff (owner : String) {reference : String} :
    (∃ path, Written owner reference path) ↔ (segments reference).length ≤ 2 := by
  refine ⟨fun ⟨_, h⟩ => h.length_le, fun h => ?_⟩
  have hpositive : (segments reference).length ≠ 0 := by
    rw [segments, Text.length_splitText]
    exact Nat.succ_ne_zero _
  match hsegments : segments reference with
  | [] => simp [hsegments] at hpositive
  | [name] => exact ⟨⟨owner, name⟩, written_iff.2 (.inl ⟨hsegments, rfl⟩)⟩
  | [interface, name] => exact ⟨⟨interface, name⟩, written_iff.2 (.inr hsegments)⟩
  | _ :: _ :: _ :: _ => simp [hsegments] at h

/-- A reference of more than two segments is refused. -/
theorem parse_of_length {reference : String} (h : 2 < (segments reference).length)
    (owner : String) : parse reference owner = .error (.longReference reference) := by
  rw [parse]
  split
  · next name hsegments => simp [hsegments] at h
  · next interface name hsegments => simp [hsegments] at h
  · rfl

/-- A written form of a path with a blank segment is refused. -/
theorem Written.parse_of_not_solid {owner reference : String} {path : TypePath}
    (h : Written owner reference path) (hsolid : ¬ path.Solid) :
    parse reference owner = .error (.blankSegment reference) := by
  have hblank : (Text.blank path.interface || Text.blank path.name) = true :=
    Decidable.byContradiction fun hneither => hsolid (by simpa [Solid] using hneither)
  rw [parse]
  rcases written_iff.1 h with ⟨hone, rfl⟩ | htwo
  · simp only [hone, hblank, if_true]
  · simp only [htwo, hblank, if_true]

/-- A reference is the path in full, or the name of a type of the interface
    in which it stands. -/
theorem Written.eq_display_or {owner reference : String} {path : TypePath}
    (h : Written owner reference path) :
    reference = path.display ∨
      ('.' ∉ reference.toList ∧ reference = path.name ∧ path.interface = owner) := by
  cases h with
  | bare hn => exact .inr ⟨hn, rfl, rfl⟩
  | qualified => exact .inl rfl

end CallerStubs.TypePath
