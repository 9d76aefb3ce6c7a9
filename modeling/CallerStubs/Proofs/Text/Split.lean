/-
  Caller stubs — the parts of a text determine the text.

  * `splitChars_eq_splitOn`: the parts of a list are those that core's
    `List.splitOn` finds;
  * `splitText_append_separator`: the parts on both sides of a separator;
  * `splitText_eq_iff`: a list of texts is the list of the parts of a text iff
    none of them holds the separator and the text is all of them, joined by
    it;
  * `splitText_cons`: the first part, and those behind it;
  * `length_splitText`: the number of the parts.
-/
import CallerStubs.Text.Split
import Mathlib.Tactic.SplitIfs

namespace CallerStubs.Text

theorem splitChars_eq_splitOn (c : Char) (cs : List Char) : splitChars c cs = cs.splitOn c := by
  induction cs with
  | nil => rfl
  | cons x xs ih =>
    rw [splitChars, List.splitOn_cons_eq_if_modifyHead, ih]
    simp only [beq_iff_eq]
    split_ifs
    · rfl
    · obtain ⟨part, parts, h⟩ := List.exists_cons_of_ne_nil (List.splitOn_ne_nil c xs)
      rw [h]; rfl

/-- No part holds the separator. -/
theorem notMem_of_mem_splitChars {c : Char} :
    ∀ {cs part : List Char}, part ∈ splitChars c cs → c ∉ part
  | [], part, h => by simp [splitChars] at h; simp [h]
  | x :: xs, part, h => by
    obtain ⟨p, ps, hp⟩ : ∃ p ps, splitChars c xs = p :: ps :=
      List.exists_cons_of_ne_nil (by rw [splitChars_eq_splitOn]; exact List.splitOn_ne_nil c xs)
    have ih : ∀ q ∈ p :: ps, c ∉ q := fun q hq => notMem_of_mem_splitChars (hp ▸ hq)
    rw [splitChars, hp] at h
    split_ifs at h with hx
    · rcases List.mem_cons.1 h with rfl | h
      · simp
      · exact ih part h
    · rcases List.mem_cons.1 h with rfl | h
      · have := ih p (List.mem_cons_self ..)
        simp [this, Ne.symm hx]
      · exact ih part (List.mem_cons_of_mem _ h)

theorem splitText_append_separator (c : Char) (s t : String) :
    splitText c (s ++ String.singleton c ++ t) = splitText c s ++ splitText c t := by
  simp only [splitText, splitChars_eq_splitOn, String.toList_append, String.toList_singleton,
    List.append_assoc, List.singleton_append, List.splitOn_append_cons_self, List.map_append]

/-- **The parts of a text are those texts without the separator that it is
    made of.** -/
theorem splitText_eq_iff {c : Char} {s : String} {ps : List String} (hps : ps ≠ []) :
    splitText c s = ps ↔
      (∀ p ∈ ps, c ∉ p.toList) ∧ s = String.intercalate (String.singleton c) ps := by
  constructor
  · rintro rfl
    refine ⟨fun p hp => ?_, ?_⟩
    · obtain ⟨part, hpart, rfl⟩ := List.mem_map.1 hp
      rw [String.toList_ofList]
      exact notMem_of_mem_splitChars hpart
    · rw [← String.toList_inj, String.toList_intercalate, splitText, List.map_map,
        splitChars_eq_splitOn]
      simp [Function.comp_def]
  · rintro ⟨hc, rfl⟩
    have h : ([c].intercalate (ps.map String.toList)).splitOn c = ps.map String.toList :=
      List.splitOn_intercalate c (by simpa using hc) (by simpa)
    rw [splitText, splitChars_eq_splitOn, String.toList_intercalate, String.toList_singleton, h]
    simp [Function.comp_def]

/-- A part without the separator is cut off. -/
theorem splitText_cons {c : Char} {part : String} (h : c ∉ part.toList) (rest : String) :
    splitText c (part ++ String.singleton c ++ rest) = part :: splitText c rest := by
  have hpart : splitText c part = [part] :=
    (splitText_eq_iff (by simp)).2 ⟨by simpa using h, by simp⟩
  rw [splitText_append_separator, hpart, List.singleton_append]

theorem length_splitChars (c : Char) (cs : List Char) :
    (splitChars c cs).length = cs.count c + 1 := by
  induction cs with
  | nil => rfl
  | cons x xs ih =>
    rw [splitChars]
    split_ifs with hx
    · rw [List.length_cons, ih, hx, List.count_cons_self]
    · rw [List.count_cons_of_ne hx, ← ih]
      split
      · next h => rw [h, List.length_cons, List.length_cons]
      · next h => simp [h] at ih

/-- There is one part more than there are separators. -/
theorem length_splitText (c : Char) (s : String) :
    (splitText c s).length = s.toList.count c + 1 := by
  rw [splitText, List.length_map, length_splitChars]

end CallerStubs.Text
