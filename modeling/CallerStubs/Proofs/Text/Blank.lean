/-
  Caller stubs — texts of white space.

  * `blank_eq_false_iff`: a text is not blank iff it has another character than
    white space;
  * `blank_iff_trim`: a text is blank iff nothing is left of it by `trim`.
-/
import CallerStubs.Text.Blank
import Mathlib.Data.List.TakeWhile

namespace CallerStubs.Text

theorem blank_eq_false_iff {s : String} :
    blank s = false ↔ ∃ c ∈ s.toList, isBlank c = false := by
  rw [blank, List.all_eq_false]
  simp only [Bool.not_eq_true]

theorem trimChars_eq_nil_iff {cs : List Char} :
    trimChars cs = [] ↔ ∀ c ∈ cs, isBlank c = true := by
  rw [trimChars, List.reverse_eq_nil_iff, List.dropWhile_eq_nil_iff]
  simp only [List.mem_reverse]
  constructor
  · intro h c hc
    rw [← List.takeWhile_append_dropWhile (p := isBlank) (l := cs), List.mem_append] at hc
    rcases hc with hc | hc
    · exact List.mem_takeWhile_imp hc
    · exact h c hc
  · intro h c hc
    exact h c ((List.dropWhile_sublist _).subset hc)

/-- A text is blank iff nothing is left of it by `trim`. -/
theorem blank_iff_trim {s : String} : blank s = true ↔ trim s = "" := by
  rw [blank, List.all_eq_true, ← trimChars_eq_nil_iff, trim]
  constructor
  · intro h
    rw [h]
  · intro h
    simpa using congrArg String.toList h

end CallerStubs.Text
