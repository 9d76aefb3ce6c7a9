/-
  Caller stubs — texts in which a character never meets itself.

  * `Apart`: no two occurrences of a character stand side by side;
  * `Apart.append`: that is so for two texts in a row if the character does not
    stand on both sides of the seam.
-/
import Mathlib.Data.List.Chain

namespace CallerStubs.Text

/-- No two occurrences of the character stand side by side. -/
def Apart (x : Char) (cs : List Char) : Prop :=
  ¬ [x, x] <:+: cs

variable {x : Char} {cs ds : List Char}

/-- Every two neighbours are not both the character. -/
theorem apart_iff_isChain : Apart x cs ↔ cs.IsChain (fun a b => a = x → b ≠ x) := by
  rw [List.isChain_iff_forall_rel_of_append_cons_cons, Apart]
  constructor
  · rintro h a b pre post hcs rfl rfl
    exact h ⟨pre, post, by simp [hcs]⟩
  · rintro h ⟨pre, post, hcs⟩
    have hsplit : cs = pre ++ x :: x :: post := by simp [← hcs]
    exact h hsplit rfl rfl

theorem apart_of_notMem (h : x ∉ cs) : Apart x cs :=
  fun htwice => h (htwice.subset (List.mem_cons_self ..))

theorem apart_singleton : Apart x [x] := by
  simp [apart_iff_isChain]

theorem Apart.append (hcs : Apart x cs) (hds : Apart x ds)
    (hseam : cs.getLast? = some x → ds.head? ≠ some x) : Apart x (cs ++ ds) := by
  rw [apart_iff_isChain] at hcs hds ⊢
  refine List.isChain_append.2 ⟨hcs, hds, ?_⟩
  rintro a ha b hb rfl rfl
  exact hseam ha hb

end CallerStubs.Text
