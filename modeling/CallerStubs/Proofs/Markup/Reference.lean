/-
  Caller stubs — references are read back as what they stand for.

  * `decodeText_encodeText`: a text is read back from its written form;
  * `quote_notMem_encodeText`: the written form can stand between quotes;
  * `special_notMem_of_decodeReference`: the name of a reference that is known
    holds nothing that ends it.
-/
import CallerStubs.Markup.Reference
import CallerStubs.Proofs.Text.Number
import Mathlib.Tactic.SplitIfs

namespace CallerStubs.Markup

open Text

/-! ## Texts -/

/-- A character is read back from its written form, whatever follows. -/
theorem decodeFrom_encodeChar (c : Char) (cs : List Char) :
    decodeFrom none (encodeChar c ++ cs) = (decodeFrom none cs).map (c :: ·) := by
  unfold encodeChar
  split_ifs with hamp hlt hgt hquot hapos
  · subst hamp; rfl
  · subst hlt; rfl
  · subst hgt; rfl
  · subst hquot; rfl
  · subst hapos; rfl
  · rw [List.singleton_append, decodeFrom, if_neg hamp]

/-- **A text is read back from its written form.** -/
theorem decodeText_encodeText (cs : List Char) : decodeText (encodeText cs) = some cs := by
  unfold decodeText encodeText
  induction cs with
  | nil => rfl
  | cons c cs ih => rw [List.flatMap_cons, decodeFrom_encodeChar, ih, Option.map_some]

theorem quote_notMem_encodeChar (c : Char) : '"' ∉ encodeChar c := by
  unfold encodeChar
  split_ifs with hamp hlt hgt hquot hapos
  · decide
  · decide
  · decide
  · decide
  · decide
  · rw [List.mem_singleton]
    exact fun h => hquot h.symm

theorem quote_notMem_encodeText (cs : List Char) : '"' ∉ encodeText cs := by
  rw [encodeText, List.mem_flatMap]
  rintro ⟨c, -, hc⟩
  exact quote_notMem_encodeChar c hc

/-! ## Names of references -/

theorem special_notMem_of_number? {base n : Nat} {digits : List Char}
    (h : number? base digits = some n) : ';' ∉ digits ∧ '&' ∉ digits ∧ '<' ∉ digits := by
  have hdigits := isSome_digitValue?_of_number? h
  have hspecial : ∀ c ∈ [';', '&', '<'], c ∉ digits := by
    intro c hc hmem
    have hsome := hdigits c hmem
    simp only [List.mem_cons, List.not_mem_nil, or_false] at hc
    rcases hc with rfl | rfl | rfl <;> simp [digitValue?] at hsome
  exact ⟨hspecial _ (by simp), hspecial _ (by simp), hspecial _ (by simp)⟩

/-- **The name of a known reference ends where the reference does.** -/
theorem special_notMem_of_decodeReference {name : List Char} {c : Char}
    (h : decodeReference name = some c) : ';' ∉ name ∧ '&' ∉ name ∧ '<' ∉ name := by
  unfold decodeReference at h
  split at h
  · obtain ⟨n, hn, -⟩ := Option.bind_eq_some_iff.1 h
    simpa using special_notMem_of_number? hn
  · obtain ⟨n, hn, -⟩ := Option.bind_eq_some_iff.1 h
    simpa using special_notMem_of_number? hn
  · split_ifs at h with hamp hlt hgt hquot hapos
    · subst hamp; decide
    · subst hlt; decide
    · subst hgt; decide
    · subst hquot; decide
    · subst hapos; decide

end CallerStubs.Markup
