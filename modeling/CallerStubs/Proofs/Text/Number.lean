/-
  Caller stubs — which rows of characters are numbers.

  * `isSome_digitValue?_of_number?`: every character of a number is a digit;
  * `digitsFrom?_append`: digits are read from the left, one after the other.
-/
import CallerStubs.Text.Number

namespace CallerStubs.Text

variable {base value n : Nat}

theorem isSome_digitValue?_of_digitsFrom? {cs : List Char}
    (h : digitsFrom? base value cs = some n) :
    ∀ c ∈ cs, (digitValue? base c).isSome := by
  induction cs generalizing value with
  | nil => simp
  | cons c cs ih =>
    rw [digitsFrom?] at h
    split at h
    · next d hd =>
      intro c' hc'
      rcases List.mem_cons.1 hc' with rfl | hc'
      · simp [hd]
      · exact ih h c' hc'
    · cases h

theorem isSome_digitValue?_of_number? {cs : List Char} (h : number? base cs = some n) :
    ∀ c ∈ cs, (digitValue? base c).isSome := by
  unfold number? at h
  split at h
  · cases h
  · exact isSome_digitValue?_of_digitsFrom? h

/-- Digits are read from the left, one after the other. -/
theorem digitsFrom?_append {as bs : List Char} :
    digitsFrom? base value (as ++ bs) =
      (digitsFrom? base value as).bind fun v => digitsFrom? base v bs := by
  induction as generalizing value with
  | nil => rfl
  | cons a as ih =>
    rw [List.cons_append, digitsFrom?, digitsFrom?]
    cases digitValue? base a with
    | none => rfl
    | some d => exact ih

end CallerStubs.Text
