/-
  Caller stubs — characters that are written as they are.

  * `isReadable_of_isPlainlyShown`, `unifyBreaks_eq_self`: a text of such
    characters can be read, and its lines end alike;
  * `isSpacing_eq`: the only white space among them is the space;
  * `blankAhead_append`, `hasNeighbours_cons`: how the classes of a text follow
    from its first characters;
  * `isKeyChar`, `AtEntry`: the characters of keys, and the places where an
    entry of a mapping may begin.
-/
import CallerStubs.Yaml.Style

namespace CallerStubs.Yaml

variable {c : Char} {cs : List Char}

/-! ## Single characters -/

theorem isReadable_of_isPlainlyShown (h : isPlainlyShown c = true) : isReadable c = true := by
  simp only [isPlainlyShown, isReadable, Bool.or_eq_true, Bool.and_eq_true, beq_iff_eq, bne_iff_ne,
    decide_eq_true_eq] at h ⊢
  omega

theorem ne_of_isPlainlyShown {d : Char} (h : isPlainlyShown c = true)
    (hd : isPlainlyShown d = false) : c ≠ d := by
  rintro rfl
  rw [h] at hd
  cases hd

/-- Tabs are not written as they are. -/
theorem isSpacing_eq (h : isPlainlyShown c = true) : isSpacing c = (c == ' ') := by
  have htab : (c == '\t') = false := beq_eq_false_iff_ne.2 (ne_of_isPlainlyShown h (by decide))
  rw [isSpacing, htab, Bool.or_false]

/-! ## Texts -/

/-- The lines of a text without rare breaks end alike. -/
theorem unifyBreaks_eq_self (h : ∀ c ∈ cs, isPlainlyShown c = true) : unifyBreaks cs = cs := by
  induction cs with
  | nil => rfl
  | cons c cs ih =>
    have hc := h c (List.mem_cons_self ..)
    have hreturn : c ≠ '\r' := ne_of_isPlainlyShown hc (by decide)
    have hnext : c ≠ '\u0085' := ne_of_isPlainlyShown hc (by decide)
    rw [unifyBreaks, ih fun d hd => h d (List.mem_cons_of_mem _ hd),
      if_neg (by simp [hreturn, hnext])]
    exact fun _ heq _ => hreturn heq

theorem blankAhead_append {d : Char} (hd : isBreak d = true) (cs rest : List Char) :
    blankAhead (cs ++ d :: rest) = blankAhead cs := by
  cases cs with
  | nil => simp [blankAhead, hd]
  | cons c cs => rfl

theorem hasNeighbours_cons (p q : Char → Bool) (c : Char) (cs : List Char) :
    hasNeighbours p q (c :: cs) = (p c && cs.head?.any q || hasNeighbours p q cs) := by
  cases cs with
  | nil => simp [hasNeighbours]
  | cons d cs => simp [hasNeighbours]

/-! ## Keys -/

/-- A character of a key that is written plainly. -/
def isKeyChar (c : Char) : Bool :=
  c.isLower || c == '_'

/-- **Where an entry of a mapping may begin**: at a key, or at the end. -/
def AtEntry (cs : List Char) : Prop :=
  ∀ c ∈ cs.head?, isKeyChar c = true

theorem ne_of_isKeyChar {d : Char} (h : isKeyChar c = true) (hd : isKeyChar d = false) :
    c ≠ d := by
  rintro rfl
  rw [h] at hd
  cases hd

theorem isBreak_of_isKeyChar (h : isKeyChar c = true) : isBreak c = false := by
  simp [isBreak, ne_of_isKeyChar h (d := '\n') (by decide),
    ne_of_isKeyChar h (d := '\u2028') (by decide), ne_of_isKeyChar h (d := '\u2029') (by decide)]

theorem isSpacing_of_isKeyChar (h : isKeyChar c = true) : isSpacing c = false := by
  simp [isSpacing, ne_of_isKeyChar h (d := ' ') (by decide),
    ne_of_isKeyChar h (d := '\t') (by decide)]

theorem atEntry_nil : AtEntry [] :=
  fun _ h => nomatch h

theorem atEntry_cons : AtEntry (c :: cs) ↔ isKeyChar c = true := by
  simp [AtEntry]

end CallerStubs.Yaml
