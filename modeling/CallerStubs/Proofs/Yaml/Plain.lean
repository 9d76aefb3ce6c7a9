/-
  Caller stubs — plain scalars are read back.

  * `readPlain_key`: a key is read up to its colon;
  * `IsPlain`: what holds of a text that may be written plainly;
  * `IsPlain.readPlain_eq`: such a text is read up to the end of its line, and
    with it the break.
-/
import CallerStubs.Proofs.Yaml.Character
import CallerStubs.Yaml.Plain

namespace CallerStubs.Yaml

variable {line column : Nat} {c : Char} {cs rest spacing : List Char}

/-! ## Keys -/

theorem readPlain_key {name : List Char} (h : ∀ c ∈ name, isKeyChar c = true)
    (indent line column : Nat) (rest : List Char) :
    readPlain false indent {} line column (name ++ ':' :: ' ' :: rest) =
      some ⟨name, ⟨':' :: ' ' :: rest, line, column + name.length⟩, false⟩ := by
  induction name generalizing column with
  | nil => rfl
  | cons c cs ih =>
    have hc := h c (List.mem_cons_self ..)
    have hmore := ih (fun d hd => h d (List.mem_cons_of_mem _ hd)) (column + 1)
    have hcolon : endsPlain false c (cs ++ ':' :: ' ' :: rest) = false := by
      simp [endsPlain, ne_of_isKeyChar hc (d := ':') (by decide)]
    have hlength : column + 1 + cs.length = column + (c :: cs).length := by
      rw [List.length_cons]
      omega
    rw [hlength] at hmore
    simp [readPlain, isBreak_of_isKeyChar hc, isSpacing_of_isKeyChar hc, Gap.present, hcolon,
      colonMisplaced, hmore, Gap.text]

/-! ## Texts -/

/-- The break behind a plain scalar is read with it. -/
theorem readPlain_break (hrest : AtEntry rest) :
    readPlain false 1 {} line column ('\n' :: rest) =
      some ⟨[], ⟨rest, line + 1, 0⟩, true⟩ := by
  cases rest with
  | nil => rfl
  | cons c cs =>
    have hc := atEntry_cons.1 hrest
    have hbreak : isBreak '\n' = true := by decide
    simp [readPlain, hbreak, isBreak_of_isKeyChar hc, isSpacing_of_isKeyChar hc, Gap.present,
      Gap.add, leavesPlain]

theorem readPlain_space :
    readPlain false 1 { spacing } line column (' ' :: cs) =
      readPlain false 1 { spacing := spacing ++ [' '] } line (column + 1) cs := by
  have hbreak : isBreak ' ' = false := by decide
  have hspacing : isSpacing ' ' = true := by decide
  simp [readPlain, hbreak, hspacing, Gap.add]

/-- A character of a word is read with the spaces before it.  There a `#` would
    begin a comment. -/
theorem readPlain_word (hcolumn : 0 < column) (hbreak : isBreak c = false)
    (hspacing : isSpacing c = false) (hcomment : spacing ≠ [] → c ≠ '#')
    (hgoesOn : endsPlain false c cs = false) :
    readPlain false 1 { spacing } line column (c :: cs) =
      (readPlain false 1 {} line (column + 1) cs).map fun p =>
        { p with text := spacing ++ c :: p.text } := by
  have hstays : (!spacing.isEmpty && leavesPlain false 1 column (c :: cs)) = false := by
    cases spacing with
    | nil => rfl
    | cons d ds =>
      have hne : column ≠ 0 := by omega
      simp [leavesPlain, hcomment (List.cons_ne_nil d ds), hne]
  cases hmore : readPlain false 1 {} line (column + 1) cs with
  | none =>
    simp [readPlain, hbreak, hspacing, Gap.present, hstays, hgoesOn, colonMisplaced, hmore]
  | some p =>
    simp [readPlain, hbreak, hspacing, Gap.present, hstays, hgoesOn, colonMisplaced, hmore,
      Gap.text]

/-- **A plain scalar is read up to the end of its line.**  `spacing` is what has
    been read since its last word, and `before` the character before `cs`. -/
theorem readPlain_rest (before : Char) (spacing : List Char) {cs : List Char} (column : Nat)
    (hcolumn : 0 < column) (hshown : ∀ c ∈ cs, isPlainlyShown c = true)
    (hbreak : ∀ c ∈ cs, isBreak c = false) (hinner : hasInnerIndicator (before :: cs) = false)
    (hspacing : spacing ≠ [] → before = ' ') (hspaces : ∀ c ∈ spacing, c = ' ')
    (hlast : (spacing ++ cs).getLast?.any isWhite = false) (hrest : AtEntry rest) :
    readPlain false 1 { spacing } line column (cs ++ '\n' :: rest) =
      some ⟨spacing ++ cs, ⟨rest, line + 1, 0⟩, true⟩ := by
  induction cs generalizing before spacing column with
  | nil =>
    -- nothing is left behind the last word
    rcases List.eq_nil_or_concat spacing with rfl | ⟨front, c, rfl⟩
    · exact readPlain_break hrest
    · have hc : c = ' ' := hspaces c (by simp)
      subst hc
      exact absurd hlast (by simp [isWhite])
  | cons c cs ih =>
    have hc := hshown c (List.mem_cons_self ..)
    have hnotBreak := hbreak c (List.mem_cons_self ..)
    have hshown' : ∀ d ∈ cs, isPlainlyShown d = true :=
      fun d hd => hshown d (List.mem_cons_of_mem _ hd)
    have hbreak' : ∀ d ∈ cs, isBreak d = false := fun d hd => hbreak d (List.mem_cons_of_mem _ hd)
    rw [hasInnerIndicator, Bool.or_eq_false_iff] at hinner
    obtain ⟨hindicator, hinner⟩ := hinner
    by_cases hspace : c = ' '
    · subst hspace
      have hmore := ih ' ' (spacing ++ [' ']) (column + 1) (by omega) hshown' hbreak' hinner
        (fun _ => rfl) (by simpa [or_imp, forall_and] using hspaces) (by simpa using hlast)
      rw [List.append_assoc] at hmore
      exact readPlain_space.trans hmore
    · have hnotSpacing : isSpacing c = false := by
        rw [isSpacing_eq hc]
        exact beq_eq_false_iff_ne.2 hspace
      simp only [indicatorBehind, Bool.or_eq_false_iff] at hindicator
      obtain ⟨hcolon, hcomment⟩ := hindicator
      have hnotComment : spacing ≠ [] → c ≠ '#' := by
        intro hne
        simpa [hspacing hne, blankAhead, isSpacing] using hcomment
      have hgoesOn : endsPlain false c (cs ++ '\n' :: rest) = false := by
        rw [endsPlain, blankAhead_append (by decide), hcolon]
        rfl
      have hlast' : cs.getLast?.any isWhite = false := by
        cases cs with
        | nil => rfl
        | cons d ds => simpa [List.getLast?_append, List.getLast?_cons] using hlast
      have hmore := ih c [] (column + 1) (by omega) hshown' hbreak' hinner
        (fun h => absurd rfl h) (by simp) hlast'
      rw [List.cons_append, readPlain_word hcolumn hnotBreak hnotSpacing hnotComment hgoesOn, hmore]
      rfl

/-- What holds of a text that may be written plainly. -/
structure IsPlain (cs : List Char) : Prop where
  shown : ∀ c ∈ cs, isPlainlyShown c = true
  oneLine : ∀ c ∈ cs, isBreak c = false
  first : cs.head?.any isWhite = false
  last : cs.getLast?.any isWhite = false
  firstIndicator : hasFirstIndicator cs = false
  innerIndicator : hasInnerIndicator cs = false

theorem isPlain_of_allowsPlain {cs : List Char} (h : allowsPlain cs = true) : IsPlain cs := by
  simp only [allowsPlain, Bool.and_eq_true, Bool.not_eq_true', List.all_eq_true,
    List.any_eq_false, Bool.not_eq_true] at h
  obtain ⟨⟨⟨⟨⟨hshown, hbreak⟩, hfirst⟩, hlast⟩, hfirstIndicator⟩, hinnerIndicator⟩ := h
  exact ⟨hshown, hbreak, hfirst, hlast, hfirstIndicator, hinnerIndicator⟩

/-- An indicator before white space does not begin a plain scalar. -/
theorem IsPlain.blankAhead_eq_false {c : Char} {cs : List Char} (h : IsPlain (c :: cs))
    (hc : c ∈ ['?', ':', '-']) : blankAhead cs = false := by
  have hfirst := h.firstIndicator
  simp only [hasFirstIndicator, Bool.or_eq_false_iff, Bool.and_eq_false_iff] at hfirst
  refine hfirst.2.2.resolve_left ?_
  simp only [List.mem_cons, List.not_mem_nil, or_false] at hc
  rcases hc with rfl | rfl | rfl <;> decide

/-- **A text that may be written plainly is read back.** -/
theorem IsPlain.readPlain_eq {cs : List Char} (h : IsPlain cs) (hcolumn : 0 < column)
    (hrest : AtEntry rest) (line : Nat) :
    readPlain false 1 {} line column (cs ++ '\n' :: rest) =
      some ⟨cs, ⟨rest, line + 1, 0⟩, true⟩ := by
  -- no indicator follows a letter before the text either
  have hinner : hasInnerIndicator ('a' :: cs) = false := by
    rw [hasInnerIndicator, h.innerIndicator, Bool.or_false]
    cases cs with
    | nil => rfl
    | cons c cs =>
      have hcolon : (c == ':' && blankAhead cs) = false := by
        by_cases hc : c = ':'
        · rw [h.blankAhead_eq_false (by simp [hc]), Bool.and_false]
        · rw [beq_eq_false_iff_ne.2 hc, Bool.false_and]
      have hletter : blankAhead ['a'] = false := by decide
      rw [indicatorBehind, hcolon, hletter, Bool.and_false, Bool.or_false]
  exact readPlain_rest 'a' [] column hcolumn h.shown h.oneLine hinner (fun hne => absurd rfl hne)
    (by simp) h.last hrest

end CallerStubs.Yaml
