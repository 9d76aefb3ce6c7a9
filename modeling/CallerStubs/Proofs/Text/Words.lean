/-
  Caller stubs — the words of a text.

  The words of a text hold its letters and digits in lowercase, in their order,
  and nothing else.  If no word is empty or holds an underscore, the
  underscores of a name in snake case stand between its words only; and words
  that are in lowercase already are found again in the name.

  * `isWordChar`, `lowered`: the characters that are kept, and what each becomes;
  * `flatten_words`: what the words of a text hold;
  * `filter_intercalate`, `underscores_intercalate`: what is left of words that
    are joined if the underscores are deleted, and where the underscores stand;
  * `words_intercalate`: words that are joined are found again.
-/
import CallerStubs.Proofs.Text.Apart
import CallerStubs.Text.SnakeCase
import Mathlib.Data.List.Basic
import Mathlib.Tactic.SplitIfs

namespace CallerStubs.Text

/-! ## Letters and digits -/

/-- A character that a name in snake case keeps. -/
def isWordChar (c : Char) : Bool :=
  isUpper c || isAlphanumeric c

/-- What becomes of a character that is kept. -/
def lowered (c : Char) : List Char :=
  if isUpper c then toLower c else [c]

/-- Reading on adds to the current word, or starts others, but loses nothing. -/
theorem flatten_splitWords (cs word : List Char) (afterLower : Bool) :
    (splitWords word afterLower cs).flatten = word ++ (cs.filter isWordChar).flatMap lowered := by
  induction cs generalizing word afterLower with
  | nil => simp [splitWords]
  | cons c cs ih =>
    rw [splitWords]
    split_ifs with hupper hafter halnum hsep
    · simp [ih, isWordChar, lowered, hupper]
    · simp [ih, isWordChar, lowered, hupper]
    · simp [ih, isWordChar, lowered, hupper, halnum]
    · simp [ih, isWordChar, hupper, halnum]
    · simp [ih, isWordChar, hupper, halnum]

/-- **The words of a text hold its letters and digits, in lowercase.** -/
theorem flatten_words (cs : List Char) :
    (words cs).flatten = (cs.filter isWordChar).flatMap lowered := by
  rw [words, List.flatten_filter_not_isEmpty, flatten_splitWords, List.nil_append]

theorem ne_nil_of_mem_words {cs w : List Char} (h : w ∈ words cs) : w ≠ [] := by
  simpa using (List.mem_filter.1 h).2

/-- Where the characters of the words come from. -/
theorem exists_lowered_of_mem_words {cs w : List Char} {x : Char} (hw : w ∈ words cs)
    (hx : x ∈ w) : ∃ c ∈ cs, isWordChar c = true ∧ x ∈ lowered c := by
  have hmem : x ∈ (words cs).flatten := List.mem_flatten.2 ⟨w, hw, hx⟩
  rw [flatten_words] at hmem
  obtain ⟨c, hc, hx⟩ := List.mem_flatMap.1 hmem
  obtain ⟨hc, hkept⟩ := List.mem_filter.1 hc
  exact ⟨c, hc, hkept, hx⟩

/-! ## Joined words -/

theorem mem_intercalate {α : Type} {separator : List α} {x : α} :
    ∀ {ls : List (List α)}, x ∈ separator.intercalate ls → x ∈ separator ∨ ∃ l ∈ ls, x ∈ l
  | [], h => by simp at h
  | [l], h => .inr ⟨l, by simp, by simpa using h⟩
  | l :: l' :: ls, h => by
    rw [List.intercalate_cons_cons, List.mem_append, List.mem_append] at h
    rcases h with (h | h) | h
    · exact .inr ⟨l, List.mem_cons_self .., h⟩
    · exact .inl h
    · refine (mem_intercalate h).imp_right ?_
      rintro ⟨m, hm, hx⟩
      exact ⟨m, List.mem_cons_of_mem _ hm, hx⟩

theorem filter_of_notMem {w : List Char} (h : '_' ∉ w) : w.filter (· ≠ '_') = w := by
  refine List.filter_eq_self.2 fun c hc => ?_
  simpa using fun hunderscore : c = '_' => h (hunderscore ▸ hc)

/-- Nothing but the words is left if the underscores between them are deleted. -/
theorem filter_intercalate : ∀ {ws : List (List Char)}, (∀ w ∈ ws, '_' ∉ w) →
    (['_'].intercalate ws).filter (· ≠ '_') = ws.flatten
  | [], _ => by simp
  | [w], h => by simpa using filter_of_notMem (h w (List.mem_cons_self ..))
  | w :: v :: ws, h => by
    rw [List.intercalate_cons_cons, List.filter_append, List.filter_append,
      filter_of_notMem (h w (List.mem_cons_self ..)),
      filter_intercalate fun u hu => h u (List.mem_cons_of_mem _ hu)]
    simp

/-- Underscores stand neither at an end of the text nor side by side. -/
structure UnderscoresWithin (cs : List Char) : Prop where
  leading : cs.head? ≠ some '_'
  trailing : cs.getLast? ≠ some '_'
  doubled : Apart '_' cs

theorem underscoresWithin_of_notMem {cs : List Char} (h : '_' ∉ cs) : UnderscoresWithin cs where
  leading hhead := h (List.mem_of_head? hhead)
  trailing hlast := h (List.mem_of_getLast? hlast)
  doubled := apart_of_notMem h

theorem UnderscoresWithin.join {cs ds : List Char} (hcs : UnderscoresWithin cs)
    (hds : UnderscoresWithin ds) (hcs' : cs ≠ []) (hds' : ds ≠ []) :
    UnderscoresWithin (cs ++ ['_'] ++ ds) := by
  have hfront : Apart '_' (cs ++ ['_']) :=
    hcs.doubled.append apart_singleton fun hlast => absurd hlast hcs.trailing
  refine ⟨?_, ?_, hfront.append hds.doubled fun _ => hds.leading⟩
  · rw [List.append_assoc, List.head?_append_of_ne_nil _ hcs']
    exact hcs.leading
  · rw [List.getLast?_append_of_ne_nil _ hds']
    exact hds.trailing

/-- **Underscores stand between words only.** -/
theorem underscoresWithin_intercalate : ∀ {ws : List (List Char)},
    (∀ w ∈ ws, w ≠ [] ∧ '_' ∉ w) → UnderscoresWithin (['_'].intercalate ws)
  | [], _ => underscoresWithin_of_notMem (by simp)
  | [w], h => underscoresWithin_of_notMem (by simpa using (h w (List.mem_cons_self ..)).2)
  | w :: v :: ws, h => by
    obtain ⟨hne, hw⟩ := h w (List.mem_cons_self ..)
    have hrest : ∀ u ∈ v :: ws, u ≠ [] ∧ '_' ∉ u := fun u hu => h u (List.mem_cons_of_mem _ hu)
    have hjoined : ['_'].intercalate (v :: ws) ≠ [] := by
      have hv : v ≠ [] := (hrest v (List.mem_cons_self ..)).1
      cases ws with
      | nil => simpa using hv
      | cons u us => simp [List.intercalate_cons_cons]
    rw [List.intercalate_cons_cons]
    exact (underscoresWithin_of_notMem hw).join (underscoresWithin_intercalate hrest) hne hjoined

/-! ## Words that are found again -/

/-- Snake case leaves the character as it is. -/
def Settled (c : Char) : Prop :=
  isUpper c = false ∧ isAlphanumeric c = true

/-- Where nothing changes, words end at the underscores. -/
theorem splitWords_eq_splitOn {cs : List Char} (h : ∀ c ∈ cs, Settled c ∨ c = '_')
    (word : List Char) (afterLower : Bool) :
    splitWords word afterLower cs = (cs.splitOn '_').modifyHead (word ++ ·) := by
  induction cs generalizing word afterLower with
  | nil => simp [splitWords]
  | cons c cs ih =>
    have hcs : ∀ d ∈ cs, Settled d ∨ d = '_' := fun d hd => h d (List.mem_cons_of_mem _ hd)
    obtain ⟨part, parts, hparts⟩ := List.exists_cons_of_ne_nil (List.splitOn_ne_nil '_' cs)
    rw [splitWords, List.splitOn_cons_eq_if_modifyHead]
    rcases h c (List.mem_cons_self ..) with ⟨hupper, halnum⟩ | rfl
    · have hne : c ≠ '_' := by
        rintro rfl
        exact absurd halnum (by decide)
      simp [hupper, halnum, hne, ih hcs, hparts]
    · have hsep : isUpper '_' = false ∧ isAlphanumeric '_' = false ∧ isSeparator '_' = true := by
        decide
      simp [hsep, ih hcs, hparts]

/-- **Words that are in snake case are found again** if they are joined. -/
theorem words_intercalate {ws : List (List Char)}
    (h : ∀ w ∈ ws, w ≠ [] ∧ ∀ c ∈ w, Settled c) : words (['_'].intercalate ws) = ws := by
  rcases eq_or_ne ws [] with rfl | hws
  · rfl
  have hunderscore : ∀ w ∈ ws, '_' ∉ w := by
    intro w hw hmem
    exact absurd ((h w hw).2 '_' hmem).2 (by decide)
  have hjoined : ∀ c ∈ ['_'].intercalate ws, Settled c ∨ c = '_' := by
    intro c hc
    rcases mem_intercalate hc with hc | ⟨w, hw, hc⟩
    · exact .inr (List.mem_singleton.1 hc)
    · exact .inl ((h w hw).2 c hc)
  have hkept : ws.filter (!·.isEmpty) = ws := List.filter_eq_self.2 fun w hw => by
    simpa using (h w hw).1
  have hhead : ws.modifyHead ([] ++ ·) = ws := by cases ws <;> rfl
  rw [words, splitWords_eq_splitOn hjoined, List.splitOn_intercalate '_' hunderscore hws, hhead,
    hkept]

end CallerStubs.Text
