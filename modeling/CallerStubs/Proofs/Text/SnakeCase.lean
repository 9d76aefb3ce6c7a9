/-
  Caller stubs — the form of a name in snake case.

  Apart from the underscores, the characters of a name in snake case are the
  lowercase mappings of its uppercase characters, and its other letters and
  digits.  Below the letter `a` there are only letters and digits among them,
  so no letter becomes an underscore, and the underscores of the name are those
  between its words.

  * `le_of_mem_toLower`: the lowercase mapping of an uppercase character holds
    nothing below `a`;
  * `mem_snakeChars`, `filter_snakeChars`: where the characters of a name in
    snake case come from, and what is left if its underscores are deleted;
  * `notMem_snakeCase`: slashes, dots and the like are not among them;
  * `snakeChars_snakeChars`: a name in snake case stays as it is, if it was made
    from ASCII;
  * `IsSnakeForm`, `snakeCase_isSnakeForm`: the form of every name.
-/
import CallerStubs.Proofs.Text.Words

namespace CallerStubs.Text

/-! ## Lowercase mappings -/

/-- The shifts lead to characters, none of them below `a`. -/
theorem lowerShifts_bounds : ∀ s ∈ lowerShifts, 0x61 ≤ s.span.first + s.offset ∧
    (s.span.last + s.offset < 0xD800 ∨
      0xDFFF < s.span.first + s.offset ∧ s.span.last + s.offset < 0x110000) := by
  decide +kernel

theorem le_shifted_lowerShifts {c : Char} (hc : 0x80 ≤ c.toNat) :
    0x61 ≤ (shifted lowerShifts c).toNat := by
  unfold shifted
  split
  · next s hs =>
    obtain ⟨hlow, hchar⟩ := lowerShifts_bounds s (List.mem_of_find?_eq_some hs)
    have hspan := List.find?_some hs
    simp only [Span.contains, Bool.and_eq_true, decide_eq_true_eq] at hspan
    have hvalid : (c.toNat + s.offset).toNat.isValidChar := by
      unfold Nat.isValidChar
      omega
    -- the character of a valid code point has this code point
    rw [Shift.apply, Char.ofNat, dif_pos hvalid]
    change 0x61 ≤ (c.toNat + s.offset).toNat
    omega
  · omega

theorem le_of_mem_lowerExpansions :
    ∀ e ∈ lowerExpansions, ∀ n ∈ e.2, 0x61 ≤ (Char.ofNat n).toNat := by
  decide

theorem mem_of_lookup {expansions : List (Nat × List Nat)} {n : Nat} {ns : List Nat}
    (h : expansions.lookup n = some ns) : (n, ns) ∈ expansions := by
  obtain ⟨pre, post, hsplit, -⟩ := List.lookup_eq_some_iff.1 h
  simp [hsplit]

theorem le_toLower_ascii : ∀ n < 0x80, (Char.ofNat n).isUpper = true →
    0x61 ≤ (Char.ofNat n).toLower.toNat := by
  decide

/-- **Nothing below `a` is in the lowercase mapping of an uppercase
    character.** -/
theorem le_of_mem_toLower {c x : Char} (hc : isUpper c = true) (hx : x ∈ toLower c) :
    0x61 ≤ x.toNat := by
  unfold toLower at hx
  split_ifs at hx with hascii
  · rw [isUpper_ascii hascii] at hc
    have h := le_toLower_ascii c.toNat hascii
    rw [Char.ofNat_toNat] at h
    rw [List.mem_singleton.1 hx]
    exact h hc
  · unfold caseMapped at hx
    split at hx
    · next ns hns =>
      obtain ⟨n, hn, rfl⟩ := List.mem_map.1 hx
      exact le_of_mem_lowerExpansions _ (mem_of_lookup hns) n hn
    · rw [List.mem_singleton.1 hx]
      exact le_shifted_lowerShifts (by omega)

/-! ## Characters -/

/-- The character is made by the snake case of a text: it is in the lowercase
    mapping of an uppercase character, or another letter or digit. -/
def MadeFrom (cs : List Char) (x : Char) : Prop :=
  (∃ c ∈ cs, isUpper c = true ∧ x ∈ toLower c) ∨ (x ∈ cs ∧ isAlphanumeric x = true)

/-- **Where the characters of a name in snake case come from.** -/
theorem mem_snakeChars {cs : List Char} {x : Char} (h : x ∈ snakeChars cs) :
    x = '_' ∨ MadeFrom cs x := by
  rcases mem_intercalate h with h | ⟨w, hw, hx⟩
  · exact .inl (List.mem_singleton.1 h)
  · obtain ⟨c, hc, hkept, hx⟩ := exists_lowered_of_mem_words hw hx
    refine .inr ?_
    unfold lowered at hx
    split_ifs at hx with hupper
    · exact .inl ⟨c, hc, hupper, hx⟩
    · rw [List.mem_singleton.1 hx]
      exact .inr ⟨hc, by simpa [isWordChar, hupper] using hkept⟩

/-- **A character below `a` that is neither a letter nor a digit nor an
    underscore is in no name in snake case.** -/
theorem notMem_snakeCase {x : Char} (hlow : x.toNat < 0x61) (hne : x ≠ '_')
    (halnum : isAlphanumeric x = false) (s : String) : x ∉ (snakeCase s).toList := by
  rw [snakeCase, String.toList_ofList]
  intro h
  rcases mem_snakeChars h with h | ⟨c, -, hupper, hx⟩ | ⟨-, hmade⟩
  · exact hne h
  · exact absurd (le_of_mem_toLower hupper hx) (Nat.not_le.2 hlow)
  · rw [halnum] at hmade
    cases hmade

/-! ## Underscores -/

theorem toLower_ne_nil (c : Char) : toLower c ≠ [] := by
  have hexpansions : ∀ e ∈ lowerExpansions, e.2 ≠ [] := by decide
  unfold toLower caseMapped
  split_ifs
  · simp
  · split
    · next ns hns =>
      simpa using hexpansions _ (mem_of_lookup hns)
    · simp

theorem lowered_ne_nil (c : Char) : lowered c ≠ [] := by
  unfold lowered
  split_ifs
  · exact toLower_ne_nil c
  · simp

/-- No letter or digit becomes an underscore. -/
theorem underscore_notMem_lowered {c : Char} (h : isWordChar c = true) : '_' ∉ lowered c := by
  unfold lowered
  split_ifs with hupper
  · intro hmem
    exact absurd (le_of_mem_toLower hupper hmem) (by decide)
  · rw [List.mem_singleton]
    rintro rfl
    exact absurd h (by decide)

/-- No word is empty or holds an underscore. -/
theorem ne_nil_and_underscore_notMem {cs w : List Char} (hw : w ∈ words cs) :
    w ≠ [] ∧ '_' ∉ w := by
  refine ⟨ne_nil_of_mem_words hw, fun hmem => ?_⟩
  obtain ⟨c, -, hkept, hx⟩ := exists_lowered_of_mem_words hw hmem
  exact underscore_notMem_lowered hkept hx

/-- The underscores apart, a name in snake case holds the letters and digits. -/
theorem filter_snakeChars (cs : List Char) :
    (snakeChars cs).filter (· ≠ '_') = (cs.filter isWordChar).flatMap lowered := by
  rw [snakeChars, filter_intercalate fun w hw => (ne_nil_and_underscore_notMem hw).2,
    flatten_words]

theorem underscoresWithin_snakeChars (cs : List Char) : UnderscoresWithin (snakeChars cs) :=
  underscoresWithin_intercalate fun _ hw => ne_nil_and_underscore_notMem hw

/-- Nothing is left of a text without letters and digits only. -/
theorem snakeChars_eq_nil_iff {cs : List Char} :
    snakeChars cs = [] ↔ ∀ c ∈ cs, isWordChar c = false := by
  constructor
  · intro h c hc
    have hletters := filter_snakeChars cs
    rw [h, List.filter_nil, eq_comm, List.flatMap_eq_nil_iff] at hletters
    by_contra hkept
    rw [Bool.not_eq_false] at hkept
    exact lowered_ne_nil c (hletters c (List.mem_filter.2 ⟨hc, hkept⟩))
  · intro h
    have hnone : cs.filter isWordChar = [] := List.filter_eq_nil_iff.2 fun c hc => by simp [h c hc]
    have hletters := filter_snakeChars cs
    rw [hnone, List.flatMap_nil, List.filter_eq_nil_iff] at hletters
    -- a first character would be an underscore
    cases hsnake : snakeChars cs with
    | nil => rfl
    | cons c rest =>
      have hc : c = '_' := by simpa using hletters c (hsnake ▸ List.mem_cons_self ..)
      exact absurd (by rw [hsnake, hc]; rfl) (underscoresWithin_snakeChars cs).leading

/-! ## Names in ASCII -/

/-- A lowercase letter or a digit of ASCII. -/
def IsPlainLetter (x : Char) : Prop :=
  ('a' ≤ x ∧ x ≤ 'z') ∨ ('0' ≤ x ∧ x ≤ '9')

/-- A lowercase letter or a digit of ASCII, by its code. -/
def isPlainCode (n : Nat) : Bool :=
  (decide (0x61 ≤ n) && decide (n ≤ 0x7A)) || (decide (0x30 ≤ n) && decide (n ≤ 0x39))

theorem isPlainLetter_of_isPlainCode {x : Char} (h : isPlainCode x.toNat = true) :
    IsPlainLetter x := by
  have hcode : (0x61 ≤ x.toNat ∧ x.toNat ≤ 0x7A) ∨ (0x30 ≤ x.toNat ∧ x.toNat ≤ 0x39) := by
    simpa only [isPlainCode, Bool.or_eq_true, Bool.and_eq_true, decide_eq_true_eq] using h
  exact hcode

theorem all_lowered_ascii : ∀ n < 0x80, isWordChar (Char.ofNat n) = true →
    (lowered (Char.ofNat n)).all (fun x =>
      isPlainCode x.toNat && (!isUpper x && isAlphanumeric x)) = true := by
  decide

variable {cs : List Char}

theorem mem_words_ascii (hascii : ∀ c ∈ cs, c.toNat < 0x80) {w : List Char} (hw : w ∈ words cs) :
    ∀ x ∈ w, IsPlainLetter x ∧ Settled x := by
  intro x hx
  obtain ⟨c, hc, hkept, hx⟩ := exists_lowered_of_mem_words hw hx
  have hall := all_lowered_ascii c.toNat (hascii c hc)
  rw [Char.ofNat_toNat] at hall
  have h := List.all_eq_true.1 (hall hkept) x hx
  simp only [Bool.and_eq_true, Bool.not_eq_true'] at h
  exact ⟨isPlainLetter_of_isPlainCode h.1, h.2⟩

theorem mem_snakeChars_ascii (hascii : ∀ c ∈ cs, c.toNat < 0x80) :
    ∀ x ∈ snakeChars cs, IsPlainLetter x ∨ x = '_' := by
  intro x hx
  rcases mem_intercalate hx with hx | ⟨w, hw, hx⟩
  · exact .inr (List.mem_singleton.1 hx)
  · exact .inl (mem_words_ascii hascii hw x hx).1

/-- A name in snake case has the words of the text it is made from. -/
theorem snakeChars_snakeChars (hascii : ∀ c ∈ cs, c.toNat < 0x80) :
    snakeChars (snakeChars cs) = snakeChars cs := by
  have hwords : words (snakeChars cs) = words cs := words_intercalate fun w hw =>
    ⟨ne_nil_of_mem_words hw, fun x hx => (mem_words_ascii hascii hw x hx).2⟩
  rw [snakeChars, hwords, snakeChars]

/-- Beyond ASCII a lowercase mapping may hold a mark that is no letter. -/
example : snakeCase "İ" = "i\u0307" ∧ snakeCase "i\u0307" = "i" := by decide +kernel

/-! ## The form of a name -/

/-- **The name `t` is the text `s` in snake case.**  Its underscores stand
    between its letters and digits, and these are the letters and digits of
    `s`, with its uppercase characters in lowercase.  If `s` is in ASCII, the
    name is in snake case for good, and has the include guard of `s`. -/
structure IsSnakeForm (s t : String) : Prop where
  leading : t.toList.head? ≠ some '_'
  trailing : t.toList.getLast? ≠ some '_'
  doubled : ¬ ['_', '_'] <:+: t.toList
  letters : t.toList.filter (· ≠ '_') = (s.toList.filter isWordChar).flatMap lowered
  empty_iff : t = "" ↔ ∀ c ∈ s.toList, isWordChar c = false
  plain : (∀ c ∈ s.toList, c.toNat < 0x80) → ∀ x ∈ t.toList, IsPlainLetter x ∨ x = '_'
  again : (∀ c ∈ s.toList, c.toNat < 0x80) → snakeCase t = t
  guard_eq : (∀ c ∈ s.toList, c.toNat < 0x80) → headerGuard s = headerGuard t

/-- **The form of every name in snake case.** -/
theorem snakeCase_isSnakeForm (s : String) : IsSnakeForm s (snakeCase s) := by
  have htext : (snakeCase s).toList = snakeChars s.toList := String.toList_ofList
  have hwithin := underscoresWithin_snakeChars s.toList
  refine ⟨?leading, ?trailing, ?doubled, ?letters, ?empty, ?plain, ?again, ?guard⟩
  case leading => rw [htext]; exact hwithin.leading
  case trailing => rw [htext]; exact hwithin.trailing
  case doubled => rw [htext]; exact hwithin.doubled
  case letters => rw [htext]; exact filter_snakeChars s.toList
  case empty => rw [← String.toList_eq_nil_iff, htext, snakeChars_eq_nil_iff]
  case plain => rw [htext]; exact mem_snakeChars_ascii
  case again =>
    intro hascii
    rw [snakeCase, htext, snakeChars_snakeChars hascii]
    rfl
  case guard =>
    intro hascii
    rw [headerGuard, headerGuard, htext, snakeChars_snakeChars hascii]

/-- A name with separators of all kinds, doubled ones and one at the end. -/
theorem hmiProxy_isSnakeForm :
    (∀ c ∈ "Qt  HMI-proxy!Call__V2_".toList, c.toNat < 0x80) ∧
      snakeCase "Qt  HMI-proxy!Call__V2_" = "qt_hmi_proxy_call_v2" ∧
      snakeCase "qt_hmi_proxy_call_v2" = "qt_hmi_proxy_call_v2" ∧
      headerGuard "Qt  HMI-proxy!Call__V2_" = headerGuard "qt_hmi_proxy_call_v2" := by
  have hall : ("Qt  HMI-proxy!Call__V2_".toList.all fun c => decide (c.toNat < 0x80)) = true := by
    decide
  have hascii : ∀ c ∈ "Qt  HMI-proxy!Call__V2_".toList, c.toNat < 0x80 := by
    simpa only [List.all_eq_true, decide_eq_true_eq] using hall
  have hsnake : snakeCase "Qt  HMI-proxy!Call__V2_" = "qt_hmi_proxy_call_v2" := by
    decide +kernel
  have h := snakeCase_isSnakeForm "Qt  HMI-proxy!Call__V2_"
  rw [hsnake] at h
  exact ⟨hascii, hsnake, h.again hascii, h.guard_eq hascii⟩

end CallerStubs.Text
