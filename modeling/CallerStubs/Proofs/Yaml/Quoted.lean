/-
  Caller stubs — quoted scalars are read back.

  * `IsSingleQuoted`, `readSingleQuoted_body`: a text that may be written
    between single quotes is read up to the closing quote;
  * `number?_hexPadded`: the number of an escape is read back;
  * `readDoubleQuoted_flatMap`: every text is read back from between double
    quotes.
-/
import CallerStubs.Proofs.Text.Number
import CallerStubs.Proofs.Yaml.Character
import CallerStubs.Yaml.Quoted
import Mathlib.Algebra.Group.Nat.Defs
import Mathlib.Tactic.SplitIfs

namespace CallerStubs.Yaml

variable {gap : Gap} {line column : Nat} {c : Char} {cs rest : List Char}

/-! ## Single quotes -/

/-- **What a text between single quotes may be**, behind what has been read as
    `gap`: spaces and breaks are no neighbours, and a line feed is no break of
    it, as it would be folded. -/
structure IsSingleQuoted (gap : Gap) (cs : List Char) : Prop where
  shown : ∀ c ∈ cs, isPlainlyShown c = true
  noFeed : '\n' ∉ cs
  /-- No break follows a space. -/
  spaceBreak : hasNeighbours (· == ' ') isBreak cs = false
  /-- No space follows a break. -/
  breakSpace : hasNeighbours isBreak (· == ' ') cs = false
  afterSpace : gap.spacing ≠ [] → cs.head?.any isBreak = false
  afterBreak : gap.broken = true → cs.head?.any (· == ' ') = false
  firstBreak : gap.broken = true → ∃ b, gap.first = some b ∧ b ≠ '\n'

namespace IsSingleQuoted

/-- What holds of the rest of a text, whatever is read as the gap before it. -/
theorem tail {gap' : Gap} (h : IsSingleQuoted gap (c :: cs))
    (hspace : gap'.spacing ≠ [] → c = ' ') (hbroken : gap'.broken = true → isBreak c = true)
    (hfirst : gap'.broken = true → ∃ b, gap'.first = some b ∧ b ≠ '\n') :
    IsSingleQuoted gap' cs := by
  have hspaceBreak := h.spaceBreak
  have hbreakSpace := h.breakSpace
  rw [hasNeighbours_cons, Bool.or_eq_false_iff, Bool.and_eq_false_iff] at hspaceBreak hbreakSpace
  refine ⟨fun d hd => h.shown d (List.mem_cons_of_mem _ hd), fun hmem => h.noFeed (by simp [hmem]),
    hspaceBreak.2, hbreakSpace.2, fun hne => ?_, fun hbroken' => ?_, hfirst⟩
  · exact hspaceBreak.1.resolve_left (by simp [hspace hne])
  · exact hbreakSpace.1.resolve_left (by simp [hbroken hbroken'])

theorem add_break (h : IsSingleQuoted gap (c :: cs)) (hc : isBreak c = true) :
    IsSingleQuoted (gap.add c) cs ∧ (gap.add c).broken = true ∧
      (gap.add c).text = gap.text ++ [c] := by
  have hfeed : c ≠ '\n' := by
    rintro rfl
    exact h.noFeed (List.mem_cons_self ..)
  cases hbroken : gap.broken with
  | true =>
    obtain ⟨b, hb, hbfeed⟩ := h.firstBreak hbroken
    have hadd : gap.add c = { gap with later := gap.later ++ [c] } := by simp [Gap.add, hc, hbroken]
    rw [hadd]
    refine ⟨h.tail (fun hne => ?_) (fun _ => hc) fun _ => ⟨b, hb, hbfeed⟩, hbroken, ?_⟩
    · have hhead := h.afterSpace hne
      simp [hc] at hhead
    · simp [Gap.text, hbroken, hb]
  | false =>
    -- no spacing comes before a break
    have hspacing : gap.spacing = [] := by
      cases hspacing : gap.spacing with
      | nil => rfl
      | cons d ds =>
        have hhead := h.afterSpace (by simp [hspacing])
        simp [hc] at hhead
    have hadd : gap.add c = { broken := true, first := some c } := by simp [Gap.add, hc, hbroken]
    rw [hadd]
    refine ⟨h.tail (fun hne => absurd rfl hne) (fun _ => hc) fun _ => ⟨c, rfl, hfeed⟩, rfl, ?_⟩
    simp [Gap.text, hbroken, hspacing]

theorem add_space (h : IsSingleQuoted gap (' ' :: cs)) :
    gap.broken = false ∧ IsSingleQuoted (gap.add ' ') cs ∧ (gap.add ' ').broken = false ∧
      (gap.add ' ').text = gap.text ++ [' '] := by
  have hbreak : isBreak ' ' = false := by decide
  have hbroken : gap.broken = false := by
    cases hbroken : gap.broken with
    | false => rfl
    | true =>
      have hhead := h.afterBreak hbroken
      simp at hhead
  have hadd : gap.add ' ' = { gap with spacing := gap.spacing ++ [' '] } := by
    simp [Gap.add, hbreak, hbroken]
  rw [hadd]
  refine ⟨hbroken, h.tail (fun _ => rfl) (fun htrue => ?_) (fun htrue => ?_), hbroken, ?_⟩
  · exact absurd htrue (by simp [hbroken])
  · exact absurd htrue (by simp [hbroken])
  · simp [Gap.text, hbroken]

theorem word (h : IsSingleQuoted gap (c :: cs)) : IsSingleQuoted {} cs :=
  h.tail (fun hne => absurd rfl hne) (fun htrue => nomatch htrue) fun htrue => nomatch htrue

end IsSingleQuoted

section SingleQuotes

theorem readSingleQuoted_break (hc : isBreak c = true) :
    readSingleQuoted gap line column (c :: cs) = readSingleQuoted (gap.add c) (line + 1) 0 cs := by
  rw [readSingleQuoted.eq_def]
  exact if_pos hc

theorem readSingleQuoted_space :
    readSingleQuoted gap line column (' ' :: cs) =
      readSingleQuoted (gap.add ' ') line (column + 1) cs := by
  have hbreak : isBreak ' ' = false := by decide
  have hspacing : isSpacing ' ' = true := by decide
  rw [readSingleQuoted.eq_def]
  simp [hbreak, hspacing]

theorem readSingleQuoted_word (hbreak : isBreak c = false) (hspacing : isSpacing c = false)
    (hquote : c ≠ '\x27') (hcolumn : 0 < column) :
    readSingleQuoted gap line column (c :: cs) =
      (readSingleQuoted {} line (column + 1) cs).map (·.behind (gap.text ++ [c])) := by
  have hne : column ≠ 0 := by omega
  rw [readSingleQuoted.eq_def]
  simp [hbreak, hspacing, hquote, hne]

theorem readSingleQuoted_quote (hcolumn : 0 < column) :
    readSingleQuoted gap line column ('\x27' :: '\x27' :: cs) =
      (readSingleQuoted {} line (column + 2) cs).map (·.behind (gap.text ++ ['\x27'])) := by
  have hne : column ≠ 0 := by omega
  have hbreak : isBreak '\x27' = false := by decide
  have hspacing : isSpacing '\x27' = false := by decide
  rw [readSingleQuoted.eq_def]
  simp [hbreak, hspacing, hne]

theorem readSingleQuoted_end (hcolumn : 0 < column) :
    readSingleQuoted gap line column ('\x27' :: '\n' :: rest) =
      some ⟨gap.text, ⟨'\n' :: rest, line, column + 1⟩⟩ := by
  have hne : column ≠ 0 := by omega
  have hbreak : isBreak '\x27' = false := by decide
  have hspacing : isSpacing '\x27' = false := by decide
  rw [readSingleQuoted.eq_def]
  simp [hbreak, hspacing, hne]

/-- The indentation of a line is passed over. -/
theorem exists_readSingleQuoted_indented (line : Nat) (hcolumn : 0 < column ∨ gap.broken = true)
    (cs : List Char) :
    ∃ column', 0 < column' ∧
      readSingleQuoted gap line column ((if gap.broken then lineIndent else []) ++ cs) =
        readSingleQuoted gap line column' cs := by
  cases h : gap.broken with
  | false => exact ⟨column, by simpa [h] using hcolumn, rfl⟩
  | true =>
    have hadd : gap.add ' ' = gap := by
      have hbreak : isBreak ' ' = false := by decide
      simp [Gap.add, hbreak, h]
    refine ⟨column + 1 + 1, by omega, ?_⟩
    change readSingleQuoted gap line column (' ' :: ' ' :: cs) = _
    rw [readSingleQuoted_space, hadd, readSingleQuoted_space, hadd]

/-- **A text between single quotes is read back**, up to the closing quote. -/
theorem readSingleQuoted_body (line column : Nat) (h : IsSingleQuoted gap cs)
    (hcolumn : 0 < column ∨ gap.broken = true) (rest : List Char) :
    ∃ place, place.rest = '\n' :: rest ∧
      readSingleQuoted gap line column (singleQuotedBody gap.broken cs ++ '\n' :: rest) =
        some ⟨gap.text ++ cs, place⟩ := by
  induction cs generalizing gap line column with
  | nil =>
    obtain ⟨column', hpos, hindented⟩ :=
      exists_readSingleQuoted_indented line hcolumn ('\x27' :: '\n' :: rest)
    refine ⟨⟨'\n' :: rest, line, column' + 1⟩, rfl, ?_⟩
    rw [singleQuotedBody, List.append_assoc, List.append_nil]
    exact hindented.trans (readSingleQuoted_end hpos)
  | cons c cs ih =>
    have hshown := h.shown c (List.mem_cons_self ..)
    cases hbreak : isBreak c with
    | true =>
      obtain ⟨hnext, hbroken, htext⟩ := h.add_break hbreak
      obtain ⟨place, hplace, hread⟩ := ih (line + 1) 0 hnext (.inr hbroken)
      refine ⟨place, hplace, ?_⟩
      rw [hbroken, htext, List.append_assoc] at hread
      rw [singleQuotedBody, if_pos hbreak, List.cons_append, readSingleQuoted_break hbreak, hread]
      rfl
    | false =>
      rw [singleQuotedBody, if_neg (by simp [hbreak]), List.append_assoc, List.append_assoc]
      obtain ⟨column', hpos, hindented⟩ := exists_readSingleQuoted_indented line hcolumn
        ((if c = '\x27' then [c, c] else [c]) ++ (singleQuotedBody false cs ++ '\n' :: rest))
      rw [hindented]
      by_cases hspace : c = ' '
      · subst hspace
        obtain ⟨-, hnext, hbroken, htext⟩ := h.add_space
        obtain ⟨place, hplace, hread⟩ := ih line (column' + 1) hnext (.inl (by omega))
        refine ⟨place, hplace, ?_⟩
        rw [hbroken, htext, List.append_assoc] at hread
        exact readSingleQuoted_space.trans hread
      · have hspacing : isSpacing c = false := by
          rw [isSpacing_eq hshown]
          exact beq_eq_false_iff_ne.2 hspace
        by_cases hquote : c = '\x27'
        · subst hquote
          obtain ⟨place, hplace, hread⟩ := ih line (column' + 2) h.word (.inl (by omega))
          refine ⟨place, hplace, ?_⟩
          change readSingleQuoted gap line column'
            ('\x27' :: '\x27' :: (singleQuotedBody false cs ++ '\n' :: rest)) = _
          rw [readSingleQuoted_quote hpos, hread]
          simp [QuotedScalar.behind, Gap.text]
        · obtain ⟨place, hplace, hread⟩ := ih line (column' + 1) h.word (.inl (by omega))
          refine ⟨place, hplace, ?_⟩
          rw [if_neg hquote, List.singleton_append,
            readSingleQuoted_word hbreak hspacing hquote hpos, hread]
          simp [QuotedScalar.behind, Gap.text]

end SingleQuotes

/-! ## Numbers of escapes -/

theorem digitValue?_hexDigitUpper : ∀ d < 16, Text.digitValue? 16 (hexDigitUpper d) = some d := by
  decide

theorem digitsFrom?_hexPadded {width n : Nat} (h : n < 16 ^ width) (value : Nat) :
    Text.digitsFrom? 16 value (hexPadded width n) = some (value * 16 ^ width + n) := by
  induction width generalizing n value with
  | zero =>
    have hzero : n = 0 := by simpa using h
    simp [hexPadded, Text.digitsFrom?, hzero]
  | succ width ih =>
    have hfront : n / 16 < 16 ^ width := by
      rw [Nat.pow_succ] at h
      omega
    have hvalue : (value * 16 ^ width + n / 16) * 16 + n % 16 = value * 16 ^ (width + 1) + n := by
      rw [Nat.pow_succ, ← Nat.mul_assoc]
      omega
    have hlast := digitValue?_hexDigitUpper (n % 16) (Nat.mod_lt n (by omega))
    rw [hexPadded, Text.digitsFrom?_append, ih hfront, Option.bind_some]
    simp only [Text.digitsFrom?, hlast, hvalue]

/-- **The number of an escape is read back.** -/
theorem number?_hexPadded {width n : Nat} (h : n < 16 ^ (width + 1)) :
    Text.number? 16 (hexPadded (width + 1) n) = some n := by
  have hdigits := digitsFrom?_hexPadded h 0
  have hne : hexPadded (width + 1) n ≠ [] := by simp [hexPadded]
  obtain ⟨d, ds, hcons⟩ := List.exists_cons_of_ne_nil hne
  rw [Nat.zero_mul, Nat.zero_add] at hdigits
  rw [hcons] at hdigits ⊢
  exact hdigits

theorem numberedChar?_hexPadded (width : Nat) (h : c.toNat < 16 ^ (width + 1)) :
    numberedChar? (hexPadded (width + 1) c.toNat) = some c := by
  have hvalid : c.toNat.isValidChar := c.valid
  simp [numberedChar?, number?_hexPadded h, hvalid, Char.ofNat_toNat]

/-! ## Double quotes -/

theorem ne_of_escapeLetter?_eq_none {d : Char} (h : escapeLetter? c = none)
    (hd : (escapeLetter? d).isSome) : c ≠ d := by
  rintro rfl
  rw [h] at hd
  cases hd

section DoubleQuotes

/-- What is read at a character, up to what a backslash leads to. -/
theorem exists_readDoubleQuoted_cons (gap : Gap) (line column : Nat) (c : Char) (cs : List Char) :
    ∃ escaped, readDoubleQuoted gap line column (c :: cs) =
      if isBreak c then readDoubleQuoted (gap.add c) (line + 1) 0 cs
      else if isSpacing c then readDoubleQuoted (gap.add c) line (column + 1) cs
      else if column = 0 ∧ startsMarker (c :: cs) then none
      else if c = '"' then some ⟨gap.text, ⟨cs, line, column + 1⟩⟩
      else if c = '\\' then escaped
      else (readDoubleQuoted {} line (column + 1) cs).map (·.behind (gap.text ++ [c])) := by
  delta readDoubleQuoted
  exact ⟨_, rfl⟩

theorem readDoubleQuoted_space :
    readDoubleQuoted gap line column (' ' :: cs) =
      readDoubleQuoted (gap.add ' ') line (column + 1) cs := by
  have hbreak : isBreak ' ' = false := by decide
  have hspacing : isSpacing ' ' = true := by decide
  obtain ⟨escaped, hcons⟩ := exists_readDoubleQuoted_cons gap line column ' ' cs
  simpa [hbreak, hspacing] using hcons

theorem readDoubleQuoted_end (hcolumn : 0 < column) :
    readDoubleQuoted gap line column ('"' :: rest) =
      some ⟨gap.text, ⟨rest, line, column + 1⟩⟩ := by
  have hne : column ≠ 0 := by omega
  have hbreak : isBreak '"' = false := by decide
  have hspacing : isSpacing '"' = false := by decide
  obtain ⟨escaped, hcons⟩ := exists_readDoubleQuoted_cons gap line column '"' rest
  simpa [hbreak, hspacing, hne] using hcons

theorem readDoubleQuoted_plain (hshown : isPlainlyShown c = true) (hletter : escapeLetter? c = none)
    (hspace : c ≠ ' ') (hcolumn : 0 < column) :
    readDoubleQuoted gap line column (c :: cs) =
      (readDoubleQuoted {} line (column + 1) cs).map (·.behind (gap.text ++ [c])) := by
  have hne : column ≠ 0 := by omega
  have hquote : c ≠ '"' := ne_of_escapeLetter?_eq_none hletter rfl
  have hbackslash : c ≠ '\\' := ne_of_escapeLetter?_eq_none hletter rfl
  have hbreak : isBreak c = false := by
    simp [isBreak, ne_of_escapeLetter?_eq_none hletter (d := '\n') rfl,
      ne_of_escapeLetter?_eq_none hletter (d := '\u2028') rfl,
      ne_of_escapeLetter?_eq_none hletter (d := '\u2029') rfl]
  have hspacing : isSpacing c = false := by
    rw [isSpacing_eq hshown]
    exact beq_eq_false_iff_ne.2 hspace
  obtain ⟨escaped, hcons⟩ := exists_readDoubleQuoted_cons gap line column c cs
  simpa [hbreak, hspacing, hne, hquote, hbackslash] using hcons

theorem readDoubleQuoted_letter {letter : Char} (hletter : escapeLetter? c = some letter)
    (hcolumn : 0 < column) :
    readDoubleQuoted gap line column ('\\' :: letter :: cs) =
      (readDoubleQuoted {} line (column + 2) cs).map (·.behind (gap.text ++ [c])) := by
  obtain ⟨n, rfl⟩ := Nat.exists_eq_succ_of_ne_zero (Nat.ne_of_gt hcolumn)
  unfold escapeLetter? at hletter
  split at hletter <;> cases hletter <;> rfl

/-- A backslash, the kind of the number, and the number. -/
theorem readDoubleQuoted_number {kind : Char} {width : Nat}
    (hkind : (kind, width) ∈ [('x', 1), ('u', 3), ('U', 7)]) (h : c.toNat < 16 ^ (width + 1))
    (hcolumn : 0 < column) :
    readDoubleQuoted gap line column (['\\', kind] ++ hexPadded (width + 1) c.toNat ++ cs) =
      (readDoubleQuoted {} line (column + (width + 3)) cs).map (·.behind (gap.text ++ [c])) := by
  obtain ⟨n, rfl⟩ := Nat.exists_eq_succ_of_ne_zero (Nat.ne_of_gt hcolumn)
  have hread : readDoubleQuoted gap line n.succ
      (['\\', kind] ++ hexPadded (width + 1) c.toNat ++ cs) =
        numberedChar? (hexPadded (width + 1) c.toNat) >>= fun d =>
          (readDoubleQuoted {} line (n.succ + (width + 3)) cs).map
            (·.behind (gap.text ++ [d])) := by
    simp only [List.mem_cons, List.not_mem_nil, or_false, Prod.mk.injEq] at hkind
    rcases hkind with ⟨rfl, rfl⟩ | ⟨rfl, rfl⟩ | ⟨rfl, rfl⟩
    · rfl
    · rfl
    · rfl
  rw [hread, numberedChar?_hexPadded width h]
  rfl

/-- A character other than a space is read back from its written form. -/
theorem exists_readDoubleQuoted_char (gap : Gap) (line : Nat) (hspace : c ≠ ' ')
    (hcolumn : 0 < column) (cs : List Char) :
    ∃ column', 0 < column' ∧
      readDoubleQuoted gap line column (doubleQuotedChar c ++ cs) =
        (readDoubleQuoted {} line column' cs).map (·.behind (gap.text ++ [c])) := by
  unfold doubleQuotedChar
  cases hletter : escapeLetter? c with
  | some letter => exact ⟨column + 2, by omega, readDoubleQuoted_letter hletter hcolumn⟩
  | none =>
    dsimp only
    split_ifs with hshown htwo hfour
    · exact ⟨column + 1, by omega, readDoubleQuoted_plain hshown hletter hspace hcolumn⟩
    · exact ⟨column + 4, by omega, readDoubleQuoted_number (by simp) (by omega) hcolumn⟩
    · exact ⟨column + 6, by omega, readDoubleQuoted_number (by simp) (by omega) hcolumn⟩
    · have hvalid : c.toNat.isValidChar := c.valid
      unfold Nat.isValidChar at hvalid
      exact ⟨column + 10, by omega, readDoubleQuoted_number (by simp) (by omega) hcolumn⟩

/-- **Every text is read back from between double quotes.**  No line ends in
    the written form. -/
theorem readDoubleQuoted_flatMap (gap : Gap) (line column : Nat) (hbroken : gap.broken = false)
    (hcolumn : 0 < column) (cs rest : List Char) :
    ∃ place, place.rest = rest ∧
      readDoubleQuoted gap line column (cs.flatMap doubleQuotedChar ++ '"' :: rest) =
        some ⟨gap.text ++ cs, place⟩ := by
  induction cs generalizing gap column with
  | nil =>
    rw [List.append_nil]
    exact ⟨_, rfl, readDoubleQuoted_end hcolumn⟩
  | cons c cs ih =>
    rw [List.flatMap_cons, List.append_assoc]
    by_cases hspace : c = ' '
    · subst hspace
      have hbreak : isBreak ' ' = false := by decide
      have hadd : gap.add ' ' = { gap with spacing := gap.spacing ++ [' '] } := by
        simp [Gap.add, hbreak, hbroken]
      have htext : (gap.add ' ').text = gap.text ++ [' '] := by simp [hadd, Gap.text, hbroken]
      obtain ⟨place, hplace, hread⟩ :=
        ih (gap.add ' ') (column + 1) (by simp [hadd, hbroken]) (by omega)
      refine ⟨place, hplace, ?_⟩
      rw [htext, List.append_assoc] at hread
      exact readDoubleQuoted_space.trans hread
    · obtain ⟨column', hpos, hchar⟩ := exists_readDoubleQuoted_char gap line hspace hcolumn
        (cs.flatMap doubleQuotedChar ++ '"' :: rest)
      obtain ⟨place, hplace, hread⟩ := ih {} column' rfl hpos
      refine ⟨place, hplace, ?_⟩
      rw [hchar, hread]
      simp [QuotedScalar.behind, Gap.text]

end DoubleQuotes

end CallerStubs.Yaml
