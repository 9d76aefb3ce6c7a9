/-
  Caller stubs — every text is written in a style that suits it.

  * `IsWritten`: the written forms of a text, with what holds of the texts that
    have them;
  * `isWritten_writeScalar`: a text is written in one of them;
  * `IsWritten.shown`: no character of them has to be escaped.
-/
import CallerStubs.Proofs.Yaml.Block
import CallerStubs.Proofs.Yaml.Plain
import CallerStubs.Proofs.Yaml.Quoted

namespace CallerStubs.Yaml

variable {c : Char} {cs written : List Char}

/-! ## Forms -/

/-- **The written forms of a text**, up to the break that ends the last line. -/
inductive IsWritten (cs : List Char) : List Char → Prop where
  | plain (h : IsPlain cs) (hne : cs ≠ []) : IsWritten cs (cs ++ ['\n'])
  | singleQuoted (h : IsSingleQuoted {} cs) :
      IsWritten cs ('\x27' :: (singleQuotedBody false cs ++ ['\n']))
  | doubleQuoted : IsWritten cs ('"' :: (cs.flatMap doubleQuotedChar ++ ['"', '\n']))
  | literal (hshown : ∀ c ∈ cs, isPlainlyShown c = true) (hne : cs ≠ []) :
      IsWritten cs (literalHeader cs ++ (literalBody true cs ++ literalTail cs))

/-! ## Ends -/

theorem getLast?_singleQuotedBody (broken : Bool) (cs : List Char) :
    (singleQuotedBody broken cs).getLast? = some '\x27' := by
  induction cs generalizing broken with
  | nil => simp [singleQuotedBody]
  | cons c cs ih =>
    unfold singleQuotedBody
    split_ifs <;> simp [List.getLast?_append, List.getLast?_cons, ih]

theorem getLast?_literalBody (broken : Bool) (cs : List Char) :
    (literalBody broken cs).getLast? = cs.getLast? := by
  induction cs generalizing broken with
  | nil => rfl
  | cons c cs ih =>
    unfold literalBody
    split_ifs <;> simp [List.getLast?_append, List.getLast?_cons, ih]

/-! ## Styles -/

theorem isSingleQuoted_of_allowsSingleQuoted (h : allowsSingleQuoted cs = true)
    (hfeed : '\n' ∉ cs) : IsSingleQuoted {} cs := by
  simp only [allowsSingleQuoted, unescaped, Bool.and_eq_true, Bool.not_eq_true',
    List.all_eq_true] at h
  obtain ⟨⟨hshown, hspaceBreak⟩, hbreakSpace⟩ := h
  exact ⟨hshown, hfeed, hspaceBreak, hbreakSpace, fun hne => absurd rfl hne, (nomatch ·),
    (nomatch ·)⟩

/-- A scalar is written in its style, with a break behind it. -/
theorem writeScalar_eq (s : String) :
    writeScalar s =
      writeIn (styleOf s) s.toList ++ literalTail (writeIn (styleOf s) s.toList) := by
  unfold writeScalar literalTail
  dsimp only
  split_ifs
  · rw [List.append_nil]
  · rfl

theorem literalTail_append (front : List Char) (hne : cs ≠ []) :
    literalTail (front ++ cs) = literalTail cs := by
  obtain ⟨before, c, rfl⟩ := (List.eq_nil_or_concat cs).resolve_left hne
  simp [literalTail, List.getLast?_append]

theorem isWritten_plain (htyped : looksTyped (String.ofList cs) = false)
    (h : allowsPlain cs = true) :
    IsWritten cs (writeIn .plain cs ++ literalTail (writeIn .plain cs)) := by
  have hplain := isPlain_of_allowsPlain h
  have hne : cs ≠ [] := by
    rintro rfl
    cases htyped
  have htail : literalTail cs = ['\n'] := by
    obtain ⟨before, c, rfl⟩ := (List.eq_nil_or_concat cs).resolve_left hne
    have hc : isBreak c = false := hplain.oneLine c (by simp)
    simp [literalTail, hc]
  rw [writeIn, htail]
  exact .plain hplain hne

theorem isWritten_singleQuoted (h : IsSingleQuoted {} cs) :
    IsWritten cs (writeIn .singleQuoted cs ++ literalTail (writeIn .singleQuoted cs)) := by
  have hquote : isBreak '\x27' = false := by decide
  have htail : literalTail (writeIn .singleQuoted cs) = ['\n'] := by
    simp [writeIn, literalTail, List.getLast?_cons, getLast?_singleQuotedBody, hquote]
  rw [htail]
  exact .singleQuoted h

theorem isWritten_doubleQuoted (cs : List Char) :
    IsWritten cs (writeIn .doubleQuoted cs ++ literalTail (writeIn .doubleQuoted cs)) := by
  have hform : writeIn .doubleQuoted cs ++ literalTail (writeIn .doubleQuoted cs) =
      '"' :: (cs.flatMap doubleQuotedChar ++ ['"', '\n']) := by
    rw [writeIn, literalTail_append _ (by simp)]
    simp [literalTail, isBreak]
  rw [hform]
  exact .doubleQuoted

theorem isWritten_literal (hshown : ∀ c ∈ cs, isPlainlyShown c = true) (hne : cs ≠ []) :
    IsWritten cs (writeIn .literal cs ++ literalTail (writeIn .literal cs)) := by
  have hbody : literalBody true cs ≠ [] := by
    have hlength := length_le_length_literalBody true cs
    have hpos := List.length_pos_iff.2 hne
    exact List.length_pos_iff.1 (by omega)
  have htail : literalTail (writeIn .literal cs) = literalTail cs := by
    rw [writeIn, literalTail_append _ hbody, literalTail, getLast?_literalBody, literalTail]
  rw [htail, writeIn, List.append_assoc]
  exact .literal hshown hne

/-- **A text is written in a form that it may have.** -/
theorem isWritten_writeScalar (s : String) : IsWritten s.toList (writeScalar s) := by
  rw [writeScalar_eq]
  unfold styleOf
  dsimp only
  split_ifs with hfeed hliteral hplain hsingle
  · have hmem : '\n' ∈ s.toList := by simpa using hfeed
    simp only [allowsLiteral, unescaped, Bool.and_eq_true, List.all_eq_true] at hliteral
    exact isWritten_literal hliteral.1.1 (List.ne_nil_of_mem hmem)
  · exact isWritten_doubleQuoted _
  · simp only [Bool.and_eq_true, Bool.not_eq_true'] at hplain
    exact isWritten_plain (by simpa using hplain.1) hplain.2
  · have hnoFeed : '\n' ∉ s.toList := by simpa using hfeed
    exact isWritten_singleQuoted (isSingleQuoted_of_allowsSingleQuoted hsingle hnoFeed)
  · exact isWritten_doubleQuoted _

/-! ## Characters of written forms -/

theorem all_lineIndent (broken : Bool) :
    (if broken then lineIndent else []).all isPlainlyShown = true := by
  cases broken <;> decide

theorem all_singleQuotedBody (h : cs.all isPlainlyShown = true) (broken : Bool) :
    (singleQuotedBody broken cs).all isPlainlyShown = true := by
  induction cs generalizing broken with
  | nil => cases broken <;> decide
  | cons c cs ih =>
    rw [List.all_cons, Bool.and_eq_true] at h
    obtain ⟨hc, hcs⟩ := h
    have hchar : (if c = '\x27' then [c, c] else [c]).all isPlainlyShown = true := by
      split_ifs <;> simp [hc]
    rw [singleQuotedBody]
    cases isBreak c with
    | true => simp [hc, ih hcs]
    | false => simp [-List.all_eq_true, all_lineIndent, hchar, ih hcs]

theorem all_literalBody (h : cs.all isPlainlyShown = true) (broken : Bool) :
    (literalBody broken cs).all isPlainlyShown = true := by
  induction cs generalizing broken with
  | nil => rfl
  | cons c cs ih =>
    rw [List.all_cons, Bool.and_eq_true] at h
    obtain ⟨hc, hcs⟩ := h
    rw [literalBody]
    cases isBreak c with
    | true => simp [hc, ih hcs]
    | false => simp [-List.all_eq_true, all_lineIndent, hc, ih hcs]

theorem isPlainlyShown_hexDigitUpper : ∀ d < 16, isPlainlyShown (hexDigitUpper d) = true := by
  decide

theorem all_hexPadded (width n : Nat) : (hexPadded width n).all isPlainlyShown = true := by
  induction width generalizing n with
  | zero => rfl
  | succ width ih =>
    have hlast := isPlainlyShown_hexDigitUpper (n % 16) (Nat.mod_lt n (by omega))
    simp [-List.all_eq_true, hexPadded, ih, hlast]

theorem all_doubleQuotedChar (c : Char) : (doubleQuotedChar c).all isPlainlyShown = true := by
  unfold doubleQuotedChar
  cases hletter : escapeLetter? c with
  | some letter =>
    have hshown : isPlainlyShown letter = true := by
      unfold escapeLetter? at hletter
      split at hletter <;> cases hletter <;> decide
    have hbackslash : isPlainlyShown '\\' = true := by decide
    simp [hshown, hbackslash]
  | none =>
    have htwo : ['\\', 'x'].all isPlainlyShown = true := by decide
    have hfour : ['\\', 'u'].all isPlainlyShown = true := by decide
    have height : ['\\', 'U'].all isPlainlyShown = true := by decide
    dsimp only
    split_ifs with hshown
    · simp [hshown]
    · rw [List.all_append, htwo, all_hexPadded, Bool.and_self]
    · rw [List.all_append, hfour, all_hexPadded, Bool.and_self]
    · rw [List.all_append, height, all_hexPadded, Bool.and_self]

theorem all_literalHeader (cs : List Char) : (literalHeader cs).all isPlainlyShown = true := by
  have hsign : (chompingSign cs).all isPlainlyShown = true := by
    unfold chompingSign
    split
    · decide
    · split_ifs <;> decide
  unfold literalHeader
  split_ifs <;> simp [-List.all_eq_true, hsign] <;> decide

/-- **No character of a written form has to be escaped.** -/
theorem IsWritten.all_isPlainlyShown (h : IsWritten cs written) :
    written.all isPlainlyShown = true := by
  have hfeed : isPlainlyShown '\n' = true := by decide
  have hquotes : isPlainlyShown '\x27' = true ∧ isPlainlyShown '"' = true := by decide
  cases h with
  | plain h => simpa [hfeed] using h.shown
  | singleQuoted h =>
    have hbody := all_singleQuotedBody (List.all_eq_true.2 h.shown) false
    simp [-List.all_eq_true, hbody, hfeed, hquotes]
  | doubleQuoted =>
    have hbody : (cs.flatMap doubleQuotedChar).all isPlainlyShown = true := by
      rw [List.all_flatMap, List.all_eq_true]
      exact fun c _ => all_doubleQuotedChar c
    simp [-List.all_eq_true, hbody, hfeed, hquotes]
  | literal hshown =>
    have hbody := all_literalBody (List.all_eq_true.2 hshown) true
    have htail : (literalTail cs).all isPlainlyShown = true := by
      unfold literalTail
      split_ifs <;> decide
    simp [-List.all_eq_true, all_literalHeader, hbody, htail]

end CallerStubs.Yaml
