/-
  Caller stubs — literal blocks are read back.

  A text is a row of lines with breaks between them, and perhaps with breaks
  before the first and behind the last.

  * `Lines`: rows of lines with breaks between them;
  * `literalBody_lines`: their written form;
  * `readBlockGap_breaks`, `readBlockGap_lineIndent`: what stands between lines
    is read up to the next of them;
  * `readBlockLines_lines`: the lines are read back;
  * `readBlockHeader_literalHeader`: the header says what becomes of the breaks
    at the end;
  * `readBlock_literal`: the text is read back.
-/
import CallerStubs.Proofs.Yaml.Character
import CallerStubs.Yaml.Block
import Mathlib.Tactic.SplitIfs

namespace CallerStubs.Yaml

/-! ## Lines -/

/-- Is the text nothing but breaks? -/
def AllBreaks (cs : List Char) : Prop :=
  ∀ c ∈ cs, isBreak c = true

/-- A line that is not empty. -/
structure IsLine (cs : List Char) : Prop where
  nonempty : cs ≠ []
  noBreak : ∀ c ∈ cs, isBreak c = false

/-- **Lines**, with breaks between them and nowhere else. -/
inductive Lines : List Char → Prop where
  | last {line : List Char} (hline : IsLine line) : Lines line
  | cons {line : List Char} {b : Char} {breaks more : List Char} (hline : IsLine line)
      (hb : isBreak b = true) (hbreaks : AllBreaks breaks) (hmore : Lines more) :
      Lines (line ++ b :: (breaks ++ more))

variable {c : Char} {cs front breaks line rest : List Char}

theorem Lines.ne_nil (h : Lines cs) : cs ≠ [] := by
  cases h with
  | last hline => exact hline.nonempty
  | cons => simp

/-- Lines begin with a character that is no break. -/
theorem Lines.exists_eq_cons (h : Lines cs) : ∃ c rest, cs = c :: rest ∧ isBreak c = false := by
  cases h with
  | last hline =>
    obtain ⟨c, rest, rfl⟩ := List.exists_cons_of_ne_nil hline.nonempty
    exact ⟨c, rest, rfl, hline.noBreak c (by simp)⟩
  | cons hline =>
    obtain ⟨c, rest, rfl⟩ := List.exists_cons_of_ne_nil hline.nonempty
    exact ⟨c, _, rfl, hline.noBreak c (by simp)⟩

theorem Lines.isBreak_getLast? (h : Lines cs) : cs.getLast?.any isBreak = false := by
  induction h with
  | @last line hline =>
    obtain ⟨front, c, rfl⟩ := (List.eq_nil_or_concat line).resolve_left hline.nonempty
    simpa using hline.noBreak c (by simp)
  | @cons line b breaks more hline hb hbreaks hmore ih =>
    obtain ⟨front, c, rfl⟩ := (List.eq_nil_or_concat more).resolve_left hmore.ne_nil
    have hlast : (line ++ b :: (breaks ++ front.concat c)).getLast? = some c := by
      rw [List.concat_eq_append, ← List.append_assoc, ← List.cons_append, ← List.append_assoc,
        List.getLast?_concat]
    rw [hlast]
    simpa using ih

theorem IsLine.cons (h : IsLine cs) (hc : isBreak c = false) : IsLine (c :: cs) :=
  ⟨List.cons_ne_nil c cs, List.forall_mem_cons.2 ⟨hc, h.noBreak⟩⟩

/-- The first line may be longer. -/
theorem Lines.cons_char (h : Lines cs) (hc : isBreak c = false) : Lines (c :: cs) := by
  cases h with
  | last hline => exact .last (hline.cons hc)
  | cons hline hb hbreaks hmore => exact .cons (hline.cons hc) hb hbreaks hmore

/-- **A text is nothing but breaks, or lines with breaks around them.** -/
theorem allBreaks_or_lines (cs : List Char) :
    AllBreaks cs ∨ ∃ lead front trail, cs = lead ++ (front ++ trail) ∧ AllBreaks lead ∧
      Lines front ∧ AllBreaks trail := by
  induction cs with
  | nil => exact .inl fun _ h => nomatch h
  | cons c cs ih =>
    cases hc : isBreak c with
    | true =>
      rcases ih with hall | ⟨lead, front, trail, rfl, hlead, hfront, htrail⟩
      · exact .inl (List.forall_mem_cons.2 ⟨hc, hall⟩)
      · have hlead' : AllBreaks (c :: lead) := List.forall_mem_cons.2 ⟨hc, hlead⟩
        exact .inr ⟨c :: lead, front, trail, rfl, hlead', hfront, htrail⟩
    | false =>
      have hnone : AllBreaks [] := fun _ h => nomatch h
      have hline : IsLine [c] := ⟨by simp, by simpa using hc⟩
      refine .inr ?_
      rcases ih with hall | ⟨lead, front, trail, rfl, hlead, hfront, htrail⟩
      · exact ⟨[], [c], cs, rfl, hnone, .last hline, hall⟩
      · cases lead with
        | nil => exact ⟨[], c :: front, trail, rfl, hnone, hfront.cons_char hc, htrail⟩
        | cons b breaks =>
          obtain ⟨hb, hbreaks⟩ := List.forall_mem_cons.1 hlead
          have hlines := Lines.cons hline hb hbreaks hfront
          exact ⟨[], [c] ++ b :: (breaks ++ front), trail, by simp, hnone, hlines, htrail⟩

/-! ## Written forms -/

theorem literalBody_line (h : ∀ c ∈ line, isBreak c = false) (cs : List Char) :
    literalBody false (line ++ cs) = line ++ literalBody false cs := by
  induction line with
  | nil => rfl
  | cons c line ih =>
    obtain ⟨hc, hline⟩ := List.forall_mem_cons.1 h
    simp [literalBody, hc, ih hline]

theorem literalBody_breaks (h : AllBreaks breaks) (cs : List Char) :
    literalBody true (breaks ++ cs) = breaks ++ literalBody true cs := by
  induction breaks with
  | nil => rfl
  | cons b breaks ih =>
    obtain ⟨hb, hbreaks⟩ := List.forall_mem_cons.1 h
    simp [literalBody, hb, ih hbreaks]

theorem literalBody_allBreaks (h : AllBreaks breaks) (broken : Bool) :
    literalBody broken breaks = breaks := by
  induction breaks generalizing broken with
  | nil => rfl
  | cons b breaks ih =>
    obtain ⟨hb, hbreaks⟩ := List.forall_mem_cons.1 h
    simp [literalBody, hb, ih hbreaks]

theorem literalBody_char (hc : isBreak c = false) (cs : List Char) :
    literalBody false (c :: cs) = c :: literalBody false cs := by
  simp [literalBody, hc]

/-- The first of some lines is indented. -/
theorem literalBody_lineIndent (h : Lines front) (cs : List Char) :
    literalBody true (front ++ cs) = lineIndent ++ literalBody false (front ++ cs) := by
  obtain ⟨c, rest, rfl, hc⟩ := h.exists_eq_cons
  simp [literalBody, hc]

/-- The written form of lines, from one line to the next. -/
theorem literalBody_cons {b : Char} {more : List Char} (hline : IsLine line)
    (hb : isBreak b = true) (hbreaks : AllBreaks breaks) (hmore : Lines more) (cs : List Char) :
    literalBody false (line ++ b :: (breaks ++ more) ++ cs) =
      line ++ b :: (breaks ++ (lineIndent ++ literalBody false (more ++ cs))) := by
  have hbody : literalBody false (b :: (breaks ++ (more ++ cs))) =
      b :: literalBody true (breaks ++ (more ++ cs)) := by simp [literalBody, hb]
  rw [List.append_assoc, literalBody_line hline.noBreak, List.cons_append, List.append_assoc, hbody,
    literalBody_breaks hbreaks, literalBody_lineIndent hmore]

/-- The breaks behind lines are written as they are. -/
theorem literalBody_lines (h : Lines front) (hbreaks : AllBreaks breaks) :
    literalBody false (front ++ breaks) = literalBody false front ++ breaks := by
  induction h with
  | @last line hline =>
    have hend : literalBody false line = line := by
      simpa [literalBody] using literalBody_line hline.noBreak []
    rw [literalBody_line hline.noBreak, literalBody_allBreaks hbreaks, hend]
  | @cons line b breaks' more hline hb hbreaks' hmore ih =>
    have hend := literalBody_cons hline hb hbreaks' hmore []
    rw [List.append_nil, List.append_nil] at hend
    rw [literalBody_cons hline hb hbreaks' hmore, ih, hend]
    simp

theorem length_le_length_literalBody (broken : Bool) (cs : List Char) :
    cs.length ≤ (literalBody broken cs).length := by
  induction cs generalizing broken with
  | nil => exact Nat.le_refl 0
  | cons c cs ih =>
    have htrue := ih true
    have hfalse := ih false
    unfold literalBody
    split_ifs
    · simpa using htrue
    · simp only [List.length_append, List.length_cons]
      omega
    · simpa using hfalse

/-! ## Between lines -/

/-- A gap with more breaks at its start. -/
def BlockGap.behind (breaks : List Char) (g : BlockGap) : BlockGap :=
  { g with breaks := breaks ++ g.breaks }

theorem readBlockGap_breaks (h : AllBreaks breaks) (indent : Option Nat) (number : Nat)
    (cs : List Char) :
    readBlockGap indent number 0 (breaks ++ cs) =
      (readBlockGap indent (number + breaks.length) 0 cs).map (·.behind breaks) := by
  induction breaks generalizing number with
  | nil => simp [BlockGap.behind]
  | cons b breaks ih =>
    obtain ⟨hb, hbreaks⟩ := List.forall_mem_cons.1 h
    have hlength : number + 1 + breaks.length = number + (b :: breaks).length := by
      rw [List.length_cons]
      omega
    have hmore := ih hbreaks (number + 1)
    rw [hlength] at hmore
    rw [List.cons_append, readBlockGap.eq_def]
    simp only [hb, if_true, hmore]
    cases readBlockGap indent (number + (b :: breaks).length) 0 cs with
    | none => rfl
    | some g => simp [BlockGap.behind]

/-- The indentation of a line is passed over if it is known. -/
theorem readBlockGap_lineIndent (hc : isBreak c = false) (number : Nat) (cs : List Char) :
    readBlockGap (some 2) number 0 (lineIndent ++ c :: cs) =
      some ⟨[], 2, ⟨c :: cs, number, 2⟩⟩ := by
  have hspace : isBreak ' ' = false := by decide
  simp [lineIndent, readBlockGap, hspace, hc]

/-- It is passed over too if the line shows it. -/
theorem readBlockGap_shown (hc : isBreak c = false) (hshown : isPlainlyShown c = true)
    (hwhite : isWhite c = false) (number : Nat) (cs : List Char) :
    readBlockGap none number 0 (lineIndent ++ c :: cs) = some ⟨[], 2, ⟨c :: cs, number, 2⟩⟩ := by
  have hspace : isBreak ' ' = false := by decide
  have htab : c ≠ '\t' := ne_of_isPlainlyShown hshown (by decide)
  have hnotSpace : c ≠ ' ' := by
    rintro rfl
    cases hwhite
  simp [lineIndent, readBlockGap, hspace, hc, htab, hnotSpace]

theorem readBlockGap_atEntry (hrest : AtEntry rest) (indent : Option Nat) (number : Nat) :
    readBlockGap indent number 0 rest = some ⟨[], 0, ⟨rest, number, 0⟩⟩ := by
  cases rest with
  | nil => rfl
  | cons c cs =>
    have hc := atEntry_cons.1 hrest
    simp [readBlockGap, isBreak_of_isKeyChar hc, ne_of_isKeyChar hc (d := ' ') (by decide),
      ne_of_isKeyChar hc (d := '\t') (by decide)]

/-- Breaks before an entry end where it begins. -/
theorem readBlockGap_toEntry (hbreaks : AllBreaks breaks) (hrest : AtEntry rest)
    (indent : Option Nat) (number : Nat) :
    readBlockGap indent number 0 (breaks ++ rest) =
      some ⟨breaks, 0, ⟨rest, number + breaks.length, 0⟩⟩ := by
  rw [readBlockGap_breaks hbreaks, readBlockGap_atEntry hrest]
  simp [BlockGap.behind]

/-- Breaks before a line end behind its indentation, if that is known. -/
theorem readBlockGap_toLine (hbreaks : AllBreaks breaks) (hlines : Lines front) (number : Nat)
    (rest : List Char) :
    readBlockGap (some 2) number 0 (breaks ++ (lineIndent ++ (literalBody false front ++ rest))) =
      some ⟨breaks, 2, ⟨literalBody false front ++ rest, number + breaks.length, 2⟩⟩ := by
  obtain ⟨c, cs, rfl, hc⟩ := hlines.exists_eq_cons
  rw [readBlockGap_breaks hbreaks, literalBody_char hc, List.cons_append,
    readBlockGap_lineIndent hc]
  simp [BlockGap.behind]

/-! ## Reading lines -/

/-- What is kept of the breaks at the end. -/
def Chomping.kept (chomping : Chomping) (breaks : List Char) : List Char :=
  BlockJoint.last { ending := breaks.take 1, empties := breaks.drop 1 } chomping

theorem kept_keep (breaks : List Char) : Chomping.keep.kept breaks = breaks :=
  List.take_append_drop 1 breaks

/-- One line is read, and what stands between it and the next. -/
theorem readBlockLines_line (chomping : Chomping) (n : Nat) {number number' column : Nat}
    {b : Char} {after next : List Char} (hline : IsLine line) (hb : isBreak b = true)
    (hgap : ∃ widest, readBlockGap (some 2) (number + 1) 0 after =
      some ⟨breaks, widest, ⟨next, number', column⟩⟩) (joint : BlockJoint) :
    ∃ spaced, ∀ more place,
      readBlockLines false chomping 2 n ⟨[b], breaks, spaced⟩ ⟨next, number', column⟩ =
          some (more, place) →
        readBlockLines false chomping 2 (n + 1) joint ⟨line ++ b :: after, number, 2⟩ =
          some (joint.ending ++ joint.empties ++ line ++ more, place) := by
  obtain ⟨widest, hgap⟩ := hgap
  have hinLine : ∀ c ∈ line, (!isBreak c) = true := by simpa using hline.noBreak
  have htake : (line ++ b :: after).takeWhile (!isBreak ·) = line := by
    rw [List.takeWhile_append_of_pos hinLine, List.takeWhile_cons_of_neg (by simp [hb]),
      List.append_nil]
  have hdrop : (line ++ b :: after).dropWhile (!isBreak ·) = b :: after := by
    rw [List.dropWhile_append_of_pos hinLine, List.dropWhile_cons_of_neg (by simp [hb])]
  have hne : line ++ b :: after ≠ [] := by simp
  refine ⟨((line ++ b :: after).take 1).any isSpacing, fun more place hmore => ?_⟩
  rw [readBlockLines, if_pos ⟨rfl, hne⟩]
  simp only [htake, hdrop, Cursor.advance, Cursor.pastBreak, List.drop_left, hb, if_true, hgap]
  simp [hmore, BlockJoint.text]

/-- The last line is read with what the header keeps of the breaks behind it. -/
theorem readBlockLines_last (hline : IsLine line) {b : Char} (hb : isBreak b = true)
    (hbreaks : AllBreaks breaks) (hrest : AtEntry rest) (chomping : Chomping) (n : Nat)
    (joint : BlockJoint) (number : Nat) :
    readBlockLines false chomping 2 (n + 2) joint ⟨line ++ b :: (breaks ++ rest), number, 2⟩ =
      some (joint.ending ++ joint.empties ++ line ++ chomping.kept (b :: breaks),
        ⟨rest, number + 1 + breaks.length, 0⟩) := by
  have hgap := readBlockGap_toEntry hbreaks hrest (some 2) (number + 1)
  obtain ⟨spaced, hread⟩ := readBlockLines_line chomping (n + 1) hline hb ⟨_, hgap⟩ joint
  refine hread _ _ ?_
  cases chomping with
  | strip => simp [readBlockLines, Chomping.kept, BlockJoint.last]
  | clip => simp [readBlockLines, Chomping.kept, BlockJoint.last]
  | keep => simp [readBlockLines, Chomping.kept, BlockJoint.last]

/-- **Lines are read back**, with what the header keeps of the breaks behind
    them. -/
theorem readBlockLines_lines (h : Lines front) {b : Char} (hb : isBreak b = true)
    (hbreaks : AllBreaks breaks) (hrest : AtEntry rest) (chomping : Chomping) {n : Nat}
    (hn : front.length < n) (joint : BlockJoint) (number : Nat) :
    ∃ place, place.rest = rest ∧ place.column = 0 ∧
      readBlockLines false chomping 2 n joint
          ⟨literalBody false front ++ b :: (breaks ++ rest), number, 2⟩ =
        some (joint.ending ++ joint.empties ++ front ++ chomping.kept (b :: breaks), place) := by
  induction h generalizing n joint number with
  | @last line hline =>
    have hpos := List.length_pos_iff.2 hline.nonempty
    obtain ⟨n, rfl⟩ : ∃ m, n = m + 2 := ⟨n - 2, by omega⟩
    have hbody : literalBody false line = line := by
      simpa [literalBody] using literalBody_line hline.noBreak []
    rw [hbody]
    exact ⟨_, rfl, rfl, readBlockLines_last hline hb hbreaks hrest chomping n joint number⟩
  | @cons line b' breaks' more hline hb' hbreaks' hmore ih =>
    obtain ⟨n, rfl⟩ := Nat.exists_eq_succ_of_ne_zero (show n ≠ 0 by omega)
    have hlength : more.length < n := by
      simp only [List.length_append, List.length_cons] at hn
      omega
    have hbody := literalBody_cons hline hb' hbreaks' hmore []
    rw [List.append_nil, List.append_nil] at hbody
    have hgap := readBlockGap_toLine hbreaks' hmore (number + 1) (b :: (breaks ++ rest))
    obtain ⟨spaced, hread⟩ := readBlockLines_line chomping n hline hb' ⟨_, hgap⟩ joint
    obtain ⟨place, hplace, hcolumn, hmoreRead⟩ :=
      ih hlength ⟨[b'], breaks', spaced⟩ (number + 1 + breaks'.length)
    refine ⟨place, hplace, hcolumn, ?_⟩
    rw [hbody]
    have hall := hread _ _ hmoreRead
    simpa using hall

/-! ## Headers -/

/-- What ends the last line: the breaks of the text, or the one that is added to
    it. -/
def ending (breaks : List Char) : List Char :=
  if breaks.isEmpty then ['\n'] else breaks

/-- The sign of a header. -/
def Chomping.sign : Chomping → List Char
  | .strip => ['-']
  | .clip => []
  | .keep => ['+']

/-- A header is read back, without an indentation and with one. -/
theorem readBlockHeader_sign (chomping : Chomping) (cs : List Char) :
    readBlockHeader (chomping.sign ++ '\n' :: cs) = some (⟨chomping, none⟩, '\n' :: cs) ∧
      readBlockHeader ('2' :: (chomping.sign ++ '\n' :: cs)) =
        some (⟨chomping, some 2⟩, '\n' :: cs) := by
  cases chomping with
  | strip => exact ⟨rfl, rfl⟩
  | clip => exact ⟨rfl, rfl⟩
  | keep => exact ⟨rfl, rfl⟩

/-- **The sign says what becomes of the breaks at the end**, so that those of
    the text are kept. -/
theorem exists_chompingSign_eq (hfront : front.getLast?.any isBreak = false)
    (hbreaks : AllBreaks breaks) (hne : front ++ breaks ≠ []) :
    ∃ chomping : Chomping, chompingSign (front ++ breaks) = chomping.sign ∧
      chomping.kept (ending breaks) = breaks ∧ (front = [] → chomping = .keep) := by
  rcases List.eq_nil_or_concat breaks with rfl | ⟨before, b, rfl⟩
  · rw [List.append_nil] at hne ⊢
    obtain ⟨front, c, rfl⟩ := (List.eq_nil_or_concat front).resolve_left hne
    have hc : isBreak c = false := by simpa using hfront
    exact ⟨.strip, by simp [chompingSign, hc, Chomping.sign], rfl, by simp⟩
  · have hb : isBreak b = true := hbreaks b (by simp)
    rcases List.eq_nil_or_concat before with rfl | ⟨before, b', rfl⟩
    · rcases List.eq_nil_or_concat front with rfl | ⟨front, c, rfl⟩
      · exact ⟨.keep, by simp [chompingSign, hb, Chomping.sign], rfl, fun _ => rfl⟩
      · have hc : isBreak c = false := by simpa using hfront
        exact ⟨.clip, by simp [chompingSign, hb, hc, Chomping.sign], rfl, by simp⟩
    · have hb' : isBreak b' = true := hbreaks b' (by simp)
      refine ⟨.keep, by simp [chompingSign, hb, hb', Chomping.sign], ?_, fun _ => rfl⟩
      rw [kept_keep, ending, if_neg (by simp)]

/-! ## Scalars -/

theorem readBlock_eq {k after : Cursor} {chomping : Chomping} {given : Option Nat}
    {body : List Char} {widest : Nat} {scalar : List Char × Cursor}
    (hheader : readBlockHeader k.rest = some (⟨chomping, given⟩, '\n' :: body))
    (hgap : readBlockGap given (k.line + 1) 0 body = some ⟨breaks, widest, after⟩)
    (hindent : given.getD (max widest 1) = 2)
    (hlines : readBlockLines false chomping 2 (body.length + 1) ⟨[], breaks, false⟩ after =
      some scalar) :
    readBlock false 0 k = some scalar := by
  have hcomment : skipComment ('\n' :: body) = '\n' :: body := rfl
  have hends : (('\n' :: body).take 1).any (!isBreak ·) = false := rfl
  have hstart : (k.moveTo ('\n' :: body)).pastBreak = ⟨body, k.line + 1, 0⟩ := rfl
  have hgiven : given.map (0 + ·) = given := by simp
  simp only [readBlock, hheader, Option.bind_eq_bind, Option.bind_some, hcomment, hends, hstart,
    hgiven, hgap, hindent, hlines, Bool.false_eq_true, if_false]

/-- What follows the body of a literal block, so that its last line ends. -/
def literalTail (cs : List Char) : List Char :=
  if cs.getLast?.any isBreak then [] else ['\n']

/-- The indentation that a header gives. -/
def givenIndent (cs : List Char) : Option Nat :=
  if cs.head?.any isWhite then some 2 else none

theorem readBlockHeader_literalHeader {chomping : Chomping}
    (hsign : chompingSign cs = chomping.sign) {after body : List Char}
    (h : '|' :: after = literalHeader cs ++ body) :
    readBlockHeader after = some (⟨chomping, givenIndent cs⟩, '\n' :: body) := by
  obtain ⟨hbare, hdigit⟩ := readBlockHeader_sign chomping body
  unfold literalHeader at h
  rw [hsign] at h
  unfold givenIndent
  split_ifs at h ⊢ with hwhite
  · have hafter : after = '2' :: (chomping.sign ++ '\n' :: body) := by simpa using h
    rw [hafter, hdigit]
  · have hafter : after = chomping.sign ++ '\n' :: body := by simpa using h
    rw [hafter, hbare]

/-- The breaks behind the lines of a text, with the one that is added to it. -/
theorem append_literalTail (lead : List Char) {trail : List Char} (hfront : Lines front)
    (htrail : AllBreaks trail) :
    trail ++ literalTail (lead ++ (front ++ trail)) = ending trail := by
  rcases List.eq_nil_or_concat trail with rfl | ⟨before, b, rfl⟩
  · obtain ⟨start, c, rfl⟩ := (List.eq_nil_or_concat front).resolve_left hfront.ne_nil
    have hc : isBreak c = false := by simpa using hfront.isBreak_getLast?
    simp [literalTail, ending, List.getLast?_append, hc]
  · have hb : isBreak b = true := htrail b (by simp)
    simp [literalTail, ending, List.getLast?_append, hb]

theorem exists_ending_eq_cons {trail : List Char} (h : AllBreaks trail) :
    ∃ b breaks, ending trail = b :: breaks ∧ isBreak b = true ∧ AllBreaks breaks := by
  cases trail with
  | nil => exact ⟨'\n', [], rfl, by decide, fun _ hmem => nomatch hmem⟩
  | cons b breaks =>
    obtain ⟨hb, hbreaks⟩ := List.forall_mem_cons.1 h
    exact ⟨b, breaks, rfl, hb, hbreaks⟩

/-- The first line is found behind the breaks before it, with the indentation
    that the header gives or that the line shows. -/
theorem readBlockGap_first {lead : List Char} (hlead : AllBreaks lead) (hfront : Lines front)
    (hshown : ∀ c ∈ front, isPlainlyShown c = true) (trail : List Char) (number : Nat)
    (rest : List Char) :
    readBlockGap (givenIndent (lead ++ (front ++ trail))) number 0
        (lead ++ (lineIndent ++ (literalBody false front ++ rest))) =
      some ⟨lead, 2, ⟨literalBody false front ++ rest, number + lead.length, 2⟩⟩ := by
  unfold givenIndent
  split_ifs with hwhite
  · exact readBlockGap_toLine hlead hfront number rest
  · cases lead with
    | nil =>
      obtain ⟨c, tail, rfl, hc⟩ := hfront.exists_eq_cons
      have hnotWhite : isWhite c = false := by simpa using hwhite
      rw [literalBody_char hc]
      exact readBlockGap_shown hc (hshown c (by simp)) hnotWhite number _
    | cons b breaks =>
      have hb : isBreak b = true := hlead b (by simp)
      exact absurd hwhite (by simp [isWhite, hb])

/-- A text of breaks is read back: they come before the first line, which never
    comes. -/
theorem readBlock_allBreaks (h : AllBreaks cs) (hne : cs ≠ []) (hrest : AtEntry rest) {k : Cursor}
    (hk : '|' :: k.rest = literalHeader cs ++ (literalBody true cs ++ (literalTail cs ++ rest))) :
    readBlock false 0 k = some (cs, ⟨rest, k.line + 1 + cs.length, 0⟩) := by
  have hnoLine : ([] : List Char).getLast?.any isBreak = false := rfl
  obtain ⟨chomping, hsign, -, hkeep⟩ := exists_chompingSign_eq hnoLine h hne
  obtain rfl := hkeep rfl
  have hheader := readBlockHeader_literalHeader hsign hk
  have hlast : literalTail cs = [] := by
    obtain ⟨before, b, rfl⟩ := (List.eq_nil_or_concat cs).resolve_left hne
    have hb : isBreak b = true := h b (by simp)
    simp [literalTail, hb]
  have hgiven : givenIndent cs = some 2 := by
    obtain ⟨b, breaks, rfl⟩ := List.exists_cons_of_ne_nil hne
    have hb : isBreak b = true := h b (by simp)
    simp [givenIndent, isWhite, hb]
  rw [literalBody_allBreaks h, hlast, List.nil_append, hgiven] at hheader
  have hgap := readBlockGap_toEntry h hrest (some 2) (k.line + 1)
  refine readBlock_eq hheader hgap rfl ?_
  simp [readBlockLines, BlockJoint.last]

/-- The written form of a text with lines. -/
theorem literalBody_append_literalTail {lead trail : List Char} (hlead : AllBreaks lead)
    (hfront : Lines front) (htrail : AllBreaks trail) (rest : List Char) :
    literalBody true (lead ++ (front ++ trail)) ++
        (literalTail (lead ++ (front ++ trail)) ++ rest) =
      lead ++ (lineIndent ++ (literalBody false front ++ (ending trail ++ rest))) := by
  rw [literalBody_breaks hlead, literalBody_lineIndent hfront, literalBody_lines hfront htrail,
    ← append_literalTail lead hfront htrail]
  simp

/-- A text with lines is read back, with the breaks around them. -/
theorem readBlock_lines {lead trail : List Char} (hlead : AllBreaks lead) (hfront : Lines front)
    (htrail : AllBreaks trail) (hshown : ∀ c ∈ front, isPlainlyShown c = true)
    (hrest : AtEntry rest) {k : Cursor}
    (hk : '|' :: k.rest = literalHeader (lead ++ (front ++ trail)) ++
      (lead ++ (lineIndent ++ (literalBody false front ++ (ending trail ++ rest))))) :
    ∃ place, place.rest = rest ∧ place.column = 0 ∧
      readBlock false 0 k = some (lead ++ (front ++ trail), place) := by
  have hlast : (lead ++ front).getLast?.any isBreak = false := by
    obtain ⟨start, c, rfl⟩ := (List.eq_nil_or_concat front).resolve_left hfront.ne_nil
    simpa [List.getLast?_append] using hfront.isBreak_getLast?
  obtain ⟨chomping, hsign, hkept, -⟩ :=
    exists_chompingSign_eq hlast htrail (by simp [hfront.ne_nil])
  rw [List.append_assoc] at hsign
  have hheader := readBlockHeader_literalHeader hsign hk
  have hgap := readBlockGap_first hlead hfront hshown trail (k.line + 1) (ending trail ++ rest)
  have hindent : (givenIndent (lead ++ (front ++ trail))).getD (max 2 1) = 2 := by
    unfold givenIndent
    split_ifs <;> rfl
  obtain ⟨b, breaks, hending, hb, hbreaks⟩ := exists_ending_eq_cons htrail
  rw [hending] at hheader hgap hkept
  have hlength : front.length < (lead ++ (lineIndent ++
      (literalBody false front ++ (b :: breaks ++ rest)))).length + 1 := by
    have hle := length_le_length_literalBody false front
    simp only [List.length_append]
    omega
  obtain ⟨place, hplace, hcolumn, hlines⟩ := readBlockLines_lines hfront hb hbreaks hrest chomping
    hlength ⟨[], lead, false⟩ (k.line + 1 + lead.length)
  refine ⟨place, hplace, hcolumn, ?_⟩
  rw [hkept] at hlines
  have hall := readBlock_eq hheader hgap hindent hlines
  simpa using hall

/-- **A text written as a literal block is read back.** -/
theorem readBlock_literal (hshown : ∀ c ∈ cs, isPlainlyShown c = true) (hne : cs ≠ [])
    (hrest : AtEntry rest) {k : Cursor}
    (hk : '|' :: k.rest = literalHeader cs ++ (literalBody true cs ++ (literalTail cs ++ rest))) :
    ∃ place, place.rest = rest ∧ place.column = 0 ∧ readBlock false 0 k = some (cs, place) := by
  rcases allBreaks_or_lines cs with hall | ⟨lead, front, trail, rfl, hlead, hfront, htrail⟩
  · exact ⟨_, rfl, rfl, readBlock_allBreaks hall hne hrest hk⟩
  · rw [literalBody_append_literalTail hlead hfront htrail] at hk
    exact readBlock_lines hlead hfront htrail (fun c hc => hshown c (by simp [hc])) hrest hk

end CallerStubs.Yaml
