/-
  Caller stubs — the tokens of a line in a mapping.

  Of an entry three pieces are read: its key, the colon, and its value.  Only
  the colon shows that a mapping has begun and that there is a key before it.

  * `StartsLine`: the next token of a layout is at the start of an entry;
  * `next_eq_plainScalar`: which texts are read as plain scalars;
  * `tokensToEnd_key`, `tokensToEnd_colon`, `tokensToEnd_value`: what each of
    the three pieces adds to the tokens.
-/
import CallerStubs.Proofs.Yaml.Style
import CallerStubs.Yaml.Layout

namespace CallerStubs.Yaml

namespace Layout

variable {s t : Layout} {c : Char} {cs rest : List Char} {line bytes n : Nat}
  {columns : List Nat} {tokens : List Token}

/-! ## Steps -/

theorem atToken_eq {place : Cursor} {keyAllowed : Bool}
    (h : nextPlace s.inFlow false s.keyAllowed s.place.line s.place.column s.place.rest =
      (place, keyAllowed)) :
    s.atToken = { s with place, keyAllowed, bytes := s.bytes + s.place.bytesTo place } := by
  simp only [atToken, h, counted]

theorem tokensToEnd_step {next : Layout} (hs : s.atToken.dropOverdueKeys = some t)
    (hrest : t.place.rest = c :: cs)
    (hnext : (t.closeBlocks (some t.place.column)).next c cs = some next) :
    tokensToEnd (n + 1) s = tokensToEnd n (t.counted next) := by
  simp [tokensToEnd, hs, hrest, hnext]

/-- No collection of a mapping that is not indented ends right of its column. -/
theorem closeBlocks_eq_self (hcolumns : columns ⊆ [0]) (h : s.columns = columns) (column : Nat) :
    s.closeBlocks (some column) = s := by
  have htake : columns.takeWhile (fun i => (some column).all (· < i)) = [] := by
    cases columns with
    | nil => rfl
    | cons i is =>
      have hi : i = 0 := by simpa using hcolumns (List.mem_cons_self ..)
      exact List.takeWhile_cons_of_neg (by simp [hi])
  have hdrop : columns.dropWhile (fun i => (some column).all (· < i)) = columns := by
    cases columns with
    | nil => rfl
    | cons i is =>
      have hi : i = 0 := by simpa using hcolumns (List.mem_cons_self ..)
      exact List.dropWhile_cons_of_neg (by simp [hi])
  unfold closeBlocks
  split_ifs
  · rfl
  · rw [h]
    simp only [htake, hdrop, List.map_nil, List.append_nil]
    rw [← h]

theorem nextPlace_atEntry (h : AtEntry rest) (keyAllowed : Bool) (line : Nat) :
    nextPlace false false keyAllowed line 0 rest = (⟨rest, line, 0⟩, keyAllowed) := by
  cases rest with
  | nil => rfl
  | cons c cs =>
    have hc := atEntry_cons.1 h
    simp [nextPlace, isBreak_of_isKeyChar hc, ne_of_isKeyChar hc (d := '#') (by decide),
      ne_of_isKeyChar hc (d := ' ') (by decide), ne_of_isKeyChar hc (d := '\t') (by decide),
      ne_of_isKeyChar hc (d := '\uFEFF') (by decide)]

theorem nextPlace_break (h : AtEntry rest) (line column : Nat) :
    nextPlace false false false line column ('\n' :: rest) = (⟨rest, line + 1, 0⟩, true) := by
  have hbreak : isBreak '\n' = true := by decide
  rw [nextPlace, if_pos hbreak]
  exact nextPlace_atEntry h true (line + 1)

/-! ## Lines -/

/-- The layout of a mapping at the start of a line. -/
def lineStart (line bytes : Nat) (columns : List Nat) (tokens : List Token) (rest : List Char) :
    Layout :=
  { place := ⟨rest, line, 0⟩, bytes, columns, tokens }

/-- **The next token of the layout is at the start of a line** of a mapping, and
    begins an entry. -/
def StartsLine (s : Layout) (columns : List Nat) (tokens : List Token) (rest : List Char) : Prop :=
  ∃ line bytes, s.atToken = lineStart line bytes columns tokens rest

/-- An entry may begin where the white space behind a value is over. -/
theorem startsLine_of_nextPlace {place : Cursor} {bytes : Nat} {keyAllowed : Bool}
    (h : nextPlace false false keyAllowed place.line place.column place.rest =
      (⟨rest, line, 0⟩, true)) :
    StartsLine { place, bytes, columns, tokens, keyAllowed } columns tokens rest :=
  ⟨line, _, atToken_eq h⟩

/-! ## Plain scalars -/

theorem startsWithThree_eq_false {mark : Char} (h : c ≠ mark) (cs : List Char) :
    startsWithThree mark (c :: cs) = false := by
  match cs with
  | [] => rfl
  | [_] => rfl
  | _ :: _ :: _ => simp [startsWithThree, h]

/-- The characters that begin no plain scalar. -/
def specialChars : List Char := ",[]\x7b\x7d#&*!|>\x27\"%@\x60".toList

/-- The characters that begin a plain scalar if no white space follows. -/
def leadingSigns : List Char := ['?', ':', '-']

theorem startsPlain_eq_true (hwhite : blankAhead [c] = false) (hspecial : c ∉ specialChars)
    (hsign : c ∈ leadingSigns → blankAhead cs = false) : startsPlain false c cs = true := by
  by_cases hc : c ∈ leadingSigns
  · have hblank := hsign hc
    have hspacing : (cs.take 1).any isSpacing = false := by
      cases cs with
      | nil => rfl
      | cons d ds =>
        simp only [blankAhead, Bool.or_eq_false_iff] at hblank
        simpa using hblank.1
    simp only [leadingSigns, List.mem_cons, List.not_mem_nil, or_false] at hc
    rcases hc with rfl | rfl | rfl
    · simp [startsPlain, hblank]
    · simp [startsPlain, hblank]
    · simp [startsPlain, hspacing]
  · have hindicator : "-?:,[]\x7b\x7d#&*!|>\x27\"%@\x60".toList.contains c = false := by
      rw [List.contains_eq_mem, decide_eq_false_iff_not]
      intro hmem
      have hsubset : "-?:,[]\x7b\x7d#&*!|>\x27\"%@\x60".toList ⊆
          leadingSigns ++ specialChars := by decide
      exact (List.mem_append.1 (hsubset hmem)).elim hc hspecial
    simp only [startsPlain, hwhite, hindicator]
    rfl

/-- A text that may be written plainly is read as a plain scalar; at the start
    of a line, it is a key. -/
theorem next_eq_plainScalar (hflow : s.inFlow = false)
    (hkey : s.place.column = 0 → isKeyChar c = true) (hwhite : blankAhead [c] = false)
    (hspecial : c ∉ specialChars) (hsign : c ∈ leadingSigns → blankAhead cs = false) :
    s.next c cs = s.plainScalar := by
  have hne {d : Char} (hd : d ∈ specialChars) : c ≠ d := fun heq => hspecial (heq ▸ hd)
  have hmark {d : Char} (hd : isKeyChar d = false) :
      (s.place.column == 0 && startsWithThree d (c :: cs)) = false := by
    by_cases hcolumn : s.place.column = 0
    · rw [startsWithThree_eq_false (ne_of_isKeyChar (hkey hcolumn) hd), Bool.and_false]
    · rw [beq_eq_false_iff_ne.2 hcolumn, Bool.false_and]
  have hblank {d : Char} (hd : d ∈ leadingSigns) : ¬ (c = d ∧ blankAhead cs = true) := by
    rintro ⟨rfl, h⟩
    rw [hsign hd] at h
    cases h
  unfold Layout.next
  simp only [hmark (d := '-') (by decide), hmark (d := '.') (by decide), hflow,
    beq_eq_false_iff_ne.2 (hne (d := '%') (by decide)), hne (d := '[') (by decide),
    hne (d := '\x7b') (by decide), hne (d := ']') (by decide), hne (d := '\x7d') (by decide),
    hne (d := ',') (by decide), hblank (d := '-') (by decide), hblank (d := '?') (by decide),
    hblank (d := ':') (by decide), hne (d := '*') (by decide), hne (d := '&') (by decide),
    hne (d := '!') (by decide), hne (d := '|') (by decide), hne (d := '>') (by decide),
    hne (d := '\x27') (by decide), hne (d := '"') (by decide), Bool.and_false, Bool.false_or,
    Bool.false_eq_true, false_and, if_false, if_true,
    startsPlain_eq_true hwhite hspecial hsign]

/-! ## Keys -/

theorem notMem_of_isKeyChar (hc : isKeyChar c = true) : c ∉ specialChars ∧ c ∉ leadingSigns := by
  have hspecial : specialChars.any isKeyChar = false := by decide
  have hsigns : leadingSigns.any isKeyChar = false := by decide
  exact ⟨fun hmem => List.any_eq_false.1 hspecial c hmem hc,
    fun hmem => List.any_eq_false.1 hsigns c hmem hc⟩

/-- **A key that can be found again**: it is not empty, of letters, and not too
    long. -/
structure IsKey (name : List Char) : Prop where
  nonempty : name ≠ []
  chars : ∀ c ∈ name, isKeyChar c = true
  size : (String.ofList name).utf8ByteSize ≤ maxKeySize

/-- The layout of a mapping behind a key, at its colon. -/
def behindKey (line bytes bytes' : Nat) (columns : List Nat) (tokens : List Token)
    (name rest : List Char) : Layout where
  place := ⟨':' :: ' ' :: rest, line, name.length⟩
  bytes := bytes'
  tokens := tokens ++ [.scalar name]
  columns
  key := some ⟨columns.head? == some 0, tokens.length, line, 0, bytes⟩
  keyAllowed := false

theorem plainScalar_lineStart {name : List Char} (hname : IsKey name) (rest : List Char) :
    (lineStart line bytes columns tokens (name ++ ':' :: ' ' :: rest)).plainScalar =
      some (behindKey line bytes bytes columns tokens name rest) := by
  have hread := readPlain_key hname.chars (columns.head?.elim 0 (· + 1)) line 0 rest
  rw [Nat.zero_add] at hread
  simp [plainScalar, startKey, dropKey, lineStart, inFlow, hread, behindKey]

/-- **A key is read at the start of a line.** -/
theorem tokensToEnd_key {name : List Char} (hname : IsKey name) (hcolumns : columns ⊆ [0])
    (h : StartsLine s columns tokens (name ++ ':' :: ' ' :: rest)) :
    ∃ line bytes bytes', bytes' ≤ bytes + maxKeySize ∧
      tokensToEnd (n + 1) s =
        tokensToEnd n (behindKey line bytes bytes' columns tokens name rest) := by
  obtain ⟨line, bytes, hs⟩ := h
  obtain ⟨c, cs, hcons⟩ := List.exists_cons_of_ne_nil hname.nonempty
  have hc : isKeyChar c = true := hname.chars c (hcons ▸ List.mem_cons_self ..)
  have hwhite : blankAhead [c] = false := by
    simp [blankAhead, isBreak_of_isKeyChar hc, isSpacing_of_isKeyChar hc]
  have hnext : ((lineStart line bytes columns tokens (name ++ ':' :: ' ' :: rest)).closeBlocks
      (some 0)).next c (cs ++ ':' :: ' ' :: rest) =
        some (behindKey line bytes bytes columns tokens name rest) := by
    rw [closeBlocks_eq_self hcolumns rfl, ← plainScalar_lineStart hname]
    exact next_eq_plainScalar rfl (fun _ => hc) hwhite (notMem_of_isKeyChar hc).1
      fun hmem => absurd hmem (notMem_of_isKeyChar hc).2
  have hsize : (⟨name ++ ':' :: ' ' :: rest, line, 0⟩ : Cursor).bytesTo
      ⟨':' :: ' ' :: rest, line, name.length⟩ = (String.ofList name).utf8ByteSize := by
    simp [Cursor.bytesTo]
  refine ⟨line, bytes, bytes + (String.ofList name).utf8ByteSize, ?_, ?_⟩
  · exact Nat.add_le_add_left hname.size bytes
  · rw [tokensToEnd_step (by rw [hs]; rfl) (by rw [lineStart, hcons]; rfl) hnext, counted, ← hsize]
    rfl

/-! ## Colons -/

theorem insertIdx_append (xs ys : List Token) (t : Token) :
    (xs ++ ys).insertIdx xs.length t = xs ++ t :: ys := by
  induction xs with
  | nil => rfl
  | cons x xs ih => simp [ih]

/-- The token that opens a mapping, if none is open. -/
def opening (columns : List Nat) : List Token :=
  if columns.isEmpty then [.blockMappingStart] else []

/-- The layout of a mapping behind a colon. -/
def behindColon (line bytes column : Nat) (tokens : List Token) (rest : List Char) : Layout where
  place := ⟨' ' :: rest, line, column⟩
  bytes
  tokens
  columns := [0]
  keyAllowed := false

theorem mappingValue_behindKey {name : List Char} {bytes' : Nat}
    (hcolumns : columns = [] ∨ columns = [0]) (rest : List Char) :
    (behindKey line bytes bytes' columns tokens name rest).mappingValue =
      some (behindColon line bytes' (name.length + 1)
        (tokens ++ opening columns ++ [.key, .scalar name, .value]) rest) := by
  rcases hcolumns with rfl | rfl
  · simp [mappingValue, behindKey, openBlock, inFlow, insertIdx_append, emit, Cursor.advance,
      behindColon, opening]
  · simp [mappingValue, behindKey, openBlock, inFlow, insertIdx_append, emit, Cursor.advance,
      behindColon, opening]

theorem next_colon (hcolumn : s.place.column ≠ 0) (rest : List Char) :
    s.next ':' (' ' :: rest) = s.mappingValue := by
  simp [Layout.next, hcolumn, blankAhead, isSpacing]

/-- **A colon is read behind a key**, and makes it one. -/
theorem tokensToEnd_colon {name : List Char} {bytes' : Nat} (hname : IsKey name)
    (hcolumns : columns = [] ∨ columns = [0]) (hbytes : bytes' ≤ bytes + maxKeySize) (line : Nat)
    (tokens : List Token) (rest : List Char) :
    ∃ bytes'', tokensToEnd (n + 1) (behindKey line bytes bytes' columns tokens name rest) =
      tokensToEnd n (behindColon line bytes'' (name.length + 1)
        (tokens ++ opening columns ++ [.key, .scalar name, .value]) rest) := by
  have hsubset : columns ⊆ [0] := by
    rcases hcolumns with rfl | rfl
    · simp
    · simp
  have hcolumn : name.length ≠ 0 := by simpa using hname.nonempty
  have hplace : (behindKey line bytes bytes' columns tokens name rest).atToken =
      behindKey line bytes bytes' columns tokens name rest := by
    have hstays : nextPlace false false false line name.length (':' :: ' ' :: rest) =
        (⟨':' :: ' ' :: rest, line, name.length⟩, false) := rfl
    rw [atToken_eq (s := behindKey line bytes bytes' columns tokens name rest) hstays]
    simp [behindKey, Cursor.bytesTo]
  have hdrop : (behindKey line bytes bytes' columns tokens name rest).dropOverdueKeys =
      some (behindKey line bytes bytes' columns tokens name rest) := by
    have hnot : ¬ bytes + maxKeySize < bytes' := by omega
    simp [dropOverdueKeys, pending, behindKey, hnot]
  have hnext : ((behindKey line bytes bytes' columns tokens name rest).closeBlocks
      (some name.length)).next ':' (' ' :: rest) =
        some (behindColon line bytes' (name.length + 1)
          (tokens ++ opening columns ++ [.key, .scalar name, .value]) rest) := by
    rw [closeBlocks_eq_self hsubset rfl, next_colon hcolumn, mappingValue_behindKey hcolumns]
  exact ⟨_, tokensToEnd_step (by rw [hplace, hdrop]) rfl hnext⟩

/-! ## Values -/

/-- The layout of a mapping at a value. -/
def atValue (line bytes column : Nat) (tokens : List Token) (rest : List Char) : Layout where
  place := ⟨rest, line, column⟩
  bytes
  tokens
  columns := [0]
  keyAllowed := false

/-- A value is found behind the space that follows the colon. -/
theorem atToken_behindColon (line bytes column : Nat) (tokens : List Token)
    (hbreak : isBreak c = false) (hspacing : isSpacing c = false) (hcomment : c ≠ '#')
    (cs : List Char) :
    ∃ bytes', (behindColon line bytes column tokens (c :: cs)).atToken =
      atValue line bytes' (column + 1) tokens (c :: cs) := by
  simp only [isSpacing, Bool.or_eq_false_iff, beq_eq_false_iff_ne] at hspacing
  have hspace : isBreak ' ' = false := by decide
  have hplace : nextPlace false false false line column (' ' :: c :: cs) =
      (⟨c :: cs, line, column + 1⟩, false) := by
    simp [nextPlace, hspace, hbreak, hspacing, hcomment]
  exact ⟨_, atToken_eq hplace⟩

/-- **What reading a value leaves**: a token with its text, and the next entry
    at the start of a line. -/
def LeavesLine (cs rest : List Char) (tokens : List Token) (next : Option Layout) : Prop :=
  ∃ place keyAllowed line bytes,
    next = some { place, bytes, columns := [0], tokens := tokens ++ [.scalar cs], keyAllowed } ∧
      nextPlace false false keyAllowed place.line place.column place.rest =
        (⟨rest, line, 0⟩, true)

variable {column : Nat}

theorem leavesLine_plainScalar (h : IsPlain cs) (hcolumn : 0 < column) (hrest : AtEntry rest) :
    LeavesLine cs rest tokens
      (atValue line bytes column tokens (cs ++ '\n' :: rest)).plainScalar := by
  have hread := h.readPlain_eq hcolumn hrest line
  refine ⟨⟨rest, line + 1, 0⟩, true, line + 1, bytes, ?_, nextPlace_atEntry hrest true (line + 1)⟩
  simp [plainScalar, startKey, atValue, inFlow, hread]

theorem leavesLine_singleQuoted (h : IsSingleQuoted {} cs) (hrest : AtEntry rest) :
    LeavesLine cs rest tokens
      ((atValue line bytes column tokens
        ('\x27' :: (singleQuotedBody false cs ++ '\n' :: rest))).quotedScalar false) := by
  obtain ⟨⟨_, line', column'⟩, rfl, hread⟩ := readSingleQuoted_body line
    (column + 1) h (.inl (by omega)) rest
  refine ⟨⟨'\n' :: rest, line', column'⟩, false, line' + 1, bytes, ?_,
    nextPlace_break hrest line' column'⟩
  simp [quotedScalar, startKey, atValue, hread, Gap.text]

theorem leavesLine_doubleQuoted (cs : List Char) (hrest : AtEntry rest) :
    LeavesLine cs rest tokens
      ((atValue line bytes column tokens
        ('"' :: (cs.flatMap doubleQuotedChar ++ '"' :: '\n' :: rest))).quotedScalar true) := by
  obtain ⟨⟨_, line', column'⟩, rfl, hread⟩ := readDoubleQuoted_flatMap {} line (column + 1) rfl
    (by omega) cs ('\n' :: rest)
  refine ⟨⟨'\n' :: rest, line', column'⟩, false, line' + 1, bytes, ?_,
    nextPlace_break hrest line' column'⟩
  simp [quotedScalar, startKey, atValue, hread, Gap.text]

theorem leavesLine_blockScalar (hshown : ∀ c ∈ cs, isPlainlyShown c = true) (hne : cs ≠ [])
    (hrest : AtEntry rest) {tail : List Char}
    (htail : '|' :: tail = literalHeader cs ++ (literalBody true cs ++ (literalTail cs ++ rest))) :
    LeavesLine cs rest tokens
      ((atValue line bytes column tokens ('|' :: tail)).blockScalar false) := by
  obtain ⟨place, hplace, hcolumn, hread⟩ := readBlock_literal hshown hne hrest
    (k := ⟨tail, line, column + 1⟩) htail
  refine ⟨place, true, place.line, bytes, ?_, ?_⟩
  · simp [blockScalar, dropKey, atValue, Cursor.advance, hread]
  · rw [hplace, hcolumn]
    exact nextPlace_atEntry hrest true place.line

/-- The first character of a plain scalar. -/
theorem first_of_isPlain (h : IsPlain (c :: cs)) :
    isBreak c = false ∧ isSpacing c = false ∧ c ∉ specialChars := by
  have hfirst : isWhite c = false := by simpa using h.first
  simp only [isWhite, Bool.or_eq_false_iff] at hfirst
  have hindicator := h.firstIndicator
  simp only [hasFirstIndicator, Bool.or_eq_false_iff] at hindicator
  refine ⟨hfirst.2, ?_, fun hmem => ?_⟩
  · rw [isSpacing_eq (h.shown c (List.mem_cons_self ..))]
    exact hfirst.1
  · have hsubset : specialChars ⊆ "#,[]\x7b\x7d&*!|>\x27\"%@\x60".toList := by decide
    have hnot := hindicator.2.1
    rw [List.contains_eq_mem, decide_eq_false_iff_not] at hnot
    exact hnot (hsubset hmem)

theorem next_styled (hflow : s.inFlow = false) (hcolumn : s.place.column ≠ 0) (tail : List Char) :
    s.next '\x27' tail = s.quotedScalar false ∧ s.next '"' tail = s.quotedScalar true ∧
      s.next '|' tail = s.blockScalar false := by
  refine ⟨?_, ?_, ?_⟩
  · simp [Layout.next, hcolumn]
  · simp [Layout.next, hcolumn]
  · simp [Layout.next, hcolumn, hflow]

/-- **A value is read behind a colon**, in whichever form it is written. -/
theorem next_written {written : List Char} (h : IsWritten cs written) (hcolumn : 0 < column)
    (hrest : AtEntry rest) (line : Nat) (tokens : List Token) :
    ∃ c tail, written ++ rest = c :: tail ∧ isBreak c = false ∧ isSpacing c = false ∧ c ≠ '#' ∧
      ∀ bytes, LeavesLine cs rest tokens
        ((atValue line bytes column tokens (c :: tail)).next c tail) := by
  have hne : column ≠ 0 := by omega
  cases h with
  | plain h hcs =>
    obtain ⟨c, cs, rfl⟩ := List.exists_cons_of_ne_nil hcs
    obtain ⟨hbreak, hspacing, hspecial⟩ := first_of_isPlain h
    have hcomment : c ≠ '#' := by
      rintro rfl
      exact hspecial (by decide)
    refine ⟨c, cs ++ '\n' :: rest, by simp, hbreak, hspacing, hcomment, fun bytes => ?_⟩
    rw [next_eq_plainScalar rfl (fun h => absurd h hne) (by simp [blankAhead, hbreak, hspacing])
      hspecial fun hmem => by rw [blankAhead_append (by decide), h.blankAhead_eq_false hmem]]
    exact leavesLine_plainScalar h hcolumn hrest
  | singleQuoted h =>
    refine ⟨'\x27', singleQuotedBody false cs ++ '\n' :: rest, by simp, by decide, by decide,
      by decide, fun bytes => ?_⟩
    rw [(next_styled rfl hne _).1]
    exact leavesLine_singleQuoted h hrest
  | doubleQuoted =>
    refine ⟨'"', cs.flatMap doubleQuotedChar ++ '"' :: '\n' :: rest, by simp, by decide, by decide,
      by decide, fun bytes => ?_⟩
    rw [(next_styled rfl hne _).2.1]
    exact leavesLine_doubleQuoted cs hrest
  | literal hshown hcs =>
    obtain ⟨tail, htail⟩ : ∃ tail, '|' :: tail =
        literalHeader cs ++ (literalBody true cs ++ (literalTail cs ++ rest)) := ⟨_, rfl⟩
    refine ⟨'|', tail, by simp [htail], by decide, by decide, by decide, fun bytes => ?_⟩
    rw [(next_styled rfl hne _).2.2]
    exact leavesLine_blockScalar hshown hcs hrest htail

/-- **A value adds its text to the tokens**, and leaves the layout at the start
    of a line. -/
theorem tokensToEnd_value {written : List Char} (h : IsWritten cs written) (hrest : AtEntry rest)
    (line bytes column : Nat) (tokens : List Token) :
    ∃ s, StartsLine s [0] (tokens ++ [.scalar cs]) rest ∧
      tokensToEnd (n + 1) (behindColon line bytes column tokens (written ++ rest)) =
        tokensToEnd n s := by
  obtain ⟨c, tail, hcons, hbreak, hspacing, hcomment, hleaves⟩ :=
    next_written h (Nat.succ_pos column) hrest line tokens
  obtain ⟨bytes', hplace⟩ :=
    atToken_behindColon line bytes column tokens hbreak hspacing hcomment tail
  obtain ⟨place, keyAllowed, line', bytes'', hnext, hnextPlace⟩ := hleaves bytes'
  have hnext' : ((atValue line bytes' (column + 1) tokens (c :: tail)).closeBlocks
      (some (column + 1))).next c tail =
        some { place, bytes := bytes'', columns := [0], tokens := tokens ++ [.scalar cs],
               keyAllowed } := by
    rw [closeBlocks_eq_self (List.Subset.refl [0]) rfl, hnext]
  have hread := tokensToEnd_step (n := n)
    (s := behindColon line bytes column tokens (c :: tail)) (by rw [hplace]; rfl) rfl hnext'
  rw [hcons]
  exact ⟨_, startsLine_of_nextPlace hnextPlace, hread⟩

end Layout

end CallerStubs.Yaml
