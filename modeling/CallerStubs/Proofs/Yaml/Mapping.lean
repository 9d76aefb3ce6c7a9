/-
  Caller stubs — a mapping that is written line by line is read back.

  * `EntryText`: an entry, and how its value is written;
  * `tokensToEnd_entry`, `readTokens_entries`: the tokens of an entry, and those
    of a mapping;
  * `readBlockEntries_tokens`: the entries that these tokens describe;
  * `Tree.read_entries`: the mapping is read back.
-/
import CallerStubs.Proofs.Yaml.Layout
import CallerStubs.Yaml.Node

namespace CallerStubs.Yaml

/-! ## Entries -/

/-- An entry of a mapping, and how its value is written. -/
structure EntryText where
  name : List Char
  value : List Char
  written : List Char

namespace EntryText

/-- Can the entry be read back? -/
structure Legible (e : EntryText) : Prop where
  name : Layout.IsKey e.name
  value : IsWritten e.value e.written

/-- The text of an entry. -/
def text (e : EntryText) : List Char :=
  e.name ++ ':' :: ' ' :: e.written

/-- The tokens of an entry. -/
def tokens (e : EntryText) : List Token :=
  [.key, .scalar e.name, .value, .scalar e.value]

end EntryText

variable {e : EntryText} {entries : List EntryText} {rest : List Char} {n : Nat}

theorem atEntry_flatMap (h : ∀ e ∈ entries, e.Legible) :
    AtEntry (entries.flatMap EntryText.text) := by
  cases entries with
  | nil => exact atEntry_nil
  | cons e entries =>
    have hname := (h e (List.mem_cons_self ..)).name
    obtain ⟨c, cs, hcons⟩ := List.exists_cons_of_ne_nil hname.nonempty
    rw [List.flatMap_cons, EntryText.text, hcons]
    exact atEntry_cons.2 (hname.chars c (hcons ▸ List.mem_cons_self ..))

/-- An entry is longer than it has tokens to be read. -/
theorem length_le_length_flatMap (h : ∀ e ∈ entries, e.Legible) :
    3 * entries.length ≤ (entries.flatMap EntryText.text).length := by
  induction entries with
  | nil => exact Nat.le_refl 0
  | cons e entries ih =>
    obtain ⟨he, hentries⟩ := List.forall_mem_cons.1 h
    have hpos := List.length_pos_iff.2 he.name.nonempty
    have hmore := ih hentries
    rw [List.flatMap_cons, List.length_append, EntryText.text, List.length_append]
    simp only [List.length_cons]
    omega

namespace Layout

variable {s : Layout} {columns : List Nat} {tokens : List Token}

/-- **An entry is read at the start of a line**, up to the start of another. -/
theorem tokensToEnd_entry (he : e.Legible) (hcolumns : columns = [] ∨ columns = [0])
    (hrest : AtEntry rest) (hs : StartsLine s columns tokens (e.text ++ rest)) :
    ∃ t, StartsLine t [0] (tokens ++ opening columns ++ e.tokens) rest ∧
      tokensToEnd (n + 3) s = tokensToEnd n t := by
  have hsubset : columns ⊆ [0] := by
    rcases hcolumns with rfl | rfl
    · simp
    · simp
  rw [EntryText.text, List.append_assoc] at hs
  obtain ⟨line, bytes, bytes', hbytes, hkey⟩ := tokensToEnd_key (n := n + 2) he.name hsubset hs
  obtain ⟨bytes'', hcolon⟩ := tokensToEnd_colon (n := n + 1) he.name hcolumns hbytes line tokens
    (e.written ++ rest)
  obtain ⟨t, ht, hvalue⟩ := tokensToEnd_value (n := n) he.value hrest line bytes''
    (e.name.length + 1) (tokens ++ opening columns ++ [.key, .scalar e.name, .value])
  refine ⟨t, ?_, hkey.trans (hcolon.trans hvalue)⟩
  simpa [EntryText.tokens] using ht

theorem tokensToEnd_end (hs : StartsLine s [0] tokens []) :
    tokensToEnd (n + 1) s = some (tokens ++ [.blockEnd]) := by
  obtain ⟨line, bytes, hs⟩ := hs
  have hdrop : (lineStart line bytes [0] tokens []).dropOverdueKeys =
      some (lineStart line bytes [0] tokens []) := rfl
  rw [tokensToEnd, hs, hdrop]
  simp [lineStart, closeBlocks, inFlow, dropKey]

/-- **The entries of a mapping are read one after the other.** -/
theorem tokensToEnd_entries (h : ∀ e ∈ entries, e.Legible) (hn : 3 * entries.length < n)
    (hs : StartsLine s [0] tokens (entries.flatMap EntryText.text)) :
    tokensToEnd n s = some (tokens ++ entries.flatMap EntryText.tokens ++ [.blockEnd]) := by
  induction entries generalizing n s tokens with
  | nil =>
    obtain ⟨n, rfl⟩ := Nat.exists_eq_succ_of_ne_zero (show n ≠ 0 by omega)
    simpa using tokensToEnd_end hs
  | cons e entries ih =>
    obtain ⟨he, hentries⟩ := List.forall_mem_cons.1 h
    rw [List.length_cons] at hn
    obtain ⟨n, rfl⟩ : ∃ m, n = m + 3 := ⟨n - 3, by omega⟩
    obtain ⟨t, ht, hread⟩ := tokensToEnd_entry (n := n) he (.inr rfl) (atEntry_flatMap hentries) hs
    rw [hread, ih hentries (by omega) ht]
    simp [opening]

end Layout

/-- **The tokens of a mapping that is written line by line.** -/
theorem readTokens_entries (h : ∀ e ∈ entries, e.Legible) (hne : entries ≠ []) :
    readTokens (entries.flatMap EntryText.text) =
      some (.blockMappingStart :: entries.flatMap EntryText.tokens ++ [.blockEnd]) := by
  have hlength := length_le_length_flatMap h
  have hstart : Layout.StartsLine { place := ⟨entries.flatMap EntryText.text, 0, 0⟩ } [] []
      (entries.flatMap EntryText.text) :=
    Layout.startsLine_of_nextPlace (Layout.nextPlace_atEntry (atEntry_flatMap h) true 0)
  rw [readTokens]
  generalize hn : (entries.flatMap EntryText.text).length + 1 = n
  obtain ⟨e, entries, rfl⟩ := List.exists_cons_of_ne_nil hne
  obtain ⟨he, hentries⟩ := List.forall_mem_cons.1 h
  rw [List.length_cons] at hlength
  obtain ⟨n, rfl⟩ : ∃ m, n = m + 3 := ⟨n - 3, by omega⟩
  obtain ⟨t, ht, hread⟩ := Layout.tokensToEnd_entry (n := n) he (.inl rfl)
    (atEntry_flatMap hentries) hstart
  rw [hread, Layout.tokensToEnd_entries hentries (by omega) ht]
  simp [Layout.opening]

/-! ## Nodes -/

/-- The nodes of an entry. -/
def EntryText.nodes (e : EntryText) : Node × Node :=
  (.scalar e.name, .scalar e.value)

variable {known : List (List Char)} {anchors : Anchors} {ts : List Token}

theorem readNodeOr_scalar (place : Place) (text : List Char) :
    readNodeOr known (n + 2) place [.key, .value, .blockEnd] ⟨.scalar text :: ts, anchors⟩ =
      some (.scalar text, ⟨ts, anchors⟩) :=
  rfl

theorem readValue_scalar (text : List Char) :
    readValue known (n + 3) .entry [.key, .value, .blockEnd]
        ⟨.value :: .scalar text :: ts, anchors⟩ =
      some (.scalar text, ⟨ts, anchors⟩) :=
  rfl

/-- **The entries of a mapping are found in its tokens.** -/
theorem readBlockEntries_tokens (hn : entries.length + 3 < n) :
    readBlockEntries known n ⟨entries.flatMap EntryText.tokens ++ .blockEnd :: ts, anchors⟩ =
      some (entries.map EntryText.nodes, ⟨ts, anchors⟩) := by
  induction entries generalizing n with
  | nil =>
    obtain ⟨n, rfl⟩ := Nat.exists_eq_succ_of_ne_zero (show n ≠ 0 by omega)
    rfl
  | cons e entries ih =>
    rw [List.length_cons] at hn
    obtain ⟨n, rfl⟩ : ∃ m, n = m + 4 := ⟨n - 4, by omega⟩
    have hmore := ih (n := n + 3) (by omega)
    rw [List.flatMap_cons, EntryText.tokens]
    simp only [List.cons_append, List.nil_append]
    rw [readBlockEntries]
    simp [Feed.withTokens, readNodeOr_scalar, readValue_scalar, hmore, EntryText.nodes]

theorem readNode_mapping {more : List (Node × Node)}
    (h : readBlockEntries known n ⟨ts, anchors⟩ = some (more, ⟨[], anchors⟩)) :
    readNode known (n + 1) .block ⟨.blockMappingStart :: ts, anchors⟩ =
      some (.mapping more, ⟨[], anchors⟩) := by
  change (readBlockEntries known n ⟨ts, anchors⟩).bind (fun r => some (Node.mapping r.1, r.2)) = _
  rw [h]
  rfl

theorem length_flatMap_tokens (entries : List EntryText) :
    (entries.flatMap EntryText.tokens).length = 4 * entries.length := by
  induction entries with
  | nil => rfl
  | cons e entries ih =>
    rw [List.flatMap_cons, List.length_append, ih, EntryText.tokens]
    simp only [List.length_cons, List.length_nil]
    omega

theorem ofTokens?_eq {root : Node}
    (h : readNode commonHandles (3 * (ts.length + 1) + 3) .block ⟨.blockMappingStart :: ts, {}⟩ =
      some (root, ⟨[], {}⟩)) :
    Tree.ofTokens? (.blockMappingStart :: ts) = some ⟨root, {}⟩ := by
  have hdirectives : readDirectives {} (.blockMappingStart :: ts) =
      some ({}, .blockMappingStart :: ts) := rfl
  simp [Tree.ofTokens?, Tree.readRoot, hdirectives, h]

theorem ofTokens?_entries (entries : List EntryText) :
    Tree.ofTokens? (.blockMappingStart :: entries.flatMap EntryText.tokens ++ [.blockEnd]) =
      some ⟨.mapping (entries.map EntryText.nodes), {}⟩ := by
  have hlength : entries.length + 3 <
      3 * ((entries.flatMap EntryText.tokens ++ [Token.blockEnd]).length + 1) + 2 := by
    rw [List.length_append, length_flatMap_tokens]
    omega
  exact ofTokens?_eq (readNode_mapping (readBlockEntries_tokens hlength))

theorem isPlainlyShown_of_isKeyChar {c : Char} (h : isKeyChar c = true) :
    isPlainlyShown c = true := by
  simp only [isKeyChar, Bool.or_eq_true, beq_iff_eq] at h
  rcases h with h | rfl
  · obtain ⟨hlow, hhigh⟩ := Bool.and_eq_true_iff.1 h
    have hlow' : 97 ≤ c.toNat := UInt32.le_iff_toNat_le.1 (of_decide_eq_true hlow)
    have hhigh' : c.toNat ≤ 122 := UInt32.le_iff_toNat_le.1 (of_decide_eq_true hhigh)
    simp only [isPlainlyShown, Bool.or_eq_true, Bool.and_eq_true, beq_iff_eq, bne_iff_ne,
      decide_eq_true_eq]
    omega
  · decide

theorem EntryText.Legible.shown (h : e.Legible) : ∀ c ∈ e.text, isPlainlyShown c = true := by
  have hcolon : isPlainlyShown ':' = true ∧ isPlainlyShown ' ' = true := by decide
  have hwritten := List.all_eq_true.1 h.value.all_isPlainlyShown
  have hname : ∀ c ∈ e.name, isPlainlyShown c = true :=
    fun c hc => isPlainlyShown_of_isKeyChar (h.name.chars c hc)
  intro c hc
  simp only [EntryText.text, List.mem_append, List.mem_cons] at hc
  rcases hc with hc | rfl | rfl | hc
  · exact hname c hc
  · exact hcolon.1
  · exact hcolon.2
  · exact hwritten c hc

/-- **A mapping that is written line by line is read back.** -/
theorem Tree.read_entries (h : ∀ e ∈ entries, e.Legible) (hne : entries ≠ []) :
    Tree.read (entries.flatMap EntryText.text) =
      some ⟨.mapping (entries.map EntryText.nodes), {}⟩ := by
  have hshown : ∀ c ∈ entries.flatMap EntryText.text, isPlainlyShown c = true := by
    intro c hc
    obtain ⟨e, he, hc⟩ := List.mem_flatMap.1 hc
    exact (h e he).shown c hc
  have hreadable : (entries.flatMap EntryText.text).all isReadable = true := by
    rw [List.all_eq_true]
    exact fun c hc => isReadable_of_isPlainlyShown (hshown c hc)
  rw [Tree.read, if_pos hreadable, unifyBreaks_eq_self hshown, readTokens_entries h hne]
  exact ofTokens?_entries entries

end CallerStubs.Yaml
