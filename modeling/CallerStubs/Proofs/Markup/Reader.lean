/-
  Caller stubs — well-formed markup is read back as it was written.

  The reader takes the written form of a tree apart into tags and leaves, and
  puts them together to the same tree.

  * `Node.WellFormed`, `AllWellFormed`: trees that can be written, and whose
    references and declarations are in order;
  * `splitAt?_append`, `tagEnd?_renderAttributes`: where pieces and tags end;
  * `Token.next?_opening`, `Token.next?_closing`, `Token.next?_leaf`: the first
    token of a text is the one that was written first;
  * `readContent_renderAll`: the content of an element is read back;
  * `read_renderAll`: so is the root of a text, with comments around it.
-/
import CallerStubs.Document.Markup
import CallerStubs.Proofs.Markup.Attribute

namespace CallerStubs.Markup

/-! ## Well-formed markup -/

/-- Is the node a piece of text? -/
def Node.isText : Node → Bool
  | .text _ => true
  | _ => false

mutual

/-- **Well-formed markup**: names are names, what ends a piece is not in it,
    references are known, and elements declare only what they may. -/
def Node.WellFormed : Node → Prop
  | .element name attributes children =>
    IsName name ∧
      (∃ as : List Attribute, attributes = renderAttributes as ∧ ∀ a ∈ as, a.Legible) ∧
      declarationsSound attributes = true ∧ AllWellFormed children
  | .text chars => chars ≠ [] ∧ '<' ∉ chars ∧ '&' ∉ chars
  | .reference name => (decodeReference name).isSome
  | .cdata chars => ¬ "]]>".toList <:+: chars
  | .comment chars => ¬ "-->".toList <:+: chars
  | .instruction chars => ¬ "?>".toList <:+: chars ∧ chars.head? ≠ some '>'
  | .doctype _ => False

/-- Nodes in a row that are well-formed, with no two texts side by side. -/
def AllWellFormed : List Node → Prop
  | [] => True
  | n :: ns =>
    n.WellFormed ∧ (n.isText = true → ns.head?.any Node.isText = false) ∧ AllWellFormed ns

end

/-! ## Ends of pieces -/

theorem not_prefix_append {stem cs rest : List Char} {last : Char} (hlast : last ∉ stem)
    (hne : cs ≠ []) (hcs : ¬ (stem ++ [last]) <:+: cs) :
    ¬ (stem ++ [last]) <+: (cs ++ (stem ++ [last]) ++ rest) := by
  rintro ⟨t, ht⟩
  rw [List.append_assoc cs] at ht
  rcases List.append_eq_append_iff.1 ht with ⟨tail, hcs', -⟩ | ⟨overlap, hoverlap, hrest⟩
  · exact hcs (hcs' ▸ (List.prefix_append ..).isInfix)
  · -- what sticks out behind `cs` is a part of the stem, but ends with `last`
    have hlength : overlap.length ≤ stem.length := by
      have hsum := congrArg List.length hoverlap
      have hpos := List.length_pos_of_ne_nil hne
      simp only [List.length_append, List.length_singleton] at hsum
      omega
    have hstem : overlap <+: stem :=
      List.prefix_of_prefix_length_le ⟨t, hrest.symm⟩
        ((List.prefix_append stem [last]).trans (List.prefix_append _ rest)) hlength
    rcases List.eq_nil_or_concat overlap with rfl | ⟨front, c, rfl⟩
    · rw [List.append_nil] at hoverlap
      exact hcs (hoverlap ▸ List.infix_rfl)
    · have hc : last = c := by
        simpa using congrArg List.getLast? hoverlap
      exact hlast (hstem.subset (by simp [hc]))

/-- A piece ends where its end is written, if its end is not in it.  The last
    character of the end occurs only once in it. -/
theorem splitAt?_append {ending stem cs : List Char} {last : Char}
    (hending : ending = stem ++ [last]) (hlast : last ∉ stem) (hcs : ¬ ending <:+: cs)
    (rest : List Char) :
    splitAt? ending (cs ++ ending ++ rest) = some (cs, rest) := by
  induction cs with
  | nil =>
    have hprefix : ending.isPrefixOf (ending ++ rest) = true :=
      List.isPrefixOf_iff_prefix.2 (List.prefix_append ..)
    obtain ⟨c, cs, hcons⟩ := List.exists_cons_of_ne_nil (show ending ≠ [] by simp [hending])
    rw [List.nil_append]
    rw [hcons, List.cons_append] at hprefix ⊢
    rw [splitAt?, if_pos hprefix, ← List.cons_append, List.drop_left]
  | cons c cs ih =>
    have hnot : ¬ ending.isPrefixOf (c :: cs ++ ending ++ rest) = true := by
      rw [List.isPrefixOf_iff_prefix, hending]
      exact not_prefix_append hlast (List.cons_ne_nil c cs) (hending ▸ hcs)
    have hmore := ih fun h => hcs (h.trans (List.suffix_cons c cs).isInfix)
    rw [List.cons_append, List.cons_append] at hnot ⊢
    rw [splitAt?, if_neg hnot, hmore]
    rfl

/-! ## Ends of tags -/

variable {name : List Char} {attributes : List Attribute}

/-- Names do not end a tag. -/
theorem tagEnd?_name (h : ∀ c ∈ name, isNameChar c = true) (rest : List Char) :
    tagEnd? none (name ++ rest) = (tagEnd? none rest).map fun (i, r) => (name ++ i, r) := by
  induction name with
  | nil => simp
  | cons c cs ih =>
    have hc := h c (List.mem_cons_self ..)
    have hmore := ih fun c' hc' => h c' (List.mem_cons_of_mem _ hc')
    simp [tagEnd?, ne_of_isNameChar hc (d := '>') (by decide),
      ne_of_isNameChar hc (d := '"') (by decide),
      ne_of_isNameChar hc (d := '\x27') (by decide), hmore, Function.comp_def]

theorem tagEnd?_quoted {value : List Char} (h : '"' ∉ value) (rest : List Char) :
    tagEnd? (some '"') (value ++ '"' :: rest) =
      (tagEnd? none rest).map fun (i, r) => (value ++ '"' :: i, r) := by
  induction value with
  | nil => simp [tagEnd?]
  | cons c cs ih =>
    have hc : c ≠ '"' := fun hc => h (hc ▸ List.mem_cons_self ..)
    have hmore := ih fun hmem => h (List.mem_cons_of_mem _ hmem)
    simp [tagEnd?, hc, hmore, Function.comp_def]

theorem tagEnd?_render {a : Attribute} (h : a.Legible) (rest : List Char) :
    tagEnd? none (a.render ++ rest) = (tagEnd? none rest).map fun (i, r) => (a.render ++ i, r) := by
  have hvalue : tagEnd? none ('=' :: '"' :: (a.value ++ '"' :: rest)) =
      (tagEnd? none rest).map fun (i, r) => ('=' :: '"' :: (a.value ++ '"' :: i), r) := by
    simp [tagEnd?, tagEnd?_quoted h.value, Function.comp_def]
  have hspace (cs : List Char) :
      tagEnd? none (' ' :: cs) = (tagEnd? none cs).map fun (i, r) => (' ' :: i, r) := by
    simp [tagEnd?]
  simp only [Attribute.render_append]
  rw [hspace, tagEnd?_name h.name.chars, hvalue, Option.map_map, Option.map_map]
  rfl

theorem tagEnd?_renderAttributes (h : ∀ a ∈ attributes, a.Legible) (rest : List Char) :
    tagEnd? none (renderAttributes attributes ++ rest) =
      (tagEnd? none rest).map fun (i, r) => (renderAttributes attributes ++ i, r) := by
  induction attributes with
  | nil => simp [renderAttributes]
  | cons a attributes ih =>
    have hmore := ih fun b hb => h b (List.mem_cons_of_mem _ hb)
    rw [renderAttributes, List.flatMap_cons, ← renderAttributes, List.append_assoc,
      tagEnd?_render (h a (List.mem_cons_self ..)), hmore, Option.map_map]
    simp only [Function.comp_def, List.append_assoc]

theorem tagEnd?_tag (hname : IsName name) (h : ∀ a ∈ attributes, a.Legible) (rest : List Char) :
    tagEnd? none (name ++ renderAttributes attributes ++ '>' :: rest) =
      some (name ++ renderAttributes attributes, rest) := by
  have hend : tagEnd? none ('>' :: rest) = some ([], rest) := rfl
  rw [List.append_assoc, tagEnd?_name hname.chars, tagEnd?_renderAttributes h, hend]
  simp

/-! ## Tags -/

/-- What stands in a tag behind its name begins with a space. -/
theorem renderAttributes_eq_nil_or_cons (attributes : List Attribute) :
    renderAttributes attributes = [] ∨ ∃ cs, renderAttributes attributes = ' ' :: cs := by
  cases attributes with
  | nil => exact .inl rfl
  | cons a attributes =>
    refine .inr ?_
    rw [renderAttributes, List.flatMap_cons, Attribute.render_append]
    exact ⟨_, rfl⟩

theorem notSpace_of_isName (hname : IsName name) : ∀ c ∈ name, (!isSpace c) = true := by
  intro c hc
  rw [isSpace_eq_false (hname.chars c hc)]
  rfl

theorem tagName_tag (hname : IsName name) (attributes : List Attribute) :
    tagName (name ++ renderAttributes attributes) = name := by
  rw [tagName, List.takeWhile_append_of_pos (notSpace_of_isName hname)]
  rcases renderAttributes_eq_nil_or_cons attributes with h | ⟨cs, h⟩
  · simp [h]
  · rw [h, List.takeWhile_cons_of_neg (by decide), List.append_nil]

theorem tagRest_tag (hname : IsName name) (attributes : List Attribute) :
    tagRest (name ++ renderAttributes attributes) = renderAttributes attributes := by
  rw [tagRest, List.dropWhile_append_of_pos (notSpace_of_isName hname)]
  rcases renderAttributes_eq_nil_or_cons attributes with h | ⟨cs, h⟩
  · simp [h]
  · rw [h, List.dropWhile_cons_of_neg (by decide)]

theorem getLast?_tag (hname : IsName name) (attributes : List Attribute) :
    (name ++ renderAttributes attributes).getLast? ≠ some '/' := by
  rcases List.eq_nil_or_concat attributes with rfl | ⟨front, a, rfl⟩
  · intro hlast
    have hmem : '/' ∈ name := List.mem_of_getLast? (by simpa [renderAttributes] using hlast)
    exact ne_of_isNameChar (hname.chars _ hmem) (d := '/') (by decide) rfl
  · have hquote : (name ++ renderAttributes (front ++ [a])).getLast? = some '"' := by
      have hrender : a.render = ' ' :: (a.name ++ '=' :: '"' :: a.value) ++ ['"'] := by
        simp [Attribute.render]
      rw [renderAttributes, List.flatMap_append, ← List.append_assoc, List.flatMap_singleton,
        hrender, ← List.append_assoc, List.getLast?_concat]
    rw [List.concat_eq_append, hquote]
    decide

theorem openingTag_tag (hname : IsName name) (attributes : List Attribute) :
    openingTag (name ++ renderAttributes attributes) =
      .opening name (renderAttributes attributes) false := by
  have hlast : ((name ++ renderAttributes attributes).getLast? == some '/') = false :=
    beq_eq_false_iff_ne.2 (getLast?_tag hname attributes)
  simp only [openingTag, hlast, tagName_tag hname, tagRest_tag hname, Bool.false_eq_true, if_false]

theorem closingName_name (hname : IsName name) : closingName name = name := by
  obtain ⟨front, c, rfl⟩ := (List.eq_nil_or_concat name).resolve_left hname.nonempty
  have hc : isSpace c = false := isSpace_eq_false (hname.chars c (by simp))
  simp [closingName, hc]

namespace Token

theorem next?_lt_cons {c : Char} (hc : isNameChar c = true) (cs : List Char) :
    Token.next? ('<' :: c :: cs) =
      (tagEnd? none (c :: cs)).map fun (inside, r) => (openingTag inside, r) := by
  rw [Token.next?]
  · intro cs' h
    exact ne_of_isNameChar hc (by decide) (List.cons.inj h).1
  · intro cs' h
    exact ne_of_isNameChar hc (by decide) (List.cons.inj h).1
  · intro cs' h
    exact ne_of_isNameChar hc (by decide) (List.cons.inj h).1

theorem next?_opening (hname : IsName name) (h : ∀ a ∈ attributes, a.Legible)
    (rest : List Char) :
    Token.next? ('<' :: (name ++ renderAttributes attributes ++ '>' :: rest)) =
      some (.opening name (renderAttributes attributes) false, rest) := by
  have hend := tagEnd?_tag hname h rest
  obtain ⟨c, cs, hcons⟩ := List.exists_cons_of_ne_nil hname.nonempty
  have hc : isNameChar c = true := hname.chars c (hcons ▸ List.mem_cons_self ..)
  rw [hcons, List.cons_append, List.cons_append, next?_lt_cons hc, ← List.cons_append,
    ← List.cons_append, ← hcons, hend]
  exact congrArg (fun token => some (token, rest)) (openingTag_tag hname attributes)

theorem next?_closing (hname : IsName name) (rest : List Char) :
    Token.next? ('<' :: '/' :: (name ++ '>' :: rest)) = some (.closing name, rest) := by
  have hlegible : ∀ a ∈ ([] : List Attribute), a.Legible := by simp
  have hend := tagEnd?_tag hname hlegible rest
  simp only [renderAttributes, List.flatMap_nil, List.append_nil] at hend
  simp [Token.next?, hend, closingName_name hname]

theorem next?_comment {chars : List Char} (h : ¬ "-->".toList <:+: chars) (rest : List Char) :
    Token.next? ((Node.comment chars).render ++ rest) = some (.leaf (.comment chars), rest) := by
  have hsplit := splitAt?_append (show "-->".toList = ['-', '-'] ++ ['>'] from rfl) (by decide) h
    rest
  change (splitAt? "-->".toList (chars ++ "-->".toList ++ rest)).map _ = _
  rw [hsplit]
  rfl

theorem next?_cdata {chars : List Char} (h : ¬ "]]>".toList <:+: chars) (rest : List Char) :
    Token.next? ((Node.cdata chars).render ++ rest) = some (.leaf (.cdata chars), rest) := by
  have hsplit := splitAt?_append (show "]]>".toList = [']', ']'] ++ ['>'] from rfl) (by decide) h
    rest
  change (splitAt? "]]>".toList (chars ++ "]]>".toList ++ rest)).map _ = _
  rw [hsplit]
  rfl

theorem next?_instruction {chars : List Char} (h : ¬ "?>".toList <:+: chars)
    (hfirst : chars.head? ≠ some '>') (rest : List Char) :
    Token.next? ((Node.instruction chars).render ++ rest) =
      some (.leaf (.instruction chars), rest) := by
  have hsplit := splitAt?_append (show "?>".toList = ['?'] ++ ['>'] from rfl) (by decide) h rest
  change instruction? (chars ++ "?>".toList ++ rest) = _
  rw [instruction?, hsplit]
  · rfl
  · intro tail htail
    cases chars with
    | nil => cases htail
    | cons c cs => exact hfirst (congrArg List.head? htail)

theorem next?_reference {c : Char} (h : decodeReference name = some c) (rest : List Char) :
    Token.next? ((Node.reference name).render ++ rest) =
      some (.leaf (.reference name), rest) := by
  obtain ⟨hsemicolon, hampersand, hless⟩ := special_notMem_of_decodeReference h
  have hinName : ∀ c ∈ name, (c != ';' && c != '&' && c != '<') = true := by
    intro c hc
    simp only [Bool.and_eq_true, bne_iff_ne]
    exact ⟨⟨ne_of_mem_of_not_mem hc hsemicolon, ne_of_mem_of_not_mem hc hampersand⟩,
      ne_of_mem_of_not_mem hc hless⟩
  change reference? (name ++ [';'] ++ rest) = _
  rw [List.append_assoc, reference?]
  simp [List.dropWhile_append_of_pos hinName, List.takeWhile_append_of_pos hinName]

theorem next?_text {chars : List Char} (hne : chars ≠ []) (hless : '<' ∉ chars)
    (hampersand : '&' ∉ chars) {next : Char} (hnext : next = '<' ∨ next = '&')
    (rest : List Char) :
    Token.next? ((Node.text chars).render ++ next :: rest) =
      some (.leaf (.text chars), next :: rest) := by
  obtain ⟨c, cs, rfl⟩ := List.exists_cons_of_ne_nil hne
  have hinText : ∀ c' ∈ cs, (c' != '<' && c' != '&') = true := by
    intro c' hc'
    simp only [Bool.and_eq_true, bne_iff_ne]
    have hmem := List.mem_cons_of_mem c hc'
    exact ⟨ne_of_mem_of_not_mem hmem hless, ne_of_mem_of_not_mem hmem hampersand⟩
  have hc : c ≠ '<' := ne_of_mem_of_not_mem (List.mem_cons_self ..) hless
  have hc' : c ≠ '&' := ne_of_mem_of_not_mem (List.mem_cons_self ..) hampersand
  have hstop : (next != '<' && next != '&') = false := by
    rcases hnext with rfl | rfl <;> decide
  change Token.next? (c :: (cs ++ next :: rest)) = _
  rw [Token.next?]
  · simp only [List.takeWhile_append_of_pos hinText, List.dropWhile_append_of_pos hinText]
    simp [hstop]
  · exact fun _ h _ => hc h
  · exact fun _ h _ => hc h
  · exact fun _ h _ => hc h
  · exact hc
  · exact hc'

end Token

/-! ## Written forms -/

theorem renderAll_cons (n : Node) (ns : List Node) :
    renderAll (n :: ns) = n.render ++ renderAll ns := rfl

theorem render_element_append (name attributes : List Char) (children : List Node)
    (rest : List Char) :
    (Node.element name attributes children).render ++ rest =
      '<' :: (name ++ attributes ++ '>' ::
        (renderAll children ++ '<' :: '/' :: (name ++ '>' :: rest))) := by
  change ['<'] ++ name ++ attributes ++ ['>'] ++ renderAll children ++ ['<', '/'] ++ name ++
    ['>'] ++ rest = _
  simp

/-- Whatever is no text begins with a character that ends a text. -/
theorem Node.exists_render_eq_cons (n : Node) (h : n.isText = false) :
    ∃ c cs, n.render = c :: cs ∧ (c = '<' ∨ c = '&') := by
  cases n with
  | text chars => cases h
  | reference name => exact ⟨_, _, rfl, .inr rfl⟩
  | element name attributes children => exact ⟨_, _, rfl, .inl rfl⟩
  | cdata chars => exact ⟨_, _, rfl, .inl rfl⟩
  | comment chars => exact ⟨_, _, rfl, .inl rfl⟩
  | instruction chars => exact ⟨_, _, rfl, .inl rfl⟩
  | doctype chars => exact ⟨_, _, rfl, .inl rfl⟩

theorem exists_renderAll_append_eq_cons {ns : List Node} (h : ns.head?.any Node.isText = false)
    (tail : List Char) :
    ∃ c cs, renderAll ns ++ '<' :: tail = c :: cs ∧ (c = '<' ∨ c = '&') := by
  cases ns with
  | nil => exact ⟨_, _, rfl, .inl rfl⟩
  | cons n ns =>
    obtain ⟨c, cs, hrender, hc⟩ := n.exists_render_eq_cons (by simpa using h)
    refine ⟨c, cs ++ renderAll ns ++ '<' :: tail, ?_, hc⟩
    rw [renderAll_cons, hrender]
    simp

theorem Node.WellFormed.render_length_pos {n : Node} (h : n.WellFormed) :
    0 < n.render.length := by
  cases hn : n.isText with
  | false =>
    obtain ⟨c, cs, hrender, -⟩ := n.exists_render_eq_cons hn
    simp [hrender]
  | true =>
    cases n with
    | text chars => exact List.length_pos_of_ne_nil h.1
    | _ => cases hn

theorem length_render_element (name attributes : List Char) (children : List Node) :
    (renderAll children).length < (Node.element name attributes children).render.length := by
  have hrender := congrArg List.length (render_element_append name attributes children [])
  simp only [List.append_nil, List.length_append, List.length_cons] at hrender
  omega

/-! ## Content -/

/-- Is the node an element? -/
def Node.isElement : Node → Bool
  | .element .. => true
  | _ => false

/-- **The first token of well-formed nodes is the first of them**, if it is no
    element. -/
theorem Token.next?_leaf {n : Node} {ns : List Node} (h : AllWellFormed (n :: ns))
    (hn : n.isElement = false) (tail : List Char) :
    Token.next? (n.render ++ (renderAll ns ++ '<' :: tail)) =
      some (.leaf n, renderAll ns ++ '<' :: tail) := by
  obtain ⟨hn', hnext, -⟩ := h
  cases n with
  | element => cases hn
  | text chars =>
    obtain ⟨hne, hless, hampersand⟩ := hn'
    obtain ⟨c, cs, hcons, hc⟩ := exists_renderAll_append_eq_cons (hnext rfl) tail
    rw [hcons]
    exact next?_text hne hless hampersand hc cs
  | reference name =>
    obtain ⟨c, hc⟩ := Option.isSome_iff_exists.1 hn'
    exact next?_reference hc _
  | cdata chars => exact next?_cdata hn' _
  | comment chars => exact next?_comment hn' _
  | instruction chars => exact next?_instruction hn'.1 hn'.2 _
  | doctype chars => exact hn'.elim

theorem readContent_closing {bound : Nat} {cs rest : List Char}
    (h : Token.next? cs = some (.closing name, rest)) :
    readContent (bound + 1) cs = some ⟨[], name, rest⟩ := by
  simp [readContent, h]

theorem readContent_leaf {bound : Nat} {n : Node} {cs rest : List Char} {more : Content}
    (h : Token.next? cs = some (.leaf n, rest)) (hmore : readContent bound rest = some more) :
    readContent (bound + 1) cs = some { more with nodes := n :: more.nodes } := by
  simp [readContent, h, hmore]

theorem readContent_element {bound : Nat} {attributes cs rest : List Char} {inner more : Content}
    (h : Token.next? cs = some (.opening name attributes false, rest))
    (hinner : readContent bound rest = some inner) (hname : inner.closing = name)
    (hmore : readContent bound inner.rest = some more) :
    readContent (bound + 1) cs =
      some { more with nodes := .element name attributes inner.nodes :: more.nodes } := by
  simp [readContent, h, hinner, hname, hmore]

/-- **The content of an element is read back**, up to the tag that closes the
    element.  The number of tokens is bounded by the length of what is
    written. -/
theorem readContent_renderAll {bound : Nat} {ns : List Node}
    (hbound : (renderAll ns).length < bound) (h : AllWellFormed ns) (hname : IsName name)
    (rest : List Char) :
    readContent bound (renderAll ns ++ '<' :: '/' :: (name ++ '>' :: rest)) =
      some ⟨ns, name, rest⟩ := by
  induction bound generalizing ns name rest with
  | zero => omega
  | succ bound ih =>
    cases ns with
    | nil => exact readContent_closing (Token.next?_closing hname rest)
    | cons n ns =>
      rw [renderAll_cons, List.length_append] at hbound
      rw [renderAll_cons, List.append_assoc]
      have hpos := h.1.render_length_pos
      have hmore := ih (by omega) h.2.2 hname rest
      cases hn : n.isElement with
      | false => exact readContent_leaf (Token.next?_leaf h hn _) hmore
      | true =>
        cases n with
        | element inner attributes children =>
          obtain ⟨hinner, ⟨as, rfl, has⟩, -, hchildren⟩ := h.1
          have hlength := length_render_element inner (renderAttributes as) children
          rw [render_element_append]
          exact readContent_element (Token.next?_opening hinner has _)
            (ih (by omega) hchildren hinner _) rfl hmore
        | _ => cases hn

/-! ## Roots -/

/-- Is the node a comment that ends only where it says so? -/
def Node.IsComment : Node → Prop
  | .comment chars => ¬ "-->".toList <:+: chars
  | _ => False

theorem Node.IsComment.wellFormed {n : Node} (h : n.IsComment) : n.WellFormed := by
  cases n with
  | comment chars => exact h
  | _ => exact h.elim

theorem Token.next?_isComment {n : Node} (h : n.IsComment) (rest : List Char) :
    Token.next? (n.render ++ rest) = some (.leaf n, rest) := by
  cases n with
  | comment chars => exact next?_comment h rest
  | _ => exact h.elim

theorem Node.IsComment.saysNothing {n : Node} (h : n.IsComment) : n.saysNothing = true := by
  cases n with
  | comment chars => rfl
  | _ => exact h.elim

theorem readRoot_leaf {bound : Nat} {n : Node} {cs rest : List Char}
    (h : Token.next? cs = some (.leaf n, rest)) (hn : n.saysNothing = true) :
    readRoot (bound + 1) cs = readRoot bound rest := by
  simp [readRoot, h, hn]

theorem readRoot_opening {bound : Nat} {attributes cs rest : List Char} {inner : Content}
    (h : Token.next? cs = some (.opening name attributes false, rest))
    (hinner : readContent bound rest = some inner) (hname : inner.closing = name) :
    readRoot (bound + 1) cs = some (.element name attributes inner.nodes) := by
  simp [readRoot, h, hinner, hname]

theorem readRoot_renderAll {bound : Nat} {before : List Node} {root : Node} {after : List Node}
    (hbound : (renderAll (before ++ root :: after)).length < bound)
    (hbefore : ∀ n ∈ before, n.IsComment) (helement : root.isElement = true)
    (hroot : root.WellFormed) :
    readRoot bound (renderAll (before ++ root :: after)) = some root := by
  induction before generalizing bound with
  | nil =>
    obtain ⟨bound, rfl⟩ := Nat.exists_eq_succ_of_ne_zero (show bound ≠ 0 by omega)
    rw [List.nil_append, renderAll_cons, List.length_append] at hbound
    rw [List.nil_append, renderAll_cons]
    cases root with
    | element name attributes children =>
      obtain ⟨hname, ⟨as, rfl, has⟩, -, hchildren⟩ := hroot
      have hlength := length_render_element name (renderAttributes as) children
      rw [render_element_append]
      exact readRoot_opening (Token.next?_opening hname has _)
        (readContent_renderAll (by omega) hchildren hname _) rfl
    | _ => cases helement
  | cons n before ih =>
    obtain ⟨bound, rfl⟩ := Nat.exists_eq_succ_of_ne_zero (show bound ≠ 0 by omega)
    have hn := hbefore n (List.mem_cons_self ..)
    have hpos := hn.wellFormed.render_length_pos
    rw [List.cons_append, renderAll_cons, List.length_append] at hbound
    rw [List.cons_append, renderAll_cons,
      readRoot_leaf (Token.next?_isComment hn _) hn.saysNothing]
    exact ih (by omega) fun m hm => hbefore m (List.mem_cons_of_mem _ hm)

/-- **The root of a text is read back**, with comments before it and anything
    behind it. -/
theorem read_renderAll {before : List Node} {root : Node}
    (hbefore : ∀ n ∈ before, n.IsComment) (helement : root.isElement = true)
    (hroot : root.WellFormed) (after : List Node) :
    read (renderAll (before ++ root :: after)) = some root := by
  have hfirst : ∃ cs, renderAll (before ++ root :: after) = '<' :: cs := by
    cases before with
    | nil =>
      cases root with
      | element name attributes children => exact ⟨_, rfl⟩
      | _ => cases helement
    | cons n before =>
      have hn := hbefore n (List.mem_cons_self ..)
      cases n with
      | comment chars => exact ⟨_, rfl⟩
      | _ => exact hn.elim
  have hbound := Nat.lt_succ_self (renderAll (before ++ root :: after)).length
  have hread := readRoot_renderAll hbound hbefore helement hroot
  obtain ⟨cs, hcs⟩ := hfirst
  rw [hcs] at hread ⊢
  exact hread

end CallerStubs.Markup
