/-
  Caller stubs — what an element holds is found again in its written form.

  The fields of a record are written as attributes, and its members as
  elements, in a row that may hold comments and other elements too.

  * `Field`, `presentAttributes`: fields, and the attributes of those that are
    present;
  * `valueOf_presentAttributes`: the value of each field is found again;
  * `Row`: members in their written form, with other nodes between them;
  * `partsOf?_of_inRow`, `entriesOf?_of_isSound`, `Division.exists_listed?_eq`:
    the parts of an element that holds a row, the values that it has, and the
    members of its list.
-/
import CallerStubs.Proofs.Correspondence
import CallerStubs.Proofs.Markup.Reader
import Mathlib.Data.List.TakeWhile

namespace CallerStubs.Markup

/-! ## Fields -/

/-- A field of a record; its text may be absent. -/
structure Field where
  name : String
  value : Option String

/-- The attribute of a field, if it is present. -/
def Field.attribute? (f : Field) : Option Attribute :=
  f.value.map fun text => ⟨f.name.toList, encodeText text.toList⟩

/-- The attributes of the fields that are present. -/
def presentAttributes (fields : List Field) : List Attribute :=
  fields.filterMap Field.attribute?

/-- **Names of fields**: each can be written as an attribute, without a prefix,
    and no two are the same. -/
structure FieldNames (names : List String) : Prop where
  nodup : names.Nodup
  isName : ∀ name ∈ names, IsName name.toList
  unprefixed : ∀ name ∈ names, ':' ∉ name.toList

instance (names : List String) : Decidable (FieldNames names) :=
  decidable_of_iff (names.Nodup ∧ (∀ name ∈ names, IsName name.toList) ∧
      ∀ name ∈ names, ':' ∉ name.toList)
    ⟨fun h => ⟨h.1, h.2.1, h.2.2⟩, fun h => ⟨h.nodup, h.isName, h.unprefixed⟩⟩

variable {fields : List Field}

theorem exists_field_of_mem_presentAttributes {a : Attribute} (h : a ∈ presentAttributes fields) :
    ∃ f ∈ fields, ∃ text : String, f.value = some text ∧
      a = ⟨f.name.toList, encodeText text.toList⟩ := by
  obtain ⟨f, hf, ha⟩ := List.mem_filterMap.1 h
  obtain ⟨text, htext, ha⟩ := Option.map_eq_some_iff.1 ha
  exact ⟨f, hf, text, htext, ha.symm⟩

theorem legible_presentAttributes (h : FieldNames (fields.map Field.name)) :
    ∀ a ∈ presentAttributes fields, a.Legible := by
  intro a ha
  obtain ⟨f, hf, text, -, rfl⟩ := exists_field_of_mem_presentAttributes ha
  exact ⟨h.isName _ (List.mem_map_of_mem hf), quote_notMem_encodeText _⟩

theorem names_presentAttributes_sublist (fields : List Field) :
    ((presentAttributes fields).map (·.name)).Sublist
      ((fields.map Field.name).map String.toList) := by
  induction fields with
  | nil => exact List.Sublist.slnil
  | cons f fields ih =>
    cases hvalue : f.value with
    | none =>
      have hskip : presentAttributes (f :: fields) = presentAttributes fields := by
        simp [presentAttributes, Field.attribute?, hvalue]
      rw [hskip]
      exact ih.cons _
    | some text =>
      have hkeep : presentAttributes (f :: fields) =
          ⟨f.name.toList, encodeText text.toList⟩ :: presentAttributes fields := by
        simp [presentAttributes, Field.attribute?, hvalue]
      rw [hkeep]
      exact ih.cons_cons _

theorem nodup_presentAttributes (h : FieldNames (fields.map Field.name)) :
    ((presentAttributes fields).map (·.name)).Nodup :=
  (h.nodup.map fun _ _ => String.toList_inj.1).sublist (names_presentAttributes_sublist fields)

theorem localName_eq_self {name : List Char} (h : ':' ∉ name) : localName name = name := by
  have hdrop : name.dropWhile (· != ':') = [] := by
    simp only [List.dropWhile_eq_nil_iff, bne_iff_ne]
    exact fun c hc => ne_of_mem_of_not_mem hc h
  rw [localName, hdrop]

theorem Attribute.key_eq_name {a : Attribute} (h : ':' ∉ a.name) : a.key = a.name := by
  unfold Attribute.key
  dsimp only
  split_ifs
  · rfl
  · exact localName_eq_self h

theorem ofAttribute_field {f : Field} {text : String} (h : ':' ∉ f.name.toList) :
    Entry.ofAttribute ⟨f.name.toList, encodeText text.toList⟩ =
      ⟨f.name.toList, some (some text.toList)⟩ := by
  rw [Entry.ofAttribute, Attribute.key_eq_name h, decodeText_encodeText, Option.map_some]

/-- The entries of the fields with a name are those of the fields with that
    name. -/
theorem filter_ofAttribute_presentAttributes (h : FieldNames (fields.map Field.name))
    (name : String) :
    ((presentAttributes fields).map Entry.ofAttribute).filter (·.name == name.toList) =
      (fields.filter (·.name == name)).filterMap fun f =>
        f.value.map fun text => ⟨f.name.toList, some (some text.toList)⟩ := by
  rw [presentAttributes, List.map_filterMap, List.filter_filterMap, List.filterMap_filter]
  refine List.filterMap_congr fun f hf => ?_
  have hcolon : ':' ∉ f.name.toList := h.unprefixed _ (List.mem_map_of_mem hf)
  cases hvalue : f.value with
  | none => simp [Field.attribute?, hvalue]
  | some text => 
    simp [Field.attribute?, hvalue, ofAttribute_field hcolon, Option.filter, String.toList_inj]

/-- **The value of a field is found again** among the attributes of the fields
    that are present: its text, or nothing if it is absent. -/
theorem valueOf_presentAttributes (h : FieldNames (fields.map Field.name)) {f : Field}
    (hf : f ∈ fields) :
    valueOf ((presentAttributes fields).map Entry.ofAttribute) f.name = some f.value := by
  unfold valueOf
  rw [filter_ofAttribute_presentAttributes h, filter_key_eq_singleton h.nodup hf]
  cases hvalue : f.value with
  | none => simp [hvalue]
  | some text => simp [hvalue]

theorem declarationsSound_presentAttributes (h : FieldNames (fields.map Field.name)) :
    declarationsSound (renderAttributes (presentAttributes fields)) = true := by
  rw [declarationsSound, declared, leading_renderAttributes (legible_presentAttributes h),
    List.all_eq_true]
  intro b hb
  obtain ⟨a, ha, hbinding⟩ := List.mem_filterMap.1 hb
  obtain ⟨f, hf, text, -, rfl⟩ := exists_field_of_mem_presentAttributes ha
  unfold Attribute.binding? at hbinding
  split_ifs at hbinding with hprefix
  have hcolon : ':' ∈ f.name.toList :=
    (List.isPrefixOf_iff_prefix.1 hprefix).subset (by decide)
  exact absurd hcolon (h.unprefixed _ (List.mem_map_of_mem hf))

/-! ## Nodes in a row -/

/-- The element that a node is. -/
def Node.element? : Node → Option Element
  | .element name attributes children => some ⟨name, attributes, children⟩
  | _ => none

/-- The elements among nodes. -/
def elementsIn (nodes : List Node) : List Element :=
  nodes.filterMap Node.element?

theorem elementsIn_element (name attributes : List Char) (children nodes : List Node) :
    elementsIn (.element name attributes children :: nodes) =
      ⟨name, attributes, children⟩ :: elementsIn nodes :=
  rfl

theorem elementsIn_cons {n : Node} (h : n.isElement = false) (nodes : List Node) :
    elementsIn (n :: nodes) = elementsIn nodes := by
  cases n with
  | element => cases h
  | _ => rfl

/-- Is the node an element of this kind? -/
def Node.isKind (kind : String) : Node → Bool
  | .element name _ _ => localName name == kind.toList
  | _ => false

/-- May the node stand between elements?  It is a comment, or an element
    itself. -/
def Node.InRow (n : Node) : Prop :=
  n.IsComment ∨ n.isElement = true ∧ n.WellFormed

/-- **Members in a row**, each in its written form, with comments and other
    elements between them. -/
structure Row {α : Type} (isMember : Node → Bool) (WrittenAs : α → Node → Prop) (members : List α)
    (nodes : List Node) : Prop where
  members : List.Forall₂ WrittenAs members (nodes.filter isMember)
  others : ∀ n ∈ nodes, isMember n = false → n.InRow

variable {α : Type} {isMember : Node → Bool} {WrittenAs : α → Node → Prop} {members : List α}
  {nodes : List Node} {e : Element}

theorem Node.InRow.wellFormed {n : Node} (h : n.InRow) : n.WellFormed := by
  rcases h with h | h
  · exact h.wellFormed
  · exact h.2

theorem Node.InRow.isText {n : Node} (h : n.InRow) : n.isText = false := by
  cases n with
  | text chars => exact h.elim False.elim fun h => nomatch h.1
  | _ => rfl

theorem allWellFormed_of_inRow (h : ∀ n ∈ nodes, n.InRow) : AllWellFormed nodes := by
  induction nodes with
  | nil => trivial
  | cons n nodes ih =>
    have hn := h n (List.mem_cons_self ..)
    refine ⟨hn.wellFormed, fun htext => ?_, ih fun m hm => h m (List.mem_cons_of_mem _ hm)⟩
    rw [hn.isText] at htext
    cases htext

/-- All nodes of a row may stand in one, if the members may. -/
theorem Row.inRow (h : Row isMember WrittenAs members nodes)
    (hmembers : ∀ x n, WrittenAs x n → n.InRow) : ∀ n ∈ nodes, n.InRow := by
  intro n hn
  cases hmember : isMember n with
  | false => exact h.others n hn hmember
  | true =>
    obtain ⟨x, -, hx⟩ := forall₂_mem_right h.members n (List.mem_filter.2 ⟨hn, hmember⟩)
    exact hmembers x n hx

theorem Row.mapM_eq (h : Row isMember WrittenAs members nodes) {readMember : Element → Option α}
    (hread : ∀ x n, WrittenAs x n → ∃ e, n.element? = some e ∧ readMember e = some x) :
    (elementsIn (nodes.filter isMember)).mapM readMember = some members := by
  have hmembers := h.members
  clear h
  generalize nodes.filter isMember = ns at hmembers
  induction hmembers with
  | nil => rfl
  | cons hx _ ih =>
    obtain ⟨e, he, hreadMember⟩ := hread _ _ hx
    rw [elementsIn] at ih ⊢
    simp [he, hreadMember, ih]

/-- **The parts of a row are its elements.** -/
theorem partsOf?_of_inRow (h : ∀ n ∈ nodes, n.InRow) :
    partsOf? nodes = some ((elementsIn nodes).map Part.element) := by
  rw [partsOf?]
  induction nodes with
  | nil => rfl
  | cons n nodes ih =>
    have hmore := ih fun m hm => h m (List.mem_cons_of_mem _ hm)
    rcases h n (List.mem_cons_self ..) with hcomment | ⟨helement, hwellFormed⟩
    · cases n with
      | comment chars => rw [partsBehind?, hmore, elementsIn_cons rfl]
      | _ => exact hcomment.elim
    · cases n with
      | element name attributes children =>
        have hsound : declarationsSound attributes = true := hwellFormed.2.2.1
        rw [partsBehind?, if_pos hsound, hmore, elementsIn_element]
        rfl
      | _ => cases helement

/-! ## Elements without a meaning -/

/-- Is the element well-formed? -/
def Element.IsSound (e : Element) : Prop :=
  IsName e.name ∧ AllWellFormed e.children

theorem opensSoundly_of_allWellFormed (h : AllWellFormed nodes) : opensSoundly nodes = true := by
  induction nodes with
  | nil => rfl
  | cons n nodes ih =>
    cases n with
    | comment => exact ih h.2.2
    | instruction => exact ih h.2.2
    | element => exact h.1.2.2.1
    | text => rfl
    | reference => rfl
    | cdata => rfl
    | doctype => rfl

mutual

theorem Node.WellFormed.inOrder : ∀ {n : Node}, n.WellFormed → n.inOrder = true
  | .element _ _ _, h => by
    rw [Node.inOrder, h.2.2.1, AllWellFormed.allInOrder h.2.2.2]
    rfl
  | .reference _, h => h
  | .text _, _ | .cdata _, _ | .comment _, _ | .instruction _, _ | .doctype _, _ => rfl

theorem AllWellFormed.allInOrder : ∀ {ns : List Node}, AllWellFormed ns → allInOrder ns = true
  | [], _ => rfl
  | _ :: _, h => by
    rw [Markup.allInOrder, Node.WellFormed.inOrder h.1, AllWellFormed.allInOrder h.2.2]
    rfl

end

/-- The local part of a name has no character that the name has not. -/
theorem mem_of_mem_localName {name : List Char} {c : Char} (h : c ∈ localName name) :
    c ∈ name := by
  unfold localName at h
  split at h
  · next heq => exact (List.dropWhile_sublist _).subset (heq ▸ List.mem_cons_of_mem _ h)
  · exact h

/-- No name has an at sign or a dollar sign in its local part. -/
theorem localName_ne {name : List Char} (h : IsName name) {c : Char} (hc : c = '@' ∨ c = '$')
    (cs : List Char) : localName name ≠ c :: cs := by
  intro heq
  have hchar := h.chars c (mem_of_mem_localName (heq ▸ List.mem_cons_self ..))
  rcases hc with rfl | rfl
  · exact ne_of_isNameChar hchar (d := '@') (by decide) rfl
  · exact ne_of_isNameChar hchar (d := '$') (by decide) rfl

theorem Element.entryName?_eq_none (h : IsName e.name) (names : List String) :
    e.entryName? names = none := by
  rw [Element.entryName?, List.find?_eq_none]
  intro name _
  rw [beq_iff_eq]
  exact localName_ne h (.inl rfl) name

/-- Well-formed elements give no values, and are in order. -/
theorem entriesAmong?_of_isSound {names : List String} {scope : Scope} {attributes : List Char}
    {late : Bool} {parts : List Part} (h : ∀ e, .element e ∈ parts → e.IsSound) :
    entriesAmong? names scope attributes late parts = some [] := by
  induction parts with
  | nil => rfl
  | cons p parts ih =>
    have hmore := ih fun e he => h e (List.mem_cons_of_mem _ he)
    cases p with
    | text chars => exact hmore
    | element e =>
      obtain ⟨hname, hchildren⟩ := h e (List.mem_cons_self ..)
      simp [entriesAmong?, hmore, hchildren.allInOrder, opensSoundly_of_allWellFormed hchildren,
        Element.entryName?_eq_none hname]

/-- **The values of an element are those of its attributes**, if all that
    stands around its list is well-formed. -/
theorem entriesOf?_of_isSound {names : List String} {scope : Scope} {attributes : List Attribute}
    {d : Division} (hlegible : ∀ a ∈ attributes, a.Legible)
    (hnodup : (attributes.map (·.name)).Nodup)
    (haround : ∀ e, .element e ∈ d.early ++ d.late → e.IsSound) :
    entriesOf? names scope (renderAttributes attributes) d =
      some (attributes.map Entry.ofAttribute) := by
  have hearly : ∀ e, .element e ∈ d.early → e.IsSound :=
    fun e he => haround e (List.mem_append_left _ he)
  have hlate : ∀ e, .element e ∈ d.late → e.IsSound :=
    fun e he => haround e (List.mem_append_right _ he)
  simp [entriesOf?, readAll_renderAttributes hlegible hnodup, entriesAmong?_of_isSound hearly,
    entriesAmong?_of_isSound hlate]

/-! ## Lists -/

theorem filter_dropWhile_not {β : Type} (p : β → Bool) (xs : List β) :
    (xs.dropWhile (!p ·)).filter p = xs.filter p := by
  induction xs with
  | nil => rfl
  | cons x xs ih =>
    cases hx : p x with
    | true => simp [hx]
    | false => simpa [hx] using ih

theorem elementsOf_map_element (es : List Element) : elementsOf (es.map Part.element) = es := by
  simp [elementsOf, List.filterMap_map]

theorem filter_map_element (p : Part → Bool) (es : List Element) :
    (es.map Part.element).filter p = (es.filter fun e => p (.element e)).map Part.element := by
  rw [List.filter_map]
  rfl

theorem elementsIn_filter_isKind (kind : String) (nodes : List Node) :
    elementsIn (nodes.filter (Node.isKind kind)) =
      (elementsIn nodes).filter fun e => Part.isKind kind (.element e) := by
  induction nodes with
  | nil => rfl
  | cons n nodes ih =>
    cases hn : n.isElement with
    | false =>
      have hkind : n.isKind kind = false := by
        cases n with
        | element => cases hn
        | _ => rfl
      rw [elementsIn_cons hn, List.filter_cons_of_neg (by simp [hkind]), ih]
    | true =>
      cases n with
      | element name attributes children =>
        cases hkind : localName name == kind.toList with
        | true => simp [Node.isKind, Part.isKind, elementsIn_element, hkind, ih]
        | false => simp [Node.isKind, Part.isKind, elementsIn_element, hkind, ih]
      | _ => cases hn

theorem elementsIn_filter_isElement (nodes : List Node) :
    elementsIn (nodes.filter Node.isElement) = elementsIn nodes := by
  induction nodes with
  | nil => rfl
  | cons n nodes ih =>
    cases hn : n.isElement with
    | false => rw [elementsIn_cons hn, List.filter_cons_of_neg (by simp [hn]), ih]
    | true =>
      cases n with
      | element => rw [List.filter_cons_of_pos hn, elementsIn_element, elementsIn_element, ih]
      | _ => cases hn

/-- The parts of a division, where the name of a part says its kind. -/
theorem Division.ofMembers_eq {ofKind named : Part → Bool} {parts : List Part}
    (h : ∀ p ∈ parts, named p = ofKind p) :
    (ofMembers ofKind named parts).members = parts.filter ofKind ∧
      (ofMembers ofKind named parts).late.any ofKind = false ∧
      ∀ p ∈ (ofMembers ofKind named parts).early ++ (ofMembers ofKind named parts).late,
        p ∈ parts := by
  have hsub : parts.dropWhile (!ofKind ·) ⊆ parts := (List.dropWhile_sublist _).subset
  refine ⟨?_, ?_, fun p hp => ?_⟩
  · simp only [ofMembers]
    rw [List.filter_congr fun p hp => h p (hsub hp), filter_dropWhile_not]
  · rw [List.any_eq_false]
    intro p hp
    obtain ⟨hp, hnot⟩ := List.mem_filter.1 hp
    rw [h p (hsub hp), Bool.not_eq_true'] at hnot
    simp [hnot]
  · simp only [ofMembers, List.mem_append] at hp
    rcases hp with hp | hp
    · exact (List.takeWhile_sublist _).subset hp
    · exact hsub (List.mem_filter.1 hp).1

/-- **The members of a list are the elements of its kind**, if none of them has
    a prefix, and what stands around the list are others of the elements. -/
theorem Division.exists_listed?_eq {kind : String} {es : List Element}
    (hname : ∀ e ∈ es, localName e.name = kind.toList → e.name = kind.toList) :
    ∃ d, Division.listed? kind (es.map Part.element) = some d ∧
      elementsOf d.members = es.filter (fun e => Part.isKind kind (.element e)) ∧
      ∀ e, .element e ∈ d.early ++ d.late → e ∈ es := by
  have hmem : ∀ e, Part.element e ∈ es.map Part.element → e ∈ es := by simp
  unfold Division.listed?
  cases hfind : (es.map Part.element).find? (Part.isKind kind) with
  | none =>
    have hnone : es.filter (fun e => Part.isKind kind (.element e)) = [] := by
      rw [List.filter_eq_nil_iff]
      exact fun e he => List.find?_eq_none.1 hfind _ (List.mem_map_of_mem he)
    refine ⟨_, rfl, hnone.symm, fun e he => hmem e ?_⟩
    simpa [Division.unlisted] using he
  | some first =>
    obtain ⟨e, he, rfl⟩ := List.mem_map.1 (List.mem_of_find?_eq_some hfind)
    have hkind : localName e.name = kind.toList := by
      simpa [Part.isKind] using List.find?_some hfind
    have hfirst := hname e he hkind
    -- among the elements, those with the name of the first are those of its kind
    have hsame : ∀ p ∈ es.map Part.element, p.isNamed e.name = p.isKind kind := by
      intro p hp
      obtain ⟨e', he', rfl⟩ := List.mem_map.1 hp
      rw [Part.isNamed, Part.isKind, Bool.eq_iff_iff, beq_iff_eq, beq_iff_eq, hfirst]
      refine ⟨fun h => ?_, hname e' he'⟩
      rw [h, ← hfirst, hkind, hfirst]
    obtain ⟨hmembers, hlate, haround⟩ := Division.ofMembers_eq hsame
    refine ⟨_, if_neg (by rw [Part.name, hlate]; decide), ?_, fun e' he' => ?_⟩
    · rw [Part.name, hmembers, filter_map_element, elementsOf_map_element]
    · exact hmem e' (haround _ he')

end CallerStubs.Markup
