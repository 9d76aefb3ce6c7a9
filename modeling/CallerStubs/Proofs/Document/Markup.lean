/-
  Caller stubs — interface documents are read back from their markup.

  A document is written with one element for each of its parts.  Comments may
  stand between any two tags, and other elements between the parameters of a
  message and between the interfaces; none of them changes what is read.

  * `recordNode`: the element of a record with fields and children;
  * `ParamElement.WrittenAs` up to `Document.WrittenAs`: the written forms of
    the parts of a document;
  * `WrittenAs.inRow`, `WrittenAs.ofElement?_eq`: for each part, its written
    forms are well-formed and are read back;
  * `writtenAs_toNode`: one of the forms is the one without any additions;
  * `parse_writtenAs`: the whole document is read back.
-/
import CallerStubs.Proofs.Markup.Entry

namespace CallerStubs

open Markup

/-! ## Records -/

/-- The element of a record with these fields. -/
def recordNode (kind : String) (fields : List Field) (children : List Node) : Node :=
  .element kind.toList (renderAttributes (presentAttributes fields)) children

section Records

variable {kind : String} {fields : List Field} {children : List Node}

theorem inRow_recordNode (hkind : IsName kind.toList) (h : FieldNames (fields.map Field.name))
    (hchildren : ∀ n ∈ children, n.InRow) : (recordNode kind fields children).InRow :=
  .inr ⟨rfl, hkind, ⟨_, rfl, legible_presentAttributes h⟩, declarationsSound_presentAttributes h,
    allWellFormed_of_inRow hchildren⟩

theorem isSound_of_inRow (h : ∀ n ∈ children, n.InRow) :
    ∀ e ∈ elementsIn children, e.IsSound := by
  intro e he
  obtain ⟨n, hn, hne⟩ := List.mem_filterMap.1 he
  have hwellFormed := (h n hn).wellFormed
  cases n with
  | element name attributes children => cases hne; exact ⟨hwellFormed.1, hwellFormed.2.2.2⟩
  | _ => cases hne

/-- **The values of a record are those of its fields**, whatever else it holds. -/
theorem exists_entriesOf? (names : List String) (scope : Scope) {d : Division}
    (h : FieldNames (fields.map Field.name))
    (haround : ∀ e, .element e ∈ d.early ++ d.late → e.IsSound) :
    ∃ entries,
      entriesOf? names scope (renderAttributes (presentAttributes fields)) d = some entries ∧
        ∀ f ∈ fields, valueOf entries f.name = some f.value :=
  ⟨_, entriesOf?_of_isSound (legible_presentAttributes h) (nodup_presentAttributes h) haround,
    fun _ hf => valueOf_presentAttributes h hf⟩

theorem exists_entriesOf?_unlisted (names : List String) (scope : Scope)
    (h : FieldNames (fields.map Field.name)) (hchildren : ∀ n ∈ children, n.InRow) :
    ∃ entries,
      entriesOf? names scope (renderAttributes (presentAttributes fields))
        (.unlisted ((elementsIn children).map Part.element)) = some entries ∧
        ∀ f ∈ fields, valueOf entries f.name = some f.value := by
  refine exists_entriesOf? names scope h fun e he => isSound_of_inRow hchildren e ?_
  simpa [Division.unlisted] using he

/-- **A list is found again** among the children of a record: its members are
    the elements of its kind, and what stands around them is well-formed. -/
theorem exists_listed? {member : String} (hchildren : ∀ n ∈ children, n.InRow)
    (hname : ∀ e ∈ elementsIn children,
      localName e.name = member.toList → e.name = member.toList) :
    ∃ d, Division.listed? member ((elementsIn children).map Part.element) = some d ∧
      elementsOf d.members = elementsIn (children.filter (Node.isKind member)) ∧
      ∀ e, .element e ∈ d.early ++ d.late → e.IsSound := by
  obtain ⟨d, hd, hmembers, haround⟩ := Division.exists_listed?_eq hname
  refine ⟨d, hd, ?_, fun e he => isSound_of_inRow hchildren e (haround e he)⟩
  rw [hmembers, elementsIn_filter_isKind]

theorem attributeText_append (name : String) (value : Option String) (fields : List Field) :
    attributeText name value ++ renderAttributes (presentAttributes fields) =
      renderAttributes (presentAttributes (⟨name, value⟩ :: fields)) := by
  cases value with
  | none => rfl
  | some text => rfl

theorem attributeText_eq (name : String) (value : Option String) :
    attributeText name value = renderAttributes (presentAttributes [⟨name, value⟩]) := by
  rw [← attributeText_append]
  exact (List.append_nil _).symm

/-- The members of a list have no prefix in a row of written forms. -/
theorem Markup.Row.name_eq {α : Type} {WrittenAs : α → Node → Prop} {members : List α}
    (h : Row (Node.isKind kind) WrittenAs members children)
    (hname : ∀ x n, WrittenAs x n → ∃ fields children, n = recordNode kind fields children) :
    ∀ e ∈ elementsIn children, localName e.name = kind.toList → e.name = kind.toList := by
  intro e he hkind
  obtain ⟨n, hn, hne⟩ := List.mem_filterMap.1 he
  have hmember : n.isKind kind = true := by
    cases n with
    | element name attributes children => cases hne; exact beq_iff_eq.2 hkind
    | _ => cases hne
  obtain ⟨x, -, hx⟩ := forall₂_mem_right h.members n (List.mem_filter.2 ⟨hn, hmember⟩)
  obtain ⟨fields, children, rfl⟩ := hname x n hx
  cases hne
  rfl

/-- Written forms that are members make a row. -/
theorem row_map {α : Type} {isMember : Node → Bool} {WrittenAs : α → Node → Prop}
    {toNode : α → Node} (hwritten : ∀ x, WrittenAs x (toNode x))
    (hmember : ∀ x, isMember (toNode x) = true) (members : List α) :
    Row isMember WrittenAs members (members.map toNode) where
  members := by
    rw [List.filter_eq_self.2 (by simpa using fun x _ => hmember x)]
    exact List.forall₂_map_right_iff.2 (List.forall₂_same.2 fun x _ => hwritten x)
  others := by
    intro n hn hnot
    obtain ⟨x, -, rfl⟩ := List.mem_map.1 hn
    rw [hmember x] at hnot
    cases hnot

theorem inRow_of_isComment (h : ∀ n ∈ children, n.IsComment) : ∀ n ∈ children, n.InRow :=
  fun n hn => .inl (h n hn)

end Records

/-! ## Parameters -/

/-- The fields of a parameter, under the names of its attributes. -/
def ParamElement.fields (p : ParamElement) : List Field :=
  [⟨"name", p.name⟩, ⟨"type", p.type⟩, ⟨"mandatory", p.mandatory⟩, ⟨"array", p.array⟩,
    ⟨"minvalue", p.minValue⟩, ⟨"maxvalue", p.maxValue⟩, ⟨"minlength", p.minLength⟩,
    ⟨"maxlength", p.maxLength⟩, ⟨"minsize", p.minSize⟩, ⟨"maxsize", p.maxSize⟩]

/-- **The written forms of a parameter**: an element with its fields, and with
    nothing in it but comments. -/
def ParamElement.WrittenAs (p : ParamElement) (n : Node) : Prop :=
  ∃ children, n = recordNode "param" p.fields children ∧ ∀ c ∈ children, c.IsComment

namespace ParamElement

variable {p : ParamElement} {n : Node}

theorem fieldNames (p : ParamElement) : FieldNames (p.fields.map Field.name) :=
  show FieldNames paramValueNames by decide

theorem WrittenAs.inRow (h : p.WrittenAs n) : n.InRow := by
  obtain ⟨children, rfl, hchildren⟩ := h
  exact inRow_recordNode (by decide) p.fieldNames (inRow_of_isComment hchildren)

theorem WrittenAs.ofElement?_eq (h : p.WrittenAs n) (scope : Scope) :
    ∃ e, n.element? = some e ∧ ofElement? scope e = some p := by
  obtain ⟨children, rfl, hchildren⟩ := h
  have hinRow := inRow_of_isComment hchildren
  obtain ⟨entries, hentries, hvalue⟩ :=
    exists_entriesOf?_unlisted paramValueNames scope p.fieldNames hinRow
  simp only [fields, List.forall_mem_cons] at hvalue
  obtain ⟨hname, htype, hmandatory, harray, hminValue, hmaxValue, hminLength, hmaxLength, hminSize,
    hmaxSize, -⟩ := hvalue
  refine ⟨_, rfl, ?_⟩
  simp [ofElement?, partsOf?_of_inRow hinRow, hentries, hname, htype, hmandatory, harray,
    hminValue, hmaxValue, hminLength, hmaxLength, hminSize, hmaxSize]

theorem writtenAs_toNode (p : ParamElement) : p.WrittenAs p.toNode := by
  refine ⟨[], ?_, by simp⟩
  simp only [toNode, recordNode, fields, List.append_assoc, attributeText_eq "maxsize",
    attributeText_append]

end ParamElement

/-! ## Messages -/

/-- The fields of a message, under the names of its attributes. -/
def FunctionElement.fields (f : FunctionElement) : List Field :=
  [⟨"name", f.name⟩, ⟨"messagetype", f.messageType⟩, ⟨"provider", f.provider⟩]

/-- **The written forms of a message**: an element with its fields, in which
    the parameters stand in a row. -/
def FunctionElement.WrittenAs (form : String) (f : FunctionElement) (n : Node) : Prop :=
  ∃ children, n = recordNode form f.fields children ∧
    Row (Node.isKind "param") ParamElement.WrittenAs f.params children

namespace FunctionElement

variable {form : String} {f : FunctionElement} {n : Node}

theorem fieldNames (f : FunctionElement) : FieldNames (f.fields.map Field.name) :=
  show FieldNames messageValueNames by decide

theorem WrittenAs.inRow (h : f.WrittenAs form n) (hform : IsName form.toList) : n.InRow := by
  obtain ⟨children, rfl, hrow⟩ := h
  exact inRow_recordNode hform f.fieldNames (hrow.inRow fun p n hp => hp.inRow)

theorem WrittenAs.ofElement?_eq (h : f.WrittenAs form n) (scope : Scope) :
    ∃ e, n.element? = some e ∧ e.name = form.toList ∧ ofElement? scope e = some f := by
  obtain ⟨children, rfl, hrow⟩ := h
  have hinRow := hrow.inRow fun p n hp => hp.inRow
  obtain ⟨d, hd, hmembers, haround⟩ := exists_listed? hinRow
    (hrow.name_eq fun p n ⟨children, hn, _⟩ => ⟨_, children, hn⟩)
  obtain ⟨entries, hentries, hvalue⟩ :=
    exists_entriesOf? messageValueNames scope f.fieldNames haround
  simp only [fields, List.forall_mem_cons] at hvalue
  obtain ⟨hname, hmessageType, hprovider, -⟩ := hvalue
  have hparams := hrow.mapM_eq fun p n hp => hp.ofElement?_eq
    (scope.within (renderAttributes (presentAttributes f.fields)))
  rw [← hmembers] at hparams
  refine ⟨_, rfl, rfl, ?_⟩
  simp [ofElement?, partsOf?_of_inRow hinRow, hd, hentries, hname, hmessageType, hprovider, hparams]

theorem writtenAs_toNode (form : String) (f : FunctionElement) :
    f.WrittenAs form (f.toNode form) := by
  refine ⟨f.params.map (·.toNode), ?_, row_map ParamElement.writtenAs_toNode (fun _ => rfl) _⟩
  simp only [toNode, recordNode, fields, List.append_assoc, attributeText_eq "provider",
    attributeText_append]

end FunctionElement

/-! ## Items -/

/-- The kinds of elements in an interface that have a meaning. -/
def itemKinds : List String := ["enum", "struct", "function", "request", "response"]

/-- The field of a record of which only the name matters. -/
def nameField (name : Option String) : List Field := [⟨"name", name⟩]

/-- **The written forms of an item**: a type with its name, a message, or for
    an item without a meaning any element of another kind. -/
inductive Item.WrittenAs : Item → Node → Prop where
  | enum {name : Option String} {children : List Node} (h : ∀ c ∈ children, c.IsComment) :
      WrittenAs (.enum name) (recordNode "enum" (nameField name) children)
  | struct {name : Option String} {children : List Node} (h : ∀ c ∈ children, c.IsComment) :
      WrittenAs (.struct name) (recordNode "struct" (nameField name) children)
  | function {f : FunctionElement} {n : Node} (h : f.WrittenAs "function" n) :
      WrittenAs (.function f) n
  | request {f : FunctionElement} {n : Node} (h : f.WrittenAs "request" n) :
      WrittenAs (.request f) n
  | response {f : FunctionElement} {n : Node} (h : f.WrittenAs "response" n) :
      WrittenAs (.response f) n
  | other {n : Node} (helement : n.isElement = true) (hwellFormed : n.WellFormed)
      (hkind : ∀ kind ∈ itemKinds, n.isKind kind = false) : WrittenAs .other n

theorem fieldNames_nameField (name : Option String) :
    FieldNames ((nameField name).map Field.name) :=
  show FieldNames ["name"] by decide

theorem nameOf?_recordNode {kind : String} {name : Option String} {children : List Node}
    (h : ∀ c ∈ children, c.IsComment) (scope : Scope) :
    ∃ e, (recordNode kind (nameField name) children).element? = some e ∧
      e.name = kind.toList ∧ nameOf? scope e = some name := by
  have hinRow := inRow_of_isComment h
  obtain ⟨entries, hentries, hvalue⟩ :=
    exists_entriesOf?_unlisted ["name"] scope (fieldNames_nameField name) hinRow
  have hname := hvalue _ (List.mem_cons_self ..)
  refine ⟨_, rfl, rfl, ?_⟩
  simp [nameOf?, partsOf?_of_inRow hinRow, hentries, hname]

namespace Item

variable {item : Item} {n : Node}

theorem WrittenAs.inRow (h : item.WrittenAs n) : n.InRow := by
  cases h with
  | enum h => exact inRow_recordNode (by decide) (fieldNames_nameField _) (inRow_of_isComment h)
  | struct h => exact inRow_recordNode (by decide) (fieldNames_nameField _) (inRow_of_isComment h)
  | function h => exact h.inRow (by decide)
  | request h => exact h.inRow (by decide)
  | response h => exact h.inRow (by decide)
  | other helement hwellFormed _ => exact .inr ⟨helement, hwellFormed⟩

theorem WrittenAs.isElement (h : item.WrittenAs n) : n.isElement = true := by
  cases h with
  | enum => rfl
  | struct => rfl
  | function h => obtain ⟨children, rfl, -⟩ := h; rfl
  | request h => obtain ⟨children, rfl, -⟩ := h; rfl
  | response h => obtain ⟨children, rfl, -⟩ := h; rfl
  | other helement => exact helement

theorem WrittenAs.ofElement?_eq (h : item.WrittenAs n) (scope : Scope) :
    ∃ e, n.element? = some e ∧ ofElement? scope e = some item := by
  cases h with
  | enum h =>
    obtain ⟨e, he, hname, hread⟩ := nameOf?_recordNode h scope
    refine ⟨e, he, ?_⟩
    rw [ofElement?, hname, hread]
    rfl
  | struct h =>
    obtain ⟨e, he, hname, hread⟩ := nameOf?_recordNode h scope
    refine ⟨e, he, ?_⟩
    rw [ofElement?, hname, hread]
    rfl
  | function h =>
    obtain ⟨e, he, hname, hread⟩ := h.ofElement?_eq scope
    refine ⟨e, he, ?_⟩
    rw [ofElement?, hname, hread]
    rfl
  | request h =>
    obtain ⟨e, he, hname, hread⟩ := h.ofElement?_eq scope
    refine ⟨e, he, ?_⟩
    rw [ofElement?, hname, hread]
    rfl
  | response h =>
    obtain ⟨e, he, hname, hread⟩ := h.ofElement?_eq scope
    refine ⟨e, he, ?_⟩
    rw [ofElement?, hname, hread]
    rfl
  | other helement hwellFormed hkind =>
    cases n with
    | element name attributes children =>
      refine ⟨_, rfl, ?_⟩
      simp only [itemKinds, List.forall_mem_cons, Node.isKind, beq_eq_false_iff_ne] at hkind
      obtain ⟨henum, hstruct, hfunction, hrequest, hresponse, -⟩ := hkind
      have hopens := opensSoundly_of_allWellFormed hwellFormed.2.2.2
      simp only [ofElement?, henum, hstruct, hfunction, hrequest, hresponse, hopens, if_false,
        if_true]
    | _ => cases helement

theorem writtenAs_toNode (item : Item) : item.WrittenAs item.toNode := by
  cases item with
  | enum name =>
    rw [toNode, attributeText_eq]
    exact .enum (by simp)
  | struct name =>
    rw [toNode, attributeText_eq]
    exact .struct (by simp)
  | function f => exact .function (f.writtenAs_toNode _)
  | request f => exact .request (f.writtenAs_toNode _)
  | response f => exact .response (f.writtenAs_toNode _)
  | other =>
    have hkind : ∀ kind ∈ itemKinds, (Item.other).toNode.isKind kind = false := by decide
    exact .other rfl ⟨by decide, ⟨[], rfl, by simp⟩, by decide, trivial⟩ hkind

end Item

/-! ## Interfaces -/

/-- **The written forms of an interface**: an element with its name, in which
    the items stand in a row with comments between them. -/
def InterfaceElement.WrittenAs (i : InterfaceElement) (n : Node) : Prop :=
  ∃ children, n = recordNode "interface" (nameField i.name) children ∧
    Row Node.isElement Item.WrittenAs i.items children

/-- All elements of an interface are its items. -/
theorem itemized?_map_element {es : List Element} (h : ∀ e ∈ es, e.IsSound) :
    itemized? (es.map Part.element) = some ⟨[], es.map Part.element, []⟩ := by
  have hitem : ∀ p ∈ es.map Part.element, makesItem p = true := by
    intro p hp
    obtain ⟨e, he, rfl⟩ := List.mem_map.1 hp
    have hname : localName e.name ≠ ['@', 'n', 'a', 'm', 'e'] :=
      localName_ne (h e he).1 (.inl rfl) _
    simp [makesItem, Part.isBlank, Part.isKind, hname]
  have hany : (es.map Part.element).any (Part.isKind anyItem) = false := by
    rw [List.any_eq_false]
    intro p hp
    obtain ⟨e, he, rfl⟩ := List.mem_map.1 hp
    have hname : localName e.name ≠ ['$', 'v', 'a', 'l', 'u', 'e'] :=
      localName_ne (h e he).1 (.inr rfl) _
    simp [Part.isKind, anyItem, hname]
  have hdivision : Division.ofMembers makesItem makesItem (es.map Part.element) =
      ⟨[], es.map Part.element, []⟩ := by
    have hrest : (es.map Part.element).dropWhile (!makesItem ·) = es.map Part.element := by
      cases es with
      | nil => rfl
      | cons e es => exact List.dropWhile_cons_of_neg (by simp [hitem])
    have hearly : (es.map Part.element).takeWhile (!makesItem ·) = [] := by
      cases es with
      | nil => rfl
      | cons e es => exact List.takeWhile_cons_of_neg (by simp [hitem])
    have hlate : (es.map Part.element).filter (!makesItem ·) = [] :=
      List.filter_eq_nil_iff.2 fun p hp => by simp [hitem p hp]
    simp only [Division.ofMembers, hrest, hearly, hlate, List.filter_eq_self.2 hitem]
  simp only [itemized?, hdivision, hany, Bool.false_and, Bool.false_eq_true, if_false]

namespace InterfaceElement

variable {i : InterfaceElement} {n : Node}

theorem WrittenAs.inRow (h : i.WrittenAs n) : n.InRow := by
  obtain ⟨children, rfl, hrow⟩ := h
  exact inRow_recordNode (by decide) (fieldNames_nameField _)
    (hrow.inRow fun item n hitem => hitem.inRow)

theorem WrittenAs.ofElement?_eq (h : i.WrittenAs n) (scope : Scope) :
    ∃ e, n.element? = some e ∧ ofElement? scope e = some i := by
  obtain ⟨children, rfl, hrow⟩ := h
  have hinRow := hrow.inRow fun item n hitem => hitem.inRow
  have hsound := isSound_of_inRow hinRow
  obtain ⟨entries, hentries, hvalue⟩ := exists_entriesOf? ["name"] scope
    (d := ⟨[], (elementsIn children).map Part.element, []⟩) (fieldNames_nameField i.name) (by simp)
  have hname := hvalue _ (List.mem_cons_self ..)
  have hitems := hrow.mapM_eq fun item n hitem => hitem.ofElement?_eq
    (scope.within (renderAttributes (presentAttributes (nameField i.name))))
  rw [elementsIn_filter_isElement] at hitems
  have hparts : ((elementsIn children).map Part.element).mapM
      (Item.ofPart? (scope.within (renderAttributes (presentAttributes (nameField i.name))))) =
        some i.items := by
    rw [List.mapM_map]
    exact hitems
  refine ⟨_, rfl, ?_⟩
  simp [ofElement?, partsOf?_of_inRow hinRow, itemized?_map_element hsound, hentries, hname, hparts]

theorem writtenAs_toNode (i : InterfaceElement) : i.WrittenAs i.toNode := by
  refine ⟨i.items.map (·.toNode), ?_,
    row_map Item.writtenAs_toNode (fun item => item.writtenAs_toNode.isElement) _⟩
  rw [toNode, attributeText_eq]
  rfl

end InterfaceElement

/-! ## Documents -/

/-- **The written forms of the root** of a document: an element with its name,
    in which the interfaces stand in a row. -/
def Document.RootWrittenAs (d : Document) (n : Node) : Prop :=
  ∃ children, n = recordNode "interfaces" (nameField d.name) children ∧
    Row (Node.isKind "interface") InterfaceElement.WrittenAs d.interfaces children

/-- **The written forms of a document**: its root, with comments around it. -/
def Document.WrittenAs (d : Document) (nodes : List Node) : Prop :=
  ∃ before root after, nodes = before ++ root :: after ∧ (∀ n ∈ before, n.IsComment) ∧
    (∀ n ∈ after, n.IsComment) ∧ d.RootWrittenAs root

namespace Document

variable {d : Document} {n : Node}

theorem RootWrittenAs.inRow (h : d.RootWrittenAs n) : n.InRow := by
  obtain ⟨children, rfl, hrow⟩ := h
  exact inRow_recordNode (by decide) (fieldNames_nameField _) (hrow.inRow fun i n hi => hi.inRow)

theorem RootWrittenAs.ofNode?_eq (h : d.RootWrittenAs n) : ofNode? n = some d := by
  obtain ⟨children, rfl, hrow⟩ := h
  have hinRow := hrow.inRow fun i n hi => hi.inRow
  obtain ⟨division, hd, hmembers, haround⟩ := exists_listed? hinRow
    (hrow.name_eq fun i n ⟨children, hn, _⟩ => ⟨_, children, hn⟩)
  obtain ⟨entries, hentries, hvalue⟩ :=
    exists_entriesOf? ["name"] [] (fieldNames_nameField d.name) haround
  have hname := hvalue _ (List.mem_cons_self ..)
  have hsound := declarationsSound_presentAttributes (fieldNames_nameField d.name)
  have hinterfaces := hrow.mapM_eq fun i n hi => hi.ofElement?_eq
    (Scope.within [] (renderAttributes (presentAttributes (nameField d.name))))
  rw [← hmembers] at hinterfaces
  simp [ofNode?, recordNode, ofElement?, partsOf?_of_inRow hinRow, hd, hentries, hname, hinterfaces,
    hsound]

theorem writtenAs_toNode (d : Document) : d.WrittenAs [d.toNode] := by
  refine ⟨[], d.toNode, [], rfl, by simp, by simp, d.interfaces.map (·.toNode), ?_,
    row_map InterfaceElement.writtenAs_toNode (fun _ => rfl) _⟩
  rw [toNode, attributeText_eq]
  rfl

/-- Each written form of a document is read back. -/
theorem WrittenAs.parse_eq {nodes : List Node} (h : d.WrittenAs nodes) :
    parse (String.ofList (renderAll nodes)) = .ok d := by
  obtain ⟨before, root, after, rfl, hbefore, -, hroot⟩ := h
  have helement : root.isElement = true := by
    obtain ⟨children, rfl, -⟩ := hroot
    rfl
  have hread := read_renderAll hbefore helement hroot.inRow.wellFormed after
  rw [parse, String.toList_ofList, hread, Option.bind_some, hroot.ofNode?_eq]

/-- **A document is read back from its markup**: from the text that it is
    printed as, and from each of its written forms, with comments between any
    tags and with other elements between the parameters of messages and between
    the interfaces. -/
theorem parse_writtenAs (d : Document) :
    parse d.print = .ok d ∧
      ∀ nodes, d.WrittenAs nodes → parse (String.ofList (renderAll nodes)) = .ok d := by
  refine ⟨?_, fun nodes h => h.parse_eq⟩
  have hprint := d.writtenAs_toNode.parse_eq
  rw [renderAll_cons, renderAll, List.append_nil] at hprint
  exact hprint

end Document

/-! ## An annotated document -/

/-- A comment. -/
def agreedRemark : Node := .comment " as agreed - ".toList

/-- An element without a meaning, with mixed content. -/
def todoNote : Node :=
  recordNode "note" (nameField (some "todo"))
    [.text "see ".toList, .reference "amp".toList, recordNode "param" (nameField none) []]

theorem agreedRemark_isComment : agreedRemark.IsComment := by
  intro h
  exact absurd (h.subset (show '>' ∈ "-->".toList by decide)) (by decide)

theorem todoNote_inRow : todoNote.InRow := by
  refine .inr ⟨rfl, by decide, ⟨_, rfl, legible_presentAttributes (fieldNames_nameField _)⟩,
    declarationsSound_presentAttributes (fieldNames_nameField _), ?_⟩
  have hparam : (recordNode "param" (nameField none) []).InRow :=
    inRow_recordNode (by decide) (fieldNames_nameField _) (by simp)
  have hreference : (Node.reference "amp".toList).WellFormed := by
    change (decodeReference "amp".toList).isSome = true
    decide
  exact ⟨⟨by decide, by decide, by decide⟩, fun _ => rfl, hreference, fun _ => rfl,
    allWellFormed_of_inRow (by simpa using hparam)⟩

/-- A request whose texts hold what is markup otherwise. -/
def askRequest : FunctionElement where
  name := some "Ask"
  provider := some "<hmi> & \"sdl\""
  params := [{ name := some "text", type := some "String" }, { name := some "length" }]

/-- A document with a type, a request and an item without a meaning. -/
def annotatedDocument : Document where
  name := some "R&D"
  interfaces := [
    { name := some "UI", items := [.enum (some "Color"), .request askRequest, .other] }]

/-- The form of the request with a comment and other elements between its
    parameters. -/
def annotatedRequest : Node :=
  recordNode "request" askRequest.fields
    [agreedRemark, recordNode "param" (ParamElement.fields { name := "text", type := "String" }) [],
      todoNote, recordNode "param" (ParamElement.fields { name := "length" }) [agreedRemark]]

/-- The form of the interface with a comment between its items. -/
def annotatedInterface : Node :=
  recordNode "interface" (nameField (some "UI"))
    [recordNode "enum" (nameField (some "Color")) [agreedRemark], annotatedRequest, agreedRemark,
      todoNote]

/-- The document with comments around its root, and with an element before its
    interface. -/
def annotatedMarkup : List Node :=
  [agreedRemark,
    recordNode "interfaces" (nameField (some "R&D")) [todoNote, annotatedInterface, agreedRemark],
    agreedRemark]

theorem annotatedRequest_writtenAs : askRequest.WrittenAs "request" annotatedRequest := by
  refine ⟨_, rfl, .cons ⟨[], rfl, by simp⟩ (.cons ⟨[agreedRemark], rfl, ?_⟩ .nil), ?_⟩
  · simpa using agreedRemark_isComment
  · intro n hn hnot
    simp only [List.mem_cons, List.not_mem_nil, or_false] at hn
    rcases hn with rfl | rfl | rfl | rfl
    · exact .inl agreedRemark_isComment
    · cases hnot
    · exact todoNote_inRow
    · cases hnot

theorem annotatedMarkup_writtenAs : annotatedDocument.WrittenAs annotatedMarkup := by
  have hremark : ∀ n ∈ [agreedRemark], n.IsComment := by simpa using agreedRemark_isComment
  have hnote : Item.other.WrittenAs todoNote :=
    .other rfl todoNote_inRow.wellFormed (by decide)
  have hitems : Row Node.isElement Item.WrittenAs
      [.enum (some "Color"), .request askRequest, .other]
      [recordNode "enum" (nameField (some "Color")) [agreedRemark], annotatedRequest, agreedRemark,
        todoNote] := by
    refine ⟨.cons (.enum hremark) (.cons (.request annotatedRequest_writtenAs)
      (.cons hnote .nil)), ?_⟩
    intro n hn hnot
    simp only [List.mem_cons, List.not_mem_nil, or_false] at hn
    rcases hn with rfl | rfl | rfl | rfl
    · cases hnot
    · cases hnot
    · exact .inl agreedRemark_isComment
    · exact todoNote_inRow
  refine ⟨[agreedRemark], _, [agreedRemark], rfl, hremark, hremark, _, rfl,
    .cons ⟨_, rfl, hitems⟩ .nil, ?_⟩
  intro n hn hnot
  simp only [List.mem_cons, List.not_mem_nil, or_false] at hn
  rcases hn with rfl | rfl | rfl
  · exact todoNote_inRow
  · cases hnot
  · exact .inl agreedRemark_isComment

/-- The annotated document is read without its annotations. -/
theorem annotatedMarkup_parse :
    annotatedDocument.WrittenAs annotatedMarkup ∧
      Document.parse annotatedDocument.print = .ok annotatedDocument ∧
      Document.parse (String.ofList (renderAll annotatedMarkup)) = .ok annotatedDocument := by
  obtain ⟨hprint, hforms⟩ := Document.parse_writtenAs annotatedDocument
  exact ⟨annotatedMarkup_writtenAs, hprint, hforms _ annotatedMarkup_writtenAs⟩

end CallerStubs
