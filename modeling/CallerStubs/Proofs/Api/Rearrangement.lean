/-
  Caller stubs — where types are declared.

  A service depends on what types its document declares, but not on where it
  declares them; and its interfaces do not depend on each other, but for their
  names and their types.

  * `Edit`: an edit of the items of an interface that does not touch its
    messages;
  * `Agree`, `Edit.agree`: the messages and the types are the same after it;
  * `Interface.build_congr`: an interface asks its registry for kinds of types
    only;
  * `Document.Edited.build_eq`: edits do not change the service, or its fault;
  * `arranged`, `Api.build_arranged`: the interfaces in another order;
  * `build_rearranged`: both at once.
-/
import CallerStubs.Proofs.Api.Types
import CallerStubs.Proofs.Api.WellFormed
import Mathlib.Logic.Relation

namespace CallerStubs

/-! ## Edits -/

/-- The item declares a type, which may have no name. -/
inductive Item.IsType : Item → Prop
  | enum (name : Option String) : IsType (.enum name)
  | struct (name : Option String) : IsType (.struct name)

/-- The item is neither a type nor a request nor a response. -/
inductive Item.IsIdle : Item → Prop
  | other : IsIdle .other
  | function {e : FunctionElement} : e.messageType ≠ some "request" →
      e.messageType ≠ some "response" → IsIdle (.function e)

/-- **An edit of the items of an interface** that does not touch its requests
    and responses. -/
inductive Edit : List Item → List Item → Prop
  /-- A type is moved behind other items. -/
  | moved {item before passed after} : item.IsType →
      Edit (before ++ item :: (passed ++ after)) (before ++ passed ++ item :: after)
  /-- A type is repeated at any place. -/
  | repeated {item before after} : item.IsType → item ∈ before ++ after →
      Edit (before ++ after) (before ++ item :: after)
  /-- An item without a meaning is added at any place. -/
  | inserted {item before after} : item.IsIdle → Edit (before ++ after) (before ++ item :: after)

/-- The interface after edits, any of which can be undone. -/
structure InterfaceElement.Edited (e e' : InterfaceElement) : Prop where
  name : e'.name = e.name
  items : Relation.EqvGen Edit e.items e'.items

/-- The document with edits of any of its interfaces. -/
def Document.Edited (d d' : Document) : Prop :=
  List.Forall₂ InterfaceElement.Edited d.interfaces d'.interfaces

/-! ## What edits keep -/

/-- Is the item a request or a response? -/
def Item.isMessage (item : Item) : Bool :=
  item.request?.isSome || item.response?.isSome

/-- The items hold the same messages in the same order, and declare the same
    types. -/
structure Agree (items items' : List Item) : Prop where
  messages : items'.filter Item.isMessage = items.filter Item.isMessage
  types : ∀ (kind : DeclaredKind) name, kind.item name ∈ items' ↔ kind.item name ∈ items

theorem Item.IsType.isMessage {item : Item} (h : item.IsType) : item.isMessage = false := by
  cases h <;> rfl

theorem Item.IsIdle.isMessage {item : Item} (h : item.IsIdle) : item.isMessage = false := by
  cases h with
  | other => rfl
  | function hrequest hresponse => simp [Item.isMessage, request?, response?, hrequest, hresponse]

theorem Item.IsIdle.ne_item {item : Item} (h : item.IsIdle) (kind : DeclaredKind) (name : String) :
    kind.item name ≠ item := by
  cases h <;> cases kind <;> simp [DeclaredKind.item]

namespace Agree

variable {items items' items'' : List Item}

theorem refl (items : List Item) : Agree items items :=
  ⟨rfl, fun _ _ => Iff.rfl⟩

theorem symm (h : Agree items items') : Agree items' items :=
  ⟨h.messages.symm, fun kind name => (h.types kind name).symm⟩

theorem trans (h : Agree items items') (h' : Agree items' items'') : Agree items items'' :=
  ⟨h'.messages.trans h.messages, fun kind name => (h'.types kind name).trans (h.types kind name)⟩

end Agree

/-- **An edit keeps the messages and the types.** -/
theorem Edit.agree {items items' : List Item} (h : Edit items items') : Agree items items' := by
  cases h with
  | moved htype =>
    refine ⟨by simp [htype.isMessage], fun kind name => ?_⟩
    simp only [List.mem_append, List.mem_cons]
    tauto
  | repeated htype hmem =>
    refine ⟨by simp [htype.isMessage], fun kind name => ?_⟩
    rw [List.perm_middle.mem_iff, List.mem_cons, or_iff_right_iff_imp]
    rintro rfl
    exact hmem
  | inserted hidle =>
    refine ⟨by simp [hidle.isMessage], fun kind name => ?_⟩
    rw [List.perm_middle.mem_iff, List.mem_cons, or_iff_right (hidle.ne_item kind name)]

/-- Edits keep the messages and the types, and so does undoing them. -/
theorem agree_of_eqvGen {items items' : List Item} (h : Relation.EqvGen Edit items items') :
    Agree items items' := by
  induction h with
  | rel _ _ hedit => exact hedit.agree
  | refl items => exact .refl items
  | symm _ _ _ ih => exact ih.symm
  | trans _ _ _ _ _ ih ih' => exact ih.trans ih'

/-! ## Registries that know the same types -/

section
variable {r r' : Registry} {owner request param type : String}

theorem ParamKind.resolve_congr (h : r'.lookup = r.lookup) :
    ParamKind.resolve r' owner param type = ParamKind.resolve r owner param type := by
  simp only [resolve, h]

theorem Param.build_congr (h : r'.lookup = r.lookup) (e : ParamElement) :
    Param.build r' owner e = Param.build r owner e := by
  simp only [build, ParamKind.resolve_congr h]

theorem Param.buildAll_congr (h : r'.lookup = r.lookup) (seen : List String)
    (es : List ParamElement) :
    Param.buildAll r' owner request seen es = Param.buildAll r owner request seen es := by
  rw [buildAll_eq_buildDistinct, buildAll_eq_buildDistinct, funext (build_congr h)]

theorem Request.build_congr (h : r'.lookup = r.lookup) (e : FunctionElement) :
    Request.build r' owner e = Request.build r owner e := by
  simp only [build, Param.buildAll_congr h]

theorem Interface.extend_congr (h : r'.lookup = r.lookup) :
    ∀ (items : List Item) (i : Interface), extend r' i items = extend r i items
  | [], _ => rfl
  | item :: items, i => by simp only [extend, Request.build_congr h, extend_congr h items]

/-- **An interface asks its registry for kinds of types only.** -/
theorem Interface.build_congr (h : r'.lookup = r.lookup) (e : InterfaceElement) :
    Interface.build r' e = Interface.build r e := by
  simp only [build, extend_congr h]

end

/-- Documents that declare the same types have registries that know the same
    types. -/
theorem Document.lookup_registry_congr {d d' : Document}
    (h : ∀ kind path, d'.Declares kind path ↔ d.Declares kind path) :
    d'.registry.lookup = d.registry.lookup := by
  funext path
  refine Option.ext fun kind => ?_
  rw [lookup_registry_eq_some_iff, lookup_registry_eq_some_iff, h, h]

/-! ## Edited documents -/

/-- An interface reads its messages and skips its other items. -/
theorem Interface.extend_filter (registry : Registry) : ∀ (items : List Item) (i : Interface),
    extend registry i (items.filter Item.isMessage) = extend registry i items
  | [], _ => rfl
  | item :: items, i => by
    have ih := extend_filter registry items
    rcases item.message?_cases with ⟨e, hm, hq, hr⟩ | ⟨e, hm, hq, hr⟩ | ⟨hm, hq, hr⟩
    · rw [List.filter_cons_of_pos (by simp [Item.isMessage, hq]), extend_cons_request hm,
        extend_cons_request hm]
      exact congrArg _ (funext fun r => ih _)
    · rw [List.filter_cons_of_pos (by simp [Item.isMessage, hr]), extend_cons_response hm,
        extend_cons_response hm]
      exact congrArg _ (funext fun r => ih _)
    · rw [List.filter_cons_of_neg (by simp [Item.isMessage, hq, hr]), extend_cons_neither hm, ih]

theorem InterfaceElement.Edited.declares_iff {e e' : InterfaceElement} (h : e.Edited e')
    {kind : DeclaredKind} {path : TypePath} : e'.Declares kind path ↔ e.Declares kind path := by
  rw [Declares, Declares, h.name, (agree_of_eqvGen h.items).types]

theorem InterfaceElement.Edited.build_eq {e e' : InterfaceElement} (h : e.Edited e')
    (registry : Registry) : Interface.build registry e' = Interface.build registry e := by
  have hextend (i : Interface) :
      Interface.extend registry i e'.items = Interface.extend registry i e.items := by
    rw [← Interface.extend_filter, (agree_of_eqvGen h.items).messages, Interface.extend_filter]
  simp only [Interface.build, h.name, hextend]

theorem Document.Edited.declares_iff {d d' : Document} (h : d.Edited d') {kind : DeclaredKind}
    {path : TypePath} : d'.Declares kind path ↔ d.Declares kind path := by
  constructor
  · rintro ⟨e', he', hdeclares⟩
    obtain ⟨e, he, hedited⟩ := forall₂_mem_right h e' he'
    exact ⟨e, he, hedited.declares_iff.1 hdeclares⟩
  · rintro ⟨e, he, hdeclares⟩
    obtain ⟨e', he', hedited⟩ := forall₂_mem_left h e he
    exact ⟨e', he', hedited.declares_iff.2 hdeclares⟩

theorem buildAll_edited {registry : Registry} {es es' : List InterfaceElement}
    (h : List.Forall₂ InterfaceElement.Edited es es') (seen : List String) :
    Interface.buildAll registry seen es' = Interface.buildAll registry seen es := by
  induction h generalizing seen with
  | nil => rfl
  | cons he _ ih => simp only [Interface.buildAll, he.build_eq, ih]

/-- **An edited document describes the same service**, or has the same
    fault. -/
theorem Document.Edited.build_eq {d d' : Document} (h : d.Edited d') :
    Api.build d' = Api.build d := by
  have hlookup := Document.lookup_registry_congr fun _ _ => h.declares_iff
  rw [Api.build, Api.build, buildAll_edited h, Interface.buildAll_eq_buildDistinct,
    Interface.buildAll_eq_buildDistinct, funext (Interface.build_congr hlookup)]

/-! ## Interfaces in another order -/

/-- The members of a list at these positions, in the order of the positions. -/
def arranged {α : Type} (order : List Nat) (xs : List α) : List α :=
  order.filterMap (xs[·]?)

/-- The document with its interfaces in another order. -/
def Document.arranged (order : List Nat) (d : Document) : Document :=
  { d with interfaces := CallerStubs.arranged order d.interfaces }

/-- The service with its interfaces in another order. -/
def Api.arranged (order : List Nat) (api : Api) : Api where
  interfaces := CallerStubs.arranged order api.interfaces

section
variable {α β : Type} {R : α → β → Prop} {xs : List α} {ys : List β} {order : List Nat}

theorem filterMap_getElem?_range (xs : List α) :
    (List.range xs.length).filterMap (xs[·]?) = xs := by
  induction xs with
  | nil => rfl
  | cons x xs ih =>
    rw [List.length_cons, List.range_succ_eq_map, List.filterMap_cons, List.filterMap_map]
    simpa [Function.comp_def] using ih

/-- An order that has each position once makes a permutation. -/
theorem arranged_perm (h : order.Perm (List.range xs.length)) : (arranged order xs).Perm xs := by
  have hperm := h.filterMap (xs[·]?)
  rwa [filterMap_getElem?_range] at hperm

/-- Lists that correspond member by member do so in every order. -/
theorem arranged_forall₂ (h : List.Forall₂ R xs ys) :
    ∀ order : List Nat, List.Forall₂ R (arranged order xs) (arranged order ys)
  | [] => .nil
  | k :: order => by
    have ih := arranged_forall₂ h order
    unfold arranged at ih ⊢
    by_cases hk : k < xs.length
    · have hk' : k < ys.length := h.length_eq ▸ hk
      rw [List.filterMap_cons_some (List.getElem?_eq_getElem hk),
        List.filterMap_cons_some (List.getElem?_eq_getElem hk')]
      exact .cons (h.get hk hk') ih
    · have hk' : ¬ k < ys.length := h.length_eq ▸ hk
      rw [List.filterMap_cons_none (by simpa using hk),
        List.filterMap_cons_none (by simpa using hk')]
      exact ih

end

section
variable {d : Document} {order : List Nat} {api api' : Api}

theorem Document.mem_arranged (h : order.Perm (List.range d.interfaces.length))
    {e : InterfaceElement} : e ∈ (d.arranged order).interfaces ↔ e ∈ d.interfaces :=
  (arranged_perm h).mem_iff

/-- An element describes the same interface in whatever order it stands. -/
theorem Document.describes_arranged_iff (h : order.Perm (List.range d.interfaces.length))
    {e : InterfaceElement} {i : Interface} :
    e.Describes (d.arranged order) i ↔ e.Describes d i := by
  have hlookup : (d.arranged order).registry.lookup = d.registry.lookup :=
    lookup_registry_congr fun kind path => by simp only [Declares, mem_arranged h]
  rw [← Interface.build_eq_ok_iff, ← Interface.build_eq_ok_iff, Interface.build_congr hlookup]

theorem Document.Describes.arranged (h : order.Perm (List.range d.interfaces.length))
    (hd : d.Describes api) : (d.arranged order).Describes (api.arranged order) where
  interfaces := (arranged_forall₂ hd.interfaces order).imp fun _ _ hi =>
    (describes_arranged_iff h).2 hi
  distinct := by
    have hperm : (CallerStubs.arranged order api.interfaces).Perm api.interfaces :=
      arranged_perm (hd.interfaces.length_eq ▸ h)
    exact (hperm.map (·.name)).nodup_iff.2 hd.distinct

/-- Elements have distinct names iff the interfaces that they describe have. -/
theorem Document.nodup_names_iff_of_describes {es : List InterfaceElement} {is : List Interface}
    (h : List.Forall₂ (InterfaceElement.Describes d) es is) :
    (es.map (·.name)).Nodup ↔ (is.map (·.name)).Nodup :=
  nodup_names_iff (fun _ _ hi => hi.name) h

theorem Document.exists_describes_of_arranged (h : order.Perm (List.range d.interfaces.length))
    (hd : (d.arranged order).Describes api') : ∃ api, d.Describes api := by
  have hparts : ∀ e ∈ d.interfaces, ∃ i, e.Describes d i := by
    intro e he
    obtain ⟨i, -, hi⟩ := forall₂_mem_left hd.interfaces e ((mem_arranged h).2 he)
    exact ⟨i, (describes_arranged_iff h).1 hi⟩
  obtain ⟨is, his⟩ := exists_forall₂_iff.2 hparts
  have hnames := (nodup_names_iff_of_describes hd.interfaces).2 hd.distinct
  have hperm := (arranged_perm h).map InterfaceElement.name
  exact ⟨⟨is⟩, his, (nodup_names_iff_of_describes his).1 (hperm.nodup_iff.1 hnames)⟩

/-- **A document in another order describes the service in this order**, and
    describes one iff the document itself does. -/
theorem Api.build_arranged (h : order.Perm (List.range d.interfaces.length)) :
    Api.build (d.arranged order) = .ok api' ↔
      ∃ api, Api.build d = .ok api ∧ api' = api.arranged order := by
  constructor
  · intro hbuild
    obtain ⟨api, hapi⟩ := Document.exists_describes_of_arranged h (Api.build_eq_ok_iff.1 hbuild)
    have harranged := Api.build_eq_ok_iff.2 (hapi.arranged h)
    exact ⟨api, Api.build_eq_ok_iff.2 hapi, Except.ok.inj (hbuild.symm.trans harranged)⟩
  · rintro ⟨api, hapi, rfl⟩
    exact Api.build_eq_ok_iff.2 ((Api.build_eq_ok_iff.1 hapi).arranged h)

end

/-! ## Both at once -/

/-- **Where types are declared makes no difference.**  After edits that do not
    touch the messages the document describes the same service, or has the same
    fault.  With its interfaces in another order it describes a service iff it
    did before, and this has the same interfaces in the same order as the
    document. -/
theorem build_rearranged (d : Document) :
    (∀ d', d.Edited d' → Api.build d' = Api.build d) ∧
      ∀ order : List Nat, order.Perm (List.range d.interfaces.length) → ∀ api',
        Api.build (d.arranged order) = .ok api' ↔
          ∃ api, Api.build d = .ok api ∧ api' = api.arranged order :=
  ⟨fun _ h => h.build_eq, fun _ h _ => Api.build_arranged h⟩

/-- `mixedTypes` with a type before its use instead of behind it, a repeated
    type, and items without a meaning. -/
def mixedTypesEdited : Document where
  interfaces := [
    { name := some "UI"
      items := [
        .struct (some "Field"),
        .function {
          name := some "Show", messageType := some "request", provider := some "sdl"
          params := [
            { name := some "image", type := some "Common.Image", array := some "true" },
            { name := some "field", type := some "Field", mandatory := some "false" },
            { name := some "length", type := some "Integer" }] },
        .enum none, .function { messageType := some "notification" }] },
    { name := some "Common"
      items := [
        .struct (some "Result"), .other, .enum (some "Result"), .struct (some "Image"),
        .request { name := some "Ask", params := [{ name := some "code", type := some "Result" }] },
        .response { name := some "Ask", params := [{ name := some "", type := some "Result." }] },
        .struct (some "Image")] }]

theorem mixedTypes_rearranged :
    mixedTypes.Edited mixedTypesEdited ∧ Api.build mixedTypesEdited = .ok mixedTypesApi ∧
      Api.build (mixedTypes.arranged [1, 0]) = .ok (mixedTypesApi.arranged [1, 0]) := by
  obtain ⟨hedited, harranged⟩ := build_rearranged mixedTypes
  have h : mixedTypes.Edited mixedTypesEdited := by
    refine .cons ⟨rfl, ?_⟩ (.cons ⟨rfl, ?_⟩ .nil)
    · refine .trans _ _ _ (.symm _ _ (.rel _ _ (@Edit.moved _ [] [_] _ (.struct _)))) ?_
      exact .rel _ _ (@Edit.inserted _ [_, _, _] [] (.function (by decide) (by decide)))
    · refine .trans _ _ _ (.rel _ _ (@Edit.inserted _ [_] [_, _, _, _] .other)) ?_
      exact .rel _ _ (@Edit.repeated _ [_, _, _, _, _, _] [] (.struct _) (by simp))
  exact ⟨h, hedited _ h, (harranged [1, 0] (by decide) _).2 ⟨_, rfl, rfl⟩⟩

end CallerStubs
