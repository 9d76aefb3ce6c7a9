/-
  Caller stubs — which service a document describes.

  What a document describes is said here without an order of reading: each
  part of the service corresponds to an element, in the order of the elements,
  and no name is given twice.  Each of the builders builds exactly that.

  * `Item.request?`, `Item.response?`: the message that an item stands for, in
    either of its forms;
  * `FunctionElement.DescribesRequest`, `FunctionElement.DescribesResponse`,
    `InterfaceElement.Describes`, `Document.Describes`: the parts of a
    description;
  * `Interface.extend_eq_ok_iff`: the requests and responses that a list of
    items adds to an interface are those that its members describe;
  * `Api.build_eq_ok_iff`: the service that is built is the one that the
    document describes.
-/
import CallerStubs.Api.Build
import CallerStubs.Proofs.Param

namespace CallerStubs

/-! ## The messages of a document -/

/-- The request that an item stands for. -/
def Item.request? : Item → Option FunctionElement
  | .request e => some e
  | .function e => if e.messageType = some "request" then some e else none
  | _ => none

/-- The response that an item stands for. -/
def Item.response? : Item → Option FunctionElement
  | .response e => some e
  | .function e => if e.messageType = some "response" then some e else none
  | _ => none

/-- The requests of an interface, in document order. -/
def InterfaceElement.requestElements (i : InterfaceElement) : List FunctionElement :=
  i.items.filterMap Item.request?

/-- The responses of an interface, in document order. -/
def InterfaceElement.responseElements (i : InterfaceElement) : List FunctionElement :=
  i.items.filterMap Item.response?

/-- The requests of a document, in its order. -/
def Document.requestElements (d : Document) : List FunctionElement :=
  d.interfaces.flatMap InterfaceElement.requestElements

/-- An item is a request, or a response, or neither. -/
theorem Item.message?_cases (item : Item) :
    (∃ e, item.message? = some (.request e) ∧ item.request? = some e ∧ item.response? = none) ∨
    (∃ e, item.message? = some (.response e) ∧ item.request? = none ∧ item.response? = some e) ∨
    ((item.message? = none ∨ ∃ e, item.message? = some (.neither e)) ∧
      item.request? = none ∧ item.response? = none) := by
  cases item with
  | request e => exact .inl ⟨e, rfl, rfl, rfl⟩
  | response e => exact .inr (.inl ⟨e, rfl, rfl, rfl⟩)
  | enum | struct | other => exact .inr (.inr ⟨.inl rfl, rfl, rfl⟩)
  | function e =>
    simp only [message?, request?, response?]
    by_cases hq : e.messageType = some "request"
    · exact .inl ⟨e, by simp [hq]⟩
    · by_cases hr : e.messageType = some "response"
      · exact .inr (.inl ⟨e, by simp [hr]⟩)
      · exact .inr (.inr ⟨.inr ⟨e, by simp [hq, hr]⟩, by simp [hq, hr]⟩)

/-! ## Descriptions -/

/-- The request that an element of the interface `owner` describes. -/
structure FunctionElement.DescribesRequest (d : Document) (owner : String) (e : FunctionElement)
    (r : Request) : Prop where
  name : e.name = some r.name
  nonempty : r.name ≠ ""
  params : List.Forall₂ (ParamElement.Describes d owner) e.params r.params
  distinct : (r.params.map (·.name)).Nodup
  provider : r.provider = e.provider

/-- The response that an element describes. -/
structure FunctionElement.DescribesResponse (e : FunctionElement) (r : Response) : Prop where
  name : e.name = some r.name
  nonempty : r.name ≠ ""
  provider : r.provider = e.provider

/-- The interface that an element of the document describes. -/
structure InterfaceElement.Describes (d : Document) (e : InterfaceElement) (i : Interface) :
    Prop where
  name : e.name = some i.name
  nonempty : i.name ≠ ""
  requests : List.Forall₂ (FunctionElement.DescribesRequest d i.name) e.requestElements i.requests
  responses : List.Forall₂ FunctionElement.DescribesResponse e.responseElements i.responses
  distinct : (i.requests.map (·.name)).Nodup

/-- **The service that a document describes.** -/
structure Document.Describes (d : Document) (api : Api) : Prop where
  interfaces : List.Forall₂ (InterfaceElement.Describes d) d.interfaces api.interfaces
  distinct : (api.interfaces.map (·.name)).Nodup

/-! ## Requests and responses -/

theorem Param.buildAll_eq_buildDistinct {registry : Registry} {owner request : String} :
    ∀ {es : List ParamElement} {seen : List String},
      Param.buildAll registry owner request seen es =
        buildDistinct (Param.build registry owner) (·.name)
          (fun p => .repeatedParam owner request p.name) seen es
  | [], _ => rfl
  | e :: es, seen => by simp only [buildAll, buildDistinct, buildAll_eq_buildDistinct]

theorem Param.buildAll_eq_ok_iff {d : Document} {owner request : String}
    {es : List ParamElement} {ps : List Param} :
    Param.buildAll d.registry owner request [] es = .ok ps ↔
      List.Forall₂ (ParamElement.Describes d owner) es ps ∧ (ps.map (·.name)).Nodup := by
  simp [buildAll_eq_buildDistinct, buildDistinct_eq_ok_iff, build_eq_ok_iff]

theorem FunctionElement.messageName_eq_ok_iff {owner name : String} {e : FunctionElement} :
    e.messageName owner = .ok name ↔ e.name = some name ∧ name ≠ "" := by
  rw [← present?_eq_some_iff, messageName]
  cases present? e.name <;> simp

theorem Request.build_eq_ok_iff {d : Document} {owner : String} {e : FunctionElement}
    {r : Request} :
    Request.build d.registry owner e = .ok r ↔ e.DescribesRequest d owner r := by
  simp only [build, bind_eq_ok_iff, FunctionElement.messageName_eq_ok_iff,
    Param.buildAll_eq_ok_iff, Except.ok.injEq]
  constructor
  · rintro ⟨name, ⟨hn, hne⟩, ps, ⟨hps, hnd⟩, rfl⟩
    exact ⟨hn, hne, hps, hnd, rfl⟩
  · rintro ⟨hn, hne, hps, hnd, hpr⟩
    exact ⟨r.name, ⟨hn, hne⟩, r.params, ⟨hps, hnd⟩, by rw [← hpr]⟩

theorem Response.build_eq_ok_iff {owner : String} {e : FunctionElement} {r : Response} :
    Response.build owner e = .ok r ↔ e.DescribesResponse r := by
  simp only [build, bind_eq_ok_iff, FunctionElement.messageName_eq_ok_iff, Except.ok.injEq]
  constructor
  · rintro ⟨name, ⟨hn, hne⟩, rfl⟩
    exact ⟨hn, hne, rfl⟩
  · rintro ⟨hn, hne, hpr⟩
    exact ⟨r.name, ⟨hn, hne⟩, by rw [← hpr]⟩

/-! ## Interfaces -/

theorem firstRepeat?_eq_none_iff : ∀ {xs seen : List String},
    firstRepeat? seen xs = none ↔ xs.Nodup ∧ ∀ x ∈ xs, x ∉ seen
  | [], seen => by simp [firstRepeat?]
  | x :: xs, seen => by
    rw [firstRepeat?]
    split_ifs with hx
    · simp [hx]
    · rw [firstRepeat?_eq_none_iff]
      simp only [List.nodup_cons, List.mem_cons, forall_eq_or_imp]
      grind

namespace Interface

variable {registry : Registry} {i : Interface} {item : Item} {items : List Item}

theorem extend_cons_request {e : FunctionElement} (h : item.message? = some (.request e)) :
    extend registry i (item :: items) = Request.build registry i.name e >>= fun r =>
      extend registry { i with requests := i.requests ++ [r] } items := by
  rw [extend, h]

theorem extend_cons_response {e : FunctionElement} (h : item.message? = some (.response e)) :
    extend registry i (item :: items) = Response.build i.name e >>= fun r =>
      extend registry { i with responses := i.responses ++ [r] } items := by
  rw [extend, h]

/-- Items that are neither requests nor responses add nothing. -/
theorem extend_cons_neither
    (h : item.message? = none ∨ ∃ e, item.message? = some (.neither e)) :
    extend registry i (item :: items) = extend registry i items := by
  rw [extend]
  rcases h with h | ⟨e, h⟩ <;> rw [h]

end Interface

/-- **What items add to an interface**: the requests and the responses that
    they describe, each in their order. -/
theorem Interface.extend_eq_ok_iff {d : Document} :
    ∀ {items : List Item} {i i' : Interface},
      Interface.extend d.registry i items = .ok i' ↔
        ∃ rs ps, List.Forall₂ (FunctionElement.DescribesRequest d i.name)
            (items.filterMap Item.request?) rs ∧
          List.Forall₂ FunctionElement.DescribesResponse (items.filterMap Item.response?) ps ∧
          i' = { i with requests := i.requests ++ rs, responses := i.responses ++ ps }
  | [], i, i' => by
    simp only [extend, Except.ok.injEq, List.filterMap_nil, List.forall₂_nil_left_iff]
    constructor
    · rintro rfl; exact ⟨[], [], rfl, rfl, by simp⟩
    · rintro ⟨-, -, rfl, rfl, rfl⟩; simp
  | item :: items, i, i' => by
    -- a request goes behind those of `i`, which the rest of the items extends
    rcases item.message?_cases with ⟨e, hm, hq, hr⟩ | ⟨e, hm, hq, hr⟩ | ⟨hm, hq, hr⟩
    · simp only [extend_cons_request hm, bind_eq_ok_iff, Request.build_eq_ok_iff,
        extend_eq_ok_iff, List.filterMap_cons, hq, hr, List.forall₂_cons_left_iff]
      constructor
      · rintro ⟨r, hr, rs, ps, hrs, hps, rfl⟩
        exact ⟨r :: rs, ps, ⟨r, rs, hr, hrs, rfl⟩, hps, by simp⟩
      · rintro ⟨-, ps, ⟨r, rs, hr, hrs, rfl⟩, hps, rfl⟩
        exact ⟨r, hr, rs, ps, hrs, hps, by simp⟩
    · simp only [extend_cons_response hm, bind_eq_ok_iff, Response.build_eq_ok_iff,
        extend_eq_ok_iff, List.filterMap_cons, hq, hr, List.forall₂_cons_left_iff]
      constructor
      · rintro ⟨p, hp, rs, ps, hrs, hps, rfl⟩
        exact ⟨rs, p :: ps, hrs, ⟨p, ps, hp, hps, rfl⟩, by simp⟩
      · rintro ⟨rs, -, hrs, ⟨p, ps, hp, hps, rfl⟩, rfl⟩
        exact ⟨p, hp, rs, ps, hrs, hps, by simp⟩
    · rw [extend_cons_neither hm, extend_eq_ok_iff, List.filterMap_cons, List.filterMap_cons,
        hq, hr]

theorem Interface.build_eq_ok_iff {d : Document} {e : InterfaceElement} {i : Interface} :
    Interface.build d.registry e = .ok i ↔ e.Describes d i := by
  unfold build
  cases hn : present? e.name with
  | none =>
    simp only [reduceCtorEq, false_iff]
    rintro ⟨hname, hne, -, -, -⟩
    exact hne (present?_eq_none_iff.1 hn _ hname)
  | some name =>
    obtain ⟨hname, hne⟩ := present?_eq_some_iff.1 hn
    simp only [bind_eq_ok_iff, extend_eq_ok_iff, List.nil_append]
    constructor
    · rintro ⟨-, ⟨rs, ps, hrs, hps, rfl⟩, h⟩
      cases hrep : firstRepeat? [] (rs.map (·.name)) with
      | some r => simp [hrep] at h
      | none =>
        simp only [hrep, Except.ok.injEq] at h
        subst h
        exact ⟨hname, hne, hrs, hps, (firstRepeat?_eq_none_iff.1 hrep).1⟩
    · rintro ⟨hname', -, hrs, hps, hnd⟩
      rw [hname] at hname'
      cases hname'
      refine ⟨i, ⟨i.requests, i.responses, hrs, hps, rfl⟩, ?_⟩
      rw [firstRepeat?_eq_none_iff.2 ⟨hnd, by simp⟩]

/-! ## Services -/

theorem Interface.buildAll_eq_buildDistinct {registry : Registry} :
    ∀ {es : List InterfaceElement} {seen : List String},
      Interface.buildAll registry seen es =
        buildDistinct (Interface.build registry) (·.name) (fun i => .repeatedInterface i.name)
          seen es
  | [], _ => rfl
  | e :: es, seen => by simp only [buildAll, buildDistinct, buildAll_eq_buildDistinct]

/-- **The service that is built is the one that the document describes.** -/
theorem Api.build_eq_ok_iff {d : Document} {api : Api} :
    Api.build d = .ok api ↔ d.Describes api := by
  simp only [build, bind_eq_ok_iff, Interface.buildAll_eq_buildDistinct, buildDistinct_eq_ok_iff,
    Interface.build_eq_ok_iff, Except.ok.injEq]
  constructor
  · rintro ⟨is, ⟨his, hnd, -⟩, rfl⟩
    exact ⟨his, hnd⟩
  · rintro ⟨his, hnd⟩
    exact ⟨api.interfaces, ⟨his, hnd, by simp⟩, rfl⟩

end CallerStubs
