/-
  Caller stubs — what the order of the responses decides.

  Only responses of the same name compete for a request, and the first of them
  wins.  So responses of different names may stand in any order, and responses
  that are added behind the others come too late for every request that has
  one.

  * `filter_arranged`, `findIdx?_arranged`: a search of a list in another order
    finds what it found before, if the order keeps what is searched for;
  * `Interface.Reorders`, `Interface.reordered`: orders of the responses that
    keep those of equal names in their order;
  * `Interface.followedBy`, `Exchange.answeredBy`, `Interface.Extends`: further
    responses, and what they change for one request;
  * `Interface.exchanges_stable`: the exchanges and the log after both.
-/
import CallerStubs.Proofs.Api.Rearrangement
import CallerStubs.Proofs.Exchange.Selection

namespace CallerStubs

/-! ## Searches in another order -/

section
variable {α : Type} {xs : List α} {order : List Nat} {p : α → Bool}

/-- Is there a member with the property at the position? -/
def holdsAt (p : α → Bool) (xs : List α) (k : Nat) : Bool :=
  (xs[k]?).any p

theorem filter_arranged_eq (order : List Nat) (xs : List α) (p : α → Bool) :
    (arranged order xs).filter p = arranged (order.filter (holdsAt p xs)) xs := by
  rw [arranged, arranged, List.filter_filterMap, List.filterMap_filter]
  refine congrArg (List.filterMap · order) (funext fun k => ?_)
  cases hk : xs[k]? with
  | none => simp
  | some x => simp [holdsAt, hk, Option.filter]

/-- An order of all positions that keeps those with the property in their order
    has them in the order of the list. -/
theorem filter_holdsAt (h : order.Perm (List.range xs.length))
    (hstable : (order.filter (holdsAt p xs)).Pairwise (· < ·)) :
    order.filter (holdsAt p xs) = (List.range xs.length).filter (holdsAt p xs) := by
  refine List.Perm.eq_of_pairwise ?_ hstable (List.pairwise_lt_range.filter _) (h.filter _)
  exact fun j k _ _ hjk hkj => absurd hjk (Nat.lt_asymm hkj)

/-- **The members with a property stand as before** in an order that keeps
    them in their order. -/
theorem filter_arranged (h : order.Perm (List.range xs.length))
    (hstable : (order.filter (holdsAt p xs)).Pairwise (· < ·)) :
    (arranged order xs).filter p = xs.filter p := by
  have hself : arranged (List.range xs.length) xs = xs := filterMap_getElem?_range xs
  rw [filter_arranged_eq, filter_holdsAt h hstable, ← filter_arranged_eq, hself]

theorem map_some_arranged :
    ∀ {order : List Nat}, (∀ k ∈ order, k < xs.length) →
      (arranged order xs).map some = order.map (xs[·]?)
  | [], _ => rfl
  | k :: order, h => by
    have hk : k < xs.length := h k (List.mem_cons_self ..)
    have ih := map_some_arranged fun j hj => h j (List.mem_cons_of_mem _ hj)
    rw [arranged, List.filterMap_cons_some (List.getElem?_eq_getElem hk), ← arranged,
      List.map_cons, List.map_cons, ih, List.getElem?_eq_getElem hk]

theorem findIdx?_arranged_eq (h : order.Perm (List.range xs.length)) (p : α → Bool) :
    (arranged order xs).findIdx? p = order.findIdx? (holdsAt p xs) := by
  have hvalid : ∀ k ∈ order, k < xs.length := fun k hk => List.mem_range.1 (h.mem_iff.1 hk)
  have hsome : (arranged order xs).findIdx? p =
      ((arranged order xs).map some).findIdx? (Option.any p) := by
    rw [List.findIdx?_map]
    rfl
  rw [hsome, map_some_arranged hvalid, List.findIdx?_map]
  rfl

/-- **The first member with a property is the same one** in an order that keeps
    the members with the property in their order. -/
theorem findIdx?_arranged (h : order.Perm (List.range xs.length))
    (hstable : (order.filter (holdsAt p xs)).Pairwise (· < ·)) :
    ((arranged order xs).findIdx? p).bind (order[·]?) = xs.findIdx? p := by
  have hself : arranged (List.range xs.length) xs = xs := filterMap_getElem?_range xs
  have hrange := findIdx?_arranged_eq (List.Perm.refl (List.range xs.length)) p
  rw [hself] at hrange
  rw [findIdx?_arranged_eq h, ← List.find?_eq_bind_findIdx?_getElem?, ← List.head?_filter,
    filter_holdsAt h hstable, List.head?_filter, List.find?_eq_bind_findIdx?_getElem?, hrange]
  cases hk : (List.range xs.length).findIdx? (holdsAt p xs) with
  | none => rfl
  | some k =>
    have hlt := (List.findIdx?_eq_some_iff_getElem.1 hk).1
    rw [Option.bind_some, List.getElem?_range (by simpa using hlt)]

end

/-! ## Responses in another order -/

namespace Interface

/-- **The order keeps responses of equal names in their order.**  It has every
    position once. -/
structure Reorders (i : Interface) (order : List Nat) : Prop where
  positions : order.Perm (List.range i.responses.length)
  stable : order.Pairwise fun j k =>
    (i.responses[j]?).map (·.name) = (i.responses[k]?).map (·.name) → j < k

/-- The interface with its responses in another order. -/
def reordered (i : Interface) (order : List Nat) : Interface :=
  { i with responses := arranged order i.responses }

variable {i : Interface} {order : List Nat} {provider : String} {r : Request}

/-- The responses that can answer a request have one name, so the order keeps
    theirs. -/
theorem Reorders.pairwise (h : i.Reorders order) (request provider : String) :
    (order.filter (holdsAt (·.correlates request provider) i.responses)).Pairwise (· < ·) := by
  have hname : ∀ {k}, holdsAt (·.correlates request provider) i.responses k = true →
      (i.responses[k]?).map (·.name) = some request := by
    intro k hk
    rw [holdsAt, Option.any_eq_true] at hk
    obtain ⟨q, hq, hcorrelates⟩ := hk
    rw [hq, Option.map_some, (Response.correlates_iff.1 hcorrelates).1]
  refine List.pairwise_filter.2 (h.stable.imp fun hstable hj hk => hstable ?_)
  rw [hname hj, hname hk]

theorem Reorders.candidates_eq (h : i.Reorders order) (request provider : String) :
    (i.reordered order).candidates request provider = i.candidates request provider :=
  filter_arranged h.positions (h.pairwise request provider)

/-- The response that is selected is the same one. -/
theorem Reorders.responseIndex?_eq (h : i.Reorders order) (provider : String) (r : Request) :
    ((i.reordered order).responseIndex? provider r).bind (order[·]?) =
      i.responseIndex? provider r :=
  findIdx?_arranged h.positions (h.pairwise r.name provider)

theorem Reorders.exchanges_eq (h : i.Reorders order) (provider : String) :
    (i.reordered order).exchanges provider = i.exchanges provider := by
  have hexchange : (i.reordered order).exchange provider = i.exchange provider := by
    funext r
    rw [exchange, exchange, h.candidates_eq]
  rw [exchanges, exchanges, hexchange]
  rfl

theorem Reorders.exchangeNotices_eq (h : i.Reorders order) (provider : String) :
    (i.reordered order).exchangeNotices provider = i.exchangeNotices provider := by
  have hnotices : (i.reordered order).requestNotices provider = i.requestNotices provider := by
    funext r
    rw [requestNotices, requestNotices, h.candidates_eq]
    rfl
  rw [exchangeNotices, exchangeNotices, hnotices]
  rfl

end Interface

/-! ## Further responses -/

/-- The exchange, for which the first of some further responses that can answer
    it is taken if it has none yet. -/
def Exchange.answeredBy (e : Exchange) (more : List Response) (provider : String) : Exchange :=
  { e with response := e.response.or (more.find? (·.Answers e.request provider)) }

namespace Interface

/-- The interface with further responses behind its own. -/
def followedBy (i : Interface) (more : List Response) : Interface :=
  { i with responses := i.responses ++ more }

/-- **What further responses change for a request.**  A response that was
    selected stays selected, and an absent one is the first of the further
    responses that can answer.  The number of responses that can answer grows by
    these, and the records are those for the new number; without any of them,
    or if the request does not take part, the records are the same. -/
structure Extends (i : Interface) (more : List Response) (provider : String) (r : Request) :
    Prop where
  exchange : (i.followedBy more).exchange provider r =
    (i.exchange provider r).answeredBy more provider
  position : ∀ k, i.responseIndex? provider r = some k →
    (i.followedBy more).responseIndex? provider r = some k
  count : (i.followedBy more).answerCount provider r =
    i.answerCount provider r + more.countP (·.Answers r provider)
  records : (i.followedBy more).Records provider r ((i.followedBy more).requestNotices provider r)
  quiet : r.provider ≠ some provider ∨ (∀ q ∈ more, ¬ q.Answers r provider) →
    (i.followedBy more).requestNotices provider r = i.requestNotices provider r

variable {i : Interface} {more : List Response} {provider : String} {r : Request}

theorem find?_correlates (more : List Response) (provider : String) (r : Request) :
    more.find? (·.correlates r.name provider) = more.find? (·.Answers r provider) := by
  congr 1
  funext q
  rw [Bool.eq_iff_iff, decide_eq_true_iff]
  exact Response.correlates_iff_answers

theorem exchange_followedBy (i : Interface) (more : List Response) (provider : String)
    (r : Request) :
    (i.followedBy more).exchange provider r = (i.exchange provider r).answeredBy more provider := by
  simp only [exchange, Exchange.answeredBy, candidates, followedBy, List.head?_filter,
    List.find?_append, find?_correlates]

theorem responseIndex?_followedBy {k : Nat} (h : i.responseIndex? provider r = some k) :
    (i.followedBy more).responseIndex? provider r = some k := by
  rw [responseIndex?] at h ⊢
  rw [followedBy, List.findIdx?_append, h, Option.some_or]

theorem answerCount_followedBy (i : Interface) (more : List Response) (provider : String)
    (r : Request) : (i.followedBy more).answerCount provider r =
      i.answerCount provider r + more.countP (·.Answers r provider) :=
  List.countP_append

/-- The records of a request tell the number of the responses that can answer
    it, and nothing else of them. -/
theorem requestNotices_congr {i' : Interface} (hname : i'.name = i.name)
    (hcount : r.provider = some provider → i'.answerCount provider r = i.answerCount provider r) :
    i'.requestNotices provider r = i.requestNotices provider r := by
  unfold requestNotices
  rw [length_candidates, length_candidates, hname]
  split_ifs with hr
  · rw [hcount (Request.takesPart_iff.1 hr)]
  · rfl

theorem followedBy_extends (i : Interface) (more : List Response) (provider : String)
    (r : Request) : i.Extends more provider r where
  exchange := exchange_followedBy i more provider r
  position _ h := responseIndex?_followedBy h
  count := answerCount_followedBy i more provider r
  records := requestNotices_records
  quiet h := by
    refine requestNotices_congr rfl fun hr => ?_
    have hnone : more.countP (·.Answers r provider) = 0 :=
      List.countP_eq_zero.2 (by simpa using h.resolve_left (not_not_intro hr))
    rw [answerCount_followedBy, hnone, Nat.add_zero]

/-! ## Both -/

/-- **The order of the responses decides between those of equal names only.**
    In an order that keeps these, the exchanges and the log are the same, and so
    is the response that is selected for any request.  Further responses keep
    the requests of the exchanges and of the log, and complete the exchanges:
    see `Extends`. -/
theorem exchanges_stable (i : Interface) (provider : String) :
    (∀ order, i.Reorders order →
      (i.reordered order).exchanges provider = i.exchanges provider ∧
      (i.reordered order).exchangeNotices provider = i.exchangeNotices provider ∧
      ∀ r, ((i.reordered order).responseIndex? provider r).bind (order[·]?) =
        i.responseIndex? provider r) ∧
    ∀ more,
      (i.followedBy more).exchanges provider =
        (i.exchanges provider).map (·.answeredBy more provider) ∧
      (i.followedBy more).exchangeNotices provider =
        i.requests.flatMap ((i.followedBy more).requestNotices provider) ∧
      ∀ r, i.Extends more provider r := by
  refine ⟨fun order h => ⟨h.exchanges_eq provider, h.exchangeNotices_eq provider,
    h.responseIndex?_eq provider⟩, fun more => ⟨?_, rfl, followedBy_extends i more provider⟩⟩
  rw [exchanges, exchanges, List.map_map]
  exact List.map_congr_left fun r _ => exchange_followedBy i more provider r

/-- Responses to two requests, in turns; one of them comes from a provider that
    does not answer. -/
def interleaved : Interface where
  name := "UI"
  requests := [
    { name := "Show", provider := some "sdl" }, { name := "Ask", provider := some "sdl" },
    { name := "Speak", provider := some "sdl" }]
  responses := [⟨"Show", some "hmi"⟩, ⟨"Ask", none⟩, ⟨"Show", none⟩, ⟨"Ask", some "sdl"⟩]

/-- The responses to `Ask` are put in front of those to `Show`, and one to
    `Speak` and another to `Show` are added. -/
theorem interleaved_stable :
    interleaved.Reorders [1, 3, 0, 2] ∧
      (interleaved.reordered [1, 3, 0, 2]).exchanges "sdl" = interleaved.exchanges "sdl" ∧
      (interleaved.followedBy [⟨"Speak", none⟩, ⟨"Show", none⟩]).exchanges "sdl" =
        [⟨{ name := "Show", provider := some "sdl" }, some ⟨"Show", none⟩⟩,
          ⟨{ name := "Ask", provider := some "sdl" }, some ⟨"Ask", none⟩⟩,
          ⟨{ name := "Speak", provider := some "sdl" }, some ⟨"Speak", none⟩⟩] ∧
      (interleaved.followedBy [⟨"Speak", none⟩, ⟨"Show", none⟩]).responseIndex? "sdl"
        { name := "Show", provider := some "sdl" } = some 2 ∧
      (interleaved.followedBy [⟨"Speak", none⟩, ⟨"Show", none⟩]).requestNotices "sdl"
          { name := "Ask", provider := some "sdl" } =
        [⟨.warn, "UI.Ask matches 2 responses; using the first one declared"⟩] := by
  have hreorders : interleaved.Reorders [1, 3, 0, 2] := ⟨by decide, by decide⟩
  obtain ⟨horders, hfurther⟩ := exchanges_stable interleaved "sdl"
  obtain ⟨hexchanges, -, hextends⟩ := hfurther [⟨"Speak", none⟩, ⟨"Show", none⟩]
  refine ⟨hreorders, (horders _ hreorders).1, hexchanges.trans rfl, ?_, ?_⟩
  · exact (hextends _).position 2 rfl
  · exact (hextends _).quiet (.inr (by decide))

end Interface

end CallerStubs
