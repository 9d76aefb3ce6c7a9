/-
  Caller stubs — which response is selected, and what the log says of it.

  The names of requests and responses may repeat here.  A response is selected
  by its position: it is the first of those that can answer the request.  The
  log has a record wherever the selection is not what one would expect.

  * `Response.Answers`, `Interface.answerPositions`, `Interface.answerCount`:
    the responses that can answer a request;
  * `Interface.Selects`: the exchange of a request;
  * `Interface.Records`: the records of a request;
  * `Interface.exchanges_selected`: the exchanges and the log of an interface.
-/
import CallerStubs.Proofs.Exchange
import Mathlib.Order.Bounds.Defs

namespace CallerStubs

/-! ## Responses that can answer a request -/

/-- The response can be the provider's answer to the request: it has the
    request's name, and names this provider or none. -/
def Response.Answers (q : Response) (r : Request) (provider : String) : Prop :=
  q.name = r.name ∧ (q.provider = none ∨ q.provider = some provider)

instance (q : Response) (r : Request) (provider : String) : Decidable (q.Answers r provider) :=
  inferInstanceAs (Decidable (_ ∧ _))

theorem Response.correlates_iff_answers {q : Response} {r : Request} {provider : String} :
    q.correlates r.name provider = true ↔ q.Answers r provider :=
  correlates_iff

namespace Interface

/-- The positions of the responses that can answer a request. -/
def answerPositions (i : Interface) (provider : String) (r : Request) : Set Nat :=
  {k | ∃ q, i.responses[k]? = some q ∧ q.Answers r provider}

/-- The number of responses that can answer a request. -/
def answerCount (i : Interface) (provider : String) (r : Request) : Nat :=
  i.responses.countP (·.Answers r provider)

variable {i : Interface} {provider : String} {r : Request}

theorem length_candidates :
    (i.candidates r.name provider).length = i.answerCount provider r := by
  rw [answerCount, List.countP_eq_length_filter, candidates]
  congr 1
  refine List.filter_congr fun q _ => ?_
  rw [Bool.eq_iff_iff, decide_eq_true_iff]
  exact Response.correlates_iff_answers

/-! ## Selection -/

/-- **The exchange of a request with a provider.**  Its response stands at the
    least position of those that can answer the request, and is absent if there
    is none. -/
structure Selects (i : Interface) (provider : String) (r : Request) (e : Exchange) : Prop where
  request : e.request = r
  position : ∀ k, i.responseIndex? provider e.request = some k ↔
    IsLeast (i.answerPositions provider r) k
  response : ∀ q, e.response = some q ↔
    ∃ k, IsLeast (i.answerPositions provider r) k ∧ i.responses[k]? = some q
  absent : e.response = none ↔ ∀ q ∈ i.responses, ¬ q.Answers r provider

theorem responseIndex?_eq_some_iff_isLeast {k : Nat} :
    i.responseIndex? provider r = some k ↔ IsLeast (i.answerPositions provider r) k := by
  rw [responseIndex?_eq_some_iff]
  constructor
  · rintro ⟨⟨q, hq, hanswers⟩, hbefore⟩
    refine ⟨⟨q, hq, Response.correlates_iff_answers.1 hanswers⟩, ?_⟩
    rintro j ⟨q', hq', hanswers'⟩
    by_contra hlt
    have hfalse := hbefore j (Nat.lt_of_not_le hlt) q' hq'
    rw [Response.correlates_iff_answers.2 hanswers'] at hfalse
    exact Bool.noConfusion hfalse
  · rintro ⟨⟨q, hq, hanswers⟩, hleast⟩
    refine ⟨⟨q, hq, Response.correlates_iff_answers.2 hanswers⟩, fun j hj q' hq' => ?_⟩
    by_contra htrue
    rw [Bool.not_eq_false, Response.correlates_iff_answers] at htrue
    exact absurd (hleast ⟨q', hq', htrue⟩) (Nat.not_le_of_lt hj)

theorem response_eq_none_iff :
    (i.exchange provider r).response = none ↔ ∀ q ∈ i.responses, ¬ q.Answers r provider := by
  rw [exchange, candidates, List.head?_eq_none_iff, List.filter_eq_nil_iff]
  simp only [Response.correlates_iff_answers]

theorem exchange_selects : i.Selects provider r (i.exchange provider r) where
  request := rfl
  position _ := responseIndex?_eq_some_iff_isLeast
  response q := by
    rw [response_exchange, Option.bind_eq_some_iff]
    simp only [responseIndex?_eq_some_iff_isLeast]
  absent := response_eq_none_iff

/-! ## Records -/

/-- **The records of a request**: one if another provider answers it, or none
    does; one if there is no response for it; and one that tells how many
    responses there are, if there are several. -/
inductive Records (i : Interface) (provider : String) (r : Request) : List Notice → Prop
  | skipped : r.provider ≠ some provider → Records i provider r
      [⟨.debug, "Skipping " ++ i.name ++ "." ++ r.name ++ ": provider " ++
        Text.quotedOption r.provider ++ " is not '" ++ provider ++ "'"⟩]
  | unanswered : r.provider = some provider → i.answerCount provider r = 0 →
      Records i provider r [⟨.debug, i.name ++ "." ++ r.name ++ " has no response"⟩]
  | answered : r.provider = some provider → i.answerCount provider r = 1 →
      Records i provider r []
  | ambiguous {n} : r.provider = some provider → i.answerCount provider r = n → 2 ≤ n →
      Records i provider r [⟨.warn, i.name ++ "." ++ r.name ++ " matches " ++ toString n ++
        " responses; using the first one declared"⟩]

theorem requestNotices_records : i.Records provider r (i.requestNotices provider r) := by
  unfold requestNotices
  rw [length_candidates]
  by_cases hr : r.takesPart provider = true
  · have hprovider := Request.takesPart_iff.1 hr
    rw [if_pos hr]
    split
    case h_1 hcount => exact .unanswered hprovider hcount
    case h_2 hcount => exact .answered hprovider hcount
    case h_3 hzero hone =>
      have hseveral : 2 ≤ i.answerCount provider r := by
        have hne : i.answerCount provider r ≠ 0 := hzero
        have hne' : i.answerCount provider r ≠ 1 := hone
        omega
      exact .ambiguous hprovider rfl hseveral
  · rw [if_neg hr]
    exact .skipped fun hprovider => hr (Request.takesPart_iff.2 hprovider)

/-! ## Interfaces -/

/-- **The exchanges and the log of an interface.**  There is one exchange for
    each request that names the provider, and the records of all requests stand
    one after the other. -/
structure SelectsAll (i : Interface) (provider : String) (es : List Exchange)
    (notices : List Notice) : Prop where
  exchanges : List.Forall₂ (i.Selects provider) (i.requests.filter (·.provider = some provider)) es
  notices : ∃ records, List.Forall₂ (i.Records provider) i.requests records ∧
    notices = records.flatten

/-- **What every interface exchanges with a provider.** -/
theorem exchanges_selected (i : Interface) (provider : String) :
    i.SelectsAll provider (i.exchanges provider) (i.exchangeNotices provider) where
  exchanges := by
    have hparticipants : i.requests.filter (·.provider = some provider) =
        i.participants provider := by
      refine List.filter_congr fun r _ => ?_
      rw [Bool.eq_iff_iff, decide_eq_true_iff]
      exact Request.takesPart_iff.symm
    rw [hparticipants, exchanges, List.forall₂_map_right_iff, List.forall₂_same]
    exact fun r _ => exchange_selects
  notices := by
    refine ⟨i.requests.map (i.requestNotices provider), ?_, ?_⟩
    · rw [List.forall₂_map_right_iff, List.forall₂_same]
      exact fun r _ => requestNotices_records
    · rw [exchangeNotices, List.flatMap_def]

end Interface

end CallerStubs
