/-
  Caller stubs — every request and every response is used at most once.

  A response that names no provider may answer for any of them.  It still
  answers one request only: it answers requests of its own name, and of each
  name an interface has one request, which names one provider.

  * `Interface.responseIndex?_eq_some_iff`: which response is selected;
  * `Interface.mem_exchanges`, `Interface.response_exchange`: the exchanges
    with a provider, and the responses in them;
  * `Interface.UsedOnce`, `build_usedOnce`: over all providers, a request is
    in one exchange and a response is selected for one.
-/
import CallerStubs.Exchange
import CallerStubs.Proofs.Api.Description

namespace CallerStubs

/-! ## Requests and responses of an exchange -/

theorem Request.takesPart_iff {r : Request} {provider : String} :
    r.takesPart provider = true ↔ r.provider = some provider :=
  beq_iff_eq

theorem Response.correlates_iff {q : Response} {request provider : String} :
    q.correlates request provider = true ↔
      q.name = request ∧ (q.provider = none ∨ q.provider = some provider) := by
  simp [correlates]

namespace Interface

variable {i : Interface} {provider : String} {r : Request} {e : Exchange} {k : Nat}

theorem mem_participants :
    r ∈ i.participants provider ↔ r ∈ i.requests ∧ r.provider = some provider := by
  rw [participants, List.mem_filter, Request.takesPart_iff]

/-- An exchange with a provider is that of a request which names it. -/
theorem mem_exchanges : e ∈ i.exchanges provider ↔
    ∃ r ∈ i.requests, r.provider = some provider ∧ e = i.exchange provider r := by
  simp only [exchanges, List.mem_map, mem_participants, and_assoc, eq_comm]

theorem map_request_exchanges :
    (i.exchanges provider).map (·.request) = i.participants provider := by
  rw [exchanges, List.map_map]
  exact List.map_id _

/-- **The response that is selected for a request** is the first one that can
    answer it. -/
theorem responseIndex?_eq_some_iff : i.responseIndex? provider r = some k ↔
    (∃ q, i.responses[k]? = some q ∧ q.correlates r.name provider = true) ∧
      ∀ j < k, ∀ q, i.responses[j]? = some q → q.correlates r.name provider = false := by
  rw [responseIndex?, List.findIdx?_eq_some_iff_getElem]
  constructor
  · rintro ⟨hk, hcorrelates, hbefore⟩
    refine ⟨⟨_, List.getElem?_eq_getElem hk, hcorrelates⟩, fun j hj q hq => ?_⟩
    obtain ⟨-, rfl⟩ := List.getElem?_eq_some_iff.1 hq
    simpa using hbefore j hj
  · rintro ⟨⟨q, hq, hcorrelates⟩, hbefore⟩
    obtain ⟨hk, rfl⟩ := List.getElem?_eq_some_iff.1 hq
    refine ⟨hk, hcorrelates, fun j hj => ?_⟩
    simpa using hbefore j hj _ (List.getElem?_eq_getElem (Nat.lt_trans hj hk))

/-- The response in an exchange stands at the position that is selected. -/
theorem response_exchange : (i.exchange provider r).response =
    (i.responseIndex? provider r).bind (i.responses[·]?) := by
  rw [exchange, candidates, List.head?_filter, responseIndex?]
  exact List.find?_eq_bind_findIdx?_getElem?

/-! ## Exclusive use -/

/-- **Every request and every response is used at most once**, over the
    exchanges with all providers. -/
structure UsedOnce (i : Interface) : Prop where
  /-- A request is known by its name. -/
  distinct : (i.requests.map (·.name)).Nodup
  /-- A request is in one exchange with the provider that it names, and in none
      with others. -/
  requests : ∀ r ∈ i.requests, ∀ provider,
    ((i.exchanges provider).map (·.request)).count r = if r.provider = some provider then 1 else 0
  /-- An exchange is one of a request of the interface with the response at the
      position that is selected. -/
  members : ∀ provider, ∀ e ∈ i.exchanges provider, e.request ∈ i.requests ∧
    e.response = (i.responseIndex? provider e.request).bind (i.responses[·]?)
  /-- The response at one position is selected in one exchange. -/
  responses : ∀ p q, ∀ e ∈ i.exchanges p, ∀ f ∈ i.exchanges q, ∀ k,
    i.responseIndex? p e.request = some k → i.responseIndex? q f.request = some k →
      p = q ∧ e = f

/-- Requests for which the same response is selected have the same name. -/
theorem name_eq_of_responseIndex? {p q : String} {r r' : Request}
    (h : i.responseIndex? p r = some k) (h' : i.responseIndex? q r' = some k) :
    r.name = r'.name := by
  obtain ⟨⟨a, ha, hr⟩, -⟩ := responseIndex?_eq_some_iff.1 h
  obtain ⟨⟨b, hb, hr'⟩, -⟩ := responseIndex?_eq_some_iff.1 h'
  cases ha.symm.trans hb
  exact (Response.correlates_iff.1 hr).1.symm.trans (Response.correlates_iff.1 hr').1

/-- Distinct names of requests are all that it takes. -/
theorem usedOnce_of_nodup (h : (i.requests.map (·.name)).Nodup) : i.UsedOnce where
  distinct := h
  requests r hr provider := by
    have hnodup : (i.participants provider).Nodup := h.of_map.filter _
    rw [map_request_exchanges, hnodup.count]
    simp only [mem_participants, hr, true_and]
  members provider e he := by
    obtain ⟨r, hr, -, rfl⟩ := mem_exchanges.1 he
    exact ⟨hr, response_exchange⟩
  responses p q e he f hf k hk hk' := by
    obtain ⟨r, hr, hp, rfl⟩ := mem_exchanges.1 he
    obtain ⟨r', hr', hq, rfl⟩ := mem_exchanges.1 hf
    obtain rfl : r = r' := List.inj_on_of_nodup_map h hr hr' (name_eq_of_responseIndex? hk hk')
    -- the request names one provider
    obtain rfl : p = q := Option.some.inj (hp.symm.trans hq)
    exact ⟨rfl, rfl⟩

end Interface

/-- **Every request and every response of a service is used at most once**,
    over the exchanges with all providers. -/
theorem build_usedOnce {d : Document} {api : Api} (h : Api.build d = .ok api) :
    ∀ i ∈ api.interfaces, i.UsedOnce := by
  intro i hi
  obtain ⟨e, -, he⟩ := forall₂_mem_right (Api.build_eq_ok_iff.1 h).interfaces i hi
  exact Interface.usedOnce_of_nodup he.distinct

/-- Requests for two providers and for none, and responses that may come from
    anyone, some of them repeated. -/
def sharedResponses : Document where
  interfaces := [
    { name := some "UI"
      items := [
        .request { name := some "Show", provider := some "sdl" },
        .request { name := some "Ask", provider := some "hmi" },
        .request { name := some "Speak" },
        .response { name := some "Ask", provider := some "sdl" },
        .response { name := some "Ask" },
        .response { name := some "Show" },
        .response { name := some "Show", provider := some "sdl" },
        .response { name := some "Speak" }] }]

/-- The response to `Ask` that comes from anyone is selected for `hmi`, and
    hence in no exchange with another provider. -/
theorem sharedResponses_usedOnce :
    ∃ api, Api.build sharedResponses = .ok api ∧ ∃ i ∈ api.interfaces,
      ∃ e ∈ i.exchanges "hmi", i.responseIndex? "hmi" e.request = some 1 ∧
        e.response = some ⟨"Ask", none⟩ ∧
        ∀ provider, ∀ f ∈ i.exchanges provider, i.responseIndex? provider f.request = some 1 →
          "hmi" = provider ∧ e = f := by
  have h : Api.build sharedResponses = .ok _ := rfl
  have hi := build_usedOnce h _ (List.mem_cons_self ..)
  refine ⟨_, h, _, List.mem_cons_self .., _, List.mem_cons_self .., rfl, ?_, ?_⟩
  · exact (hi.members "hmi" _ (List.mem_cons_self ..)).2
  · exact fun provider f hf hk => hi.responses "hmi" provider _ (List.mem_cons_self ..) f hf 1 rfl hk

end CallerStubs
