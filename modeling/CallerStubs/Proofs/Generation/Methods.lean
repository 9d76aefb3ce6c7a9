/-
  Caller stubs — the methods of a generation are the requests of its document.

  A request passes from an item of the document through the service and the
  exchanges to a method.  No step loses, repeats or moves one: at each step
  the lists correspond member by member, and the provider selects the same
  members before and after it.

  * `FunctionElement.ServedBy`, `InterfaceElement.ServedBy`: the method for a
    request, and the methods of an interface;
  * `Document.requestsOf`: the requests that a provider answers;
  * `InterfaceElement.Describes.participants`: the provider selects the same
    requests in an element and in the interface that it describes;
  * `Generation.Serves`, `ofDocument_serves`: the methods that are made.
-/
import CallerStubs.Generation
import CallerStubs.Proofs.Api.Description

namespace CallerStubs

/-! ## The requests of a provider -/

/-- The requests of an interface that a provider answers, in document order. -/
def InterfaceElement.requestsOf (provider : String) (e : InterfaceElement) :
    List FunctionElement :=
  e.requestElements.filter (·.provider = some provider)

/-- The requests of a document that a provider answers, in its order. -/
def Document.requestsOf (provider : String) (d : Document) : List FunctionElement :=
  d.interfaces.flatMap (·.requestsOf provider)

theorem Document.requestsOf_eq_filter (d : Document) (provider : String) :
    d.requestsOf provider = d.requestElements.filter (·.provider = some provider) := by
  simp only [requestsOf, InterfaceElement.requestsOf, requestElements, List.filter_flatMap]

/-! ## Methods -/

/-- **The method for a request** that an element of the interface `owner`
    asks for: it sends this request, and has a parameter for each of the
    element's, besides the callback. -/
structure FunctionElement.ServedBy (owner : String) (e : FunctionElement) (s : Stub) : Prop where
  request : e.name = some s.request
  signature : s.signature.name = owner ++ "_" ++ s.request
  params : e.params.map (·.name) = s.signature.params.map fun q => some q.name

/-- **The methods of an interface**: one for each request that the provider
    answers, in document order. -/
structure InterfaceElement.ServedBy (provider : String) (e : InterfaceElement) (g : StubGroup) :
    Prop where
  name : e.name = some g.name
  stubs : List.Forall₂ (FunctionElement.ServedBy g.name) (e.requestsOf provider) g.stubs

variable {d : Document} {owner provider : String}

theorem FunctionElement.DescribesRequest.servedBy {e : FunctionElement} {r : Request}
    (h : e.DescribesRequest d owner r) (t : StubTarget) (response : Option Response) :
    e.ServedBy owner (t.stub owner ⟨r, response⟩) where
  request := h.name
  signature := rfl
  params := by
    simp only [StubTarget.stub, Signature.ofRequest, List.map_map]
    exact map_eq_map_of_forall₂ (fun _ _ hp => hp.name) h.params

theorem FunctionElement.DescribesRequest.takesPart_iff {e : FunctionElement} {r : Request}
    (h : e.DescribesRequest d owner r) :
    e.provider = some provider ↔ r.takesPart provider = true := by
  rw [Request.takesPart, beq_iff_eq, h.provider]

/-- The provider selects the same requests before and after the element has
    been read. -/
theorem InterfaceElement.Describes.participants {e : InterfaceElement} {i : Interface}
    (h : e.Describes d i) :
    List.Forall₂ (FunctionElement.DescribesRequest d i.name) (e.requestsOf provider)
      (i.participants provider) := by
  -- the provider looks at the element on one side and at the request on the other
  refine List.rel_filter (fun f r hr => ?_) h.requests
  exact decide_eq_true_iff.trans hr.takesPart_iff

theorem InterfaceElement.Describes.servedBy {e : InterfaceElement} {i : Interface}
    (h : e.Describes d i) (t : StubTarget) (provider : String) :
    e.ServedBy provider (i.stubs t provider) where
  name := h.name
  stubs := by
    simp only [Interface.stubs, Interface.exchanges, List.map_map, List.forall₂_map_right_iff]
    exact h.participants.imp fun f r hr => hr.servedBy t _

theorem Api.map_name_stubGroups (api : Api) (s : Settings) :
    (api.stubGroups s).map (·.name) = api.interfaces.map (·.name) := by
  rw [stubGroups, List.map_map]
  rfl

/-! ## Counts -/

theorem requestCount_eq_of_servedBy {g : Generation}
    (h : List.Forall₂ (InterfaceElement.ServedBy provider) d.interfaces g.groups) :
    g.requestCount = (d.requestsOf provider).length :=
  (length_flatMap_eq (fun _ _ hg => hg.stubs.length_eq) h).symm

theorem Document.Describes.requestCount_eq {api : Api} (h : d.Describes api) :
    api.requestCount = d.requestElements.length :=
  (length_flatMap_eq (fun _ _ hi => hi.requests.length_eq) h.interfaces).symm

/-! ## Generations -/

/-- A generation is made iff nothing is wrong with the settings and the
    document describes a service. -/
theorem Generation.ofDocument_eq_ok_iff {s : Settings} {g : Generation} :
    Generation.ofDocument d s = .ok g ↔
      s.check = .ok () ∧ ∃ api, d.Describes api ∧ g = Generation.ofApi s api := by
  simp only [ofDocument, bind_eq_ok_iff, mapError_eq_ok_iff, Api.build_eq_ok_iff,
    Except.ok.injEq]
  constructor
  · rintro ⟨⟨⟩, hs, api, hapi, rfl⟩
    exact ⟨hs, api, hapi, rfl⟩
  · rintro ⟨hs, api, hapi, rfl⟩
    exact ⟨(), hs, api, hapi, rfl⟩

/-- **The methods of a generation** are those for the requests of the document
    that the provider answers.  They are at most as many as the requests of
    the service, and as many iff the provider answers them all. -/
structure Generation.Serves (g : Generation) (d : Document) (provider : String) (api : Api) :
    Prop where
  groups : List.Forall₂ (InterfaceElement.ServedBy provider) d.interfaces g.groups
  count : g.requestCount = (d.requestsOf provider).length
  count_le : g.requestCount ≤ api.requestCount
  count_eq_iff : g.requestCount = api.requestCount ↔
    ∀ e ∈ d.requestElements, e.provider = some provider

theorem Document.Describes.serves {api : Api} (h : d.Describes api) (s : Settings) :
    (Generation.ofApi s api).Serves d s.provider api := by
  have hgroups : List.Forall₂ (InterfaceElement.ServedBy s.provider) d.interfaces
      (api.stubGroups s) := by
    rw [Api.stubGroups, List.forall₂_map_right_iff]
    exact h.interfaces.imp fun e i hi => hi.servedBy s.target s.provider
  have hcount : (Generation.ofApi s api).requestCount = (d.requestsOf s.provider).length :=
    requestCount_eq_of_servedBy hgroups
  refine ⟨hgroups, hcount, ?_, ?_⟩
  · rw [hcount, h.requestCount_eq, d.requestsOf_eq_filter]
    exact List.length_filter_le ..
  · rw [hcount, h.requestCount_eq, d.requestsOf_eq_filter, List.length_filter_eq_length_iff]
    simp only [decide_eq_true_eq]

/-- **Nothing is lost, repeated or moved between a document and the methods
    that are made from it.** -/
theorem ofDocument_serves {s : Settings} {g : Generation}
    (h : Generation.ofDocument d s = .ok g) :
    ∃ api, Api.build d = .ok api ∧ g.Serves d s.provider api := by
  obtain ⟨-, api, hapi, rfl⟩ := Generation.ofDocument_eq_ok_iff.1 h
  exact ⟨api, Api.build_eq_ok_iff.2 hapi, hapi.serves s⟩

/-- Requests in both forms, for several providers or for none, and an
    interface without a request for the default one. -/
def mixedProviders : Document where
  interfaces := [
    { name := some "UI"
      items := [
        .function {
          name := some "Show", messageType := some "request", provider := some "sdl"
          params := [
            { name := some "length", type := some "Integer" },
            { name := some "text", type := some "String", mandatory := some "false" }] },
        .request { name := some "Ask", provider := some "hmi" },
        .response { name := some "Show", provider := some "sdl" },
        .request { name := some "Hide", provider := some "sdl" }] },
    { name := some "TTS"
      items := [.request { name := some "Speak" }] }]

/-- The service that `mixedProviders` describes. -/
def mixedProvidersApi : Api where
  interfaces := [
    { name := "UI"
      requests := [
        { name := "Show", provider := some "sdl"
          params := [
            { name := "length", kind := .integer },
            { name := "text", kind := .string, mandatory := false }] },
        { name := "Ask", provider := some "hmi" },
        { name := "Hide", provider := some "sdl" }]
      responses := [{ name := "Show", provider := some "sdl" }] },
    { name := "TTS", requests := [{ name := "Speak" }] }]

theorem mixedProviders_served :
    ∃ g, Generation.ofDocument mixedProviders (.initial "hmi.xml" "out") = .ok g ∧
      ∃ api, Api.build mixedProviders = .ok api ∧ g.Serves mixedProviders "sdl" api := by
  have h : Generation.ofDocument mixedProviders (.initial "hmi.xml" "out") =
      .ok (.ofApi (.initial "hmi.xml" "out") mixedProvidersApi) := rfl
  exact ⟨_, h, ofDocument_serves h⟩

end CallerStubs
