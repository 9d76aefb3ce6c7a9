/-
  Caller stubs — the names that a definition introduces.

  A definition introduces the names of its parameters, and some of its own:
  those of the callback, of the list of arguments, and of an envelope for each
  parameter that may be left out.  The document only says that the parameters
  have different names; a parameter may have one of the other names.

  * `ownNames`, `ownNames_nodup`: the names that a definition makes up;
  * `Definition.Hygiene`: what holds of the names of every definition;
  * `ofDocument_hygiene`: that is so for every method that is generated.
-/
import CallerStubs.Proofs.Generation.Definition
import CallerStubs.Proofs.Generation.Methods

namespace CallerStubs

variable {params : List Param} {t : StubTarget} {provider owner : String}
  {r : Request} {i : Interface}

/-! ## The names of a definition -/

/-- Parameters of different names have different envelopes. -/
theorem envelopes_nodup (h : (params.map (·.name)).Nodup) :
    ((optionals params).map fun p => "o_" ++ p.name).Nodup := by
  have hnames : ((optionals params).map (·.name)).Nodup := h.sublist (List.filter_sublist.map _)
  rw [List.nodup_map_iff_inj_on hnames.of_map]
  intro p hp q hq henvelope
  have hname : p.name = q.name := by simpa [← String.toList_inj] using henvelope
  exact List.inj_on_of_nodup_map hnames hp hq hname

/-- The names that a definition with these parameters makes up: the callback,
    the list of arguments, and the envelopes of what may be left out. -/
def ownNames (params : List Param) : List String :=
  "hmi_callback" :: "args" :: (optionals params).map fun p => "o_" ++ p.name

/-- The names that a definition makes up are different from each other. -/
theorem ownNames_nodup (h : (params.map (·.name)).Nodup) : (ownNames params).Nodup := by
  have hcallback : "hmi_callback" ∉ "args" :: (optionals params).map fun p => "o_" ++ p.name := by
    simp [← String.toList_inj]
  have hargs : "args" ∉ (optionals params).map fun p => "o_" ++ p.name := by
    simp [← String.toList_inj]
  exact List.nodup_cons.2 ⟨hcallback, List.nodup_cons.2 ⟨hargs, envelopes_nodup h⟩⟩

/-- **The names of a definition** with these parameters, which passes `proxy`
    to its dispatcher.  The names of the parameters differ from each other, and
    so do the names that are made up; all introduced names differ iff no
    parameter has a name that is made up. -/
structure Definition.Hygiene (f : Definition) (params : List Param) (proxy : String) : Prop where
  introduced_eq : f.introduced = params.map (·.name) ++ ownNames params
  proxies_eq : f.dispatches.map (·.proxy) = [proxy]
  params_nodup : (params.map (·.name)).Nodup
  ownNames_nodup : (ownNames params).Nodup
  nodup_iff : f.introduced.Nodup ↔ ∀ name ∈ ownNames params, name ∉ params.map (·.name)
  /-- The proxy is shadowed iff a parameter or a name that is made up is like
      it. -/
  proxy_mem_iff : proxy ∈ f.introduced ↔ proxy ∈ params.map (·.name) ∨ proxy ∈ ownNames params

theorem StubTarget.definitionOf_hygiene (t : StubTarget) (owner : String)
    (h : (r.params.map (·.name)).Nodup) :
    (t.definitionOf owner r).Hygiene r.params owner := by
  have hintroduced : (t.definitionOf owner r).introduced =
      r.params.map (·.name) ++ ownNames r.params := t.introduced_definitionOf owner r
  have hown := CallerStubs.ownNames_nodup h
  refine ⟨hintroduced, ?_, h, hown, ?_, ?_⟩
  · rw [(t.definitionOf_dispatchesTo owner r).once]
    rfl
  · rw [hintroduced, List.nodup_append', List.disjoint_comm]
    simp only [h, hown, true_and, List.disjoint_left]
  · rw [hintroduced, List.mem_append]

/-! ## Generations -/

/-- The method has the text of the definition for a request, with the names of
    such a definition, and ends with the dispatch of the request. -/
structure Request.HygienicMethod (t : StubTarget) (owner : String) (r : Request) (x : Stub) :
    Prop where
  request : x.request = r.name
  definedBy : x.DefinedBy (t.definitionOf owner r)
  hygiene : (t.definitionOf owner r).Hygiene r.params owner
  dispatchesTo : (t.definitionOf owner r).DispatchesTo (t.callOf owner r.name)

/-- The methods of a group are those for the requests that a provider answers,
    with the names of their definitions. -/
structure Interface.HygienicMethods (t : StubTarget) (provider : String) (i : Interface)
    (a : StubGroup) : Prop where
  name : a.name = i.name
  stubs : List.Forall₂ (Request.HygienicMethod t i.name) (i.participants provider) a.stubs

theorem Request.MadeInto.hygienicMethod {x : Stub} (hx : r.MadeInto t owner x)
    (h : (r.params.map (·.name)).Nodup) : r.HygienicMethod t owner x where
  request := hx.request
  definedBy := hx.definedBy
  hygiene := t.definitionOf_hygiene owner h
  dispatchesTo := t.definitionOf_dispatchesTo owner r

theorem Interface.MadeInto.hygienicMethods {a : StubGroup} (ha : i.MadeInto t provider a)
    (h : ∀ r ∈ i.requests, (r.params.map (·.name)).Nodup) : i.HygienicMethods t provider a where
  name := ha.name
  stubs := by
    have hparticipants : ∀ r ∈ i.participants provider, (r.params.map (·.name)).Nodup :=
      fun r hr => h r (List.mem_of_mem_filter hr)
    refine ((List.forall₂_and_left _ _).2 ⟨hparticipants, ha.stubs⟩).imp ?_
    rintro r x ⟨hnodup, hx⟩
    exact hx.hygienicMethod hnodup

variable {d : Document} {api : Api}

/-- The parameters of a request have different names. -/
theorem Document.Describes.params_nodup (h : d.Describes api) :
    ∀ i ∈ api.interfaces, ∀ r ∈ i.requests, (r.params.map (·.name)).Nodup := by
  intro i hi r hr
  obtain ⟨e, -, he⟩ := forall₂_mem_right h.interfaces i hi
  obtain ⟨f, -, hf⟩ := forall₂_mem_right he.requests r hr
  exact hf.distinct

/-- **The names of every generated definition.** -/
theorem ofDocument_hygiene {s : Settings} {g : Generation}
    (h : Generation.ofDocument d s = .ok g) :
    ∃ api, Api.build d = .ok api ∧
      List.Forall₂ (Interface.HygienicMethods s.target s.provider) api.interfaces g.groups := by
  obtain ⟨-, api, hapi, rfl⟩ := Generation.ofDocument_eq_ok_iff.1 h
  refine ⟨api, Api.build_eq_ok_iff.2 hapi, ?_⟩
  have hmade := api.madeInto_stubGroups s
  refine ((List.forall₂_and_left _ _).2 ⟨hapi.params_nodup, hmade⟩).imp ?_
  rintro i a ⟨hnodup, ha⟩
  exact ha.hygienicMethods hnodup

/-- A method whose parameters keep away from the names that are made up. -/
theorem mixedProviders_hygiene :
    ∃ g, Generation.ofDocument mixedProviders (.initial "hmi.xml" "out") = .ok g ∧
      ∃ a ∈ g.groups, ∃ x ∈ a.stubs, ∃ f, x.DefinedBy f ∧
        f.introduced = ["length", "text", "hmi_callback", "args", "o_text"] ∧
        f.introduced.Nodup ∧ a.name ∉ f.introduced := by
  have h : Generation.ofDocument mixedProviders (.initial "hmi.xml" "out") =
      .ok (.ofApi (.initial "hmi.xml" "out") mixedProvidersApi) := rfl
  obtain ⟨api, hapi, hmethods⟩ := ofDocument_hygiene h
  cases hapi.symm.trans (show Api.build mixedProviders = .ok mixedProvidersApi from rfl)
  obtain ⟨a, ha, hname, hstubs⟩ := forall₂_mem_left hmethods _ (List.mem_cons_self ..)
  obtain ⟨x, hx, hmethod⟩ := forall₂_mem_left hstubs _ (List.mem_cons_self ..)
  have hnames := hmethod.hygiene
  refine ⟨_, h, a, ha, x, hx, _, hmethod.definedBy, hnames.introduced_eq, ?_, ?_⟩
  · exact hnames.nodup_iff.2 (by decide)
  · rw [hname, hnames.proxy_mem_iff]
    decide

/-- A request with a parameter that is named like the list of arguments, and
    one with a parameter that is named like its interface. -/
def shadowingParams : Document where
  interfaces := [
    { name := some "UI"
      items := [
        .request {
          name := some "Show", provider := some "sdl"
          params := [{ name := some "args", type := some "Integer" }] },
        .request {
          name := some "Hide", provider := some "sdl"
          params := [{ name := some "UI", type := some "Integer" }] }] }]

/-- A parameter can have the name of the list of arguments, and can hide the
    proxy of its interface. -/
theorem shadowingParams_shadow :
    ∃ g a x y f f', Generation.ofDocument shadowingParams (.initial "hmi.xml" "out") = .ok g ∧
      g.groups = [a] ∧ a.stubs = [x, y] ∧ x.DefinedBy f ∧ y.DefinedBy f' ∧
      ¬ f.introduced.Nodup ∧ a.name ∈ f'.introduced := by
  refine ⟨_, _, _, _, _, _, rfl, rfl, rfl, StubTarget.stub_definedBy _ _ _,
    StubTarget.stub_definedBy _ _ _, ?_, ?_⟩
  · rw [StubTarget.introduced_definitionOf]
    decide
  · rw [StubTarget.introduced_definitionOf]
    decide

end CallerStubs
