/-
  Caller stubs — when two generated names are the same.

  A generated name joins two names by an underscore: those of an interface and
  of a request, or the two segments of the path of a structure.  The names may
  have underscores of their own, so that a joined name can be read in several
  ways: `A_B_C` is the request `B_C` of `A`, and the request `C` of `A_B`.

  * `Recut`, `joined_eq_iff`: pairs of names that are joined to the same name;
  * `Stub.DispatchesTo`: the dispatch of a method;
  * `Api.UsesStruct`: the structures of the parameters of a service;
  * `Generation.Named`, `ofDocument_named`: which generated names are the same.
-/
import CallerStubs.Proofs.Api.Types
import CallerStubs.Proofs.Generation.Definition
import CallerStubs.Proofs.Generation.Methods

namespace CallerStubs

/-! ## Joined names -/

section

variable {i r j q : String}

/-- The joined name of the first pair is read as the second pair by a cut at a
    later underscore. -/
def Recut (i r j q : String) : Prop :=
  ∃ m, j = i ++ "_" ++ m ∧ r = m ++ "_" ++ q

theorem Recut.underscore_mem (h : Recut i r j q) : '_' ∈ j.toList := by
  obtain ⟨m, rfl, -⟩ := h
  simp

theorem Recut.ne (h : Recut i r j q) : i ≠ j := by
  obtain ⟨m, rfl, -⟩ := h
  intro heq
  have hlength := congrArg (·.toList.length) heq
  simp at hlength

theorem Recut.joined_eq (h : Recut i r j q) : i ++ "_" ++ r = j ++ "_" ++ q := by
  obtain ⟨m, rfl, rfl⟩ := h
  simp only [String.append_assoc]

/-- What the first name of the second pair has more than that of the first
    pair is empty, or starts with the underscore of the first pair. -/
theorem eq_or_recut {cs : List Char} (hj : j.toList = i.toList ++ cs)
    (hr : '_' :: r.toList = cs ++ '_' :: q.toList) : (i = j ∧ r = q) ∨ Recut i r j q := by
  cases cs with
  | nil =>
    left
    constructor
    · exact String.toList_inj.1 (by simpa using hj.symm)
    · exact String.toList_inj.1 (List.cons.inj hr).2
  | cons c cs =>
    right
    rw [List.cons_append, List.cons.injEq] at hr
    obtain ⟨rfl, hr⟩ := hr
    refine ⟨String.ofList cs, ?_, ?_⟩
    · simp [← String.toList_inj, hj]
    · simp [← String.toList_inj, hr]

/-- **Two pairs are joined to the same name** iff they are the same, or one is
    the other with the cut at another underscore. -/
theorem joined_eq_iff :
    i ++ "_" ++ r = j ++ "_" ++ q ↔ (i = j ∧ r = q) ∨ Recut i r j q ∨ Recut j q i r := by
  constructor
  · intro h
    have hchars : i.toList ++ '_' :: r.toList = j.toList ++ '_' :: q.toList := by
      simpa [← String.toList_inj] using h
    rcases List.append_eq_append_iff.1 hchars with ⟨cs, hj, hr⟩ | ⟨cs, hi, hq⟩
    · exact (eq_or_recut hj hr).imp_right .inl
    · rcases eq_or_recut hi hq with ⟨rfl, rfl⟩ | hcut
      · exact .inl ⟨rfl, rfl⟩
      · exact .inr (.inr hcut)
  · rintro (⟨rfl, rfl⟩ | h | h)
    · rfl
    · exact h.joined_eq
    · exact h.joined_eq.symm

/-- Without underscores in the first names, a joined name is read in one way. -/
theorem joined_inj (hi : '_' ∉ i.toList) (hj : '_' ∉ j.toList)
    (h : i ++ "_" ++ r = j ++ "_" ++ q) : i = j ∧ r = q := by
  rcases joined_eq_iff.1 h with heq | hcut | hcut
  · exact heq
  · exact absurd hcut.underscore_mem hj
  · exact absurd hcut.underscore_mem hi

end

/-! ## Dispatcher classes -/

/-- The method makes one dispatch, and ends with it. -/
def Stub.DispatchesTo (x : Stub) (call : DispatchCall) : Prop :=
  ∃ f, x.DefinedBy f ∧ f.DispatchesTo call

theorem StubTarget.dispatcherClass_eq_iff {t : StubTarget} {i r j q : String} :
    t.dispatcherClass i r = t.dispatcherClass j q ↔ i ++ "_" ++ r = j ++ "_" ++ q := by
  simp [dispatcherClass, ← String.toList_inj]

/-! ## The methods of a service -/

variable {d : Document} {api : Api} {s : Settings} {t : StubTarget} {provider owner : String}
  {i : Interface} {a : StubGroup} {r : Request} {x : Stub}

theorem Request.MadeInto.dispatchesTo (h : r.MadeInto t owner x) :
    x.DispatchesTo (t.callOf owner x.request) := by
  rw [h.request]
  exact ⟨_, h.definedBy, t.definitionOf_dispatchesTo owner r⟩

theorem Request.MadeInto.signature_name (h : r.MadeInto t owner x) :
    x.signature.name = owner ++ "_" ++ x.request := by
  rw [h.request]
  exact h.definedBy.name

/-- A method has its name from the interface of its group and from its
    request, and dispatches to the class of this name. -/
theorem Interface.MadeInto.names (h : i.MadeInto t provider a) :
    ∀ x ∈ a.stubs, x.signature.name = a.name ++ "_" ++ x.request ∧
      x.DispatchesTo (t.callOf a.name x.request) := by
  intro x hx
  obtain ⟨r, -, hr⟩ := forall₂_mem_right h.stubs x hx
  rw [h.name]
  exact ⟨hr.signature_name, hr.dispatchesTo⟩

/-- No request has two methods. -/
theorem Interface.MadeInto.nodup (h : i.MadeInto t provider a)
    (hdistinct : (i.requests.map (·.name)).Nodup) : (a.stubs.map (·.request)).Nodup := by
  have hrequests : a.stubs.map (·.request) = (i.participants provider).map (·.name) :=
    (map_eq_map_of_forall₂ (fun _ _ hr => hr.request.symm) h.stubs).symm
  rw [hrequests]
  exact hdistinct.sublist (List.filter_sublist.map _)

/-! ## The structures of a service -/

/-- A parameter of a request of the service has the structure as its base
    type. -/
def Api.UsesStruct (api : Api) (path : TypePath) : Prop :=
  ∃ i ∈ api.interfaces, ∃ r ∈ i.requests, ∃ p ∈ r.params, p.kind = .struct path

/-- The structures that a service uses are declared in its document. -/
theorem Document.Describes.declares_struct (h : d.Describes api) {path : TypePath}
    (hpath : api.UsesStruct path) : d.Declares .struct path := by
  obtain ⟨i, hi, r, hr, p, hp, hkind⟩ := hpath
  obtain ⟨e, -, he⟩ := forall₂_mem_right h.interfaces i hi
  obtain ⟨f, -, hf⟩ := forall₂_mem_right he.requests r hr
  obtain ⟨q, -, hq⟩ := forall₂_mem_right hf.typedAs p hp
  exact (hq.struct path hkind).1

/-- A declared type belongs to an interface of the service. -/
theorem Document.Describes.exists_interface (h : d.Describes api) {kind : DeclaredKind}
    {path : TypePath} (hpath : d.Declares kind path) :
    ∃ i ∈ api.interfaces, i.name = path.interface := by
  obtain ⟨e, he, hname, -⟩ := hpath
  obtain ⟨i, hi, hdescribes⟩ := forall₂_mem_left h.interfaces e he
  exact ⟨i, hi, Option.some.inj (hdescribes.name.symm.trans hname)⟩

theorem ParamKind.struct_text_eq_iff {path path' : TypePath} :
    (ParamKind.struct path).hostType.text = (ParamKind.struct path').hostType.text ↔
      path = path' ∨ Recut path.interface path.name path'.interface path'.name ∨
        Recut path'.interface path'.name path.interface path.name := by
  have hpaths : path = path' ↔ path.interface = path'.interface ∧ path.name = path'.name := by
    cases path; cases path'; simp
  rw [hpaths]
  exact joined_eq_iff

/-! ## The names of methods -/

theorem Api.stubGroups_names (api : Api) (s : Settings) :
    ∀ a ∈ api.stubGroups s, ∀ x ∈ a.stubs,
      x.signature.name = a.name ++ "_" ++ x.request ∧
        x.DispatchesTo (s.target.callOf a.name x.request) := by
  intro a ha
  obtain ⟨i, -, hia⟩ := forall₂_mem_right (api.madeInto_stubGroups s) a ha
  exact hia.names

namespace Document.Describes

variable {b : StubGroup} {y : Stub}

theorem groups_nodup (h : d.Describes api) (s : Settings) :
    ((api.stubGroups s).map (·.name)).Nodup := by
  rw [api.map_name_stubGroups]
  exact h.distinct

theorem requests_nodup (h : d.Describes api) (ha : a ∈ api.stubGroups s) :
    (a.stubs.map (·.request)).Nodup := by
  obtain ⟨i, hi, hia⟩ := forall₂_mem_right (api.madeInto_stubGroups s) a ha
  obtain ⟨e, -, he⟩ := forall₂_mem_right h.interfaces i hi
  exact hia.nodup he.distinct

/-- A group and a method of it are known by their names. -/
theorem names_eq_iff (h : d.Describes api) (ha : a ∈ api.stubGroups s)
    (hb : b ∈ api.stubGroups s) (hx : x ∈ a.stubs) (hy : y ∈ b.stubs) :
    a.name = b.name ∧ x.request = y.request ↔ a = b ∧ x = y := by
  constructor
  · rintro ⟨hgroup, hrequest⟩
    obtain rfl : a = b := List.inj_on_of_nodup_map (h.groups_nodup s) ha hb hgroup
    exact ⟨rfl, List.inj_on_of_nodup_map (h.requests_nodup ha) hx hy hrequest⟩
  · rintro ⟨rfl, rfl⟩
    exact ⟨rfl, rfl⟩

/-- Two methods have the same name iff their pairs of names differ only in the
    place of the cut. -/
theorem methodName_eq_iff (h : d.Describes api) (ha : a ∈ api.stubGroups s)
    (hb : b ∈ api.stubGroups s) (hx : x ∈ a.stubs) (hy : y ∈ b.stubs) :
    x.signature.name = y.signature.name ↔
      (a = b ∧ x = y) ∨ Recut a.name x.request b.name y.request ∨
        Recut b.name y.request a.name x.request := by
  rw [(api.stubGroups_names s a ha x hx).1, (api.stubGroups_names s b hb y hy).1,
    ← h.names_eq_iff ha hb hx hy]
  exact joined_eq_iff

/-- The methods of one interface have different names. -/
theorem methodNames_nodup (h : d.Describes api) (ha : a ∈ api.stubGroups s) :
    (a.stubs.map (·.signature.name)).Nodup := by
  rw [List.nodup_map_iff_inj_on (h.requests_nodup ha).of_map]
  intro x hx y hy hname
  rcases (h.methodName_eq_iff ha ha hx hy).1 hname with ⟨-, heq⟩ | hcut | hcut
  · exact heq
  · exact absurd rfl hcut.ne
  · exact absurd rfl hcut.ne

/-- Without underscores in the names of interfaces, all methods have different
    names. -/
theorem allMethodNames_nodup (h : d.Describes api)
    (hplain : ∀ i ∈ api.interfaces, '_' ∉ i.name.toList) :
    ((stubsOf (api.stubGroups s)).map (·.signature.name)).Nodup := by
  have hplain : ∀ a ∈ api.stubGroups s, '_' ∉ a.name.toList := by
    intro a ha
    obtain ⟨i, hi, hia⟩ := forall₂_mem_right (api.madeInto_stubGroups s) a ha
    exact hia.name ▸ hplain i hi
  rw [stubsOf, List.map_flatMap, List.nodup_flatMap]
  refine ⟨fun a ha => h.methodNames_nodup ha, ?_⟩
  refine (List.pairwise_map.1 (h.groups_nodup s)).imp_of_mem fun {a b} ha hb hne => ?_
  -- a common name would be cut in one way only
  intro name hfirst hsecond
  obtain ⟨x, hx, rfl⟩ := List.mem_map.1 hfirst
  obtain ⟨y, hy, hname⟩ := List.mem_map.1 hsecond
  rw [(api.stubGroups_names s a ha x hx).1, (api.stubGroups_names s b hb y hy).1] at hname
  exact hne (joined_inj (hplain b hb) (hplain a ha) hname).1.symm

/-- Without underscores in the names of interfaces, the structures that are
    used have different host types. -/
theorem struct_inj (h : d.Describes api) (hplain : ∀ i ∈ api.interfaces, '_' ∉ i.name.toList)
    {path path' : TypePath} (hpath : api.UsesStruct path) (hpath' : api.UsesStruct path')
    (htext : (ParamKind.struct path).hostType.text = (ParamKind.struct path').hostType.text) :
    path = path' := by
  obtain ⟨i, hi, hname⟩ := h.exists_interface (h.declares_struct hpath)
  obtain ⟨j, hj, hname'⟩ := h.exists_interface (h.declares_struct hpath')
  rcases ParamKind.struct_text_eq_iff.1 htext with heq | hcut | hcut
  · exact heq
  · exact absurd (hname' ▸ hcut.underscore_mem) (hplain j hj)
  · exact absurd (hname ▸ hcut.underscore_mem) (hplain i hi)

end Document.Describes

/-! ## Generations -/

/-- **Which generated names are the same.**  Methods of one interface have
    different names.  Methods of two interfaces have the same name, and use the
    same dispatcher class, iff the pairs of their names differ only in the
    place of the cut; and so do structures with the same host type. -/
structure Generation.Named (g : Generation) (s : Settings) (api : Api) : Prop where
  named : ∀ a ∈ g.groups, ∀ x ∈ a.stubs, x.signature.name = a.name ++ "_" ++ x.request
  /-- The text of each method ends with its dispatch, an object of the
      dispatcher class. -/
  dispatches : ∀ a ∈ g.groups, ∀ x ∈ a.stubs, x.DispatchesTo (s.target.callOf a.name x.request)
  own : ∀ a ∈ g.groups, (a.stubs.map (·.signature.name)).Nodup
  methods : ∀ a ∈ g.groups, ∀ b ∈ g.groups, ∀ x ∈ a.stubs, ∀ y ∈ b.stubs,
    (x.signature.name = y.signature.name ↔
      (a = b ∧ x = y) ∨ Recut a.name x.request b.name y.request ∨
        Recut b.name y.request a.name x.request)
  dispatchers : ∀ a ∈ g.groups, ∀ b ∈ g.groups, ∀ x ∈ a.stubs, ∀ y ∈ b.stubs,
    (s.target.dispatcherClass a.name x.request = s.target.dispatcherClass b.name y.request ↔
      x.signature.name = y.signature.name)
  structs : ∀ path path', api.UsesStruct path → api.UsesStruct path' →
    ((ParamKind.struct path).hostType.text = (ParamKind.struct path').hostType.text ↔
      path = path' ∨ Recut path.interface path.name path'.interface path'.name ∨
        Recut path'.interface path'.name path.interface path.name)
  /-- Without underscores in the names of interfaces, all names differ. -/
  distinct : (∀ i ∈ api.interfaces, '_' ∉ i.name.toList) →
    ((stubsOf g.groups).map (·.signature.name)).Nodup ∧
      ∀ path path', api.UsesStruct path → api.UsesStruct path' →
        (ParamKind.struct path).hostType.text = (ParamKind.struct path').hostType.text →
          path = path'

theorem Document.Describes.named (h : d.Describes api) (s : Settings) :
    (Generation.ofApi s api).Named s api where
  named a ha x hx := (api.stubGroups_names s a ha x hx).1
  dispatches a ha x hx := (api.stubGroups_names s a ha x hx).2
  own _ ha := h.methodNames_nodup ha
  methods _ ha _ hb _ hx _ hy := h.methodName_eq_iff ha hb hx hy
  dispatchers a ha b hb x hx y hy := by
    rw [StubTarget.dispatcherClass_eq_iff, (api.stubGroups_names s a ha x hx).1,
      (api.stubGroups_names s b hb y hy).1]
  structs _ _ _ _ := ParamKind.struct_text_eq_iff
  distinct hplain :=
    ⟨h.allMethodNames_nodup hplain, fun _ _ hpath hpath' => h.struct_inj hplain hpath hpath'⟩

/-- **Generated names are the same only where an underscore can be read in two
    ways.** -/
theorem ofDocument_named {g : Generation} (h : Generation.ofDocument d s = .ok g) :
    ∃ api, Api.build d = .ok api ∧ g.Named s api := by
  obtain ⟨-, api, hapi, rfl⟩ := Generation.ofDocument_eq_ok_iff.1 h
  exact ⟨api, Api.build_eq_ok_iff.2 hapi, hapi.named s⟩

/-- No interface of `mixedProviders` has an underscore in its name, so all its
    methods differ; its first method dispatches to the class of its own name. -/
theorem mixedProviders_named :
    ∃ g, Generation.ofDocument mixedProviders (.initial "hmi.xml" "out") = .ok g ∧
      ((stubsOf g.groups).map (·.signature.name)).Nodup ∧
      ∃ a ∈ g.groups, ∃ x ∈ a.stubs, ∃ start, x.definition =
        start ++ "  new requests::UI_Show(UI, \"Show\", args, hmi_callback);\n\x7d\n" := by
  have h : Generation.ofDocument mixedProviders (.initial "hmi.xml" "out") =
      .ok (.ofApi (.initial "hmi.xml" "out") mixedProvidersApi) := rfl
  obtain ⟨api, hapi, hnamed⟩ := ofDocument_named h
  cases hapi.symm.trans (show Api.build mixedProviders = .ok mixedProvidersApi from rfl)
  refine ⟨_, h, (hnamed.distinct (by decide)).1, _, List.mem_cons_self .., _,
    List.mem_cons_self .., ?_⟩
  obtain ⟨f, hf, -, start, hstart⟩ :=
    hnamed.dispatches _ (List.mem_cons_self ..) _ (List.mem_cons_self ..)
  exact ⟨start, hf.definition.trans hstart⟩

/-- Two interfaces with the request `B_C` of `A` and the request `C` of `A_B`,
    each with a structure of the same name as its request. -/
def recutNames : Document where
  interfaces := [
    { name := some "A"
      items := [
        .struct (some "B_C"),
        .request {
          name := some "B_C", provider := some "sdl"
          params := [{ name := some "value", type := some "B_C" }] }] },
    { name := some "A_B"
      items := [
        .struct (some "C"),
        .request {
          name := some "C", provider := some "sdl"
          params := [{ name := some "value", type := some "C" }] }] }]

/-- Requests of two interfaces can have methods of the same name, and two
    structures the same host type. -/
theorem recutNames_same :
    ∃ g a b x y, Generation.ofDocument recutNames (.initial "hmi.xml" "out") = .ok g ∧
      g.groups = [a, b] ∧ a.name ≠ b.name ∧ a.stubs = [x] ∧ b.stubs = [y] ∧
      x.request ≠ y.request ∧ x.signature.name = y.signature.name ∧
      x.signature.params.map (·.type) = y.signature.params.map (·.type) ∧
      (ParamKind.struct ⟨"A", "B_C"⟩).hostType.text =
        (ParamKind.struct ⟨"A_B", "C"⟩).hostType.text := by
  refine ⟨_, _, _, _, _, rfl, rfl, ?_, rfl, rfl, ?_, rfl, rfl, rfl⟩
  · decide
  · decide

end CallerStubs
