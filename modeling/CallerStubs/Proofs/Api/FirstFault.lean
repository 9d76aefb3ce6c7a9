/-
  Caller stubs — which of several faults is reported.

  Reading a document is a walk over checks.  A check looks at one thing, and
  most look at it where it stands; but whether a name is given twice is asked of
  a parameter at its end, of the requests of an interface after all of its
  items, and of an interface last.  The fault of a document is that of the first
  check that is not met.

  * `Check`, `Check.Fails`, `Check.fault`: a check, when it is not met, and the
    fault that it has then;
  * `Document.checks`, with `InterfaceElement.checks`, `Item.checks`,
    `FunctionElement.checks` and `ParamElement.checks` below it: the walk;
  * `StopsAt`, `Follows`: where a walk stops, and results that follow it;
  * `Api.build_follows`: the service that is built follows the walk;
  * `build_first_fault`: the fault of a document, and what it does not depend on.
-/
import CallerStubs.Proofs.Api.Rearrangement

namespace CallerStubs

/-! ## Checks -/

/-- A question that is asked of a document.  It holds what it is asked about. -/
inductive Check where
  /-- Is the name of an interface there and not empty? -/
  | interfaceName (name : Option String)
  /-- Is the name of a request or a response there and not empty? -/
  | messageName (owner : String) (name : Option String)
  /-- Is the name of a parameter there and not empty? -/
  | paramName (owner : String) (name : Option String)
  /-- Is the type of a parameter there? -/
  | paramType (owner param : String) (type : Option String)
  /-- Has a reference at most two segments? -/
  | referenceLength (type : String)
  /-- Is no segment of a reference blank? -/
  | referenceSegments (owner type : String)
  /-- Is the type declared that a reference names? -/
  | typeDeclared (owner param type : String)
  /-- Is the parameter called differently than the earlier ones? -/
  | paramNew (owner request param : String) (earlier : List String)
  /-- Is the request called differently than the earlier ones? -/
  | requestNew (owner request : String) (earlier : List String)
  /-- Is the interface called differently than the earlier ones? -/
  | interfaceNew (interface : String) (earlier : List String)

namespace Check

/-- **The check is not met** in the document.  The spelling of a primitive type
    is no reference. -/
def Fails (d : Document) : Check → Prop
  | interfaceName name | messageName _ name | paramName _ name => ¬ Named name
  | paramType _ _ type => type = none
  | referenceLength type => type ∉ ParamKind.spellings ∧ 2 < (TypePath.segments type).length
  | referenceSegments owner type =>
    type ∉ ParamKind.spellings ∧ ∃ path, TypePath.Written owner type path ∧ ¬ path.Solid
  | typeDeclared owner _ type => type ∉ ParamKind.spellings ∧
      ∃ path, TypePath.Written owner type path ∧ ∀ kind, ¬ d.Declares kind path
  | paramNew _ _ name earlier | requestNew _ name earlier | interfaceNew name earlier =>
    name ∈ earlier

/-- The fault of a document in which the check is not met. -/
def fault : Check → SchemaFault
  | interfaceName _ => .unnamedInterface
  | messageName owner _ => .unnamedFunction owner
  | paramName owner _ => .unnamedParam owner
  | paramType owner param _ => .untypedParam owner param
  | referenceLength type => .longReference type
  | referenceSegments _ type => .blankSegment type
  | typeDeclared owner param type => .unknownType owner param type
  | paramNew owner request param _ => .repeatedParam owner request param
  | requestNew owner request _ => .repeatedRequest owner request
  | interfaceNew interface _ => .repeatedInterface interface

end Check

/-! ## The walk -/

/-- The checks of the members of a list.  `earlier` holds the names of the
    members before them, and `checks` may look at it. -/
def checksInRow {α : Type} (name : α → String) (checks : List String → α → List Check)
    (earlier : List String) : List α → List Check
  | [] => []
  | a :: as => checks earlier a ++ checksInRow name checks (name a :: earlier) as

/-- The name of an element, or else the empty text. -/
abbrev nameOf (name : Option String) : String := name.getD ""

/-- The checks of the base type of a parameter. -/
def typeChecks (owner param type : String) : List Check :=
  [.referenceLength type, .referenceSegments owner type, .typeDeclared owner param type]

/-- The checks of a parameter on its own. -/
def ParamElement.ownChecks (owner : String) (e : ParamElement) : List Check :=
  .paramName owner e.name :: .paramType owner (nameOf e.name) e.type ::
    typeChecks owner (nameOf e.name) (e.type.getD "")

/-- **The checks of a parameter** behind others of its request. -/
def ParamElement.checks (owner request : String) (earlier : List String) (e : ParamElement) :
    List Check :=
  e.ownChecks owner ++ [.paramNew owner request (nameOf e.name) earlier]

/-- **The checks of a request**: its name, and its parameters in order. -/
def FunctionElement.checks (owner : String) (e : FunctionElement) : List Check :=
  .messageName owner e.name ::
    checksInRow (nameOf ·.name) (ParamElement.checks owner (nameOf e.name)) [] e.params

/-- **The checks of an item**: those of a request, and the name of a response. -/
def Item.checks (owner : String) (item : Item) : List Check :=
  match item.request?, item.response? with
  | some e, _ => e.checks owner
  | none, some e => [.messageName owner e.name]
  | none, none => []

/-- The checks of requests with these names for repetitions. -/
def repetitionChecks (owner : String) (requests : List String) : List Check :=
  checksInRow id (fun earlier request => [.requestNew owner request earlier]) [] requests

/-- The checks of an interface on its own. -/
def InterfaceElement.ownChecks (e : InterfaceElement) : List Check :=
  .interfaceName e.name :: (e.items.flatMap (Item.checks (nameOf e.name)) ++
    repetitionChecks (nameOf e.name) (e.requestElements.map (nameOf ·.name)))

/-- **The checks of an interface** behind others: its name, its items in order,
    repetitions among its requests, and at last its repetition of another. -/
def InterfaceElement.checks (earlier : List String) (e : InterfaceElement) : List Check :=
  e.ownChecks ++ [.interfaceNew (nameOf e.name) earlier]

/-- **The checks of a document**, in the order in which they are made. -/
def Document.checks (d : Document) : List Check :=
  checksInRow (nameOf ·.name) InterfaceElement.checks [] d.interfaces

/-! ## Results that follow checks -/

/-- **A walk stops at a check** that is not met, behind others that are. -/
structure StopsAt (d : Document) (cs before : List Check) (c : Check) : Prop where
  walk : before ++ [c] <+: cs
  met : ∀ b ∈ before, ¬ b.Fails d
  fails : c.Fails d

/-- **The result follows the checks**: it has the fault of the first that is not
    met, and is there if all are met. -/
inductive Follows {α : Type} (d : Document) : List Check → Except SchemaFault α → Prop
  | done {a} : Follows d [] (.ok a)
  | failed {c cs} : c.Fails d → Follows d (c :: cs) (.error c.fault)
  | met {c cs x} : ¬ c.Fails d → Follows d cs x → Follows d (c :: cs) x

section
variable {α β : Type} {d : Document} {cs cs' : List Check} {x : Except SchemaFault α}

theorem not_stopsAt_nil {before : List Check} {c : Check} : ¬ StopsAt d [] before c :=
  fun h => by simpa using h.walk

theorem stopsAt_cons_of_fails {c : Check} (hfails : c.Fails d) {before : List Check} {c' : Check} :
    StopsAt d (c :: cs) before c' ↔ before = [] ∧ c' = c := by
  constructor
  · rintro ⟨hwalk, hmet, -⟩
    cases before with
    | nil => exact ⟨rfl, (List.cons_prefix_cons.1 hwalk).1⟩
    | cons b before =>
      obtain ⟨rfl, -⟩ := List.cons_prefix_cons.1 hwalk
      exact absurd hfails (hmet b (List.mem_cons_self ..))
  · rintro ⟨rfl, rfl⟩
    exact ⟨List.cons_prefix_cons.2 ⟨rfl, List.nil_prefix⟩, by simp, hfails⟩

theorem stopsAt_cons_of_met {c : Check} (hmet : ¬ c.Fails d) {before : List Check} {c' : Check} :
    StopsAt d (c :: cs) before c' ↔ ∃ rest, before = c :: rest ∧ StopsAt d cs rest c' := by
  constructor
  · rintro ⟨hwalk, hbefore, hfails⟩
    cases before with
    | nil =>
      obtain ⟨rfl, -⟩ := List.cons_prefix_cons.1 hwalk
      exact absurd hfails hmet
    | cons b before =>
      obtain ⟨rfl, hrest⟩ := List.cons_prefix_cons.1 hwalk
      exact ⟨before, rfl, hrest, (List.forall_mem_cons.1 hbefore).2, hfails⟩
  · rintro ⟨rest, rfl, hwalk, hrest, hfails⟩
    exact ⟨List.cons_prefix_cons.2 ⟨rfl, hwalk⟩, List.forall_mem_cons.2 ⟨hmet, hrest⟩, hfails⟩

/-- **A result that follows checks** has a fault iff it is that of the check
    at which the walk over them stops. -/
theorem Follows.eq_error_iff (h : Follows d cs x) {f : SchemaFault} :
    x = .error f ↔ ∃ before c, StopsAt d cs before c ∧ f = c.fault := by
  induction h with
  | done => simp only [not_stopsAt_nil, false_and, exists_false, reduceCtorEq]
  | failed hfails =>
    simp only [stopsAt_cons_of_fails hfails, Except.error.injEq]
    constructor
    · rintro rfl
      exact ⟨[], _, ⟨rfl, rfl⟩, rfl⟩
    · rintro ⟨-, -, ⟨-, rfl⟩, rfl⟩
      rfl
  | met hmet _ ih =>
    rw [ih]
    simp only [stopsAt_cons_of_met hmet]
    constructor
    · rintro ⟨before, c, hstops, rfl⟩
      exact ⟨_, c, ⟨before, rfl, hstops⟩, rfl⟩
    · rintro ⟨-, c, ⟨before, -, hstops⟩, rfl⟩
      exact ⟨before, c, hstops, rfl⟩

/-- Steps in a row follow their checks in a row. -/
theorem Follows.bind (h : Follows d cs x) {g : α → Except SchemaFault β}
    (hg : ∀ a, x = .ok a → Follows d cs' (g a)) : Follows d (cs ++ cs') (x >>= g) := by
  induction h with
  | done => exact hg _ rfl
  | failed hfails => exact .failed hfails
  | met hmet _ ih => exact .met hmet (ih hg)

theorem Follows.map (h : Follows d cs x) {g : α → β} :
    Follows d cs (x >>= fun a => .ok (g a)) := by
  have hbind : Follows d (cs ++ []) (x >>= fun a => .ok (g a)) := h.bind fun _ _ => .done
  rwa [List.append_nil] at hbind

/-- Members that follow their checks, and are refused if their name is an
    earlier one, follow these checks in a row. -/
theorem buildDistinct_follows {build : α → Except SchemaFault β} {name : β → String}
    {repeated : β → SchemaFault} {name' : α → String} {checks : α → List Check}
    {new : List String → α → Check} (hbuild : ∀ a, Follows d (checks a) (build a))
    (hname : ∀ a b, build a = .ok b → name' a = name b)
    (hnew : ∀ a b, build a = .ok b → ∀ seen,
      ((new seen a).Fails d ↔ name b ∈ seen) ∧ (new seen a).fault = repeated b) :
    ∀ (as : List α) (seen : List String),
      Follows d (checksInRow name' (fun earlier a => checks a ++ [new earlier a]) seen as)
        (buildDistinct build name repeated seen as)
  | [], _ => .done
  | a :: as, seen => by
    rw [checksInRow, buildDistinct, List.append_assoc, List.singleton_append]
    refine (hbuild a).bind fun b hb => ?_
    obtain ⟨hfails, hfault⟩ := hnew a b hb seen
    split_ifs with hmem
    · rw [← hfault]
      exact .failed (hfails.2 hmem)
    · refine .met (hmem ∘ hfails.1) ?_
      rw [hname a b hb]
      exact (buildDistinct_follows hbuild hname hnew as _).map

/-- The first repetition follows the checks for repetitions. -/
theorem firstRepeat?_follows (owner : String) (a : α) : ∀ requests seen : List String,
    Follows d (checksInRow id (fun earlier request => [.requestNew owner request earlier])
        seen requests)
      (match firstRepeat? seen requests with
        | some request => .error (.repeatedRequest owner request)
        | none => .ok a)
  | [], _ => .done
  | request :: requests, seen => by
    rw [checksInRow, firstRepeat?, List.singleton_append]
    split_ifs with hmem
    · exact .failed hmem
    · exact .met hmem (firstRepeat?_follows owner a requests _)

end

/-! ## What is built follows the walk -/

section
variable {d : Document} {owner : String}

theorem present?_eq_none_iff_not_named {name : Option String} :
    present? name = none ↔ ¬ Named name := by
  simp only [present?_eq_none_iff, Named, not_exists, not_and, not_not]

theorem ParamKind.resolve_follows (param type : String) :
    Follows d (typeChecks owner param type) (ParamKind.resolve d.registry owner param type) := by
  unfold resolve typeChecks
  cases hprimitive : primitive? type with
  | some kind =>
    have hspelling : ¬ type ∉ spellings :=
      not_not_intro (mem_spellings_iff.2 ⟨kind, primitive?_eq_some_iff.1 hprimitive⟩)
    exact .met (hspelling ·.1) (.met (hspelling ·.1) (.met (hspelling ·.1) .done))
  | none =>
    have hspelling := primitive?_eq_none_iff.1 hprimitive
    by_cases hlength : 2 < (TypePath.segments type).length
    · rw [TypePath.parse_of_length hlength]
      exact .failed ⟨hspelling, hlength⟩
    · refine .met (hlength ·.2) ?_
      obtain ⟨path, hwritten⟩ :=
        (TypePath.exists_written_iff owner).2 (Nat.le_of_not_lt hlength)
      by_cases hsolid : path.Solid
      · rw [TypePath.parse_eq_ok_iff.2 ⟨hwritten, hsolid⟩]
        refine .met ?_ ?_
        · rintro ⟨-, path', hwritten', hsolid'⟩
          exact hsolid' (hwritten.eq hwritten' ▸ hsolid)
        · cases hlookup : d.registry.lookup path with
          | none =>
            have hundeclared := Document.lookup_registry_eq_none_iff.1 hlookup
            simp only [bind, Except.bind, hlookup]
            exact .failed ⟨hspelling, path, hwritten, hundeclared⟩
          | some kind =>
            have hdeclares := (Document.lookup_registry_eq_some_iff.1 hlookup).1
            have hmet : ¬ (Check.typeDeclared owner param type).Fails d := by
              rintro ⟨-, path', hwritten', hundeclared⟩
              exact hundeclared kind (hwritten.eq hwritten' ▸ hdeclares)
            simp only [bind, Except.bind, hlookup]
            cases kind with
            | enum => exact .met hmet .done
            | struct => exact .met hmet .done
      · rw [hwritten.parse_of_not_solid hsolid]
        exact .failed ⟨hspelling, path, hwritten, hsolid⟩

theorem Param.build_follows (e : ParamElement) :
    Follows d (e.ownChecks owner) (Param.build d.registry owner e) := by
  unfold build ParamElement.ownChecks
  cases hpresent : present? e.name with
  | none => exact .failed (present?_eq_none_iff_not_named.1 hpresent)
  | some name =>
    obtain ⟨hname, hne⟩ := present?_eq_some_iff.1 hpresent
    simp only [nameOf, hname, Option.getD_some]
    refine .met (not_not_intro ⟨name, rfl, hne⟩) ?_
    cases htype : e.type with
    | none => exact .failed rfl
    | some type => exact .met nofun (ParamKind.resolve_follows name type).map

theorem Param.buildAll_follows (request : String) (es : List ParamElement) :
    Follows d (checksInRow (nameOf ·.name) (ParamElement.checks owner request) [] es)
      (Param.buildAll d.registry owner request [] es) := by
  have hname : ∀ e p, Param.build d.registry owner e = .ok p → nameOf e.name = p.name := by
    intro e p h
    rw [nameOf, (Param.build_eq_ok_iff.1 h).name, Option.getD_some]
  rw [Param.buildAll_eq_buildDistinct]
  refine buildDistinct_follows (fun e => Param.build_follows e) hname (fun e p h seen => ?_) es []
  rw [← hname e p h]
  exact ⟨Iff.rfl, rfl⟩

theorem FunctionElement.nameOf_messageName {e : FunctionElement} {name : String}
    (h : e.messageName owner = .ok name) : nameOf e.name = name := by
  rw [nameOf, (messageName_eq_ok_iff.1 h).1, Option.getD_some]

theorem FunctionElement.messageName_follows (e : FunctionElement) :
    Follows d [.messageName owner e.name] (e.messageName owner) := by
  unfold messageName
  cases hpresent : present? e.name with
  | none => exact .failed (present?_eq_none_iff_not_named.1 hpresent)
  | some name =>
    obtain ⟨hname, hne⟩ := present?_eq_some_iff.1 hpresent
    exact .met (not_not_intro ⟨name, hname, hne⟩) .done

theorem Request.build_follows (e : FunctionElement) :
    Follows d (e.checks owner) (Request.build d.registry owner e) := by
  refine e.messageName_follows.bind fun name hname => ?_
  rw [FunctionElement.nameOf_messageName hname]
  exact (Param.buildAll_follows name e.params).map

theorem Response.build_follows (e : FunctionElement) :
    Follows d [.messageName owner e.name] (Response.build owner e) :=
  e.messageName_follows.map

theorem Interface.extend_follows : ∀ (items : List Item) (i : Interface),
    Follows d (items.flatMap (Item.checks i.name)) (Interface.extend d.registry i items)
  | [], _ => .done
  | item :: items, i => by
    rw [List.flatMap_cons, Item.checks]
    rcases item.message?_cases with ⟨e, hm, hq, hr⟩ | ⟨e, hm, hq, hr⟩ | ⟨hm, hq, hr⟩
    · rw [extend_cons_request hm, hq]
      exact (Request.build_follows e).bind fun r _ =>
        extend_follows items { i with requests := i.requests ++ [r] }
    · rw [extend_cons_response hm, hq, hr]
      exact (Response.build_follows e).bind fun r _ =>
        extend_follows items { i with responses := i.responses ++ [r] }
    · rw [extend_cons_neither hm, hq, hr]
      exact extend_follows items i

/-- The requests that items add are called like their elements. -/
theorem Interface.map_name_extend {items : List Item} {i : Interface}
    (h : Interface.extend d.registry { name := owner } items = .ok i) :
    (items.filterMap Item.request?).map (nameOf ·.name) = i.requests.map (·.name) := by
  obtain ⟨rs, ps, hrs, -, rfl⟩ := Interface.extend_eq_ok_iff.1 h
  refine map_eq_map_of_forall₂ (fun e r hr => ?_) hrs
  rw [nameOf, hr.name, Option.getD_some]

theorem Interface.build_follows (e : InterfaceElement) :
    Follows d e.ownChecks (Interface.build d.registry e) := by
  unfold build InterfaceElement.ownChecks
  cases hpresent : present? e.name with
  | none => exact .failed (present?_eq_none_iff_not_named.1 hpresent)
  | some name =>
    obtain ⟨hname, hne⟩ := present?_eq_some_iff.1 hpresent
    simp only [nameOf, hname, Option.getD_some]
    refine .met (not_not_intro ⟨name, rfl, hne⟩) ?_
    refine (extend_follows e.items { name }).bind fun i hi => ?_
    rw [InterfaceElement.requestElements, map_name_extend hi]
    exact firstRepeat?_follows name i _ []

/-- **The service that is built follows the walk.** -/
theorem Api.build_follows (d : Document) : Follows d d.checks (Api.build d) := by
  have hname : ∀ e i, Interface.build d.registry e = .ok i → nameOf e.name = i.name := by
    intro e i h
    rw [nameOf, (Interface.build_eq_ok_iff.1 h).name, Option.getD_some]
  rw [Api.build, Interface.buildAll_eq_buildDistinct]
  refine (buildDistinct_follows Interface.build_follows hname (fun e i h seen => ?_) _ []).map
  rw [← hname e i h]
  exact ⟨Iff.rfl, rfl⟩

end

/-! ## The fault of a document -/

/-- A check asks its document for declared types only. -/
theorem Check.fails_congr {d d' : Document}
    (h : ∀ kind path, d'.Declares kind path ↔ d.Declares kind path) (c : Check) :
    c.Fails d' ↔ c.Fails d := by
  cases c <;> simp only [Fails, h]

/-- **The fault of a document is that of the check at which the walk stops.**
    So what stands behind this check makes no difference, as long as the same
    types are declared: a document that asks for the same checks up to it has
    the same fault. -/
theorem build_first_fault (d : Document) :
    (∀ fault, (Api.build d).mapError Fault.schema = .error fault ↔
      ∃ before c, StopsAt d d.checks before c ∧ fault = .schema c.fault) ∧
    ∀ before c, StopsAt d d.checks before c →
      ∀ d', (∀ kind path, d'.Declares kind path ↔ d.Declares kind path) →
        before ++ [c] <+: d'.checks → Api.build d' = Api.build d := by
  constructor
  · intro fault
    simp only [mapError_eq_error_iff, (Api.build_follows d).eq_error_iff]
    constructor
    · rintro ⟨-, ⟨before, c, hstops, rfl⟩, rfl⟩
      exact ⟨before, c, hstops, rfl⟩
    · rintro ⟨before, c, hstops, rfl⟩
      exact ⟨_, ⟨before, c, hstops, rfl⟩, rfl⟩
  · intro before c hstops d' htypes hshared
    have hstops' : StopsAt d' d'.checks before c :=
      ⟨hshared, fun b hb => mt (b.fails_congr htypes).1 (hstops.met b hb),
        (c.fails_congr htypes).2 hstops.fails⟩
    rw [(Api.build_follows d).eq_error_iff.2 ⟨before, c, hstops, rfl⟩,
      (Api.build_follows d').eq_error_iff.2 ⟨before, c, hstops', rfl⟩]

/-- A request given twice, a response and a parameter without a name, and an
    interface without one. -/
def manyFaults : Document where
  interfaces := [
    { name := some "UI"
      items := [
        .request { name := some "Show" },
        .function { name := some "Show", messageType := some "request" },
        .response {}, .enum (some "Result"),
        .request { name := some "Ask", params := [{}] }] },
    {}]

/-- `manyFaults` up to the response without a name. -/
def manyFaultsReplaced : Document where
  interfaces := [
    { name := some "UI"
      items := [
        .request { name := some "Show" },
        .function { name := some "Show", messageType := some "request" },
        .response {}] },
    { name := some "UI", items := [.enum (some "Result")] }]

/-- The response is at fault, though a request is given twice before it. -/
theorem manyFaults_first :
    (Api.build manyFaults).mapError Fault.schema = .error (.schema (.unnamedFunction "UI")) ∧
      Api.build manyFaultsReplaced = Api.build manyFaults := by
  obtain ⟨hfault, hreplaced⟩ := build_first_fault manyFaults
  have hstops : StopsAt manyFaults manyFaults.checks
      [.interfaceName (some "UI"), .messageName "UI" (some "Show"),
        .messageName "UI" (some "Show")] (.messageName "UI" none) := by
    refine ⟨⟨_, rfl⟩, ?_, nofun⟩
    have hnamed (s : String) (h : s ≠ "") : Named (some s) := ⟨s, rfl, h⟩
    simp only [List.forall_mem_cons, Check.Fails, not_not]
    exact ⟨hnamed "UI" (by decide), hnamed "Show" (by decide), hnamed "Show" (by decide), nofun⟩
  refine ⟨(hfault _).2 ⟨_, _, hstops, rfl⟩, hreplaced _ _ hstops _ (fun kind path => ?_) ⟨_, rfl⟩⟩
  cases kind <;>
    simp [manyFaults, manyFaultsReplaced, Document.Declares, InterfaceElement.Declares,
      DeclaredKind.item]

end CallerStubs
