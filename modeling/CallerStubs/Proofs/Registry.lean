/-
  Caller stubs — what a document declares, and what its registry knows.

  A registry is made by additions, one for each declaration of the document;
  a lookup sees which additions were made, but not in which order.

  * `Document.Declares`: some interface of the document declares a type of a
    kind under a path;
  * `Registry.addAll`, `Document.registry_eq_addAll`: the registry of a
    document is the result of adding its declarations;
  * `Registry.mem_known_addAll`: what is known after additions;
  * `Document.lookup_registry_eq_some_iff`: a path is looked up as a kind iff
    the document declares a type of this kind under it and, for a structure,
    no enumeration;
  * `Document.lookup_registry_eq_none_iff`: nothing is found for a path iff the
    document declares nothing under it.
-/
import CallerStubs.Registry
import Mathlib.Data.List.Basic

namespace CallerStubs

/-! ## Declarations -/

/-- The item that declares a type of a kind. -/
def DeclaredKind.item : DeclaredKind → String → Item
  | enum, name => .enum (some name)
  | struct, name => .struct (some name)

/-- The interface declares a type of a kind under the path. -/
def InterfaceElement.Declares (i : InterfaceElement) (kind : DeclaredKind) (path : TypePath) :
    Prop :=
  i.name = some path.interface ∧ kind.item path.name ∈ i.items

/-- Some interface of the document declares a type of a kind under the path. -/
def Document.Declares (d : Document) (kind : DeclaredKind) (path : TypePath) : Prop :=
  ∃ i ∈ d.interfaces, i.Declares kind path

/-- The name under which an item declares a type of a kind; it may be absent. -/
def DeclaredKind.name? : DeclaredKind → Item → Option (Option String)
  | enum => Item.enum?
  | struct => Item.struct?

theorem DeclaredKind.name?_eq_some_iff {kind : DeclaredKind} {item : Item} {name : String} :
    kind.name? item = some (some name) ↔ item = kind.item name := by
  cases kind <;> cases item <;> simp [name?, DeclaredKind.item, Item.enum?, Item.struct?]

theorem InterfaceElement.mem_filterMap_name? {i : InterfaceElement} {kind : DeclaredKind}
    {name : String} : some name ∈ i.items.filterMap kind.name? ↔ kind.item name ∈ i.items := by
  simp [List.mem_filterMap, DeclaredKind.name?_eq_some_iff]

/-- The types that an interface declares, its enumerations first. -/
def InterfaceElement.declarations (i : InterfaceElement) : List (DeclaredKind × TypePath) :=
  match i.name with
  | none => []
  | some owner =>
    (i.enums.filterMap id).map (fun name => (.enum, ⟨owner, name⟩)) ++
      (i.structs.filterMap id).map (fun name => (.struct, ⟨owner, name⟩))

theorem InterfaceElement.mem_declarations {i : InterfaceElement} {kind : DeclaredKind}
    {path : TypePath} : (kind, path) ∈ i.declarations ↔ i.Declares kind path := by
  obtain ⟨interface, name⟩ := path
  unfold declarations Declares
  cases hi : i.name with
  | none => simp
  | some owner =>
    rw [← mem_filterMap_name?]
    cases kind <;> simp [enums, structs, DeclaredKind.name?, and_comm]

/-- The types that a document declares, in its order. -/
def Document.declarations (d : Document) : List (DeclaredKind × TypePath) :=
  d.interfaces.flatMap InterfaceElement.declarations

theorem Document.mem_declarations {d : Document} {kind : DeclaredKind} {path : TypePath} :
    (kind, path) ∈ d.declarations ↔ d.Declares kind path := by
  simp only [declarations, List.mem_flatMap, InterfaceElement.mem_declarations, Declares]

/-! ## Additions -/

namespace Registry

/-- The registry with a type of a kind added. -/
def add (r : Registry) : DeclaredKind → TypePath → Registry
  | .enum, path => r.addEnum path
  | .struct, path => r.addStruct path

/-- The registry after several additions. -/
def addAll (r : Registry) (ds : List (DeclaredKind × TypePath)) : Registry :=
  ds.foldl (fun r d => r.add d.1 d.2) r

/-- The types of a kind that are known. -/
def known (r : Registry) : DeclaredKind → List TypePath
  | .enum => r.enums
  | .struct => r.structs

theorem mem_known_add {r : Registry} {kind added : DeclaredKind} {path new : TypePath} :
    path ∈ (r.add added new).known kind ↔ (kind = added ∧ path = new) ∨ path ∈ r.known kind := by
  cases added <;> cases kind <;> simp [add, addEnum, addStruct, known]

/-- An addition makes its own type known, and no other. -/
theorem mem_known_addAll {kind : DeclaredKind} {path : TypePath} :
    ∀ {ds : List (DeclaredKind × TypePath)} {r : Registry},
      path ∈ (r.addAll ds).known kind ↔ (kind, path) ∈ ds ∨ path ∈ r.known kind
  | [], r => by simp [addAll]
  | (added, new) :: ds, r => by
    have ih : path ∈ ((r.add added new).addAll ds).known kind ↔ _ := mem_known_addAll
    rw [addAll, List.foldl_cons, ← addAll, ih, mem_known_add, List.mem_cons, Prod.mk.injEq,
      or_assoc, or_left_comm]

/-- A lookup finds an enumeration before a structure. -/
theorem lookup_eq_some_iff {r : Registry} {kind : DeclaredKind} {path : TypePath} :
    r.lookup path = some kind ↔
      path ∈ r.known kind ∧ (kind = .struct → path ∉ r.known .enum) := by
  unfold lookup
  split_ifs with he hs
  · cases kind <;> simp [known, he]
  · cases kind <;> simp [known, he, hs]
  · cases kind <;> simp [known, he, hs]

theorem lookup_eq_none_iff {r : Registry} {path : TypePath} :
    r.lookup path = none ↔ ∀ kind, path ∉ r.known kind := by
  constructor
  · intro h kind hknown
    unfold lookup at h
    split_ifs at h with he hs
    cases kind with
    | enum => exact he hknown
    | struct => exact hs hknown
  · intro h
    have he : path ∉ r.enums := h .enum
    have hs : path ∉ r.structs := h .struct
    rw [lookup, if_neg he, if_neg hs]

theorem declare_eq_addAll (r : Registry) (i : InterfaceElement) :
    r.declare i = r.addAll i.declarations := by
  unfold declare InterfaceElement.declarations
  cases i.name with
  | none => rfl
  | some owner => simp [addAll, add, List.foldl_append, List.foldl_map]

end Registry

/-! ## The registry of a document -/

namespace Document

theorem registry_eq_addAll (d : Document) :
    d.registry = ({} : Registry).addAll d.declarations := by
  have h : ∀ (is : List InterfaceElement) (r : Registry),
      is.foldl Registry.declare r = r.addAll (is.flatMap InterfaceElement.declarations) := by
    intro is
    induction is with
    | nil => exact fun _ => rfl
    | cons i is ih =>
      intro r
      rw [List.foldl_cons, ih, Registry.declare_eq_addAll, List.flatMap_cons, Registry.addAll,
        Registry.addAll, Registry.addAll, List.foldl_append]
  exact h d.interfaces {}

/-- A document makes known what it declares. -/
theorem mem_known_registry {d : Document} {kind : DeclaredKind} {path : TypePath} :
    path ∈ d.registry.known kind ↔ d.Declares kind path := by
  have hempty : path ∉ ({} : Registry).known kind := by
    cases kind <;> simp [Registry.known]
  rw [registry_eq_addAll, Registry.mem_known_addAll, or_iff_left hempty, mem_declarations]

/-- **A lookup in the registry of a document sees what is declared anywhere
    in it.** -/
theorem lookup_registry_eq_some_iff {d : Document} {kind : DeclaredKind} {path : TypePath} :
    d.registry.lookup path = some kind ↔
      d.Declares kind path ∧ (kind = .struct → ¬ d.Declares .enum path) := by
  rw [Registry.lookup_eq_some_iff, mem_known_registry, mem_known_registry]

theorem lookup_registry_eq_none_iff {d : Document} {path : TypePath} :
    d.registry.lookup path = none ↔ ∀ kind, ¬ d.Declares kind path := by
  rw [Registry.lookup_eq_none_iff]
  exact forall_congr' fun kind => not_congr mem_known_registry

end Document

end CallerStubs
