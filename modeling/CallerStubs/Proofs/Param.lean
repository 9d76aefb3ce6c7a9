/-
  Caller stubs — which parameters an element describes.

  * `Document.Types`: in an interface of the document, a text names a base
    type;
  * `ParamKind.resolve_eq_ok_iff`: the types that are found in the registry of
    the document are those;
  * `ParamElement.Describes`: the parameter that an element describes;
  * `Param.build_eq_ok_iff`: the parameter that is built is that one.
-/
import CallerStubs.Param
import CallerStubs.Proofs.Correspondence
import CallerStubs.Proofs.Registry
import CallerStubs.Proofs.TypePath

namespace CallerStubs

/-- The text is there and not empty. -/
theorem present?_eq_some_iff {text : Option String} {s : String} :
    present? text = some s ↔ text = some s ∧ s ≠ "" := by
  simp [present?]

theorem present?_eq_none_iff {text : Option String} :
    present? text = none ↔ ∀ s, text = some s → s = "" := by
  simp [present?]

/-! ## Base types -/

namespace ParamKind

/-- The spelling of a primitive type. -/
def spelling? : ParamKind → Option String
  | integer => some "Integer"
  | float => some "Float"
  | boolean => some "Boolean"
  | string => some "String"
  | enum _ | struct _ => none

/-- The spellings of the primitive types. -/
def spellings : List String := ["Integer", "Float", "Boolean", "String"]

theorem primitive?_eq_some_iff {type : String} {kind : ParamKind} :
    primitive? type = some kind ↔ kind.spelling? = some type := by
  constructor
  · intro h
    unfold primitive? at h
    split at h <;> cases h <;> rfl
  · intro h
    cases kind <;> simp [spelling?] at h <;> subst h <;> rfl

theorem primitive?_eq_none_iff {type : String} : primitive? type = none ↔ type ∉ spellings := by
  constructor
  · intro h hmem
    simp only [spellings, List.mem_cons, List.not_mem_nil, or_false] at hmem
    rcases hmem with rfl | rfl | rfl | rfl <;> simp [primitive?] at h
  · intro h
    simp only [spellings, List.mem_cons, List.not_mem_nil, or_false, not_or] at h
    unfold primitive?
    split <;> simp_all

theorem mem_spellings_iff {type : String} :
    type ∈ spellings ↔ ∃ kind : ParamKind, kind.spelling? = some type := by
  rw [← not_iff_not, ← primitive?_eq_none_iff]
  simp only [Option.eq_none_iff_forall_ne_some, ne_eq, primitive?_eq_some_iff, not_exists]

end ParamKind

/-- The base type of the parameters of a declared type. -/
def DeclaredKind.paramKind : DeclaredKind → TypePath → ParamKind
  | enum, path => .enum path
  | struct, path => .struct path

/-- **The text names the base type** in the interface `owner` of the
    document.  The spelling of a primitive type names nothing else, and a path
    under which both an enumeration and a structure are declared names the
    enumeration. -/
inductive Document.Types (d : Document) (owner : String) : String → ParamKind → Prop
  | primitive {type kind} : kind.spelling? = some type → Types d owner type kind
  | declared {type path kind} : type ∉ ParamKind.spellings → path.Written owner type →
      path.Solid → d.Declares kind path → (kind = .struct → ¬ d.Declares .enum path) →
      Types d owner type (kind.paramKind path)

theorem ParamKind.resolve_eq_ok_iff {d : Document} {owner param type : String}
    {kind : ParamKind} :
    ParamKind.resolve d.registry owner param type = .ok kind ↔ d.Types owner type kind := by
  unfold resolve
  cases hp : primitive? type with
  | some k =>
    have hk := primitive?_eq_some_iff.1 hp
    constructor
    · rintro ⟨⟩
      exact .primitive hk
    · rintro (h | ⟨hn, -, -, -, -⟩)
      · rw [primitive?_eq_some_iff.2 h] at hp
        cases hp; rfl
      · exact absurd (mem_spellings_iff.2 ⟨k, hk⟩) hn
  | none =>
    have hn := primitive?_eq_none_iff.1 hp
    simp only [bind_eq_ok_iff, TypePath.parse_eq_ok_iff]
    constructor
    · rintro ⟨path, ⟨hw, hs⟩, h⟩
      cases hl : d.registry.lookup path with
      | none => simp [hl] at h
      | some k =>
        obtain ⟨hd, he⟩ := Document.lookup_registry_eq_some_iff.1 hl
        have hk : kind = k.paramKind path := by
          cases k <;> simp [hl] at h <;> exact h.symm
        exact hk ▸ .declared hn hw hs hd he
    · intro h
      cases h with
      | primitive h => exact absurd (mem_spellings_iff.2 ⟨_, h⟩) hn
      | @declared path k _ hw hs hd he =>
        refine ⟨path, ⟨hw, hs⟩, ?_⟩
        rw [Document.lookup_registry_eq_some_iff.2 ⟨hd, he⟩]
        cases k <;> rfl

/-! ## Parameters -/

/-- **The parameter that an element describes** in the interface `owner` of
    the document. -/
structure ParamElement.Describes (d : Document) (owner : String) (e : ParamElement) (p : Param) :
    Prop where
  name : e.name = some p.name
  nonempty : p.name ≠ ""
  type : ∃ type, e.type = some type ∧ d.Types owner type p.kind
  mandatory : p.mandatory = true ↔ e.mandatory ≠ some "false"
  array : p.array = true ↔ e.array = some "true"
  limits : p.limits = .ofElement e

theorem Param.build_eq_ok_iff {d : Document} {owner : String} {e : ParamElement} {p : Param} :
    Param.build d.registry owner e = .ok p ↔ e.Describes d owner p := by
  unfold build
  cases hn : present? e.name with
  | none =>
    simp only [reduceCtorEq, false_iff]
    rintro ⟨hname, hne, -, -, -, -⟩
    exact hne (present?_eq_none_iff.1 hn _ hname)
  | some name =>
    obtain ⟨hname, hne⟩ := present?_eq_some_iff.1 hn
    cases ht : e.type with
    | none =>
      simp only [reduceCtorEq, false_iff]
      rintro ⟨-, -, ⟨type, htype, -⟩, -, -, -⟩
      simp [ht] at htype
    | some type =>
      simp only [bind_eq_ok_iff, ParamKind.resolve_eq_ok_iff, Except.ok.injEq]
      constructor
      · rintro ⟨kind, hkind, rfl⟩
        exact ⟨hname, hne, ⟨type, ht, hkind⟩, by simp, by simp, rfl⟩
      · rintro ⟨hname', -, ⟨type', htype', hkind⟩, hm, ha, hl⟩
        rw [ht] at htype'
        cases htype'
        refine ⟨p.kind, hkind, ?_⟩
        rw [hname] at hname'
        cases hname'
        obtain ⟨pname, kind, mandatory, array, limits⟩ := p
        simp only at hm ha hl
        subst hl
        simp only [Param.mk.injEq, true_and, and_true]
        exact ⟨Bool.eq_iff_iff.2 (by simpa using hm.symm), Bool.eq_iff_iff.2 (by simpa using ha.symm)⟩

end CallerStubs
