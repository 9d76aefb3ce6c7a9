/-
  Caller stubs — parameters after a row of changes.

  A row of changes decides two things about a parameter: whether it may be
  left out, and whether it is an array.  Its types follow from these two and
  from its base type.

  * `Boundary`, `Param.HasType`: the rules for types in signatures and of
    values, from the outermost modifier in;
  * `Param.hasType_iff`: the types of the generated code are those of the rules;
  * `Param.StaysMandatory`, `Param.EndsAsArray`: what a row of changes decides.
    One that makes a parameter optional is never undone, of those between
    single values and arrays the last one counts;
  * `Param.ChangedBy`, `modified_changedBy`: parameters after every row of
    changes.
-/
import CallerStubs.HostType

namespace CallerStubs

/-! ## Types by rules -/

/-- What a type is for: a parameter in a signature, or its value outside of
    any container. -/
inductive Boundary where
  | signature
  | value
  deriving DecidableEq, Repr

theorem ParamKind.hostType_ne_variant (kind : ParamKind) : kind.hostType ≠ .variant := by
  cases kind <;> simp [hostType]

namespace Param

/-- The type of a parameter at a boundary. -/
def typeAt (p : Param) : Boundary → HostType
  | .signature => p.signatureType
  | .value => p.valueType

/-- At this boundary the parameter is in a container. -/
def Contained (p : Param) (b : Boundary) : Prop :=
  b = .signature ∧ p.mandatory = false

/-- **The types of parameters at a boundary.**  The container counts before
    the array, and the elements of an array have the type of the parameter
    without this modifier, at the same boundary. -/
inductive HasType (b : Boundary) : Param → HostType → Prop
  | container {p} : p.Contained b → HasType b p .variant
  | strings {p} : ¬ p.Contained b → p.array = true → p.kind = .string →
      HasType b p .stringList
  | list {p type} : ¬ p.Contained b → p.array = true → p.kind ≠ .string →
      HasType b p.element type → HasType b p (.list type)
  | single {p} : ¬ p.Contained b → p.array = false → HasType b p p.kind.hostType

variable {p q : Param} {b : Boundary} {type : HostType}

theorem not_contained_value : ¬ p.Contained .value := by
  simp [Contained]

theorem not_contained_of_mandatory (hm : p.mandatory = true) : ¬ p.Contained b := by
  simp [Contained, hm]

theorem typeAt_of_contained (h : p.Contained b) : p.typeAt b = .variant := by
  obtain ⟨rfl, hm⟩ := h
  simp [typeAt, signatureType, hm]

theorem typeAt_of_not_contained (h : ¬ p.Contained b) : p.typeAt b = p.valueType := by
  cases b with
  | value => rfl
  | signature =>
    have hm : p.mandatory = true := by simpa [Contained] using h
    simp [typeAt, signatureType, hm]

theorem valueType_of_list (ha : p.array = true) (hk : p.kind ≠ .string) :
    p.valueType = .list p.element.valueType := by
  unfold valueType
  rw [if_pos ha]
  split
  · contradiction
  · rfl

/-- A type by the rules is the one in the generated code. -/
theorem HasType.eq_typeAt (h : p.HasType b type) : type = p.typeAt b := by
  induction h with
  | container hc => exact (typeAt_of_contained hc).symm
  | strings hc ha hk => simp [typeAt_of_not_contained hc, valueType, ha, hk]
  | @list p type hc ha hk _ ih =>
    -- the elements are in no container either, as the array is in none
    have he : p.element.typeAt b = p.element.valueType := typeAt_of_not_contained hc
    rw [typeAt_of_not_contained hc, valueType_of_list ha hk, ih, he]
  | single hc ha => simp [typeAt_of_not_contained hc, valueType, ha]

/-- Every parameter has a type by the rules. -/
theorem exists_hasType (p : Param) (b : Boundary) : ∃ type, p.HasType b type := by
  by_cases hc : p.Contained b
  · exact ⟨_, .container hc⟩
  cases ha : p.array with
  | false => exact ⟨_, .single hc ha⟩
  | true =>
    by_cases hk : p.kind = .string
    · exact ⟨_, .strings hc ha hk⟩
    · exact ⟨_, .list hc ha hk (.single hc rfl)⟩

theorem hasType_iff : p.HasType b type ↔ type = p.typeAt b := by
  constructor
  · intro h
    exact h.eq_typeAt
  · rintro rfl
    obtain ⟨type, h⟩ := p.exists_hasType b
    exact h.eq_typeAt ▸ h

/-- A container is the type of nothing else. -/
theorem HasType.eq_variant_iff (h : p.HasType b type) :
    type = .variant ↔ p.Contained b := by
  cases h with
  | container hc => simp [hc]
  | strings hc => simp [hc]
  | list hc => simp [hc]
  | single hc => simp [hc, p.kind.hostType_ne_variant]

theorem HasType.eq_stringList_iff (h : p.HasType b type) (hc : ¬ p.Contained b)
    (ha : p.array = true) : type = .stringList ↔ p.kind = .string := by
  cases h with
  | container hc' => exact absurd hc' hc
  | strings _ _ hk => simp [hk]
  | list _ _ hk => simp [hk]
  | single _ ha' => simp [ha] at ha'

theorem signatureType_eq_variant_iff (p : Param) :
    p.signatureType = .variant ↔ p.mandatory = false := by
  have h : p.HasType .signature p.signatureType := hasType_iff.2 rfl
  simp [h.eq_variant_iff, Contained]

theorem valueType_eq_stringList_iff (ha : p.array = true) :
    p.valueType = .stringList ↔ p.kind = .string := by
  have h : p.HasType .value p.valueType := hasType_iff.2 rfl
  exact h.eq_stringList_iff not_contained_value ha

/-- The type of a value does not depend on whether it may be left out. -/
theorem valueType_congr (hk : q.kind = p.kind) (ha : q.array = p.array) :
    q.valueType = p.valueType := by
  rw [valueType, valueType, hk, ha]

end Param

/-! ## Rows of changes -/

/-- The changes of a row that lead to an array or to a single value. -/
def Modifier.reshapings (ms : List Modifier) : List Modifier :=
  ms.filter (· ≠ .optional)

theorem Modifier.reshapings_cons {m : Modifier} {ms : List Modifier} (hm : m ≠ .optional) :
    reshapings (m :: ms) = m :: reshapings ms := by
  simp [reshapings, hm]

namespace Param

open Modifier (reshapings reshapings_cons)

variable {p q r : Param} {m : Modifier} {ms ns : List Modifier}

/-- The parameter is mandatory, and the changes leave it so. -/
def StaysMandatory (p : Param) (ms : List Modifier) : Prop :=
  p.mandatory = true ∧ .optional ∉ ms

/-- The last change between single values and arrays leads to an array, or the
    parameter is one and there is no such change. -/
def EndsAsArray (p : Param) (ms : List Modifier) : Prop :=
  (reshapings ms).getLast? = some .array ∨ reshapings ms = [] ∧ p.array = true

instance : Decidable (p.StaysMandatory ms) :=
  inferInstanceAs (Decidable (_ ∧ _))

instance : Decidable (p.EndsAsArray ms) :=
  inferInstanceAs (Decidable (_ ∨ _))

/-- The second parameter is the first one up to its modifiers. -/
structure SameBase (p q : Param) : Prop where
  name : q.name = p.name
  kind : q.kind = p.kind
  limits : q.limits = p.limits

theorem SameBase.refl (p : Param) : p.SameBase p :=
  ⟨rfl, rfl, rfl⟩

theorem SameBase.symm (h : p.SameBase q) : q.SameBase p :=
  ⟨h.name.symm, h.kind.symm, h.limits.symm⟩

theorem SameBase.trans (hpq : p.SameBase q) (hqr : q.SameBase r) : p.SameBase r :=
  ⟨hqr.name.trans hpq.name, hqr.kind.trans hpq.kind, hqr.limits.trans hpq.limits⟩

theorem sameBase_apply (p : Param) (m : Modifier) : p.SameBase (m.apply p) := by
  cases m <;> exact ⟨rfl, rfl, rfl⟩

theorem staysMandatory_cons : p.StaysMandatory (m :: ms) ↔ (m.apply p).StaysMandatory ms := by
  cases m <;> simp [StaysMandatory, Modifier.apply, optional, asArray, element]

theorem endsAsArray_cons : p.EndsAsArray (m :: ms) ↔ (m.apply p).EndsAsArray ms := by
  cases m with
  | optional => rfl
  | array =>
    rw [EndsAsArray, EndsAsArray, reshapings_cons (by decide)]
    cases reshapings ms <;> simp [Modifier.apply, asArray]
  | element =>
    rw [EndsAsArray, EndsAsArray, reshapings_cons (by decide)]
    cases reshapings ms <;> simp [Modifier.apply, element]

theorem sameBase_modified (p : Param) (ms : List Modifier) : p.SameBase (p.modified ms) := by
  induction ms generalizing p with
  | nil => exact .refl p
  | cons m ms ih => exact (p.sameBase_apply m).trans (ih (m.apply p))

theorem mandatory_modified_iff : (p.modified ms).mandatory = true ↔ p.StaysMandatory ms := by
  induction ms generalizing p with
  | nil => simp [modified, StaysMandatory]
  | cons m ms ih => exact ih.trans staysMandatory_cons.symm

theorem array_modified_iff : (p.modified ms).array = true ↔ p.EndsAsArray ms := by
  induction ms generalizing p with
  | nil => simp [modified, EndsAsArray, reshapings]
  | cons m ms ih => exact ih.trans endsAsArray_cons.symm

theorem SameBase.eq (h : p.SameBase q) (hm : q.mandatory = p.mandatory)
    (ha : q.array = p.array) : q = p := by
  obtain ⟨name, kind, mandatory, array, limits⟩ := p
  obtain ⟨hname, hkind, hlimits⟩ := h
  simp only at hname hkind hlimits hm ha
  subst hname hkind hlimits hm ha
  rfl

/-- Rows that decide alike lead to the same parameter. -/
theorem modified_eq (hm : p.StaysMandatory ns ↔ p.StaysMandatory ms)
    (ha : p.EndsAsArray ns ↔ p.EndsAsArray ms) : p.modified ns = p.modified ms := by
  have hns := p.sameBase_modified ns
  have hms := p.sameBase_modified ms
  have hbase : (p.modified ms).SameBase (p.modified ns) := hms.symm.trans hns
  refine hbase.eq (Bool.eq_iff_iff.2 ?_) (Bool.eq_iff_iff.2 ?_)
  · rw [mandatory_modified_iff, mandatory_modified_iff, hm]
  · rw [array_modified_iff, array_modified_iff, ha]

/-- **A parameter after a row of changes**, and its types. -/
structure ChangedBy (ms : List Modifier) (p q : Param) : Prop where
  name : q.name = p.name
  kind : q.kind = p.kind
  limits : q.limits = p.limits
  mandatory_iff : q.mandatory = true ↔ p.StaysMandatory ms
  array_iff : q.array = true ↔ p.EndsAsArray ms
  /-- Rows that decide alike lead to the same types. -/
  types : ∀ ns, (p.StaysMandatory ns ↔ p.StaysMandatory ms) →
    (p.EndsAsArray ns ↔ p.EndsAsArray ms) →
      (p.modified ns).signatureType = q.signatureType ∧ (p.modified ns).valueType = q.valueType
  signature_iff : q.signatureType = .variant ↔ q.mandatory = false
  signature_eq : q.mandatory = true → q.signatureType = q.valueType
  /-- Where and how often a row makes the parameter optional does not count
      for the value. -/
  value : ∀ ns, reshapings ns = reshapings ms → (p.modified ns).valueType = q.valueType
  strings_iff : q.array = true → (q.valueType = .stringList ↔ q.kind = .string)
  list : q.array = true → q.kind ≠ .string → q.valueType = .list q.element.valueType

end Param

open Param

/-- **A parameter after every row of changes.** -/
theorem modified_changedBy (p : Param) (ms : List Modifier) : p.ChangedBy ms (p.modified ms) := by
  have hbase := p.sameBase_modified ms
  constructor
  case name => exact hbase.name
  case kind => exact hbase.kind
  case limits => exact hbase.limits
  case mandatory_iff => exact mandatory_modified_iff
  case array_iff => exact array_modified_iff
  case types =>
    intro ns hm ha
    rw [modified_eq hm ha]
    exact ⟨rfl, rfl⟩
  case signature_iff => exact (p.modified ms).signatureType_eq_variant_iff
  case signature_eq =>
    intro hm
    have hc : ¬ (p.modified ms).Contained .signature := not_contained_of_mandatory hm
    exact typeAt_of_not_contained hc
  case value =>
    intro ns h
    have harray : (p.modified ns).array = true ↔ (p.modified ms).array = true := by
      rw [array_modified_iff, array_modified_iff, EndsAsArray, EndsAsArray, h]
    exact valueType_congr ((p.sameBase_modified ns).kind.trans hbase.kind.symm)
      (Bool.eq_iff_iff.2 harray)
  case strings_iff =>
    intro ha
    exact valueType_eq_stringList_iff ha
  case list =>
    intro ha hk
    exact valueType_of_list ha hk

/-- A structure that a row of changes makes a list of structures, which may be
    left out. -/
def shownFields : Param where
  name := "showFields"
  kind := .struct ⟨"Common", "TextField"⟩
  limits := { maxSize := some "5" }

/-- Only the last change between single values and arrays counts, and the
    changes to optional keep the type of the value. -/
theorem shownFields_changed :
    shownFields.EndsAsArray [.array, .optional, .element, .optional, .array] ∧
      (shownFields.modified [.array, .optional, .element, .optional, .array]).limits =
        shownFields.limits ∧
      (shownFields.modified [.optional, .array]).signatureType = .variant ∧
      (shownFields.modified [.array, .element, .array]).valueType =
        .list (.struct "Common_TextField") := by
  have h := modified_changedBy shownFields [.array, .optional, .element, .optional, .array]
  have htypes := h.types [.optional, .array] (by decide) (by decide)
  refine ⟨h.array_iff.1 rfl, h.limits, ?_, ?_⟩
  · rw [htypes.1]
    exact h.signature_iff.2 rfl
  · rw [h.value [.array, .element, .array] rfl]
    exact h.list rfl (by decide)

end CallerStubs
