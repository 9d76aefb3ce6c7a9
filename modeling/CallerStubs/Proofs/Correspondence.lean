/-
  Caller stubs — steps that can fail, and lists that correspond member by
  member.

  What a reader makes of a list is a list of the same length, member for
  member; `List.Forall₂` says so.

  * `bind_eq_ok_iff`, `mapError_eq_ok_iff`, `map_eq_ok_iff`: when steps in a row
    succeed;
  * `bind_eq_error_iff`, `mapError_eq_error_iff`: when they fail;
  * `exists_forall₂_iff`: a list has a counterpart iff each of its members
    has one;
  * `forall₂_mem_left`, `forall₂_mem_right`, `map_eq_map_of_forall₂`,
    `length_flatMap_eq`: what a correspondence says about members, images and
    sizes;
  * `filter_key_eq_singleton`: members with distinct keys are found by them;
  * `buildDistinct`: the counterparts of a list, built in order and refused at
    the first name that is given twice.
-/
import Mathlib.Data.List.Forall2
import Mathlib.Data.List.Nodup

namespace CallerStubs

variable {α β γ δ ε ε' : Type}

/-! ## Steps -/

theorem bind_eq_ok_iff {x : Except ε α} {f : α → Except ε β} {b : β} :
    (x >>= f) = .ok b ↔ ∃ a, x = .ok a ∧ f a = .ok b := by
  cases x with
  | error e => simp [bind, Except.bind]
  | ok a => simp [bind, Except.bind]

theorem bind_eq_error_iff {x : Except ε α} {f : α → Except ε β} {e : ε} :
    (x >>= f) = .error e ↔ x = .error e ∨ ∃ a, x = .ok a ∧ f a = .error e := by
  cases x with
  | error e' => simp [bind, Except.bind]
  | ok a => simp [bind, Except.bind]

theorem mapError_eq_ok_iff {x : Except ε α} {f : ε → ε'} {a : α} :
    x.mapError f = .ok a ↔ x = .ok a := by
  cases x with
  | error e => simp [Except.mapError]
  | ok a => simp [Except.mapError]

theorem mapError_eq_error_iff {x : Except ε α} {f : ε → ε'} {e : ε'} :
    x.mapError f = .error e ↔ ∃ e', x = .error e' ∧ f e' = e := by
  cases x with
  | error e' => simp [Except.mapError]
  | ok a => simp [Except.mapError]

theorem map_eq_ok_iff {x : Except ε α} {f : α → β} {b : β} :
    x.map f = .ok b ↔ ∃ a, x = .ok a ∧ f a = b := by
  cases x with
  | error e => simp [Except.map]
  | ok a => simp [Except.map]

/-! ## Counterparts -/

variable {R : α → β → Prop}

theorem forall₂_mem_left : ∀ {as : List α} {bs : List β}, List.Forall₂ R as bs →
    ∀ a ∈ as, ∃ b ∈ bs, R a b
  | _, _, .nil, a, ha => by simp at ha
  | a' :: _, b' :: _, .cons h hs, a, ha => by
    rcases List.mem_cons.1 ha with rfl | ha
    · exact ⟨b', by simp, h⟩
    · obtain ⟨b, hb, hR⟩ := forall₂_mem_left hs a ha
      exact ⟨b, by simp [hb], hR⟩

theorem forall₂_mem_right {as : List α} {bs : List β} (h : List.Forall₂ R as bs) :
    ∀ b ∈ bs, ∃ a ∈ as, R a b :=
  forall₂_mem_left h.flip

/-- A list has a counterpart iff each of its members has one. -/
theorem exists_forall₂_iff {as : List α} :
    (∃ bs, List.Forall₂ R as bs) ↔ ∀ a ∈ as, ∃ b, R a b := by
  constructor
  · rintro ⟨bs, h⟩ a ha
    obtain ⟨b, -, hb⟩ := forall₂_mem_left h a ha
    exact ⟨b, hb⟩
  · intro h
    induction as with
    | nil => exact ⟨[], .nil⟩
    | cons a as ih =>
      obtain ⟨b, hb⟩ := h a (List.mem_cons_self ..)
      obtain ⟨bs, hbs⟩ := ih fun a' ha' => h a' (List.mem_cons_of_mem _ ha')
      exact ⟨b :: bs, .cons hb hbs⟩

/-- Corresponding lists have the same image under functions that agree on
    corresponding members. -/
theorem map_eq_map_of_forall₂ {f : α → γ} {g : β → γ} (hfg : ∀ a b, R a b → f a = g b)
    {as : List α} {bs : List β} (h : List.Forall₂ R as bs) : as.map f = bs.map g := by
  rw [← List.forall₂_eq_eq_eq, List.forall₂_map_left_iff, List.forall₂_map_right_iff]
  exact h.imp hfg

/-- Lists of groups of the same sizes have the same number of members. -/
theorem length_flatMap_eq {f : α → List γ} {g : β → List δ}
    (hfg : ∀ a b, R a b → (f a).length = (g b).length) {as : List α} {bs : List β}
    (h : List.Forall₂ R as bs) : (as.flatMap f).length = (bs.flatMap g).length := by
  rw [List.length_flatMap, List.length_flatMap, map_eq_map_of_forall₂ hfg h]

/-! ## Keys -/

/-- Where keys are distinct, a member is the only one with its key. -/
theorem filter_key_eq_singleton [DecidableEq β] {key : α → β} {as : List α}
    (h : (as.map key).Nodup) {a : α} (ha : a ∈ as) : as.filter (key · == key a) = [a] := by
  induction as with
  | nil => cases ha
  | cons b as ih =>
    obtain ⟨hnew, hnodup⟩ := List.nodup_cons.1 h
    rcases List.mem_cons.1 ha with rfl | ha
    · have hothers : as.filter (key · == key a) = [] := by
        rw [List.filter_eq_nil_iff]
        intro c hc heq
        exact hnew (List.mem_map.2 ⟨c, hc, beq_iff_eq.1 heq⟩)
      simp [hothers]
    · have hne : key b ≠ key a := by
        intro heq
        exact hnew (List.mem_map.2 ⟨a, ha, heq.symm⟩)
      simpa [hne] using ih hnodup ha

/-! ## Counterparts with distinct names -/

/-- Builds the counterparts of a list one after the other.  `seen` holds the
    names of those before them. -/
def buildDistinct (build : α → Except ε β) (name : β → String) (repeated : β → ε)
    (seen : List String) : List α → Except ε (List β)
  | [] => .ok []
  | a :: as => do
    let b ← build a
    if name b ∈ seen then .error (repeated b)
    else do
      let bs ← buildDistinct build name repeated (name b :: seen) as
      .ok (b :: bs)

/-- Counterparts are built iff each can be built and their names are distinct,
    also from those seen before. -/
theorem buildDistinct_eq_ok_iff {build : α → Except ε β} {name : β → String} {repeated : β → ε} :
    ∀ {as : List α} {seen : List String} {bs : List β},
      buildDistinct build name repeated seen as = .ok bs ↔
        List.Forall₂ (fun a b => build a = .ok b) as bs ∧ (bs.map name).Nodup ∧
          ∀ b ∈ bs, name b ∉ seen
  | [], seen, bs => by
    simp only [buildDistinct, Except.ok.injEq, List.forall₂_nil_left_iff]
    constructor
    · rintro rfl; simp
    · rintro ⟨rfl, -⟩; rfl
  | a :: as, seen, bs => by
    simp only [buildDistinct, bind_eq_ok_iff, List.forall₂_cons_left_iff]
    constructor
    · rintro ⟨b, hb, h⟩
      split_ifs at h with hseen
      obtain ⟨bs', hbs', ⟨⟩⟩ := bind_eq_ok_iff.1 h
      obtain ⟨has, hnd, hfresh⟩ := buildDistinct_eq_ok_iff.1 hbs'
      -- the names behind `b` are fresh from a list that holds the name of `b`
      refine ⟨⟨b, bs', hb, has, rfl⟩, List.nodup_cons.2 ⟨fun hmem => ?_, hnd⟩, ?_⟩
      · obtain ⟨b', hb', hname⟩ := List.mem_map.1 hmem
        exact hfresh b' hb' (by simp [hname])
      · intro b' hb'
        rcases List.mem_cons.1 hb' with rfl | hb'
        · exact hseen
        · exact fun hmem => hfresh b' hb' (List.mem_cons_of_mem _ hmem)
    · rintro ⟨⟨b, bs', hb, has, rfl⟩, hnd, hfresh⟩
      obtain ⟨hnotin, hnd'⟩ := List.nodup_cons.1 hnd
      refine ⟨b, hb, ?_⟩
      rw [if_neg (hfresh b (List.mem_cons_self ..))]
      refine bind_eq_ok_iff.2
        ⟨bs', buildDistinct_eq_ok_iff.2 ⟨has, hnd', fun b' hb' hmem => ?_⟩, rfl⟩
      rcases List.mem_cons.1 hmem with hname | hmem
      · exact hnotin (List.mem_map.2 ⟨b', hb', hname⟩)
      · exact hfresh b' (List.mem_cons_of_mem _ hb') hmem

end CallerStubs
