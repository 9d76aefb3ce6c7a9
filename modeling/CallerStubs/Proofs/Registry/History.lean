/-
  Caller stubs — what lookups say while a registry grows.

  A registry starts with the types of a document, and takes further additions
  with lookups between them.  A lookup sees the declarations and the additions
  before it, as a set; it leaves no trace itself.

  * `Registry.Step`, `Registry.perform`: the uses of a registry, each with its reply;
  * `Registry.after`, `Registry.replies`: the registry after a row of steps,
    and the replies to them;
  * `Registry.after_eq_addAll`: only the additions count;
  * `Registry.History`, `registry_history`: what the replies in every row of steps are.
-/
import CallerStubs.Proofs.Registry

namespace CallerStubs

namespace Registry

/-! ## Steps -/

/-- A use of a registry. -/
inductive Step where
  | add (kind : DeclaredKind) (path : TypePath)
  | lookup (path : TypePath)
  deriving DecidableEq, Repr

/-- What a registry says to a step. -/
inductive Reply where
  | added
  | found (kind : Option DeclaredKind)
  deriving DecidableEq, Repr

/-- The addition that a step makes. -/
def Step.addition? : Step → Option (DeclaredKind × TypePath)
  | add kind path => some (kind, path)
  | lookup _ => none

/-- The additions in a row of steps. -/
def additions (steps : List Step) : List (DeclaredKind × TypePath) :=
  steps.filterMap Step.addition?

theorem mem_additions {steps : List Step} {kind : DeclaredKind} {path : TypePath} :
    (kind, path) ∈ additions steps ↔ Step.add kind path ∈ steps := by
  rw [additions, List.mem_filterMap]
  constructor
  · rintro ⟨s, hs, h⟩
    cases s with
    | add kind' path' => cases h; exact hs
    | lookup path' => cases h
  · intro h
    exact ⟨_, h, rfl⟩

/-- The registry after a step, and its reply. -/
def perform (r : Registry) : Step → Registry × Reply
  | .add kind path => (r.add kind path, .added)
  | .lookup path => (r, .found (r.lookup path))

/-- The registry after a row of steps. -/
def after (r : Registry) (steps : List Step) : Registry :=
  steps.foldl (fun r s => (r.perform s).1) r

/-- The replies to a row of steps. -/
def replies (r : Registry) : List Step → List Reply
  | [] => []
  | s :: steps => (r.perform s).2 :: (r.perform s).1.replies steps

theorem after_append (r : Registry) (steps more : List Step) :
    r.after (steps ++ more) = (r.after steps).after more :=
  List.foldl_append

/-- Lookups leave no trace: only the additions count. -/
theorem after_eq_addAll (r : Registry) (steps : List Step) :
    r.after steps = r.addAll (additions steps) := by
  induction steps generalizing r with
  | nil => rfl
  | cons s steps ih =>
    cases s with
    | add kind path => exact ih (r.add kind path)
    | lookup path => exact ih r

theorem length_replies (r : Registry) (steps : List Step) :
    (r.replies steps).length = steps.length := by
  induction steps generalizing r with
  | nil => rfl
  | cons s steps ih => rw [replies, List.length_cons, List.length_cons, ih]

/-- The reply to a step is that of the registry after the steps before it. -/
theorem getElem?_replies (r : Registry) {steps : List Step} {k : Nat} {s : Step}
    (hs : steps[k]? = some s) :
    (r.replies steps)[k]? = some ((r.after (steps.take k)).perform s).2 := by
  induction steps generalizing r k with
  | nil => simp at hs
  | cons t steps ih =>
    cases k with
    | zero =>
      cases hs
      rfl
    | succ k => exact ih (r.perform t).1 hs

/-- What is known after a row of steps. -/
theorem mem_known_after {r : Registry} {steps : List Step} {kind : DeclaredKind}
    {path : TypePath} :
    path ∈ (r.after steps).known kind ↔ Step.add kind path ∈ steps ∨ path ∈ r.known kind := by
  rw [after_eq_addAll, mem_known_addAll, mem_additions]

/-- A lookup of a path depends on what is known of this path only. -/
theorem lookup_congr {r r' : Registry} {path : TypePath}
    (h : ∀ kind, path ∈ r.known kind ↔ path ∈ r'.known kind) : r.lookup path = r'.lookup path := by
  refine Option.ext fun kind => ?_
  rw [lookup_eq_some_iff, lookup_eq_some_iff, h kind, h .enum]

/-- The answers to a lookup, from nothing to an enumeration. -/
def rank : Option DeclaredKind → Nat
  | none => 0
  | some .struct => 1
  | some .enum => 2

/-- If more is known, the answer stays or moves up. -/
theorem rank_lookup_le {r r' : Registry} {path : TypePath}
    (h : ∀ kind, path ∈ r.known kind → path ∈ r'.known kind) :
    rank (r.lookup path) ≤ rank (r'.lookup path) := by
  cases hlookup : r.lookup path with
  | none => exact Nat.zero_le _
  | some kind =>
    have hknown : path ∈ r'.known kind := h kind (lookup_eq_some_iff.1 hlookup).1
    cases kind with
    | enum => exact Nat.le_of_eq (congrArg rank (lookup_eq_some_iff.2 ⟨hknown, nofun⟩).symm)
    | struct =>
      cases hlookup' : r'.lookup path with
      | none => exact absurd hknown (lookup_eq_none_iff.1 hlookup' .struct)
      | some kind' => cases kind' <;> decide

end Registry

/-! ## Histories -/

open Registry

/-- The type was declared in the document, or added by one of the steps. -/
def Document.KnowsAfter (d : Document) (steps : List Step) (kind : DeclaredKind)
    (path : TypePath) : Prop :=
  d.Declares kind path ∨ Step.add kind path ∈ steps

/-- The answer to a lookup of a path after the steps, for a registry that starts
    with the types of the document. -/
structure Document.AnswersAfter (d : Document) (steps : List Step) (path : TypePath)
    (answer : Option DeclaredKind) : Prop where
  enum_iff : answer = some .enum ↔ d.KnowsAfter steps .enum path
  struct_iff : answer = some .struct ↔
    d.KnowsAfter steps .struct path ∧ ¬ d.KnowsAfter steps .enum path
  none_iff : answer = none ↔ ∀ kind, ¬ d.KnowsAfter steps kind path

theorem Document.mem_known_after {d : Document} {steps : List Step} {kind : DeclaredKind}
    {path : TypePath} :
    path ∈ (d.registry.after steps).known kind ↔ d.KnowsAfter steps kind path := by
  rw [Registry.mem_known_after, mem_known_registry, or_comm, KnowsAfter]

theorem Document.answers_lookup (d : Document) (steps : List Step) (path : TypePath) :
    d.AnswersAfter steps path ((d.registry.after steps).lookup path) := by
  refine ⟨?_, ?_, ?_⟩
  · simp [Registry.lookup_eq_some_iff, mem_known_after]
  · simp [Registry.lookup_eq_some_iff, mem_known_after]
  · simp [Registry.lookup_eq_none_iff, mem_known_after]

/-- **The replies during a row of steps**, from the registry of a document on.
    Each lookup is answered by what was declared or added before it. -/
structure Registry.History (d : Document) (steps : List Step) : Prop where
  replied : (d.registry.replies steps).length = steps.length
  answered : ∀ (k : Nat) (path : TypePath), steps[k]? = some (.lookup path) →
    ∃ answer, (d.registry.replies steps)[k]? = some (.found answer) ∧
      d.AnswersAfter (steps.take k) path answer
  /-- The order of the additions and their repetition do not count. -/
  set_only : ∀ (steps' : List Step) (path : TypePath),
    (∀ kind, Step.add kind path ∈ steps' ↔ Step.add kind path ∈ steps) →
      (d.registry.after steps').lookup path = (d.registry.after steps).lookup path
  /-- Lookups between the additions change nothing. -/
  untouched : ∀ steps' : List Step, additions steps' = additions steps →
    d.registry.after steps' = d.registry.after steps
  /-- An addition is seen under its own pair of names only. -/
  own_pair : ∀ (kind : DeclaredKind) (new path : TypePath), path ≠ new →
    (d.registry.after (steps ++ [.add kind new])).lookup path = (d.registry.after steps).lookup path
  ascending : ∀ (more : List Step) (path : TypePath),
    Registry.rank ((d.registry.after steps).lookup path) ≤
      Registry.rank ((d.registry.after (steps ++ more)).lookup path)

/-- **The replies during every row of steps.** -/
theorem registry_history (d : Document) (steps : List Step) : History d steps := by
  constructor
  case replied => exact d.registry.length_replies steps
  case answered =>
    intro k path hk
    exact ⟨_, d.registry.getElem?_replies hk, d.answers_lookup (steps.take k) path⟩
  case set_only =>
    intro steps' path h
    refine Registry.lookup_congr fun kind => ?_
    rw [Registry.mem_known_after, Registry.mem_known_after, h kind]
  case untouched =>
    intro steps' h
    rw [Registry.after_eq_addAll, Registry.after_eq_addAll, h]
  case own_pair =>
    intro kind new path hne
    refine Registry.lookup_congr fun kind' => ?_
    simp [Registry.mem_known_after, hne]
  case ascending =>
    intro more path
    refine Registry.rank_lookup_le fun kind hknown => ?_
    rw [Registry.after_append, Registry.mem_known_after]
    exact .inr hknown

/-- A document whose enumeration is written like a type `B.C` of an interface
    `A`. -/
def dottedTypes : Document where
  interfaces := [{ name := some "A.B", items := [.enum (some "C")] }]

/-- Lookups of two paths that are written alike, before and after the second
    is added. -/
def dottedSteps : List Step := [
  .lookup ⟨"A.B", "C"⟩, .lookup ⟨"A", "B.C"⟩, .add .struct ⟨"A", "B.C"⟩,
  .lookup ⟨"A.B", "C"⟩, .lookup ⟨"A", "B.C"⟩]

/-- Paths that are written alike are kept apart. -/
theorem dottedTypes_history :
    (⟨"A.B", "C"⟩ : TypePath).display = (⟨"A", "B.C"⟩ : TypePath).display ∧
      dottedTypes.registry.replies dottedSteps =
        [.found (some .enum), .found none, .added, .found (some .enum), .found (some .struct)] ∧
      dottedTypes.AnswersAfter (dottedSteps.take 4) ⟨"A", "B.C"⟩ (some .struct) ∧
      (dottedTypes.registry.after (dottedSteps ++ [.add .enum ⟨"A", "B.C"⟩])).lookup ⟨"A.B", "C"⟩ =
        (dottedTypes.registry.after dottedSteps).lookup ⟨"A.B", "C"⟩ := by
  have h := registry_history dottedTypes dottedSteps
  obtain ⟨answer, hanswer, hsays⟩ := h.answered 4 ⟨"A", "B.C"⟩ rfl
  cases (show some (Reply.found (some .struct)) = some (.found answer) from hanswer)
  exact ⟨rfl, rfl, hsays, h.own_pair .enum ⟨"A", "B.C"⟩ ⟨"A.B", "C"⟩ (by decide)⟩

end CallerStubs
