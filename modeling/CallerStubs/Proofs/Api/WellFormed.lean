/-
  Caller stubs — which documents describe a service.

  Well-formedness asks for names that are there, are not empty and are not
  given twice, and for types that are declared somewhere in the document.  It
  looks at the requests and at the names of the responses only, and it does
  not depend on any order of reading.

  * `Document.Knows`: a text names a type in an interface;
  * `Document.WellFormed`, with `InterfaceElement.WellFormed`,
    `FunctionElement.WellFormed` and `ParamElement.WellFormed` below it;
  * `Document.wellFormed_iff_describes`: well-formed documents are those that
    describe a service;
  * `exists_build_eq_ok_iff_wellFormed`: a service is built from exactly the
    well-formed documents.
-/
import CallerStubs.Proofs.Api.Description

namespace CallerStubs

/-! ## Well-formedness -/

/-- The name is there and not empty. -/
def Named (name : Option String) : Prop :=
  ∃ s, name = some s ∧ s ≠ ""

/-- The text names a type in the interface `owner`: it spells a primitive
    type, or it is a reference of solid segments to a type that the document
    declares anywhere. -/
def Document.Knows (d : Document) (owner type : String) : Prop :=
  type ∈ ParamKind.spellings ∨
    ∃ path kind, path.Written owner type ∧ path.Solid ∧ d.Declares kind path

structure ParamElement.WellFormed (d : Document) (owner : String) (e : ParamElement) : Prop where
  named : Named e.name
  typed : ∃ type, e.type = some type ∧ d.Knows owner type

/-- The element of the interface `owner` is fit for a request. -/
structure FunctionElement.WellFormed (d : Document) (owner : String) (e : FunctionElement) :
    Prop where
  named : Named e.name
  params : ∀ p ∈ e.params, p.WellFormed d owner
  distinct : (e.params.map (·.name)).Nodup

structure InterfaceElement.WellFormed (d : Document) (e : InterfaceElement) : Prop where
  named : Named e.name
  requests : ∀ owner, e.name = some owner → ∀ r ∈ e.requestElements, r.WellFormed d owner
  responses : ∀ r ∈ e.responseElements, Named r.name
  distinct : (e.requestElements.map (·.name)).Nodup

/-- **The document has all that a service needs.** -/
structure Document.WellFormed (d : Document) : Prop where
  interfaces : ∀ e ∈ d.interfaces, e.WellFormed d
  distinct : (d.interfaces.map (·.name)).Nodup

/-! ## Well-formed parts describe something -/

/-- Elements have distinct names iff what they describe has. -/
theorem nodup_names_iff {α β : Type} {R : α → β → Prop} {name : β → String}
    {name? : α → Option String} (hname : ∀ a b, R a b → name? a = some (name b)) {as : List α}
    {bs : List β} (h : List.Forall₂ R as bs) : (as.map name?).Nodup ↔ (bs.map name).Nodup := by
  have himage : as.map name? = (bs.map name).map some := by
    rw [List.map_map]
    exact map_eq_map_of_forall₂ hname h
  rw [himage, List.nodup_map_iff fun _ _ => Option.some.inj]

theorem Document.knows_iff {d : Document} {owner type : String} :
    d.Knows owner type ↔ ∃ kind, d.Types owner type kind := by
  constructor
  · intro h
    by_cases hs : type ∈ ParamKind.spellings
    · obtain ⟨kind, hk⟩ := ParamKind.mem_spellings_iff.1 hs
      exact ⟨kind, .primitive hk⟩
    · obtain ⟨path, kind, hw, hsolid, hd⟩ := h.resolve_left hs
      by_cases he : d.Declares .enum path
      · exact ⟨_, .declared hs hw hsolid he nofun⟩
      · exact ⟨_, .declared hs hw hsolid hd fun _ => he⟩
  · rintro ⟨kind, h | ⟨-, hw, hsolid, hd, -⟩⟩
    · exact .inl (ParamKind.mem_spellings_iff.2 ⟨kind, h⟩)
    · exact .inr ⟨_, _, hw, hsolid, hd⟩

theorem ParamElement.wellFormed_iff_describes {d : Document} {owner : String}
    {e : ParamElement} : e.WellFormed d owner ↔ ∃ p, e.Describes d owner p := by
  constructor
  · rintro ⟨⟨name, hname, hne⟩, type, htype, hknows⟩
    obtain ⟨kind, hkind⟩ := Document.knows_iff.1 hknows
    exact ⟨⟨name, kind, e.mandatory != some "false", e.array == some "true", .ofElement e⟩,
      hname, hne, ⟨type, htype, hkind⟩, by simp, by simp, rfl⟩
  · rintro ⟨p, hname, hne, ⟨type, htype, hkind⟩, -, -, -⟩
    exact ⟨⟨p.name, hname, hne⟩, type, htype, Document.knows_iff.2 ⟨_, hkind⟩⟩

theorem FunctionElement.wellFormed_iff_describes {d : Document} {owner : String}
    {e : FunctionElement} : e.WellFormed d owner ↔ ∃ r, e.DescribesRequest d owner r := by
  constructor
  · rintro ⟨⟨name, hname, hne⟩, hparams, hnd⟩
    obtain ⟨ps, hps⟩ := exists_forall₂_iff.2 fun p hp =>
      ParamElement.wellFormed_iff_describes.1 (hparams p hp)
    exact ⟨⟨name, ps, e.provider⟩, hname, hne, hps,
      (nodup_names_iff (fun _ _ h => h.name) hps).1 hnd, rfl⟩
  · rintro ⟨r, hname, hne, hps, hnd, -⟩
    exact ⟨⟨r.name, hname, hne⟩,
      fun p hp => ParamElement.wellFormed_iff_describes.2 (exists_forall₂_iff.1 ⟨_, hps⟩ p hp),
      (nodup_names_iff (fun _ _ h => h.name) hps).2 hnd⟩

theorem FunctionElement.named_iff_describesResponse {e : FunctionElement} :
    Named e.name ↔ ∃ r, e.DescribesResponse r := by
  constructor
  · rintro ⟨name, hname, hne⟩
    exact ⟨⟨name, e.provider⟩, hname, hne, rfl⟩
  · rintro ⟨r, hname, hne, -⟩
    exact ⟨r.name, hname, hne⟩

theorem InterfaceElement.wellFormed_iff_describes {d : Document} {e : InterfaceElement} :
    e.WellFormed d ↔ ∃ i, e.Describes d i := by
  constructor
  · rintro ⟨⟨name, hname, hne⟩, hrequests, hresponses, hnd⟩
    obtain ⟨rs, hrs⟩ := exists_forall₂_iff.2 fun r hr =>
      FunctionElement.wellFormed_iff_describes.1 (hrequests name hname r hr)
    obtain ⟨ps, hps⟩ := exists_forall₂_iff.2 fun r hr =>
      FunctionElement.named_iff_describesResponse.1 (hresponses r hr)
    exact ⟨⟨name, rs, ps⟩, hname, hne, hrs, hps,
      (nodup_names_iff (fun _ _ h => h.name) hrs).1 hnd⟩
  · rintro ⟨i, hname, hne, hrs, hps, hnd⟩
    refine ⟨⟨i.name, hname, hne⟩, fun owner howner r hr => ?_, fun r hr => ?_,
      (nodup_names_iff (fun _ _ h => h.name) hrs).2 hnd⟩
    · rw [hname] at howner
      cases howner
      exact FunctionElement.wellFormed_iff_describes.2 (exists_forall₂_iff.1 ⟨_, hrs⟩ r hr)
    · exact FunctionElement.named_iff_describesResponse.2 (exists_forall₂_iff.1 ⟨_, hps⟩ r hr)

theorem Document.wellFormed_iff_describes {d : Document} :
    d.WellFormed ↔ ∃ api, d.Describes api := by
  constructor
  · rintro ⟨hinterfaces, hnd⟩
    obtain ⟨is, his⟩ := exists_forall₂_iff.2 fun e he =>
      InterfaceElement.wellFormed_iff_describes.1 (hinterfaces e he)
    exact ⟨⟨is⟩, his, (nodup_names_iff (fun _ _ h => h.name) his).1 hnd⟩
  · rintro ⟨api, his, hnd⟩
    exact ⟨fun e he => InterfaceElement.wellFormed_iff_describes.2
        (exists_forall₂_iff.1 ⟨_, his⟩ e he),
      (nodup_names_iff (fun _ _ h => h.name) his).2 hnd⟩

/-- **A service is built from exactly the well-formed documents.** -/
theorem exists_build_eq_ok_iff_wellFormed (d : Document) :
    (∃ api, Api.build d = .ok api) ↔ d.WellFormed := by
  simp only [Api.build_eq_ok_iff, Document.wellFormed_iff_describes]

end CallerStubs
