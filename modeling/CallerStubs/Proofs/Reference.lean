/-
  Caller stubs — what a reference reaches.

  The names of interfaces and of types are any texts.  A type is reached by a
  reference only where the dots and the blanks in its two names leave the
  reference to be read as them.

  * `TypePath.resulting`: the two names that a reference stands for, if there
    are two;
  * `TypePath.exists_parse_iff`: the grammar of references;
  * `TypePath.written_display_iff`, `TypePath.written_name_iff`: which paths
    have a written form in full, and by their name alone;
  * `Document.Names`: the base type that a declared path stands for;
  * `references_reach`: the grammar, the way back, and which declared types are
    reached in either form.
-/
import CallerStubs.Proofs.Api.WellFormed
import CallerStubs.Proofs.Text.Blank

namespace CallerStubs

/-! ## The grammar -/

namespace TypePath

variable {reference owner : String} {path : TypePath}

/-- The segments that a reference in the interface `owner` results in: its own,
    with the owner in front if it has no dot. -/
def resulting (reference owner : String) : List String :=
  if '.' ∈ reference.toList then segments reference else [owner, reference]

theorem Written.resulting_eq (h : Written owner reference path) :
    resulting reference owner = [path.interface, path.name] := by
  cases h with
  | bare hname => rw [resulting, if_neg hname]
  | @qualified interface name hinterface hname =>
    have hdot : '.' ∈ (interface ++ "." ++ name).toList := by simp
    rw [resulting, if_pos hdot]
    exact segments_eq_two_iff.2 ⟨⟨hinterface, hname⟩, rfl⟩

theorem Written.solid_iff (h : Written owner reference path) :
    path.Solid ↔ ∀ segment ∈ resulting reference owner,
      ∃ c ∈ segment.toList, Text.isBlank c = false := by
  simp only [h.resulting_eq, List.forall_mem_cons, List.not_mem_nil, false_implies, implies_true,
    and_true, ← Text.blank_eq_false_iff, Solid]

/-- **The grammar of references**: at most one dot, and no blank segment. -/
theorem exists_parse_iff : (∃ path, parse reference owner = .ok path) ↔
    reference.toList.count '.' ≤ 1 ∧ ∀ segment ∈ resulting reference owner,
      ∃ c ∈ segment.toList, Text.isBlank c = false := by
  have hlength : (segments reference).length ≤ 2 ↔ reference.toList.count '.' ≤ 1 := by
    rw [segments, Text.length_splitText]
    exact Nat.succ_le_succ_iff
  simp only [parse_eq_ok_iff]
  rw [← hlength, ← exists_written_iff owner]
  constructor
  · rintro ⟨path, hwritten, hsolid⟩
    exact ⟨⟨path, hwritten⟩, hwritten.solid_iff.1 hsolid⟩
  · rintro ⟨⟨path, hwritten⟩, hsegments⟩
    exact ⟨path, hwritten, hwritten.solid_iff.2 hsegments⟩

/-! ## Written forms -/

/-- A path is read back from its full form, in any interface, iff its names
    have no dot. -/
theorem written_display_iff : Written owner path.display path ↔
    '.' ∉ path.interface.toList ∧ '.' ∉ path.name.toList := by
  constructor
  · intro h
    rcases written_iff.1 h with ⟨hone, -⟩ | htwo
    · -- the dot of the full form is in no single segment
      obtain ⟨hname, hdisplay⟩ := segments_eq_one_iff.1 hone
      have hdot : '.' ∈ path.display.toList := by simp [display, joined]
      exact absurd (hdisplay ▸ hdot) hname
    · exact (segments_eq_two_iff.1 htwo).1
  · rintro ⟨hinterface, hname⟩
    exact .qualified hinterface hname

/-- A path is read back from its name, in its own interface, iff the name has
    no dot. -/
theorem written_name_iff :
    Written path.interface path.name path ↔ '.' ∉ path.name.toList := by
  constructor
  · intro h
    rcases written_iff.1 h with ⟨hone, -⟩ | htwo
    · exact (segments_eq_one_iff.1 hone).1
    · -- the name is shorter than the full form
      have hlength := congrArg String.length (segments_eq_two_iff.1 htwo).2
      simp only [String.length_append] at hlength
      have hdot : ".".length = 1 := rfl
      omega
  · exact fun hname => .bare hname

/-- A reference with a dot is the full form of its path, whatever the interface
    in which it stands. -/
theorem Written.of_dot (h : Written owner reference path) (hdot : '.' ∈ reference.toList) :
    path.display = reference ∧ ∀ owner', Written owner' reference path := by
  cases h with
  | bare hname => exact absurd hdot hname
  | qualified hinterface hname => exact ⟨rfl, fun _ => .qualified hinterface hname⟩

/-- In an interface without a dot in its name, references stand for paths that
    can be read back. -/
theorem Written.display (h : Written owner reference path) (howner : '.' ∉ owner.toList)
    (owner' : String) : Written owner' path.display path := by
  rw [written_display_iff]
  cases h with
  | bare hname => exact ⟨howner, hname⟩
  | qualified hinterface hname => exact ⟨hinterface, hname⟩

theorem display_notMem_spellings (path : TypePath) : path.display ∉ ParamKind.spellings := by
  have hplain : ∀ s ∈ ParamKind.spellings, '.' ∉ s.toList := by decide
  intro h
  have hdot : '.' ∈ path.display.toList := by simp [TypePath.display, joined]
  exact hplain _ h hdot

end TypePath

/-! ## Declared types -/

/-- **The base type that a declared path stands for**: the enumeration, if one
    is declared under the path, and else the structure. -/
inductive Document.Names (d : Document) (path : TypePath) : ParamKind → Prop
  | enum : d.Declares .enum path → Names d path (.enum path)
  | struct : d.Declares .struct path → ¬ d.Declares .enum path → Names d path (.struct path)

variable {d : Document} {owner type : String} {path : TypePath}

/-- A text names a declared type iff it is a written form of a solid path, and
    spells no primitive type. -/
theorem Document.types_names_iff (h : ∃ kind, d.Declares kind path) :
    (∃ kind, d.Types owner type kind ∧ d.Names path kind) ↔
      type ∉ ParamKind.spellings ∧ path.Written owner type ∧ path.Solid := by
  constructor
  · rintro ⟨kind, hprimitive | ⟨hspelling, hwritten, hsolid, -, -⟩, hnames⟩
    · cases hnames <;> cases hprimitive
    · rename_i path' kind'
      obtain rfl : path' = path := by cases kind' <;> cases hnames <;> rfl
      exact ⟨hspelling, hwritten, hsolid⟩
  · rintro ⟨hspelling, hwritten, hsolid⟩
    by_cases henum : d.Declares .enum path
    · exact ⟨_, .declared hspelling hwritten hsolid henum nofun, .enum henum⟩
    · obtain ⟨kind, hdeclares⟩ := h
      cases kind with
      | enum => exact absurd hdeclares henum
      | struct =>
        exact ⟨_, .declared hspelling hwritten hsolid hdeclares fun _ => henum,
          .struct hdeclares henum⟩

/-- A named parameter has the base type that its text names. -/
theorem Param.exists_build_iff {e : ParamElement} (hname : Named e.name)
    (htype : e.type = some type) {P : ParamKind → Prop} :
    (∃ p, Param.build d.registry owner e = .ok p ∧ P p.kind) ↔
      ∃ kind, d.Types owner type kind ∧ P kind := by
  obtain ⟨name, hsome, hne⟩ := hname
  simp only [build, present?_eq_some_iff.2 ⟨hsome, hne⟩, htype, bind_eq_ok_iff,
    ParamKind.resolve_eq_ok_iff]
  constructor
  · rintro ⟨-, ⟨kind, hkind, ⟨⟩⟩, hP⟩
    exact ⟨kind, hkind, hP⟩
  · rintro ⟨kind, hkind, hP⟩
    exact ⟨_, ⟨kind, hkind, rfl⟩, hP⟩

/-- **What references reach.**  A reference is read iff it has at most one dot
    and no blank segment.  With a dot it is the full form of its path, the same
    in every interface; and what is read in an interface without a dot in its
    name can be printed and read again.  So a declared type is the type of a
    parameter that gives its full form, in whatever interface, iff its names
    have no dot and are not blank; and of a parameter of its own interface that
    gives its name, iff the name is not that of a primitive type, has no dot,
    and neither name is blank. -/
theorem references_reach :
    (∀ reference owner, (∃ path, TypePath.parse reference owner = .ok path) ↔
      reference.toList.count '.' ≤ 1 ∧ ∀ segment ∈ TypePath.resulting reference owner,
        ∃ c ∈ segment.toList, Text.isBlank c = false) ∧
    (∀ reference owner path, TypePath.parse reference owner = .ok path →
      ('.' ∈ reference.toList →
        path.display = reference ∧ ∀ owner', TypePath.parse reference owner' = .ok path) ∧
      ('.' ∉ owner.toList → ∀ owner', TypePath.parse path.display owner' = .ok path)) ∧
    ∀ (d : Document) path, (∃ kind, d.Declares kind path) → ∀ e : ParamElement, Named e.name →
      (e.type = some path.display → ∀ owner,
        (∃ p, Param.build d.registry owner e = .ok p ∧ d.Names path p.kind) ↔
          ('.' ∉ path.interface.toList ∧ '.' ∉ path.name.toList) ∧ path.Solid) ∧
      (e.type = some path.name →
        ((∃ p, Param.build d.registry path.interface e = .ok p ∧ d.Names path p.kind) ↔
          path.name ∉ ParamKind.spellings ∧ '.' ∉ path.name.toList ∧ path.Solid)) := by
  refine ⟨fun reference owner => TypePath.exists_parse_iff, fun reference owner path h => ?_,
    fun d path hdeclares e hname => ⟨fun htype owner => ?_, fun htype => ?_⟩⟩
  · obtain ⟨hwritten, hsolid⟩ := TypePath.parse_eq_ok_iff.1 h
    refine ⟨fun hdot => ?_, fun howner owner' => ?_⟩
    · obtain ⟨hdisplay, hwritten'⟩ := hwritten.of_dot hdot
      exact ⟨hdisplay, fun owner' => TypePath.parse_eq_ok_iff.2 ⟨hwritten' owner', hsolid⟩⟩
    · exact TypePath.parse_eq_ok_iff.2 ⟨hwritten.display howner owner', hsolid⟩
  · rw [Param.exists_build_iff hname htype, Document.types_names_iff hdeclares,
      TypePath.written_display_iff, and_iff_right path.display_notMem_spellings]
  · rw [Param.exists_build_iff hname htype, Document.types_names_iff hdeclares,
      TypePath.written_name_iff]

/-- Types under names with a dot, under the name of a primitive type, and under
    one name twice. -/
def awkwardNames : Document where
  interfaces := [
    { name := some "Com.mon", items := [.struct (some "Field"), .enum (some "Float")] },
    { name := some "UI", items := [.struct (some "Text"), .enum (some "Text")] }]

/-- The field is reached by its name only, and the text as an enumeration. -/
theorem awkwardNames_reached :
    (∃ kind, awkwardNames.Declares kind ⟨"Com.mon", "Field"⟩) ∧
      (∃ kind, awkwardNames.Declares kind ⟨"UI", "Text"⟩) ∧
      (¬ ∃ p, Param.build awkwardNames.registry "UI"
        { name := some "field", type := some "Com.mon.Field" } = .ok p ∧
          awkwardNames.Names ⟨"Com.mon", "Field"⟩ p.kind) ∧
      (∃ p, Param.build awkwardNames.registry "Com.mon"
        { name := some "field", type := some "Field" } = .ok p ∧
          awkwardNames.Names ⟨"Com.mon", "Field"⟩ p.kind) ∧
      (∃ p, Param.build awkwardNames.registry "Com.mon"
        { name := some "text", type := some "UI.Text" } = .ok p ∧
          awkwardNames.Names ⟨"UI", "Text"⟩ p.kind) ∧
      ∀ owner, TypePath.parse "UI.Text" owner = .ok ⟨"UI", "Text"⟩ := by
  obtain ⟨-, hparsed, hreached⟩ := references_reach
  have hfield : ∃ kind, awkwardNames.Declares kind ⟨"Com.mon", "Field"⟩ :=
    ⟨.struct, _, List.mem_cons_self .., rfl, List.mem_cons_self ..⟩
  have htext : ∃ kind, awkwardNames.Declares kind ⟨"UI", "Text"⟩ :=
    ⟨.struct, _, List.mem_cons_of_mem _ (List.mem_cons_self ..), rfl, List.mem_cons_self ..⟩
  have hnamed (s : String) (h : s ≠ "") : Named (some s) := ⟨s, rfl, h⟩
  have hfields := hreached awkwardNames _ hfield
  refine ⟨hfield, htext, fun h => ?_, ?_, ?_, ?_⟩
  · have hdots := ((hfields _ (hnamed "field" (by decide))).1 rfl "UI").1 h
    exact absurd hdots.1.1 (by decide)
  · exact ((hfields _ (hnamed "field" (by decide))).2 rfl).2 ⟨by decide, by decide, rfl, rfl⟩
  · have htexts := hreached awkwardNames _ htext
      { name := some "text", type := some "UI.Text" } (hnamed "text" (by decide))
    exact (htexts.1 rfl _).2 ⟨by decide, rfl, rfl⟩
  · exact ((hparsed "UI.Text" "" _ rfl).1 (by decide)).2

end CallerStubs
