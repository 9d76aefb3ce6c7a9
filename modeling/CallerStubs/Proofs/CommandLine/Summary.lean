/-
  Caller stubs — what a check lists.

  A check prints a line for each interface and below it a line for each of its
  methods.  The same methods are declared in the header: its lines for them
  are the lines of the check, with the names of the parameters beside their
  types.

  * `Summary`, `Summary.text`: what a check says, and how it is printed;
  * `Summary.Lists`: the summary of a document and of the header that is made
    from it;
  * `Generation.summarized`, `Generation.checkText_eq_text`: what is printed
    for a generation;
  * `Document.Describes.lists`: it is such a summary.
-/
import CallerStubs.CommandLine.Outcome
import CallerStubs.Proofs.Generation.Definition
import CallerStubs.Proofs.Generation.Methods
import Mathlib.Algebra.GroupWithZero.Nat

namespace CallerStubs

/-! ## Summaries -/

/-- What a check says of a method. -/
structure SummaryEntry where
  method : String
  types : List String
  response : Option String

/-- What a check says of an interface. -/
structure SummaryGroup where
  interface : String
  count : Nat
  entries : List SummaryEntry

/-- What a check says. -/
structure Summary where
  groups : List SummaryGroup
  headerName : String
  total : Nat

namespace SummaryEntry

def text (e : SummaryEntry) : String :=
  "  " ++ e.method ++ "(" ++ String.intercalate ", " e.types ++ ") -> " ++ e.response.getD "-" ++
    "\n"

/-- The line that declares the method in a header, when its parameters have
    these names. -/
def declarationLine (e : SummaryEntry) (names : List String) : String :=
  "  Q_INVOKABLE void " ++ e.method ++ "(" ++
    String.intercalate ", " (List.zipWith (fun type name => type ++ " " ++ name) e.types names) ++
      ");\n"

end SummaryEntry

def SummaryGroup.text (a : SummaryGroup) : String :=
  a.interface ++ " (" ++ toString a.count ++ " requests)\n" ++
    String.join (a.entries.map (·.text))

namespace Summary

def text (u : Summary) : String :=
  String.join (u.groups.map (·.text)) ++
    ("OK: " ++ u.headerName ++ " would be generated with " ++ toString u.total ++ " requests\n")

def entries (u : Summary) : List SummaryEntry :=
  u.groups.flatMap (·.entries)

/-- **The summary of a document and of the header of a class.**  It has each
    interface of the document once and in its order, with the number of its
    methods.  The header has a line for each of these methods, in the same
    order, and no other lines for methods. -/
structure Lists (u : Summary) (d : Document) (f : ClassFrame) (header : Artifact) : Prop where
  interfaces : d.interfaces.map (·.name) = u.groups.map fun a => some a.interface
  distinct : (u.groups.map (·.interface)).Nodup
  count : ∀ a ∈ u.groups, a.count = a.entries.length
  total : (u.groups.map (·.count)).sum = u.total
  headerName : header.fileName = u.headerName
  declares : ∃ names : List (List String),
    List.Forall₂ (fun e ns => ns.length = e.types.length) u.entries names ∧
      header.contents = f.headerStart ++
        String.join (List.zipWith SummaryEntry.declarationLine u.entries names) ++
        ClassFrame.headerMiddle ++
        String.join (u.groups.map fun a => ClassFrame.memberLine a.interface) ++ f.headerEnd

end Summary

/-! ## The summary of a generation -/

def Stub.entry (x : Stub) : SummaryEntry where
  method := x.signature.name
  types := x.signature.parameterTypes
  response := x.response

def StubGroup.summarized (a : StubGroup) : SummaryGroup where
  interface := a.name
  count := a.stubs.length
  entries := a.stubs.map Stub.entry

def Generation.summarized (g : Generation) : Summary where
  groups := g.groups.map StubGroup.summarized
  headerName := g.header.fileName
  total := g.requestCount

theorem Stub.checkLine_eq_text (x : Stub) : x.checkLine = x.entry.text :=
  rfl

theorem StubGroup.checkLines_eq_text (a : StubGroup) : a.checkLines = a.summarized.text := by
  unfold checkLines SummaryGroup.text summarized
  simp only [textOf_eq_join, List.map_map, Function.comp_def, ← Stub.checkLine_eq_text]
  rfl

/-- What is printed for a generation is its summary. -/
theorem Generation.checkText_eq_text (g : Generation) : g.checkText = g.summarized.text := by
  unfold checkText Summary.text summarized
  simp only [textOf_eq_join, List.map_map, Function.comp_def, ← StubGroup.checkLines_eq_text]
  rfl

theorem Generation.entries_summarized (g : Generation) :
    g.summarized.entries = (stubsOf g.groups).map Stub.entry := by
  rw [Summary.entries, summarized, List.flatMap_map, stubsOf, List.map_flatMap]
  rfl

/-! ## The header of a generation -/

/-- The line that declares a method shows what the check says of it. -/
theorem Stub.declarationLine_eq {x : Stub} (h : x.declaration = x.signature.declaration) :
    ClassFrame.declarationLine x = x.entry.declarationLine x.signature.parameterNames := by
  unfold ClassFrame.declarationLine SummaryEntry.declarationLine
  rw [h]
  unfold Signature.declaration
  simp [entry, Signature.parameterList_eq_zipWith, ← String.toList_inj]

/-- A method is declared as its signature says. -/
theorem Api.declaration_eq (api : Api) (s : Settings) :
    ∀ x ∈ stubsOf (api.stubGroups s), x.declaration = x.signature.declaration := by
  intro x hx
  obtain ⟨a, ha, hxa⟩ := List.mem_flatMap.1 hx
  obtain ⟨i, -, rfl⟩ := List.mem_map.1 ha
  obtain ⟨e, -, rfl⟩ := List.mem_map.1 hxa
  rfl

/-- The lines of the header that declare methods show what the check says of
    them. -/
theorem Generation.map_declarationLine_eq (s : Settings) (api : Api) :
    let g := Generation.ofApi s api
    (stubsOf g.groups).map ClassFrame.declarationLine =
      List.zipWith SummaryEntry.declarationLine g.summarized.entries
        ((stubsOf g.groups).map (·.signature.parameterNames)) := by
  intro g
  rw [entries_summarized, List.zipWith_map, List.zipWith_self]
  exact List.map_congr_left fun x hx => Stub.declarationLine_eq (api.declaration_eq s x hx)

theorem Signature.length_parameterNames (x : Signature) :
    x.parameterNames.length = x.parameterTypes.length := by
  simp [parameterNames, parameterTypes]

variable {d : Document} {api : Api}

/-- **The summary of a generation is that of its document and of its
    header.** -/
theorem Document.Describes.lists (h : d.Describes api) (s : Settings) :
    (Generation.ofApi s api).summarized.Lists d s.frame (Generation.ofApi s api).header := by
  have hnames : (Generation.ofApi s api).summarized.groups.map (·.interface) =
      api.interfaces.map (·.name) := by
    rw [← api.map_name_stubGroups s, Generation.summarized, List.map_map]
    rfl
  have hmembers : (Generation.ofApi s api).summarized.groups.map
        (fun a => ClassFrame.memberLine a.interface) =
      (Generation.ofApi s api).groups.map (fun a => ClassFrame.memberLine a.name) := by
    rw [Generation.summarized, List.map_map]
    rfl
  constructor
  case interfaces =>
    have hsome := congrArg (List.map some) hnames
    rw [List.map_map, List.map_map] at hsome
    exact (map_eq_map_of_forall₂ (fun _ _ hi => hi.name) h.interfaces).trans hsome.symm
  case distinct =>
    rw [hnames]
    exact h.distinct
  case count =>
    intro a ha
    obtain ⟨b, -, rfl⟩ := List.mem_map.1 ha
    exact (List.length_map ..).symm
  case total =>
    rw [Generation.summarized, List.map_map, Generation.requestCount, stubsOf, List.length_flatMap]
    rfl
  case headerName => rfl
  case declares =>
    refine ⟨(stubsOf (Generation.ofApi s api).groups).map (·.signature.parameterNames), ?_, ?_⟩
    · rw [Generation.entries_summarized, List.forall₂_map_left_iff, List.forall₂_map_right_iff,
        List.forall₂_same]
      exact fun x _ => x.signature.length_parameterNames
    · rw [← Generation.map_declarationLine_eq, hmembers, ← textOf_eq_join, ← textOf_eq_join]
      rfl

end CallerStubs
