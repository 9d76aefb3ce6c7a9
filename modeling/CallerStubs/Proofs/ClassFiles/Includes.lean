/-
  Caller stubs — the files that the source file includes.

  The source file begins with lines that depend on the names of the two files
  only.  Its own header is the first file that it includes by a name in
  quotation marks; what comes behind these lines has no part in that.

  * `quotedIncludes`: the files that a text includes by such names;
  * `ClassFrame.sourceLines`: the first lines of the source file;
  * `ClassFrame.quotedIncludes_sourceText`: the header is included first.
-/
import CallerStubs.Proofs.ClassFiles.Layout
import CallerStubs.Proofs.Text.Split

namespace CallerStubs

/-! ## Included files -/

/-- The file that a line includes by a name in quotation marks. -/
def includedFile? (line : String) : Option String :=
  if "#include \"".toList.isPrefixOf line.toList then
    some (String.ofList ((line.toList.drop "#include \"".length).takeWhile (· != '"')))
  else none

/-- The files that a text includes by names in quotation marks, in order. -/
def quotedIncludes (text : String) : List String :=
  (Text.splitText '\n' text).filterMap includedFile?

theorem includedFile?_include {name : String} (h : '"' ∉ name.toList) :
    includedFile? ("#include \"" ++ name ++ "\"") = some name := by
  have hname : (name.toList ++ ['"']).takeWhile (· != '"') = name.toList := by
    rw [List.takeWhile_append_of_pos fun c hc => by simpa using ne_of_mem_of_not_mem hc h]
    simp
  rw [includedFile?, String.append_assoc, String.toList_append,
    if_pos (List.isPrefixOf_iff_prefix.2 (List.prefix_append ..)), ← String.length_toList,
    List.drop_left, String.toList_append]
  rw [show "\"".toList = ['"'] from rfl, hname, String.ofList_toList]

theorem quotedIncludes_lines (rest : String) : ∀ {lines : List String},
    (∀ line ∈ lines, '\n' ∉ line.toList) →
    quotedIncludes (textOf (lines.map (· ++ "\n")) ++ rest) =
      lines.filterMap includedFile? ++ quotedIncludes rest
  | [], _ => by simp
  | line :: lines, h => by
    have hrest := quotedIncludes_lines rest fun l hl => h l (List.mem_cons_of_mem _ hl)
    unfold quotedIncludes at hrest ⊢
    rw [List.map_cons, textOf_cons, String.append_assoc,
      show "\n" = String.singleton '\n' from rfl,
      Text.splitText_cons (h line (List.mem_cons_self ..)), List.filterMap_cons,
      List.filterMap_cons]
    rw [show String.singleton '\n' = "\n" from rfl, hrest]
    cases includedFile? line <;> rfl

/-! ## The source file -/

/-- The first lines of a source file. -/
def ClassFrame.sourceLines (f : ClassFrame) : List String := [
  "// Warning! This file is generated by 'rpcstub'. Edit at your own risk.",
  "/**",
  " * @file " ++ f.sourceName,
  " * @brief Generated class that process requests from qtHMI",
  " */",
  "#include \"" ++ f.headerName ++ "\"",
  "#include <QtDBus/QDBusConnection>",
  "#include <QtDBus/QDBusInterface>",
  "#include \"hmi_requests.h\""]

theorem exists_sourceText_eq_lines (f : ClassFrame) (groups : List StubGroup) :
    ∃ rest, f.sourceText groups = textOf (f.sourceLines.map (· ++ "\n")) ++ rest := by
  have hcomment : "/**\n * @file " = "/**" ++ "\n" ++ " * @file " := rfl
  have hbrief : "\n * @brief Generated class that process requests from qtHMI\n */\n" =
      "\n" ++ " * @brief Generated class that process requests from qtHMI" ++ "\n" ++ " */" ++
        "\n" := rfl
  have hquote : "\"\n" = "\"" ++ "\n" := rfl
  have hrequests : "#include \"hmi_requests.h\"\n\n" =
      "#include \"hmi_requests.h\"" ++ "\n" ++ "\n" := rfl
  simp only [ClassFrame.sourceText, ClassFrame.sourceStart, ClassFrame.fileComment,
    ClassFrame.sourceLines, List.map_cons, List.map_nil, textOf_cons, textOf_nil, hcomment, hbrief,
    hquote, hrequests, String.append_assoc, String.empty_append]
  exact ⟨_, rfl⟩

namespace ClassFrame

variable {f : ClassFrame}

theorem newline_notMem_sourceLines (hheader : '\n' ∉ f.headerName.toList)
    (hsource : '\n' ∉ f.sourceName.toList) : ∀ line ∈ f.sourceLines, '\n' ∉ line.toList := by
  simp [sourceLines, hheader, hsource]

theorem filterMap_includedFile?_sourceLines (hquote : '"' ∉ f.headerName.toList) :
    f.sourceLines.filterMap includedFile? = [f.headerName, "hmi_requests.h"] := by
  have hcomment : includedFile? (" * @file " ++ f.sourceName) = none := by
    rw [includedFile?, String.toList_append]
    rfl
  have hrequests : includedFile? "#include \"hmi_requests.h\"" = some "hmi_requests.h" := rfl
  have hothers : ∀ line ∈ [
      "// Warning! This file is generated by 'rpcstub'. Edit at your own risk.", "/**",
      " * @brief Generated class that process requests from qtHMI", " */",
      "#include <QtDBus/QDBusConnection>", "#include <QtDBus/QDBusInterface>"],
      includedFile? line = none := by decide
  simp [sourceLines, hcomment, hrequests, hothers, includedFile?_include hquote]

/-- **The source file includes its header first**, by the name that the header
    has. -/
theorem quotedIncludes_sourceText (hheader : '\n' ∉ f.headerName.toList)
    (hquote : '"' ∉ f.headerName.toList) (hsource : '\n' ∉ f.sourceName.toList)
    (groups : List StubGroup) :
    [f.headerName, "hmi_requests.h"] <+: quotedIncludes (f.sourceText groups) := by
  obtain ⟨rest, hlines⟩ := exists_sourceText_eq_lines f groups
  rw [hlines, quotedIncludes_lines rest (newline_notMem_sourceLines hheader hsource),
    filterMap_includedFile?_sourceLines hquote]
  exact List.prefix_append ..

end ClassFrame

end CallerStubs
