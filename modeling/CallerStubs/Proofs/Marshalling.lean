/-
  Caller stubs — the arguments of a call stand in the order of its parameters.

  A dispatcher reads the list of arguments by position.  A body therefore has
  one block of lines for each parameter, in their order, and each block adds
  one argument.  The lines that add arguments can be told from all others by
  how they begin, whatever the names and types are.

  * `plainBlock`, `envelopeBlock`, `Param.block`: the lines for one parameter;
  * `bodyText`, `bodyText_eq`: the text of a body, block by block;
  * `BodyInOrder`, `bodyText_inOrder`: the lines that add arguments are one
    for each parameter, in the order of the parameters.
-/
import CallerStubs.Marshalling
import CallerStubs.Proofs.Outline
import Mathlib.Data.List.Infix

namespace CallerStubs

/-! ## Blocks -/

/-- The line that adds a parameter as it is. -/
def plainBlock (name : String) : List String :=
  ["args << " ++ name ++ ";"]

/-- The lines that add a parameter in an envelope for a value of a type.  The
    envelope is declared, it is told whether there is a value, it takes the
    value, and only then is it added. -/
def envelopeBlock (name type : String) : List String := [
  "OptionalArgument< " ++ type ++ " > o_" ++ name ++ ";",
  "o_" ++ name ++ ".presence = !" ++ name ++ ".isNull();",
  "o_" ++ name ++ ".val = " ++ name ++ ".value< " ++ type ++ " >();",
  "args << QVariant::fromValue(o_" ++ name ++ ");"]

/-- The block of a parameter. -/
def Param.block (p : Param) : List String :=
  if p.mandatory then plainBlock p.name else envelopeBlock p.name p.valueType.text

/-- What a parameter adds to the list of arguments: itself, or its envelope. -/
def Param.argument (p : Param) : String :=
  if p.mandatory then p.name else "QVariant::fromValue(o_" ++ p.name ++ ")"

theorem Param.statements_eq_block (p : Param) : p.statements = p.block := by
  unfold statements block
  split_ifs
  · rfl
  · simp [envelopeBlock, envelope, appendLine, argumentList, ← String.toList_inj]

theorem Param.ne_empty_of_mem_block {p : Param} : ∀ line ∈ p.block, line ≠ "" := by
  intro line hline
  unfold block at hline
  split_ifs at hline
  · simp only [plainBlock, List.mem_singleton] at hline
    simp [hline]
  · simp only [envelopeBlock, List.mem_cons, List.not_mem_nil, or_false] at hline
    rcases hline with rfl | rfl | rfl | rfl <;> simp

theorem Dispatch.statement_ne_empty (d : Dispatch) : d.statement ≠ "" := by
  unfold statement
  simp

/-! ## The text of a body -/

/-- Lines on one level, two spaces for each level, each with its end. -/
def linesOn (level : Nat) (texts : List String) : String :=
  String.join (texts.map fun text => String.ofList (List.replicate (2 * level) ' ') ++ text ++ "\n")

/-- The text of a body that stands on a level. -/
def bodyText (level : Nat) (params : List Param) (d : Dispatch) : String :=
  Outline.text level ((marshalling params d).map .line)

theorem linesOn_append (level : Nat) (texts more : List String) :
    linesOn level (texts ++ more) = linesOn level texts ++ linesOn level more := by
  rw [linesOn, List.map_append, String.join_append]
  rfl

theorem linesOn_flatMap {α : Type} (level : Nat) (f : α → List String) (as : List α) :
    linesOn level (as.flatMap f) = String.join (as.map fun a => linesOn level (f a)) := by
  induction as with
  | nil => rfl
  | cons a as ih => rw [List.flatMap_cons, linesOn_append, ih, List.map_cons, String.join_cons]

theorem renderLines_eq_linesOn {level : Nat} {texts : List String} (h : ∀ text ∈ texts, text ≠ "") :
    renderLines (texts.map fun text => ⟨level, text⟩) = linesOn level texts := by
  rw [renderLines, linesOn, List.map_map]
  congr 1
  refine List.map_congr_left fun text htext => ?_
  rw [Function.comp_apply, PlacedLine.render_eq_shown, PlacedLine.shown_of_ne (h text htext)]
  rfl

theorem marshalling_eq (params : List Param) (d : Dispatch) :
    marshalling params d =
      "QList<QVariant> args;" :: (params.flatMap Param.block ++ [d.statement]) := by
  rw [marshalling, funext Param.statements_eq_block]
  rfl

theorem ne_empty_of_mem_marshalling {params : List Param} {d : Dispatch} :
    ∀ line ∈ marshalling params d, line ≠ "" := by
  intro line hline
  rw [marshalling_eq, List.mem_cons, List.mem_append, List.mem_singleton] at hline
  rcases hline with rfl | hline | rfl
  · simp
  · obtain ⟨p, -, hp⟩ := List.mem_flatMap.1 hline
    exact Param.ne_empty_of_mem_block line hp
  · exact d.statement_ne_empty

/-- No line of a body is empty, so all of them are indented. -/
theorem bodyText_eq_linesOn (level : Nat) (params : List Param) (d : Dispatch) :
    bodyText level params d = linesOn level (marshalling params d) := by
  rw [bodyText, Outline.text_map_line, renderLines_eq_linesOn ne_empty_of_mem_marshalling]

/-- The text of a body is the declaration of the list of arguments, the blocks
    of the parameters, and the dispatch. -/
theorem bodyText_eq (level : Nat) (params : List Param) (d : Dispatch) :
    bodyText level params d =
      linesOn level ["QList<QVariant> args;"] ++
        String.join (params.map fun p => linesOn level p.block) ++ linesOn level [d.statement] := by
  rw [bodyText_eq_linesOn, marshalling_eq, ← List.singleton_append, linesOn_append, linesOn_append,
    linesOn_flatMap, String.append_assoc]

/-! ## Line breaks -/

/-- Neither the name of the parameter nor the path of its structure has a line
    break.  The path of an enumeration is not written. -/
structure Param.Unbroken (p : Param) : Prop where
  name : '\n' ∉ p.name.toList
  path : ∀ path, p.kind = .struct path →
    '\n' ∉ path.interface.toList ∧ '\n' ∉ path.name.toList

/-- No name of the dispatch has a line break. -/
structure Dispatch.Unbroken (d : Dispatch) : Prop where
  namespaceName : '\n' ∉ d.namespaceName.toList
  interface : '\n' ∉ d.interface.toList
  request : '\n' ∉ d.request.toList
  callback : '\n' ∉ d.callback.toList

theorem Param.Unbroken.valueType {p : Param} (h : p.Unbroken) : '\n' ∉ p.valueType.text.toList := by
  have hsingle : '\n' ∉ p.kind.hostType.text.toList := by
    cases hk : p.kind with
    | struct path =>
      obtain ⟨hinterface, hname⟩ := h.path path hk
      simp [ParamKind.hostType, HostType.text, TypePath.joined, hinterface, hname]
    | _ => simp [ParamKind.hostType, HostType.text]
  unfold Param.valueType
  split_ifs
  · split
    · simp [HostType.text]
    · simp [HostType.text, hsingle]
  · exact hsingle

theorem Param.Unbroken.block {p : Param} (h : p.Unbroken) :
    ∀ line ∈ p.block, '\n' ∉ line.toList := by
  intro line hline
  unfold Param.block at hline
  split_ifs at hline
  · simp only [plainBlock, List.mem_singleton] at hline
    simp [hline, h.name]
  · simp only [envelopeBlock, List.mem_cons, List.not_mem_nil, or_false] at hline
    rcases hline with rfl | rfl | rfl | rfl <;> simp [h.name, h.valueType]

theorem Dispatch.Unbroken.statement {d : Dispatch} (h : d.Unbroken) :
    '\n' ∉ d.statement.toList := by
  unfold Dispatch.statement argumentList
  simp [h.namespaceName, h.interface, h.request, h.callback]

theorem newline_notMem_marshalling {params : List Param} {d : Dispatch}
    (hparams : ∀ p ∈ params, p.Unbroken) (hd : d.Unbroken) :
    ∀ line ∈ marshalling params d, '\n' ∉ line.toList := by
  intro line hline
  rw [marshalling_eq, List.mem_cons, List.mem_append, List.mem_singleton] at hline
  rcases hline with rfl | hline | rfl
  · simp
  · obtain ⟨p, hp, hline⟩ := List.mem_flatMap.1 hline
    exact (hparams p hp).block line hline
  · exact hd.statement

/-- The lines of the text of a body are its lines, each with its indentation. -/
theorem lines_bodyText {level : Nat} {params : List Param} {d : Dispatch}
    (hparams : ∀ p ∈ params, p.Unbroken) (hd : d.Unbroken) :
    Text.lines (bodyText level params d) =
      (marshalling params d).map (indentation level ++ ·) := by
  have hlines : ∀ l ∈ (marshalling params d).map (fun text => (⟨level, text⟩ : PlacedLine)),
      '\n' ∉ l.text.toList := by
    intro l hl
    obtain ⟨line, hline, rfl⟩ := List.mem_map.1 hl
    exact newline_notMem_marshalling hparams hd line hline
  rw [bodyText, Outline.text_map_line, lines_renderLines hlines, List.map_map]
  refine List.map_congr_left fun line hline => ?_
  exact PlacedLine.shown_of_ne (ne_empty_of_mem_marshalling line hline)

/-! ## The lines that add arguments -/

/-- Does a text begin with another? -/
def beginsWith (start text : String) : Bool :=
  start.toList.isPrefixOf text.toList

theorem beginsWith_append_left (indent start text : String) :
    beginsWith (indent ++ start) (indent ++ text) = beginsWith start text := by
  rw [Bool.eq_iff_iff]
  simp only [beginsWith, List.isPrefixOf_iff_prefix, String.toList_append,
    List.prefix_append_right_inj]

theorem filter_map_indented (indent start : String) (lines : List String) :
    (lines.map (indent ++ ·)).filter (beginsWith (indent ++ start)) =
      (lines.filter (beginsWith start)).map (indent ++ ·) := by
  rw [List.filter_map]
  congr 1
  refine List.filter_congr fun line _ => ?_
  exact beginsWith_append_left indent start line

/-- A block has one line that adds an argument. -/
theorem Param.filter_block (p : Param) :
    p.block.filter (beginsWith "args << ") = ["args << " ++ p.argument ++ ";"] := by
  unfold block argument
  split_ifs
  · have hplain : beginsWith "args << " ("args << " ++ p.name ++ ";") = true := by
      simp [beginsWith]
    rw [plainBlock, List.filter_cons_of_pos hplain, List.filter_nil]
  · -- the first three lines begin with the name of a type or of an envelope
    have hdeclare : beginsWith "args << "
        ("OptionalArgument< " ++ p.valueType.text ++ " > o_" ++ p.name ++ ";") ≠ true := by
      simp [beginsWith, List.isPrefixOf]
    have hpresence : beginsWith "args << "
        ("o_" ++ p.name ++ ".presence = !" ++ p.name ++ ".isNull();") ≠ true := by
      simp [beginsWith, List.isPrefixOf]
    have hvalue : beginsWith "args << "
        ("o_" ++ p.name ++ ".val = " ++ p.name ++ ".value< " ++ p.valueType.text ++ " >();") ≠
          true := by
      simp [beginsWith, List.isPrefixOf]
    have hadd : beginsWith "args << " ("args << QVariant::fromValue(o_" ++ p.name ++ ");") =
        true := by
      simp [beginsWith]
    rw [envelopeBlock, List.filter_cons_of_neg hdeclare, List.filter_cons_of_neg hpresence,
      List.filter_cons_of_neg hvalue, List.filter_cons_of_pos hadd, List.filter_nil]
    simp [← String.toList_inj]

/-- Only the blocks add arguments. -/
theorem filter_marshalling (params : List Param) (d : Dispatch) :
    (marshalling params d).filter (beginsWith "args << ") =
      params.map fun p => "args << " ++ p.argument ++ ";" := by
  have hstart : beginsWith "args << " "QList<QVariant> args;" ≠ true := by decide
  have hend : beginsWith "args << " d.statement ≠ true := by
    unfold Dispatch.statement
    simp [beginsWith, List.isPrefixOf]
  have hblocks : (params.flatMap Param.block).filter (beginsWith "args << ") =
      params.map fun p => "args << " ++ p.argument ++ ";" := by
    induction params with
    | nil => rfl
    | cons p params ih =>
      rw [List.flatMap_cons, List.filter_append, p.filter_block, ih]
      rfl
  rw [marshalling_eq, List.filter_cons_of_neg hstart, List.filter_append, hblocks,
    List.filter_cons_of_neg hend, List.filter_nil, List.append_nil]

theorem Param.length_block (p : Param) : p.block.length = if p.mandatory then 1 else 4 := by
  unfold block
  split_ifs
  · rfl
  · rfl

theorem length_marshalling (params : List Param) (d : Dispatch) :
    (marshalling params d).length =
      2 + params.countP (·.mandatory) + 4 * params.countP (!·.mandatory) := by
  have hblocks : (params.flatMap Param.block).length =
      params.countP (·.mandatory) + 4 * params.countP (!·.mandatory) := by
    induction params with
    | nil => rfl
    | cons p params ih =>
      rw [List.flatMap_cons, List.length_append, ih, p.length_block, List.countP_cons,
        List.countP_cons]
      cases p.mandatory
      · simp; omega
      · simp; omega
  rw [marshalling_eq, List.length_cons, List.length_append, hblocks, List.length_singleton]
  omega

/-! ## Bodies -/

/-- **The text of a body keeps the order of the parameters.**  Between the
    declaration of the list of arguments and the dispatch it has one block for
    each parameter, which depends on this parameter only.  If no name has a
    line break, its lines that add arguments are one for each parameter. -/
structure BodyInOrder (level : Nat) (params : List Param) (d : Dispatch) (text : String) :
    Prop where
  blocks : text = linesOn level ["QList<QVariant> args;"] ++
    String.join (params.map fun p => linesOn level p.block) ++ linesOn level [d.statement]
  arguments : (∀ p ∈ params, p.Unbroken) → d.Unbroken →
    (Text.lines text).filter (beginsWith (indentation level ++ "args << ")) =
      params.map fun p => indentation level ++ ("args << " ++ p.argument ++ ";")
  count : (∀ p ∈ params, p.Unbroken) → d.Unbroken →
    (Text.lines text).length =
      2 + params.countP (·.mandatory) + 4 * params.countP (!·.mandatory)

/-- **Every body keeps the order of its parameters.** -/
theorem bodyText_inOrder (level : Nat) (params : List Param) (d : Dispatch) :
    BodyInOrder level params d (bodyText level params d) where
  blocks := bodyText_eq level params d
  arguments hparams hd := by
    rw [lines_bodyText hparams hd, filter_map_indented, filter_marshalling, List.map_map]
    rfl
  count hparams hd := by
    rw [lines_bodyText hparams hd, List.length_map, length_marshalling]

/-- Parameters of both kinds, one of them an array of structures. -/
def alertParams : List Param := [
  { name := "alertStrings", kind := .struct ⟨"Common", "TextField"⟩, array := true },
  { name := "duration", kind := .integer, mandatory := false },
  { name := "playTone", kind := .boolean }]

def alertDispatch : Dispatch where
  namespaceName := "requests"
  interface := "UI"
  request := "Alert"
  callback := "hmi_callback"

theorem alertBody_inOrder :
    (∀ p ∈ alertParams, p.Unbroken) ∧ alertDispatch.Unbroken ∧
      (Text.lines (bodyText 0 alertParams alertDispatch)).filter (beginsWith "args << ") =
        ["args << alertStrings;", "args << QVariant::fromValue(o_duration);",
          "args << playTone;"] ∧
      (Text.lines (bodyText 0 alertParams alertDispatch)).length = 8 := by
  have hparams : ∀ p ∈ alertParams, p.Unbroken := by
    simp only [alertParams, List.mem_cons, List.not_mem_nil, or_false]
    rintro p (rfl | rfl | rfl)
    · refine ⟨by decide, ?_⟩
      rintro path ⟨⟩
      decide
    · exact ⟨by decide, nofun⟩
    · exact ⟨by decide, nofun⟩
  have hd : alertDispatch.Unbroken := ⟨by decide, by decide, by decide, by decide⟩
  have h := bodyText_inOrder 0 alertParams alertDispatch
  exact ⟨hparams, hd, h.arguments hparams hd, h.count hparams hd⟩

end CallerStubs
