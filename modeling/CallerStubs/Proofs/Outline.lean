/-
  Caller stubs — the lines of an indented text.

  The text of an outline can be cut into lines again.  They are the lines that
  the outline was made of, unless one of those has a line break of its own.

  * `PlacedLine.shown`: a line as it stands in the text;
  * `Outline.text_map_line`, `Outline.text_block`: the text of a row of lines,
    and how the text of a block begins;
  * `Text.lines`, `lines_renderLines`: the lines of a text, and those of the
    text of an outline.
-/
import CallerStubs.Outline
import CallerStubs.Proofs.Text.Split

namespace CallerStubs

/-! ## Lines -/

/-- A line as it stands in the text. -/
def PlacedLine.shown (l : PlacedLine) : String :=
  if l.text = "" then "" else indentation l.level ++ l.text

theorem PlacedLine.render_eq_shown (l : PlacedLine) : l.render = l.shown ++ "\n" := by
  unfold render shown
  split_ifs
  · rfl
  · rfl

theorem PlacedLine.shown_of_ne {level : Nat} {text : String} (h : text ≠ "") :
    PlacedLine.shown ⟨level, text⟩ = indentation level ++ text :=
  if_neg h

theorem PlacedLine.newline_notMem_shown {l : PlacedLine} (h : '\n' ∉ l.text.toList) :
    '\n' ∉ l.shown.toList := by
  unfold shown
  split_ifs
  · simp
  · simp [indentation, h]

/-! ## Texts -/

theorem renderLines_cons (l : PlacedLine) (ls : List PlacedLine) :
    renderLines (l :: ls) = l.render ++ renderLines ls := by
  rw [renderLines, List.map_cons, String.join_cons]
  rfl

theorem renderLines_append (ls ms : List PlacedLine) :
    renderLines (ls ++ ms) = renderLines ls ++ renderLines ms := by
  rw [renderLines, List.map_append, String.join_append]
  rfl

namespace Outline

theorem linesAll_map_line (level : Nat) (texts : List String) :
    linesAll level (texts.map .line) = texts.map fun text => ⟨level, text⟩ := by
  induction texts with
  | nil => rfl
  | cons text texts ih =>
    rw [List.map_cons, linesAll, lines, ih]
    rfl

/-- The text of a row of lines on one level. -/
theorem text_map_line (level : Nat) (texts : List String) :
    text level (texts.map .line) = renderLines (texts.map fun text => ⟨level, text⟩) := by
  rw [text, linesAll_map_line]

/-- A block starts with the line that opens it. -/
theorem text_block {opening : String} (h : opening ≠ "") (body : List Outline)
    (closing : String) :
    text 0 [.block opening body closing] =
      opening ++ ("\n" ++ renderLines (linesAll 1 body ++ [⟨0, closing⟩])) := by
  have hrender : PlacedLine.render ⟨0, opening⟩ = opening ++ "\n" := by
    rw [PlacedLine.render_eq_shown, PlacedLine.shown_of_ne h]
    simp [indentation]
  rw [text, linesAll, linesAll, List.append_nil, lines, renderLines_cons, hrender,
    String.append_assoc]

end Outline

/-! ## The lines of a text -/

/-- The lines of a text in which every line ends with a break. -/
def Text.lines (s : String) : List String :=
  (splitText '\n' s).dropLast

theorem splitText_renderLines : ∀ {ls : List PlacedLine}, (∀ l ∈ ls, '\n' ∉ l.text.toList) →
    Text.splitText '\n' (renderLines ls) = ls.map PlacedLine.shown ++ [""]
  | [], _ => rfl
  | l :: ls, h => by
    have hl : '\n' ∉ l.shown.toList := PlacedLine.newline_notMem_shown (h l (List.mem_cons_self ..))
    have hrest := splitText_renderLines fun m hm => h m (List.mem_cons_of_mem _ hm)
    rw [renderLines_cons, PlacedLine.render_eq_shown, show "\n" = String.singleton '\n' from rfl,
      Text.splitText_cons hl, hrest]
    rfl

/-- **The lines of the text of an outline** are those that it was made of. -/
theorem lines_renderLines {ls : List PlacedLine} (h : ∀ l ∈ ls, '\n' ∉ l.text.toList) :
    Text.lines (renderLines ls) = ls.map PlacedLine.shown := by
  rw [Text.lines, splitText_renderLines h, List.dropLast_concat]

end CallerStubs
