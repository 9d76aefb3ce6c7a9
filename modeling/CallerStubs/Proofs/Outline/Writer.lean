/-
  Caller stubs — writing an outline piece by piece.

  A writer has one text, to which it appends, and one level, which a block
  raises before its body and lowers behind it.  What it appends is the text of
  the outline, and the level is the same again after each piece; so the text of
  a block is that of its body moved in, and the levels can be read off the text.

  * `Writer`, `Writer.write`, `Writer.writeAll`: how pieces are written;
  * `Writer.writeAll_eq`: what is written, and the level behind it;
  * `movedIn`, `movedIn_renderLines`: a text with two more spaces before its
    lines;
  * `PlacedLine.ofShown`: a line and its level, read off the text;
  * `Outline.Reversible`, `outline_reversible`: what holds of every outline.
-/
import CallerStubs.Proofs.Outline
import Mathlib.Data.List.TakeWhile

namespace CallerStubs

/-! ## Writers -/

/-- A text that is being written, and the level of its next line. -/
structure Writer where
  out : String
  level : Nat

namespace Writer

/-- Writes a line on the current level. -/
def line (w : Writer) (text : String) : Writer :=
  { w with out := w.out ++ PlacedLine.render ⟨w.level, text⟩ }

mutual

/-- Writes a piece.  The level is raised for the body of a block, and lowered
    again from where the body leaves it. -/
def write (w : Writer) : Outline → Writer
  | .line text => w.line text
  | .block opening body closing =>
    let inner := writeAll { w.line opening with level := w.level + 1 } body
    line { inner with level := inner.level - 1 } closing

/-- Writes several pieces. -/
def writeAll (w : Writer) : List Outline → Writer
  | [] => w
  | o :: os => writeAll (w.write o) os

end

mutual

/-- A piece is appended as its lines, and leaves the level as it was. -/
theorem write_eq (w : Writer) :
    ∀ o : Outline, w.write o = ⟨w.out ++ renderLines (o.lines w.level), w.level⟩
  | .line text => by
    rw [write, line, Outline.lines, renderLines_cons]
    simp [renderLines]
  | .block opening body closing => by
    rw [write, writeAll_eq, Outline.lines, renderLines_cons, renderLines_append, renderLines_cons]
    simp [line, Outline.text, renderLines, String.append_assoc]

/-- **Pieces are appended as their text, and leave the level as it was.** -/
theorem writeAll_eq (w : Writer) :
    ∀ os : List Outline, w.writeAll os = ⟨w.out ++ Outline.text w.level os, w.level⟩
  | [] => by
    rw [writeAll, Outline.text, Outline.linesAll]
    simp [renderLines]
  | o :: os => by
    rw [writeAll, write_eq, writeAll_eq, Outline.text, Outline.text, Outline.linesAll,
      renderLines_append, String.append_assoc]

end

end Writer

/-! ## Levels -/

/-- The line, one level deeper. -/
def PlacedLine.deeper (l : PlacedLine) : PlacedLine :=
  { l with level := l.level + 1 }

/-- A line is moved in by two spaces, unless it is empty. -/
def lineMovedIn (line : String) : String :=
  if line = "" then "" else "  " ++ line

/-- A text with its lines moved in. -/
def movedIn (text : String) : String :=
  String.join ((Text.lines text).map fun line => lineMovedIn line ++ "\n")

theorem indentation_succ (level : Nat) : indentation (level + 1) = "  " ++ indentation level := by
  rw [← String.toList_inj]
  simp [indentation, Nat.mul_succ, List.replicate_succ]

theorem PlacedLine.shown_deeper (l : PlacedLine) : l.deeper.shown = lineMovedIn l.shown := by
  by_cases h : l.text = ""
  · simp [lineMovedIn, shown, deeper, h]
  · simp [lineMovedIn, shown, deeper, h, indentation_succ, String.append_assoc]

/-- **Lines one level deeper are the same text, moved in.** -/
theorem movedIn_renderLines {ls : List PlacedLine} (h : ∀ l ∈ ls, '\n' ∉ l.text.toList) :
    movedIn (renderLines ls) = renderLines (ls.map PlacedLine.deeper) := by
  rw [movedIn, lines_renderLines h, renderLines, List.map_map, List.map_map]
  congr 1
  refine List.map_congr_left fun l _ => ?_
  rw [Function.comp_apply, Function.comp_apply, PlacedLine.render_eq_shown, l.shown_deeper]

namespace Outline

mutual

theorem lines_succ (level : Nat) :
    ∀ o : Outline, o.lines (level + 1) = (o.lines level).map PlacedLine.deeper
  | .line text => rfl
  | .block opening body closing => by
    rw [lines, lines, linesAll_succ, List.map_cons, List.map_append]
    rfl

/-- One level deeper, each line is one level deeper. -/
theorem linesAll_succ (level : Nat) :
    ∀ os : List Outline, linesAll (level + 1) os = (linesAll level os).map PlacedLine.deeper
  | [] => rfl
  | o :: os => by
    rw [linesAll, linesAll, lines_succ, linesAll_succ, List.map_append]

end

theorem linesAll_append (level : Nat) (os more : List Outline) :
    linesAll level (os ++ more) = linesAll level os ++ linesAll level more := by
  induction os with
  | nil => rfl
  | cons o os ih => rw [List.cons_append, linesAll, linesAll, ih, List.append_assoc]

mutual

/-- The texts of the lines of a piece. -/
def texts : Outline → List String
  | .line text => [text]
  | .block opening body closing => opening :: (textsAll body ++ [closing])

/-- The texts of the lines of several pieces. -/
def textsAll : List Outline → List String
  | [] => []
  | o :: os => o.texts ++ textsAll os

end

mutual

theorem map_text_lines (level : Nat) : ∀ o : Outline, (o.lines level).map (·.text) = o.texts
  | .line text => rfl
  | .block opening body closing => by
    rw [lines, texts, List.map_cons, List.map_append, map_text_linesAll]
    rfl

theorem map_text_linesAll (level : Nat) :
    ∀ os : List Outline, (linesAll level os).map (·.text) = textsAll os
  | [] => rfl
  | o :: os => by
    rw [linesAll, textsAll, List.map_append, map_text_lines, map_text_linesAll]

end

theorem forall_linesAll {P : String → Prop} (level : Nat) {os : List Outline}
    (h : ∀ text ∈ textsAll os, P text) : ∀ l ∈ linesAll level os, P l.text := by
  intro l hl
  refine h l.text ?_
  rw [← map_text_linesAll level]
  exact List.mem_map_of_mem hl

end Outline

/-! ## Lines read back -/

/-- The line that is shown as a text: two leading spaces stand for a level. -/
def PlacedLine.ofShown (shown : String) : PlacedLine where
  level := (shown.toList.takeWhile (· == ' ')).length / 2
  text := String.ofList (shown.toList.dropWhile (· == ' '))

/-- **A line is read off its text**, unless it is empty or begins with a space
    itself. -/
theorem PlacedLine.ofShown_shown {l : PlacedLine} (hne : l.text ≠ "")
    (hspace : l.text.toList.head? ≠ some ' ') : ofShown l.shown = l := by
  obtain ⟨level, text⟩ := l
  obtain ⟨c, cs, htext⟩ := List.exists_cons_of_ne_nil (String.toList_eq_nil_iff.not.2 hne)
  have hc : (c == ' ') = false := by
    simpa [htext] using hspace
  have hblank : ∀ x ∈ List.replicate (2 * level) ' ', (x == ' ') = true := by
    intro x hx
    simp [List.eq_of_mem_replicate hx]
  have hshown : (PlacedLine.shown ⟨level, text⟩).toList =
      List.replicate (2 * level) ' ' ++ c :: cs := by
    rw [shown_of_ne hne, String.toList_append, htext, indentation, String.toList_ofList]
  have htake : (List.replicate (2 * level) ' ' ++ c :: cs).takeWhile (· == ' ') =
      List.replicate (2 * level) ' ' := by
    rw [List.takeWhile_append_of_pos hblank, List.takeWhile_cons_of_neg (by simp [hc]),
      List.append_nil]
  have hdrop : (List.replicate (2 * level) ' ' ++ c :: cs).dropWhile (· == ' ') = c :: cs := by
    rw [List.dropWhile_append_of_pos hblank, List.dropWhile_cons_of_neg (by simp [hc])]
  rw [ofShown, hshown, htake, hdrop, List.length_replicate, ← htext, String.ofList_toList,
    Nat.mul_div_cancel_left level (by decide)]

/-! ## Outlines -/

/-- **The text of an outline is made piece by piece, and can be taken apart
    again.**  Writing it leaves the level as it was, pieces in a row are texts
    in a row, and the body of a block is moved in by two spaces.  If no line is
    empty or begins with a space, half the number of its leading spaces is the
    level of a line. -/
structure Outline.Reversible (level : Nat) (os : List Outline) : Prop where
  written : ∀ out : String, Writer.writeAll ⟨out, level⟩ os = ⟨out ++ text level os, level⟩
  append : ∀ more : List Outline, text level (os ++ more) = text level os ++ text level more
  block : ∀ opening closing : String, text level [.block opening os closing] =
    text level [.line opening] ++ movedIn (text level os) ++ text level [.line closing]
  line : ∀ line : String, text level [.line line] =
    (if line = "" then "" else indentation level ++ line) ++ "\n"
  recovered : (∀ line ∈ textsAll os, line ≠ "" ∧ line.toList.head? ≠ some ' ') →
    (Text.lines (text level os)).map PlacedLine.ofShown = linesAll level os

/-- **Every outline is made and taken apart so**, if no line has a break. -/
theorem outline_reversible (level : Nat) {os : List Outline}
    (h : ∀ line ∈ Outline.textsAll os, '\n' ∉ line.toList) : Outline.Reversible level os := by
  have hline (line : String) :
      Outline.text level [.line line] = PlacedLine.render ⟨level, line⟩ := by
    simp [Outline.text, Outline.linesAll, Outline.lines, renderLines]
  have hunbroken : ∀ l ∈ Outline.linesAll level os, '\n' ∉ l.text.toList :=
    Outline.forall_linesAll level h
  constructor
  case written => exact fun out => Writer.writeAll_eq ⟨out, level⟩ os
  case append =>
    intro more
    rw [Outline.text, Outline.linesAll_append, renderLines_append]
    rfl
  case block =>
    intro opening closing
    rw [hline, hline, Outline.text, Outline.text, movedIn_renderLines hunbroken,
      ← Outline.linesAll_succ]
    simp [Outline.linesAll, Outline.lines, renderLines, String.append_assoc]
  case line =>
    intro line
    rw [hline, PlacedLine.render_eq_shown]
    rfl
  case recovered =>
    intro hshown
    have hreadable := Outline.forall_linesAll level hshown
    have hread : (Outline.linesAll level os).map (PlacedLine.ofShown ∘ PlacedLine.shown) =
        (Outline.linesAll level os).map id :=
      List.map_congr_left fun l hl =>
        PlacedLine.ofShown_shown (hreadable l hl).1 (hreadable l hl).2
    rw [Outline.text, lines_renderLines hunbroken, List.map_map, hread, List.map_id]

/-- A block in a block, with a line behind the inner one. -/
def nestedBlocks : List Outline := [
  .block "void f() \x7b" [
    .line "int a = 0;",
    .block "if (a) \x7b" [.line "a++;"] "\x7d",
    .line "g(a);"] "\x7d"]

theorem nestedBlocks_reversible :
    (∀ line ∈ Outline.textsAll nestedBlocks, '\n' ∉ line.toList) ∧
      (∀ line ∈ Outline.textsAll nestedBlocks, line ≠ "" ∧ line.toList.head? ≠ some ' ') ∧
      Writer.writeAll ⟨"", 0⟩ nestedBlocks =
        ⟨"void f() \x7b\n  int a = 0;\n  if (a) \x7b\n    a++;\n  \x7d\n  g(a);\n\x7d\n", 0⟩ ∧
      (Text.lines (Outline.text 0 nestedBlocks)).map PlacedLine.ofShown = [
        ⟨0, "void f() \x7b"⟩, ⟨1, "int a = 0;"⟩, ⟨1, "if (a) \x7b"⟩, ⟨2, "a++;"⟩, ⟨1, "\x7d"⟩,
        ⟨1, "g(a);"⟩, ⟨0, "\x7d"⟩] := by
  have hunbroken : ∀ line ∈ Outline.textsAll nestedBlocks, '\n' ∉ line.toList := by decide
  have hshown : ∀ line ∈ Outline.textsAll nestedBlocks,
      line ≠ "" ∧ line.toList.head? ≠ some ' ' := by decide
  have h := outline_reversible 0 hunbroken
  exact ⟨hunbroken, hshown, h.written "", h.recovered hshown⟩

end CallerStubs
