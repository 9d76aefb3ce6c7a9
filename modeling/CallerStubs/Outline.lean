/-
  Caller stubs — indented source text.

  Source text is laid out from an outline of lines and blocks.  The lines of a
  block's body stand one level deeper than the lines that open and close it.

  * `Outline`: a line or a block;
  * `Outline.lines`: its lines, each with its level;
  * `Outline.text`: its text, two spaces per level.
-/
namespace CallerStubs

/-- A piece of source text. -/
inductive Outline where
  | line (text : String)
  | block (opening : String) (body : List Outline) (closing : String)

/-- A line of text and the level on which it stands. -/
structure PlacedLine where
  level : Nat
  text : String
  deriving DecidableEq, Repr

namespace Outline

mutual

/-- The lines of a piece that stands on a level. -/
def lines (level : Nat) : Outline → List PlacedLine
  | .line text => [⟨level, text⟩]
  | .block opening body closing =>
    ⟨level, opening⟩ :: (linesAll (level + 1) body ++ [⟨level, closing⟩])

/-- The lines of several pieces that stand on a level. -/
def linesAll (level : Nat) : List Outline → List PlacedLine
  | [] => []
  | o :: os => lines level o ++ linesAll level os

end

end Outline

/-- The indentation of a level. -/
def indentation (level : Nat) : String :=
  String.ofList (List.replicate (2 * level) ' ')

/-- The text of a line with its end.  An empty line is not indented. -/
def PlacedLine.render (l : PlacedLine) : String :=
  if l.text = "" then "\n" else indentation l.level ++ l.text ++ "\n"

/-- The text of lines, one after the other. -/
def renderLines (ls : List PlacedLine) : String :=
  String.join (ls.map PlacedLine.render)

/-- The text of pieces that stand on a level. -/
def Outline.text (level : Nat) (os : List Outline) : String :=
  renderLines (Outline.linesAll level os)

end CallerStubs
