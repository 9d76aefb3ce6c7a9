/-
  Caller stubs — block scalars of a YAML text.

  A block scalar is written as indented lines under its header.  A literal one
  keeps its lines; a folded one joins them by spaces where neither begins with
  a space.  The header says what becomes of the breaks at the end.

  * `BlockHeader`, `readBlockHeader`: the header;
  * `BlockGap`, `readBlockGap`: indentation and empty lines;
  * `readBlock`: the scalar behind its indicator.
-/
import CallerStubs.Text.Number
import CallerStubs.Yaml.Cursor

namespace CallerStubs.Yaml

/-! ## Headers -/

/-- What becomes of the breaks behind the last line. -/
inductive Chomping where
  /-- All are dropped. -/
  | strip
  /-- The first is kept. -/
  | clip
  /-- All are kept. -/
  | keep
  deriving DecidableEq, Repr

/-- The header of a block scalar. -/
structure BlockHeader where
  chomping : Chomping
  /-- The indentation, if the header gives it. -/
  indent : Option Nat
  deriving DecidableEq, Repr

/-- The sign at the start of a text that says how to chomp. -/
def readChomping : List Char → Chomping × List Char
  | '-' :: cs => (.strip, cs)
  | '+' :: cs => (.keep, cs)
  | cs => (.clip, cs)

/-- The digit at the start of a text that gives an indentation.  It may not
    be zero. -/
def readIndentDigit : List Char → Option (Option Nat × List Char)
  | [] => some (none, [])
  | c :: cs =>
    match Text.digitValue? 10 c with
    | none => some (none, c :: cs)
    | some 0 => none
    | some n => some (some n, cs)

/-- The header at the start of a text: a sign and a digit in either order, both
    optional. -/
def readBlockHeader (cs : List Char) : Option (BlockHeader × List Char) := do
  let (chomping, cs) := readChomping cs
  let (indent, cs) ← readIndentDigit cs
  let (chomping, cs) := if chomping = .clip then readChomping cs else (chomping, cs)
  some (⟨chomping, indent⟩, cs)

/-! ## Lines -/

/-- What stands before a line of a block scalar: its indentation, and empty
    lines. -/
structure BlockGap where
  breaks : List Char
  /-- The greatest column at which a line ended or began. -/
  widest : Nat
  after : Cursor
  deriving DecidableEq, Repr

/-- The indentation and the empty lines at the start of a text.  All spaces
    are indentation if `indent` is not known. -/
def readBlockGap (indent : Option Nat) (line column : Nat) : List Char → Option BlockGap
  | [] => some ⟨[], column, ⟨[], line, column⟩⟩
  | c :: cs =>
    let indenting := match indent with
      | none => true
      | some n => decide (column < n)
    if isBreak c then do
      let g ← readBlockGap indent (line + 1) 0 cs
      some { g with breaks := c :: g.breaks, widest := max column g.widest }
    else if indenting && c == ' ' then readBlockGap indent line (column + 1) cs
    else if indenting && c == '\t' then none
    else some ⟨[], column, ⟨c :: cs, line, column⟩⟩

/-- What has been read since the text of the last line. -/
structure BlockJoint where
  /-- The break at the end of the line. -/
  ending : List Char := []
  /-- The empty lines behind it. -/
  empties : List Char := []
  /-- Did the line begin with spacing? -/
  spaced : Bool := false

/-- What stands between a line and the next, which begins with spacing if
    `spaced` says so. -/
def BlockJoint.text (j : BlockJoint) (folded spaced : Bool) : List Char :=
  if folded && j.ending == ['\n'] && !j.spaced && !spaced then
    if j.empties.isEmpty then [' '] else j.empties
  else j.ending ++ j.empties

/-- What is left at the end of the scalar. -/
def BlockJoint.last (j : BlockJoint) : Chomping → List Char
  | .strip => []
  | .clip => j.ending
  | .keep => j.ending ++ j.empties

/-- The lines of a block scalar, after what `joint` holds.  The first argument
    bounds their number. -/
def readBlockLines (folded : Bool) (chomping : Chomping) (indent : Nat) :
    Nat → BlockJoint → Cursor → Option (List Char × Cursor)
  | 0, _, _ => none
  | n + 1, joint, k =>
    if k.column = indent ∧ k.rest ≠ [] then do
      let content := k.rest.takeWhile (!isBreak ·)
      let spaced := (k.rest.take 1).any isSpacing
      let ends := k.rest.dropWhile (!isBreak ·)
      let next := (k.advance content.length).pastBreak
      let gap ← readBlockGap (some indent) next.line next.column next.rest
      let (more, after) ←
        readBlockLines folded chomping indent n ⟨ends.take 1, gap.breaks, spaced⟩ gap.after
      some (joint.text folded spaced ++ content ++ more, after)
    else some (joint.last chomping, k)

/-! ## Scalars -/

/-- The place behind spacing and a comment. -/
def skipComment (cs : List Char) : List Char :=
  let cs := cs.dropWhile isSpacing
  if cs.take 1 = ['#'] then cs.dropWhile (!isBreak ·) else cs

/-- The block scalar whose indicator stands before `k`, in a collection whose
    content begins at column `base`.  Its lines stand further right: as far as
    the header says, else as far as the first of them. -/
def readBlock (folded : Bool) (base : Nat) (k : Cursor) : Option (List Char × Cursor) := do
  let (header, cs) ← readBlockHeader k.rest
  let cs := skipComment cs
  if (cs.take 1).any (!isBreak ·) then none
  else
    let start := (k.moveTo cs).pastBreak
    let given := header.indent.map (base + ·)
    let gap ← readBlockGap given start.line start.column start.rest
    let indent := given.getD (max gap.widest (base + 1))
    readBlockLines folded header.chomping indent (start.rest.length + 1)
      ⟨[], gap.breaks, false⟩ gap.after

end CallerStubs.Yaml
