/-
  Caller stubs — what an element holds.

  An element that is read is seen as a row of parts: its child elements, and
  the runs of text between them.  Comments and instructions are not seen.  An
  element that has no meaning is passed over at once, and then hardly looked
  at, or set aside, and then everything in it has to be in order.

  * `Element`, `Part`: the parts of an element;
  * `partsOf?`: the parts that nodes make;
  * `textOf?`: the text of an element that holds nothing else;
  * `opensSoundly`: can an element with these children be passed over?
  * `allInOrder`: can it be set aside?
-/
import CallerStubs.Markup.Prefix
import CallerStubs.Markup.Reference

namespace CallerStubs.Markup

/-- An element and what it holds. -/
structure Element where
  name : List Char
  /-- The attributes as they are written behind the name. -/
  attributes : List Char
  children : List Node
  deriving Inhabited

/-- A part of what an element holds. -/
inductive Part where
  /-- A run of text, with nothing in it but comments and instructions. -/
  | text (chars : List Char)
  | element (e : Element)
  deriving Inhabited

/-- Is the part a run of space? -/
def Part.isBlank : Part → Bool
  | .text chars => chars.all isSpace
  | .element _ => false

/-- The part that a run of text makes. -/
def Part.ofRun (run : List Char) : List Part :=
  if run.isEmpty then [] else [.text run]

/-- The parts that nodes make, behind a run of text. -/
def partsBehind? (run : List Char) : List Node → Option (List Part)
  | [] => some (Part.ofRun run)
  | .text cs :: nodes | .cdata cs :: nodes => partsBehind? (run ++ unifyLineEnds cs) nodes
  | .reference name :: nodes => do
    let c ← decodeReference name
    partsBehind? (run ++ [c]) nodes
  | .comment _ :: nodes | .instruction _ :: nodes => partsBehind? run nodes
  | .doctype _ :: nodes => (partsBehind? [] nodes).map (Part.ofRun run ++ ·)
  | .element name attributes children :: nodes =>
    if declarationsSound attributes then
      (partsBehind? [] nodes).map (Part.ofRun run ++ .element ⟨name, attributes, children⟩ :: ·)
    else none

/-- The parts that nodes make.  The references between them have to be known,
    and the elements may only declare what is sound. -/
def partsOf? (nodes : List Node) : Option (List Part) :=
  partsBehind? [] nodes

/-- The text of an element that holds nothing else. -/
def textOf? (children : List Node) : Option (List Char) := do
  match ← partsOf? children with
  | [] => some []
  | [.text chars] => some chars
  | _ => none

/-! ## Elements without a meaning -/

/-- Is the first of the nodes sound?  An element that is passed over is not
    looked into any further. -/
def opensSoundly : List Node → Bool
  | .comment _ :: nodes | .instruction _ :: nodes => opensSoundly nodes
  | .element _ attributes _ :: _ => declarationsSound attributes
  | _ => true

mutual

/-- Are all references and declarations in the node in order? -/
def Node.inOrder : Node → Bool
  | .element _ attributes children => declarationsSound attributes && allInOrder children
  | .reference name => (decodeReference name).isSome
  | _ => true

/-- Are all references and declarations in the nodes in order? -/
def allInOrder : List Node → Bool
  | [] => true
  | n :: ns => n.inOrder && allInOrder ns

end

end CallerStubs.Markup
