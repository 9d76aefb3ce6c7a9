/-
  Caller stubs — YAML texts as trees.

  * `Node`: a scalar, a collection, or a reference to another node;
  * `Anchors`: which nodes can be referred to;
  * `readNode`: the node that tokens describe;
  * `Tree.read`: the only document of a text, with its anchors.
-/
import CallerStubs.Yaml.Layout

namespace CallerStubs.Yaml

/-- A node of a document.  Tags are not kept. -/
inductive Node where
  | scalar (text : List Char)
  /-- A reference, by the number of an anchor. -/
  | alias (number : Nat)
  | sequence (items : List Node)
  | mapping (entries : List (Node × Node))
  deriving Inhabited

/-! ## Anchors -/

/-- The anchors of a document.  A reference is to the last node whose anchor
    has the number that the name had there. -/
structure Anchors where
  /-- The number of each name: how many names were known before. -/
  numbers : List (List Char × Nat) := []
  /-- The nodes with a number, the last first: the text of a scalar, and
      nothing of a collection. -/
  targets : List (Nat × Option (List Char)) := []
  deriving DecidableEq, Repr

namespace Anchors

/-- The anchors with one more. -/
def add (a : Anchors) (name : List Char) (target : Option (List Char)) : Anchors :=
  let number := a.numbers.length
  { numbers := (name, number) :: a.numbers.filter (·.1 ≠ name)
    targets := (number, target) :: a.targets }

/-- The text of a node: its own, or that of the scalar it refers to. -/
def textOf? (a : Anchors) : Node → Option (List Char)
  | .scalar text => some text
  | .alias number => (a.targets.lookup number).join
  | .sequence _ | .mapping _ => none

end Anchors

/-! ## Properties -/

/-- The tokens that are left, and the anchors read so far. -/
structure Feed where
  tokens : List Token
  anchors : Anchors := {}

/-- What is written before a node. -/
structure Properties where
  anchor : Option (List Char) := none
  tag : Option (List Char) := none

/-- The properties at the start of tokens, an anchor and a tag in either
    order. -/
def readProperties : List Token → Properties × List Token
  | .anchor a :: .tag h :: ts | .tag h :: .anchor a :: ts => (⟨some a, some h⟩, ts)
  | .anchor a :: ts => (⟨some a, none⟩, ts)
  | .tag h :: ts => (⟨none, some h⟩, ts)
  | ts => ({}, ts)

/-- The feed with the anchor of a node noted. -/
def Feed.note (f : Feed) (p : Properties) (target : Option (List Char)) : Feed :=
  match p.anchor with
  | none => f
  | some name => { f with anchors := f.anchors.add name target }

/-- The feed with other tokens. -/
def Feed.withTokens (f : Feed) (tokens : List Token) : Feed :=
  { f with tokens }

/-- Is the next token one of these? -/
def Feed.atOneOf (f : Feed) (tokens : List Token) : Bool :=
  f.tokens.head?.any tokens.contains

/-! ## Nodes -/

/-- The node of nothing. -/
def Node.empty : Node := .scalar []

/-- Which tokens may begin a node besides those of flow collections. -/
inductive Place where
  /-- Within a flow collection. -/
  | flow
  /-- Where block collections may begin. -/
  | block
  /-- The same, and a sequence need not be indented. -/
  | entry
  deriving DecidableEq, Repr

mutual

/-- The node at the start of a feed, whose tags have one of the handles in
    `known`.  The first argument bounds the depth of the reading. -/
def readNode (known : List (List Char)) : Nat → Place → Feed → Option (Node × Feed)
  | 0, _, _ => none
  | n + 1, place, f =>
    match f.tokens with
    | .alias name :: ts => do
      let number ← f.anchors.numbers.lookup name
      some (.alias number, f.withTokens ts)
    | _ =>
      let (p, ts) := readProperties f.tokens
      if p.tag.any fun h => !h.isEmpty && !known.contains h then none
      else
        match ts, place with
        | .scalar text :: ts, _ => some (.scalar text, (f.withTokens ts).note p (some text))
        | .flowSequenceStart :: ts, _ => do
          let (items, f) ← readFlowItems known n true ((f.withTokens ts).note p none)
          some (.sequence items, f)
        | .flowMappingStart :: ts, _ => do
          let (entries, f) ← readFlowEntries known n true ((f.withTokens ts).note p none)
          some (.mapping entries, f)
        | .blockSequenceStart :: ts, .block | .blockSequenceStart :: ts, .entry => do
          let (items, f) ← readBlockItems known n ((f.withTokens ts).note p none)
          some (.sequence items, f)
        | .blockMappingStart :: ts, .block | .blockMappingStart :: ts, .entry => do
          let (entries, f) ← readBlockEntries known n ((f.withTokens ts).note p none)
          some (.mapping entries, f)
        | .blockEntry :: ts, .entry => do
          let (items, f) ←
            readBareItems known n ((f.withTokens (.blockEntry :: ts)).note p none)
          some (.sequence items, f)
        | ts, _ =>
          if p.anchor.isSome || p.tag.isSome then
            some (.empty, (f.withTokens ts).note p (some []))
          else none

/-- The node at the start of a feed, or the node of nothing if one of the
    tokens in `ends` comes first. -/
def readNodeOr (known : List (List Char)) :
    Nat → Place → List Token → Feed → Option (Node × Feed)
  | 0, _, _, _ => none
  | n + 1, place, ends, f =>
    if f.atOneOf ends then some (.empty, f) else readNode known n place f

/-- The items of a block sequence. -/
def readBlockItems (known : List (List Char)) : Nat → Feed → Option (List Node × Feed)
  | 0, _ => none
  | n + 1, f =>
    match f.tokens with
    | .blockEntry :: ts => do
      let (item, f) ← readNodeOr known n .block [.blockEntry, .blockEnd] (f.withTokens ts)
      let (items, f) ← readBlockItems known n f
      some (item :: items, f)
    | .blockEnd :: ts => some ([], f.withTokens ts)
    | _ => none

/-- The items of a sequence that is not indented in a mapping. -/
def readBareItems (known : List (List Char)) : Nat → Feed → Option (List Node × Feed)
  | 0, _ => none
  | n + 1, f =>
    match f.tokens with
    | .blockEntry :: ts => do
      let (item, f) ←
        readNodeOr known n .block [.blockEntry, .key, .value, .blockEnd] (f.withTokens ts)
      let (items, f) ← readBareItems known n f
      some (item :: items, f)
    | _ => some ([], f)

/-- The entries of a block mapping. -/
def readBlockEntries (known : List (List Char)) : Nat → Feed → Option (List (Node × Node) × Feed)
  | 0, _ => none
  | n + 1, f =>
    match f.tokens with
    | .key :: ts => do
      let (key, f) ← readNodeOr known n .entry [.key, .value, .blockEnd] (f.withTokens ts)
      let (value, f) ← readValue known n .entry [.key, .value, .blockEnd] f
      let (entries, f) ← readBlockEntries known n f
      some ((key, value) :: entries, f)
    | .blockEnd :: ts => some ([], f.withTokens ts)
    | _ => none

/-- The value of an entry, which may be missing; so may the node behind the
    colon if one of the tokens in `ends` comes first. -/
def readValue (known : List (List Char)) :
    Nat → Place → List Token → Feed → Option (Node × Feed)
  | 0, _, _, _ => none
  | n + 1, place, ends, f =>
    match f.tokens with
    | .value :: ts => readNodeOr known n place ends (f.withTokens ts)
    | _ => some (.empty, f)

/-- The items of a flow sequence, at the first of them if `first` says so.  An
    item may be an entry, which is a mapping of its own; the token behind an
    announced key that is missing does not count. -/
def readFlowItems (known : List (List Char)) :
    Nat → (first : Bool) → Feed → Option (List Node × Feed)
  | 0, _, _ => none
  | n + 1, first, f =>
    match first, f.tokens with
    | _, .flowSequenceEnd :: ts => some ([], f.withTokens ts)
    | false, .flowEntry :: .flowSequenceEnd :: ts => some ([], f.withTokens ts)
    | false, .flowEntry :: ts => readFlowItem known n (f.withTokens ts)
    | false, _ => none
    | true, _ => readFlowItem known n f

/-- An item of a flow sequence, and those after it. -/
def readFlowItem (known : List (List Char)) : Nat → Feed → Option (List Node × Feed)
  | 0, _ => none
  | n + 1, f =>
    match f.tokens with
    | .key :: ts => do
      let ends := [.value, .flowEntry, .flowSequenceEnd]
      let f := f.withTokens ts
      let (key, f) ←
        if f.atOneOf ends then some (.empty, f.withTokens (ts.drop 1))
        else readNode known n .flow f
      let (value, f) ← readValue known n .flow [.flowEntry, .flowSequenceEnd] f
      let (items, f) ← readFlowItems known n false f
      some (.mapping [(key, value)] :: items, f)
    | _ => do
      let (item, f) ← readNode known n .flow f
      let (items, f) ← readFlowItems known n false f
      some (item :: items, f)

/-- The entries of a flow mapping, at the first of them if `first` says so. -/
def readFlowEntries (known : List (List Char)) :
    Nat → (first : Bool) → Feed → Option (List (Node × Node) × Feed)
  | 0, _, _ => none
  | n + 1, first, f =>
    match first, f.tokens with
    | _, .flowMappingEnd :: ts => some ([], f.withTokens ts)
    | false, .flowEntry :: .flowMappingEnd :: ts => some ([], f.withTokens ts)
    | false, .flowEntry :: ts => readFlowEntry known n (f.withTokens ts)
    | false, _ => none
    | true, _ => readFlowEntry known n f

/-- An entry of a flow mapping, and those after it.  An entry that is not
    announced and has no colon is a key alone. -/
def readFlowEntry (known : List (List Char)) :
    Nat → Feed → Option (List (Node × Node) × Feed)
  | 0, _ => none
  | n + 1, f =>
    match f.tokens with
    | .key :: ts => do
      let (key, f) ←
        readNodeOr known n .flow [.value, .flowEntry, .flowMappingEnd] (f.withTokens ts)
      let (value, f) ← readValue known n .flow [.flowEntry, .flowMappingEnd] f
      let (entries, f) ← readFlowEntries known n false f
      some ((key, value) :: entries, f)
    | _ => do
      let (key, f) ← readNode known n .flow f
      let (entries, f) ← readFlowEntries known n false f
      some ((key, .empty) :: entries, f)

end

/-! ## Documents -/

/-- The directives before a document. -/
structure Directives where
  /-- Has a version been given? -/
  versioned : Bool := false
  /-- The handles that have been given a meaning. -/
  handles : List (List Char) := []

/-- The directives at the start of tokens, after those in `d`.  Only the two
    versions of the format that are known may be asked for, and nothing may be
    given twice. -/
def readDirectives (d : Directives) : List Token → Option (Directives × List Token)
  | .versionDirective major minor :: ts =>
    if d.versioned ∨ major ≠ 1 ∨ (minor ≠ 1 ∧ minor ≠ 2) then none
    else readDirectives { d with versioned := true } ts
  | .tagDirective handle :: ts =>
    if handle ∈ d.handles then none
    else readDirectives { d with handles := handle :: d.handles } ts
  | ts => some (d, ts)

/-- The handles that need no directive. -/
def commonHandles : List (List Char) := [['!'], ['!', '!']]

/-- A document. -/
structure Tree where
  root : Node
  anchors : Anchors

namespace Tree

/-- The root of a document and what follows it.  A document with directives has
    to be started by a mark, which may also start one without. -/
def readRoot (tokens : List Token) : Option (Node × Feed) := do
  let (d, ts) ← readDirectives {} tokens
  let depth := 3 * tokens.length + 3
  match ts with
  | .documentStart :: ts => readNode (commonHandles ++ d.handles) depth .block { tokens := ts }
  | ts =>
    if ts.length = tokens.length then readNode commonHandles depth .block { tokens := ts }
    else none

/-- The only document that tokens describe.  It is not an empty one. -/
def ofTokens? (tokens : List Token) : Option Tree := do
  let (root, f) ← readRoot tokens
  if f.tokens.all (· == .documentEnd) then some ⟨root, f.anchors⟩ else none

/-- The only document of a text. -/
def read (cs : List Char) : Option Tree := do
  if cs.all isReadable then ofTokens? (← readTokens (unifyBreaks cs)) else none

end Tree

end CallerStubs.Yaml
