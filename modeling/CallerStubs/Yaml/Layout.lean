/-
  Caller stubs — the tokens of a YAML text.

  Block collections are written by indentation alone, and a mapping is only
  seen when the colon behind its first key is read.  So the tokens read are
  kept together with the columns of the open collections, and with the place
  where the key of a colon to come may have begun.

  * `Layout`: the tokens up to a place, and what is open there;
  * `Layout.next`: one token more;
  * `readTokens`: the tokens of a text.
-/
import CallerStubs.Yaml.Block
import CallerStubs.Yaml.Plain
import CallerStubs.Yaml.Quoted
import CallerStubs.Yaml.Token

namespace CallerStubs.Yaml

/-- Where a key may have begun. -/
structure KeyStart where
  /-- Can the text not go on without a colon? -/
  required : Bool
  /-- The number of tokens before the key. -/
  index : Nat
  line : Nat
  column : Nat
  /-- The number of bytes before the key. -/
  bytes : Nat
  deriving DecidableEq, Repr

/-- The tokens up to a place. -/
structure Layout where
  place : Cursor
  /-- The number of bytes before the place, without those of tokens that take
      several lines. -/
  bytes : Nat := 0
  tokens : List Token := []
  /-- The columns of the open block collections, innermost first. -/
  columns : List Nat := []
  /-- Where a key of the innermost collection may have begun. -/
  key : Option KeyStart := none
  /-- The same for the collections around each open flow collection. -/
  outerKeys : List (Option KeyStart) := []
  /-- May a key begin here? -/
  keyAllowed : Bool := true
  deriving DecidableEq, Repr

/-! ## White space -/

/-- The place of the next token, behind white space and comments, and whether a
    key may begin there.  A tab does not indent; a byte order mark at the start
    of a line does, by one column. -/
def nextPlace (inFlow inComment keyAllowed : Bool) (line column : Nat) :
    List Char → Cursor × Bool
  | [] => (⟨[], line, column⟩, keyAllowed)
  | c :: cs =>
    if isBreak c then nextPlace inFlow false (keyAllowed || !inFlow) (line + 1) 0 cs
    else if inComment || c == '#' then nextPlace inFlow true keyAllowed line (column + 1) cs
    else if c == ' ' || (c == '\t' && (inFlow || !keyAllowed)) ||
        (c == '\uFEFF' && column == 0) then
      nextPlace inFlow false keyAllowed line (column + 1) cs
    else (⟨c :: cs, line, column⟩, keyAllowed)

namespace Layout

/-- Is a flow collection open? -/
def inFlow (s : Layout) : Bool := !s.outerKeys.isEmpty

/-- The layout that follows `s`, with the bytes counted in between. -/
def counted (s next : Layout) : Layout :=
  { next with bytes := s.bytes + s.place.bytesTo next.place }

/-- The layout at the next token. -/
def atToken (s : Layout) : Layout :=
  let (place, keyAllowed) :=
    nextPlace s.inFlow false s.keyAllowed s.place.line s.place.column s.place.rest
  s.counted { s with place, keyAllowed }

/-! ## Keys -/

/-- The greatest size of a key that no question mark announces, in bytes. -/
def maxKeySize : Nat := 1024

/-- The key start, unless the place is so far behind it that no colon can come
    any more.  A failure if one has to come. -/
def pending (s : Layout) : Option KeyStart → Option (Option KeyStart)
  | none => some none
  | some k =>
    if k.line < s.place.line ∨ k.bytes + maxKeySize < s.bytes then
      if k.required then none else some none
    else some (some k)

/-- The layout without the key starts that are too far behind. -/
def dropOverdueKeys (s : Layout) : Option Layout := do
  let key ← s.pending s.key
  let outerKeys ← s.outerKeys.mapM s.pending
  some { s with key, outerKeys }

/-- The layout without the innermost key start. -/
def dropKey (s : Layout) : Option Layout :=
  if s.key.any (·.required) then none else some { s with key := none }

/-- The layout in which a key may have begun here. -/
def startKey (s : Layout) : Option Layout :=
  if s.keyAllowed then do
    let s ← s.dropKey
    let required := !s.inFlow && s.columns.head? == some s.place.column
    some { s with
      key := some ⟨required, s.tokens.length, s.place.line, s.place.column, s.bytes⟩ }
  else some s

/-! ## Block collections -/

/-- The layout with the collections closed that stand right of a column, or all
    of them. -/
def closeBlocks (s : Layout) (column : Option Nat) : Layout :=
  if s.inFlow then s
  else
    let right (i : Nat) : Bool := column.all (· < i)
    let ended := (s.columns.takeWhile right).map fun _ => Token.blockEnd
    { s with tokens := s.tokens ++ ended, columns := s.columns.dropWhile right }

/-- The layout with a collection opened at a column, unless one is open there.
    The token goes before those from `index` on. -/
def openBlock (s : Layout) (column index : Nat) (start : Token) : Layout :=
  if s.inFlow || s.columns.head?.any (column ≤ ·) then s
  else { s with columns := column :: s.columns, tokens := s.tokens.insertIdx index start }

/-! ## Tokens -/

/-- The layout behind a token of `n` characters. -/
def emit (s : Layout) (t : Token) (n : Nat) : Layout :=
  { s with tokens := s.tokens ++ [t], place := s.place.advance n }

/-- A mark between documents. -/
def marker (s : Layout) (t : Token) : Option Layout := do
  let s ← (s.closeBlocks none).dropKey
  some ({ s with keyAllowed := false }.emit t 3)

/-- A directive. -/
def directive (s : Layout) : Option Layout := do
  let s ← (s.closeBlocks none).dropKey
  let (t, rest) ← readDirective (s.place.rest.drop 1)
  let rest := skipComment rest
  if (rest.take 1).any (!isBreak ·) then none
  else some { s with
    tokens := s.tokens ++ [t], place := (s.place.moveTo rest).pastBreak, keyAllowed := false }

/-- A bracket that opens a flow collection. -/
def openFlow (s : Layout) (t : Token) : Option Layout := do
  let s ← s.startKey
  some ({ s with key := none, outerKeys := s.key :: s.outerKeys, keyAllowed := true }.emit t 1)

/-- A bracket that closes a flow collection. -/
def closeFlow (s : Layout) (t : Token) : Option Layout := do
  let s ← s.dropKey
  let s := match s.outerKeys with
    | [] => s
    | key :: outerKeys => { s with key, outerKeys }
  some ({ s with keyAllowed := false }.emit t 1)

/-- A comma. -/
def flowEntry (s : Layout) : Option Layout := do
  let s ← s.dropKey
  some ({ s with keyAllowed := true }.emit .flowEntry 1)

/-- The dash of an entry. -/
def blockEntry (s : Layout) : Option Layout :=
  if s.inFlow || s.keyAllowed then do
    let s ← (s.openBlock s.place.column s.tokens.length .blockSequenceStart).dropKey
    some ({ s with keyAllowed := true }.emit .blockEntry 1)
  else none

/-- The question mark before a key. -/
def announcedKey (s : Layout) : Option Layout :=
  if s.inFlow || s.keyAllowed then do
    let s ← (s.openBlock s.place.column s.tokens.length .blockMappingStart).dropKey
    some ({ s with keyAllowed := !s.inFlow }.emit .key 1)
  else none

/-- The colon before a value.  If a key may have begun before it, it did. -/
def mappingValue (s : Layout) : Option Layout :=
  match s.key with
  | some k =>
    let s := { s with tokens := s.tokens.insertIdx k.index .key, key := none, keyAllowed := false }
    some ((s.openBlock k.column k.index .blockMappingStart).emit .value 1)
  | none =>
    if s.inFlow || s.keyAllowed then
      let s := s.openBlock s.place.column s.tokens.length .blockMappingStart
      some ({ s with keyAllowed := !s.inFlow }.emit .value 1)
    else none

/-- An anchor or an alias, by the name behind its indicator. -/
def named (s : Layout) (token : List Char → Token) : Option Layout := do
  let s ← s.startKey
  let (name, rest) ← readName (s.place.rest.drop 1)
  some { s with
    tokens := s.tokens ++ [token name], place := s.place.moveTo rest, keyAllowed := false }

/-- A tag. -/
def tagged (s : Layout) : Option Layout := do
  let s ← s.startKey
  let (handle, rest) ← readTag s.inFlow (s.place.rest.drop 1)
  some { s with
    tokens := s.tokens ++ [.tag handle], place := s.place.moveTo rest, keyAllowed := false }

/-- A block scalar. -/
def blockScalar (s : Layout) (folded : Bool) : Option Layout := do
  let s ← s.dropKey
  let (text, place) ← readBlock folded (s.columns.headD 0) (s.place.advance 1)
  some { s with tokens := s.tokens ++ [.scalar text], place, keyAllowed := true }

/-- A quoted scalar. -/
def quotedScalar (s : Layout) (double : Bool) : Option Layout := do
  let s ← s.startKey
  let read := if double then readDoubleQuoted else readSingleQuoted
  let q ← read {} s.place.line (s.place.column + 1) (s.place.rest.drop 1)
  some { s with tokens := s.tokens ++ [.scalar q.text], place := q.after, keyAllowed := false }

/-- A plain scalar. -/
def plainScalar (s : Layout) : Option Layout := do
  let s ← s.startKey
  let indent := s.columns.head?.elim 0 (· + 1)
  let p ← readPlain s.inFlow indent {} s.place.line s.place.column s.place.rest
  some { s with
    tokens := s.tokens ++ [.scalar p.text], place := p.after, keyAllowed := p.brokeLine }

/-- Can a plain scalar begin with the character `c`, followed by `cs`? -/
def startsPlain (inFlow : Bool) (c : Char) (cs : List Char) : Bool :=
  let indicator := "-?:,[]\x7b\x7d#&*!|>\x27\"%@\x60".toList.contains c
  (!blankAhead [c] && !indicator) || (c == '-' && !(cs.take 1).any isSpacing) ||
    (!inFlow && (c == '?' || c == ':') && !blankAhead cs)

/-- The layout behind the token that begins with the character `c`, followed by
    `cs`. -/
def next (s : Layout) (c : Char) (cs : List Char) : Option Layout :=
  let newLine : Bool := s.place.column == 0
  if newLine && c == '%' then s.directive
  else if newLine && startsWithThree '-' (c :: cs) then s.marker .documentStart
  else if newLine && startsWithThree '.' (c :: cs) then s.marker .documentEnd
  else if c = '[' then s.openFlow .flowSequenceStart
  else if c = '\x7b' then s.openFlow .flowMappingStart
  else if c = ']' then s.closeFlow .flowSequenceEnd
  else if c = '\x7d' then s.closeFlow .flowMappingEnd
  else if c = ',' then s.flowEntry
  else if c = '-' ∧ blankAhead cs then s.blockEntry
  else if c = '?' ∧ (s.inFlow || blankAhead cs) then s.announcedKey
  else if c = ':' ∧ (s.inFlow || blankAhead cs) then s.mappingValue
  else if c = '*' then s.named .alias
  else if c = '&' then s.named .anchor
  else if c = '!' then s.tagged
  else if c = '|' ∧ !s.inFlow then s.blockScalar false
  else if c = '>' ∧ !s.inFlow then s.blockScalar true
  else if c = '\x27' then s.quotedScalar false
  else if c = '"' then s.quotedScalar true
  else if startsPlain s.inFlow c cs then s.plainScalar
  else none

/-- The tokens of the whole text.  The first argument bounds the number of
    those that are still to come. -/
def tokensToEnd : Nat → Layout → Option (List Token)
  | 0, _ => none
  | n + 1, s => do
    let s ← s.atToken.dropOverdueKeys
    match s.place.rest with
    | [] =>
      let s ← (s.closeBlocks none).dropKey
      some s.tokens
    | c :: cs =>
      let next ← (s.closeBlocks (some s.place.column)).next c cs
      tokensToEnd n (s.counted next)

end Layout

/-- The tokens of a text. -/
def readTokens (cs : List Char) : Option (List Token) :=
  Layout.tokensToEnd (cs.length + 1) { place := { rest := cs } }

end CallerStubs.Yaml
