/-
  Caller stubs — reading markup.

  The reader checks that tags are closed in the order in which they were
  opened, and nothing else about the elements: names may hold any character or
  none, and attributes are left as they are.  What follows the end of the root
  is not read.

  * `Token`: a tag, or a node without children;
  * `Token.next?`: the first token of a text, and the text behind it;
  * `readContent`: the nodes up to the next tag that closes an element;
  * `readRoot`: the root of a text.
-/
import CallerStubs.Markup.Reference

namespace CallerStubs.Markup

/-- A piece of a text that is read at once. -/
inductive Token where
  /-- A tag that opens an element, and closes it too if `closed` says so. -/
  | opening (name attributes : List Char) (closed : Bool)
  | closing (name : List Char)
  | leaf (node : Node)

/-! ## Parts of tokens -/

/-- What stands before a text in a list, and what stands behind it. -/
def splitAt? (text : List Char) : List Char → Option (List Char × List Char)
  | [] => if text.isEmpty then some ([], []) else none
  | c :: cs =>
    if text.isPrefixOf (c :: cs) then some ([], (c :: cs).drop text.length)
    else (splitAt? text cs).map fun (before, after) => (c :: before, after)

/-- What stands before the end of a tag, and what stands behind it.  A tag
    does not end between quotes; `quote` is the one that is open. -/
def tagEnd? (quote : Option Char) : List Char → Option (List Char × List Char)
  | [] => none
  | c :: cs =>
    match quote with
    | none =>
      if c = '>' then some ([], cs)
      else
        let quote := if c = '"' ∨ c = '\x27' then some c else none
        (tagEnd? quote cs).map fun (inside, after) => (c :: inside, after)
    | some q =>
      let quote := if c = q then none else some q
      (tagEnd? quote cs).map fun (inside, after) => (c :: inside, after)

/-- What stands before the end of a document type declaration, and what stands
    behind it.  Pairs of angle brackets may be nested in it. -/
def doctypeEnd? (depth : Nat) : List Char → Option (List Char × List Char)
  | [] => none
  | c :: cs =>
    if c = '>' ∧ depth = 0 then some ([], cs)
    else
      let depth := if c = '<' then depth + 1 else if c = '>' then depth - 1 else depth
      (doctypeEnd? depth cs).map fun (inside, after) => (c :: inside, after)

/-- The name at the start of a tag. -/
def tagName (inside : List Char) : List Char :=
  inside.takeWhile (!isSpace ·)

/-- What stands in a tag behind its name. -/
def tagRest (inside : List Char) : List Char :=
  inside.dropWhile (!isSpace ·)

/-- The tag that opens an element, by what stands between its brackets. -/
def openingTag (inside : List Char) : Token :=
  let closed := inside.getLast? == some '/'
  let inside := if closed then inside.dropLast else inside
  .opening (tagName inside) (tagRest inside) closed

/-- The name in a tag that closes an element: all that stands between its
    brackets, without the space at its end unless it is nothing but space. -/
def closingName (inside : List Char) : List Char :=
  if inside.all isSpace then inside else (inside.reverse.dropWhile isSpace).reverse

/-- Is the word at the start of a text, in whatever case? -/
def startsWithWord (word : String) (cs : List Char) : Bool :=
  (cs.take word.length).map Char.toLower == word.toList

/-! ## Tokens -/

/-- The declaration, comment or unparsed text whose start `<!` has been read. -/
def declaration? : List Char → Option (Token × List Char)
  | '-' :: '-' :: cs => (splitAt? "-->".toList cs).map fun (s, r) => (.leaf (.comment s), r)
  | cs =>
    if "[CDATA[".toList.isPrefixOf cs then
      (splitAt? "]]>".toList (cs.drop 7)).map fun (s, r) => (.leaf (.cdata s), r)
    else if startsWithWord "doctype" cs then do
      let (s, r) ← doctypeEnd? 0 (cs.drop 7)
      let s := s.dropWhile isSpace
      if s.isEmpty then none else some (.leaf (.doctype s), r)
    else none

/-- The instruction whose start `<?` has been read. -/
def instruction? : List Char → Option (Token × List Char)
  | '>' :: _ => none
  | cs => (splitAt? "?>".toList cs).map fun (s, r) => (.leaf (.instruction s), r)

/-- The reference whose start `&` has been read. -/
def reference? (cs : List Char) : Option (Token × List Char) :=
  let inName (c : Char) := c != ';' && c != '&' && c != '<'
  match cs.dropWhile inName with
  | ';' :: rest => some (.leaf (.reference (cs.takeWhile inName)), rest)
  | _ => none

/-- The first token of a text, and the text behind it. -/
def Token.next? : List Char → Option (Token × List Char)
  | [] => none
  | '<' :: '!' :: cs => declaration? cs
  | '<' :: '?' :: cs => instruction? cs
  | '<' :: '/' :: cs => (tagEnd? none cs).map fun (inside, r) => (.closing (closingName inside), r)
  | '<' :: cs => (tagEnd? none cs).map fun (inside, r) => (openingTag inside, r)
  | '&' :: cs => reference? cs
  | c :: cs =>
    let inText (c : Char) := c != '<' && c != '&'
    some (.leaf (.text (c :: cs.takeWhile inText)), cs.dropWhile inText)

/-! ## Elements -/

/-- What is read up to a tag that closes an element. -/
structure Content where
  nodes : List Node
  /-- The name in the closing tag. -/
  closing : List Char
  rest : List Char

/-- The nodes up to the next tag that closes an element opened before them.
    The first argument bounds the number of tokens. -/
def readContent : Nat → List Char → Option Content
  | 0, _ => none
  | n + 1, cs => do
    let (token, rest) ← Token.next? cs
    match token with
    | .closing name => some ⟨[], name, rest⟩
    | .leaf node =>
      let more ← readContent n rest
      some { more with nodes := node :: more.nodes }
    | .opening name attributes true =>
      let more ← readContent n rest
      some { more with nodes := .element name attributes [] :: more.nodes }
    | .opening name attributes false =>
      let inner ← readContent n rest
      if inner.closing = name then
        let more ← readContent n inner.rest
        some { more with nodes := .element name attributes inner.nodes :: more.nodes }
      else none

/-- Does the node say nothing about a document before whose root it stands? -/
def Node.saysNothing : Node → Bool
  | .text cs | .cdata cs => (unifyLineEnds cs).all isSpace
  | .reference name => (decodeReference name).any isSpace
  | .comment _ | .instruction _ | .doctype _ => true
  | .element .. => false

/-- The root of a text, with nothing before it but space and markup that says
    nothing.  The first argument bounds the number of tokens. -/
def readRoot : Nat → List Char → Option Node
  | 0, _ => none
  | n + 1, cs => do
    let (token, rest) ← Token.next? cs
    match token with
    | .opening name attributes true => some (.element name attributes [])
    | .opening name attributes false =>
      let inner ← readContent n rest
      if inner.closing = name then some (.element name attributes inner.nodes) else none
    | .leaf node => if node.saysNothing then readRoot n rest else none
    | .closing _ => none

/-- The root of a marked-up text.  A byte order mark before it is skipped. -/
def read (cs : List Char) : Option Node :=
  match cs with
  | '\uFEFF' :: cs => readRoot (cs.length + 1) cs
  | cs => readRoot (cs.length + 1) cs

end CallerStubs.Markup
