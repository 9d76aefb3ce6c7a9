/-
  Caller stubs — markup as a tree.

  * `Node`: an element, a piece of text, or a piece of markup that says
    nothing about the document;
  * `isSpace`, `localName`: white space and names in markup;
  * `unifyLineEnds`: a text in which every line ends in the same way;
  * `render`, `renderAll`: the written form of nodes.
-/
namespace CallerStubs.Markup

/-- A piece of a marked-up text. -/
inductive Node where
  /-- An element; its attributes are kept as they are written behind its
      name, and looked at only where the element is read. -/
  | element (name attributes : List Char) (children : List Node)
  /-- Text without references. -/
  | text (chars : List Char)
  /-- A reference, by what stands between `&` and `;`. -/
  | reference (name : List Char)
  /-- Text in which nothing is markup. -/
  | cdata (chars : List Char)
  | comment (chars : List Char)
  /-- A processing instruction, or the declaration at the start of a file. -/
  | instruction (chars : List Char)
  | doctype (chars : List Char)
  deriving Inhabited

/-- White space in markup. -/
def isSpace (c : Char) : Bool :=
  c == ' ' || c == '\t' || c == '\n' || c == '\r'

/-- The text in which a line feed stands for each way to end a line. -/
def unifyLineEnds : List Char → List Char
  | [] => []
  | '\r' :: '\n' :: cs | '\r' :: '\u0085' :: cs => '\n' :: unifyLineEnds cs
  | c :: cs => (if c = '\r' ∨ c = '\u0085' ∨ c = '\u2028' then '\n' else c) :: unifyLineEnds cs

/-- A name without its part up to the first colon. -/
def localName (name : List Char) : List Char :=
  match name.dropWhile (· != ':') with
  | _ :: rest => rest
  | [] => name

mutual

/-- The written form of a node. -/
def Node.render : Node → List Char
  | .element name attributes children =>
    ['<'] ++ name ++ attributes ++ ['>'] ++ renderAll children ++ ['<', '/'] ++ name ++ ['>']
  | .text chars => chars
  | .reference name => ['&'] ++ name ++ [';']
  | .cdata chars => "<![CDATA[".toList ++ chars ++ "]]>".toList
  | .comment chars => "<!--".toList ++ chars ++ "-->".toList
  | .instruction chars => "<?".toList ++ chars ++ "?>".toList
  | .doctype chars => "<!DOCTYPE ".toList ++ chars ++ ['>']

/-- The written form of several nodes. -/
def renderAll : List Node → List Char
  | [] => []
  | n :: ns => n.render ++ renderAll ns

end

end CallerStubs.Markup
