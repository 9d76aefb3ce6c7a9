/-
  Caller stubs — prefixes of names in markup.

  A name may begin with a prefix and a colon.  An attribute `xmlns:p` declares
  what the prefix `p` stands for in its element.  Prefixes hardly matter, as
  names are compared without them, but a declaration that the rules of markup
  forbid is a fault, and one attribute is known by what its prefix stands for:
  the one that says that an element has no value.

  * `Binding`: a prefix and what it stands for;
  * `declared`, `declarationsSound`: what the attributes of an element declare,
    and whether they may;
  * `Scope`: the declarations in force at a place;
  * `Scope.saysNil`: do the attributes of an element say that it has no value?
-/
import CallerStubs.Markup.Attribute

namespace CallerStubs.Markup

/-! ## Declarations -/

/-- What a prefix stands for. -/
structure Binding where
  shortName : List Char
  meaning : List Char
  deriving DecidableEq, Repr

/-- A name of the standard for markup, by the steps of its address. -/
def standardName (steps : List String) : List Char :=
  ("/".intercalate ("http:" :: "" :: "www.w3.org" :: steps)).toList

/-- What the prefix `xml` stands for, and no other may. -/
def xmlMeaning : List Char := standardName ["XML", "1998", "namespace"]

/-- What no prefix may stand for, as declarations themselves do. -/
def declarationMeaning : List Char := standardName ["2000", "xmlns", ""]

/-- What the prefix of the attribute `nil` stands for. -/
def instanceMeaning : List Char := standardName ["2001", "XMLSchema-instance"]

/-- The prefix that an attribute declares.  Its meaning is taken as it is
    written. -/
def Attribute.binding? (a : Attribute) : Option Binding :=
  if "xmlns:".toList.isPrefixOf a.name then some ⟨a.name.drop 6, a.value⟩ else none

/-- May the prefix stand for this?  Of the two that are reserved, one has its
    only meaning, and the other cannot be declared. -/
def Binding.isSound (b : Binding) : Bool :=
  if b.shortName = "xml".toList then b.meaning == xmlMeaning
  else b.shortName != "xmlns".toList && b.meaning != xmlMeaning && b.meaning != declarationMeaning

/-- The prefixes that the attributes of an element declare. -/
def declared (attributes : List Char) : List Binding :=
  (Attribute.leading attributes).filterMap Attribute.binding?

/-- May the attributes of an element declare what they do? -/
def declarationsSound (attributes : List Char) : Bool :=
  (declared attributes).all Binding.isSound

/-! ## Scopes -/

/-- The declarations in force at a place, the innermost first. -/
abbrev Scope := List Binding

/-- The declarations in force in an element, by its attributes. -/
def Scope.within (scope : Scope) (attributes : List Char) : Scope :=
  (declared attributes).reverse ++ scope

/-- What a prefix stands for.  An empty prefix stands for nothing. -/
def Scope.meaning? (scope : Scope) (shortName : List Char) : Option (List Char) :=
  if shortName.isEmpty then none
  else (scope.find? (·.shortName == shortName)).map Binding.meaning

/-- Does the attribute say that its element has no value? -/
def Attribute.isNil (scope : Scope) (a : Attribute) : Bool :=
  a.name.contains ':' && localName a.name == "nil".toList &&
    scope.meaning? (a.name.takeWhile (· != ':')) == some instanceMeaning &&
    (a.value == "true".toList || a.value == "1".toList)

/-- Do the attributes of an element say that it has no value? -/
def Scope.saysNil (scope : Scope) (attributes : List Char) : Bool :=
  (Attribute.leading attributes).any (Attribute.isNil scope)

end CallerStubs.Markup
