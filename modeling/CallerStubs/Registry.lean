/-
  Caller stubs — the types that a document declares.

  * `Registry`: the enumerations and structures that are known, each by the
    interface that declares it and its name;
  * `Registry.lookup`: what kind of type a path names;
  * `Document.registry`: the types declared anywhere in a document.
-/
import CallerStubs.Document.Basic
import CallerStubs.TypePath

namespace CallerStubs

/-- What kind of type a name stands for. -/
inductive DeclaredKind where
  | enum
  | struct
  deriving DecidableEq, Repr

/-- The types that are known.  They are compared as pairs of names, never by
    their written form. -/
structure Registry where
  enums : List TypePath := []
  structs : List TypePath := []
  deriving DecidableEq, Repr

namespace Registry

def addEnum (r : Registry) (path : TypePath) : Registry :=
  { r with enums := r.enums.insert path }

def addStruct (r : Registry) (path : TypePath) : Registry :=
  { r with structs := r.structs.insert path }

/-- The kind of the type that a path names.  A name declared as both is an
    enumeration. -/
def lookup (r : Registry) (path : TypePath) : Option DeclaredKind :=
  if path ∈ r.enums then some .enum
  else if path ∈ r.structs then some .struct
  else none

/-- The registry with everything that an interface declares under its name. -/
def declare (r : Registry) (i : InterfaceElement) : Registry :=
  match i.name with
  | none => r
  | some owner =>
    let r := (i.enums.filterMap id).foldl (fun r name => r.addEnum ⟨owner, name⟩) r
    (i.structs.filterMap id).foldl (fun r name => r.addStruct ⟨owner, name⟩) r

end Registry

/-- The types declared in a document.  Interfaces and types without a name
    declare nothing. -/
def Document.registry (d : Document) : Registry :=
  d.interfaces.foldl Registry.declare {}

end CallerStubs
