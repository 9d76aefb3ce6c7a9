/-
  Caller stubs — references to declared types.

  A declared type is named by the interface that declares it and its own name,
  written `Interface.Name`.  A reference without a dot names a type of the
  interface in which it stands.

  * `TypePath`: the two segments of a reference;
  * `TypePath.parse`: the path that a reference stands for;
  * `TypePath.display`: its written form.
-/
import CallerStubs.Fault
import CallerStubs.Text.Blank
import CallerStubs.Text.Split

namespace CallerStubs

/-- The interface that declares a type, and the name of the type. -/
structure TypePath where
  interface : String
  name : String
  deriving DecidableEq, Repr

namespace TypePath

/-- The parts of a reference between its dots. -/
def segments (reference : String) : List String :=
  Text.splitText '.' reference

/-- The path that a reference stands for in the interface `owner`.  It has at
    most two segments, and none of them, the owner included, is blank. -/
def parse (reference owner : String) : Except SchemaFault TypePath :=
  let checked (path : TypePath) : Except SchemaFault TypePath :=
    if Text.blank path.interface || Text.blank path.name then .error (.blankSegment reference)
    else .ok path
  match segments reference with
  | [name] => checked ⟨owner, name⟩
  | [interface, name] => checked ⟨interface, name⟩
  | _ => .error (.longReference reference)

/-- The two segments with a text between them. -/
def joined (path : TypePath) (separator : String) : String :=
  path.interface ++ separator ++ path.name

/-- The written form of a path. -/
def display (path : TypePath) : String :=
  path.joined "."

end TypePath

end CallerStubs
