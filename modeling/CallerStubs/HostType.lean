/-
  Caller stubs — types of the generated code.

  * `HostType`, `HostType.text`: the types, and how they are written.  The
    brackets of a list are spaced, so that those of nested lists never meet;
  * `Param.valueType`: the type of a parameter's value;
  * `Param.signatureType`: its type in a signature, where everything that may
    be left out travels as a `QVariant`.
-/
import CallerStubs.Param

namespace CallerStubs

/-- A type of the generated code. -/
inductive HostType where
  /-- A container for a value that may be left out. -/
  | variant
  | stringList
  | list (element : HostType)
  | int
  | string
  | bool
  | double
  /-- A generated structure, such as `Common_TextField`. -/
  | struct (name : String)
  deriving DecidableEq, Repr

/-- How a type is written. -/
def HostType.text : HostType → String
  | variant => "QVariant"
  | stringList => "QStringList"
  | list element => "QList< " ++ element.text ++ " >"
  | int => "int"
  | string => "QString"
  | bool => "bool"
  | double => "double"
  | struct name => name

/-- The type of a single value of a base type. -/
def ParamKind.hostType : ParamKind → HostType
  | integer | enum _ => .int
  | string => .string
  | boolean => .bool
  | float => .double
  | struct path => .struct (path.joined "_")

namespace Param

/-- The type of the value, whether or not it may be left out. -/
def valueType (p : Param) : HostType :=
  if p.array then
    match p.kind with
    | .string => .stringList
    | kind => .list kind.hostType
  else p.kind.hostType

/-- The type in a signature. -/
def signatureType (p : Param) : HostType :=
  if p.mandatory then p.valueType else .variant

end Param

end CallerStubs
