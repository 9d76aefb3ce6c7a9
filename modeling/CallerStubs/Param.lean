/-
  Caller stubs — parameters of requests.

  A parameter has a base type and two modifiers: it may be left out, and it
  may be an array.  A parameter exists only when its type is known, so every
  parameter has a type in the generated code.

  * `ParamKind`, `Limits`, `Param`: a parameter and its parts;
  * `Param.build`: the parameter that an element of a document describes;
  * `Modifier`, `Param.modified`: changes of the modifiers, one or several in
    a row.
-/
import CallerStubs.Registry

namespace CallerStubs

/-- The base type of a parameter. -/
inductive ParamKind where
  | integer
  | float
  | boolean
  | string
  /-- An enumeration; its values travel as integers. -/
  | enum (path : TypePath)
  | struct (path : TypePath)
  deriving DecidableEq, Repr

/-- The primitive type of a spelling. -/
def ParamKind.primitive? : String → Option ParamKind
  | "Integer" => some integer
  | "Float" => some float
  | "Boolean" => some boolean
  | "String" => some string
  | _ => none

/-- The limits declared on a parameter, as they were written. -/
structure Limits where
  minValue : Option String := none
  maxValue : Option String := none
  minLength : Option String := none
  maxLength : Option String := none
  minSize : Option String := none
  maxSize : Option String := none
  deriving DecidableEq, Repr, Inhabited

/-- The limits of an element. -/
def Limits.ofElement (e : ParamElement) : Limits where
  minValue := e.minValue
  maxValue := e.maxValue
  minLength := e.minLength
  maxLength := e.maxLength
  minSize := e.minSize
  maxSize := e.maxSize

/-- A parameter of a request. -/
structure Param where
  name : String
  kind : ParamKind
  mandatory : Bool := true
  array : Bool := false
  limits : Limits := {}
  deriving DecidableEq, Repr

/-- The text, unless it is absent or empty. -/
def present? (text : Option String) : Option String :=
  text.filter (· ≠ "")

/-- The base type that a text names in the interface `owner`. -/
def ParamKind.resolve (registry : Registry) (owner param type : String) :
    Except SchemaFault ParamKind :=
  match ParamKind.primitive? type with
  | some kind => .ok kind
  | none => do
    let path ← TypePath.parse type owner
    match registry.lookup path with
    | some .enum => .ok (.enum path)
    | some .struct => .ok (.struct path)
    | none => .error (.unknownType owner param type)

namespace Param

/-- The parameter that an element in the interface `owner` describes.  It is
    mandatory unless the element says `false`, and an array only if the
    element says `true`. -/
def build (registry : Registry) (owner : String) (e : ParamElement) :
    Except SchemaFault Param :=
  match present? e.name with
  | none => .error (.unnamedParam owner)
  | some name =>
    match e.type with
    | none => .error (.untypedParam owner name)
    | some type => do
      let kind ← ParamKind.resolve registry owner name type
      .ok {
        name, kind
        mandatory := e.mandatory != some "false"
        array := e.array == some "true"
        limits := .ofElement e }

/-- The same parameter, which may be left out. -/
def optional (p : Param) : Param := { p with mandatory := false }

/-- The same parameter, as an array. -/
def asArray (p : Param) : Param := { p with array := true }

/-- One element of the parameter, if it is an array. -/
def element (p : Param) : Param := { p with array := false }

end Param

/-- A change of the modifiers of a parameter. -/
inductive Modifier where
  | optional
  | array
  | element
  deriving DecidableEq, Repr

def Modifier.apply : Modifier → Param → Param
  | optional => Param.optional
  | array => Param.asArray
  | element => Param.element

/-- The parameter after a row of changes. -/
def Param.modified (p : Param) (ms : List Modifier) : Param :=
  ms.foldl (fun p m => m.apply p) p

end CallerStubs
