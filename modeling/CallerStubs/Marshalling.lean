/-
  Caller stubs — bodies of generated methods.

  A body collects the arguments of a call in one list, in the order of the
  parameters, and hands the list to a dispatcher, which reads it by position.
  A parameter that may be left out travels in an envelope that says whether
  it is there.

  * `Dispatch`: the call that ends a body;
  * `Param.statements`: the lines that add one parameter;
  * `marshalling`: the lines of a body.
-/
import CallerStubs.HostType

namespace CallerStubs

/-- The call that hands the arguments over. -/
structure Dispatch where
  /-- The namespace of the dispatcher classes. -/
  namespaceName : String
  interface : String
  request : String
  /-- The name of the method's last parameter. -/
  callback : String
  deriving DecidableEq, Repr

/-- The name of the list of arguments in a body. -/
def argumentList : String := "args"

/-- The name of a parameter's envelope. -/
def Param.envelope (p : Param) : String := "o_" ++ p.name

/-- The line that starts the list of arguments. -/
def accumulatorLine : String := "QList<QVariant> " ++ argumentList ++ ";"

/-- The line that adds an expression to the list of arguments. -/
def appendLine (expression : String) : String :=
  argumentList ++ " << " ++ expression ++ ";"

/-- The lines that add a parameter to the list of arguments. -/
def Param.statements (p : Param) : List String :=
  if p.mandatory then [appendLine p.name]
  else
    let type := p.valueType.text
    [ "OptionalArgument< " ++ type ++ " > " ++ p.envelope ++ ";",
      p.envelope ++ ".presence = !" ++ p.name ++ ".isNull();",
      p.envelope ++ ".val = " ++ p.name ++ ".value< " ++ type ++ " >();",
      appendLine ("QVariant::fromValue(" ++ p.envelope ++ ")") ]

/-- The line that hands the arguments over. -/
def Dispatch.statement (d : Dispatch) : String :=
  "new " ++ d.namespaceName ++ "::" ++ d.interface ++ "_" ++ d.request ++ "(" ++ d.interface ++
    ", \"" ++ d.request ++ "\", " ++ argumentList ++ ", " ++ d.callback ++ ");"

/-- The lines of a body. -/
def marshalling (params : List Param) (d : Dispatch) : List String :=
  accumulatorLine :: (params.flatMap Param.statements ++ [d.statement])

end CallerStubs
