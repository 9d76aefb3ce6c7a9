/-
  Caller stubs — command lines.

  * `Command`, `Flag`: what can be asked for, and with which flags;
  * `Invocation`: what a command line asks for;
  * `Invocation.ofArguments?`: the meaning of a command line, unless it is not
    well-formed.
-/
namespace CallerStubs

/-- What a run can do. -/
inductive Command where
  /-- Write the generated files. -/
  | generate
  /-- Only say what would be generated. -/
  | check
  deriving DecidableEq, Repr

/-- A flag, which is followed by a value. -/
inductive Flag where
  /-- The interface document. -/
  | infile
  /-- The directory of the generated files. -/
  | outdir
  /-- The settings file. -/
  | config
  /-- The Qt release. -/
  | version
  | provider
  | className
  deriving DecidableEq, Repr

/-- The flags of a command line with their values, in the order in which they
    stand there. -/
abbrev FlagValues := List (Flag × String)

/-- What a command line asks for. -/
inductive Invocation where
  | run (command : Command) (values : FlagValues)
  | help
  | version
  deriving DecidableEq, Repr

/-! ## Names -/

def Command.name : Command → String
  | generate => "generate"
  | check => "check"

def Flag.name : Flag → String
  | infile => "--infile"
  | outdir => "--outdir"
  | config => "--config"
  | version => "--version"
  | provider => "--provider"
  | className => "--class-name"

/-- The flags that a command knows. -/
def Command.flags : Command → List Flag
  | generate => [.infile, .version, .config, .provider, .className, .outdir]
  | check => [.infile, .version, .config, .provider, .className]

/-- The command with a name. -/
def Command.ofName? (name : String) : Option Command :=
  [generate, check].find? (·.name == name)

/-- The flag of a command with a name. -/
def Command.flag? (c : Command) (name : String) : Option Flag :=
  c.flags.find? (·.name == name)

/-- Is the value of the flag a path? -/
def Flag.namesPath : Flag → Bool
  | infile | outdir | config => true
  | version | provider | className => false

/-! ## Arguments -/

/-- May the argument be the value of a flag that stands before it? -/
def isValueArgument (argument : String) : Bool :=
  argument.toList.head? != some '-' || argument == "-"

/-- Does the argument begin with a flag of one letter? -/
def hasShortFlag (letter : Char) (argument : String) : Bool :=
  ['-', letter].isPrefixOf argument.toList

/-- The part of an argument before its first equals sign, and the part behind
    it. -/
def splitArgument (argument : String) : String × Option String :=
  let cs := argument.toList
  match cs.dropWhile (· != '=') with
  | [] => (argument, none)
  | _ :: value => (String.ofList (cs.takeWhile (· != '=')), some (String.ofList value))

/-- The values with one more.  A flag stands only once, and a path is not
    empty. -/
def FlagValues.add (values : FlagValues) (flag : Flag) (value : String) : Option FlagValues :=
  if (values.lookup flag).isSome || (flag.namesPath && value == "") then none
  else some (values ++ [(flag, value)])

/-- The meaning of the arguments behind a command and some of its flags. -/
def Command.invocation? (c : Command) (values : FlagValues) : List String → Option Invocation
  | [] | ["--"] => some (.run c values)
  | argument :: arguments =>
    if argument = "--help" ∨ hasShortFlag 'h' argument then some .help
    else
      match c.flag? (splitArgument argument).1, (splitArgument argument).2, arguments with
      | none, _, _ => none
      | some flag, some value, arguments => do
        c.invocation? (← values.add flag value) arguments
      | some _, none, [] => none
      | some flag, none, value :: arguments =>
        if isValueArgument value then do c.invocation? (← values.add flag value) arguments
        else none

/-- The names that help can be asked about. -/
def helpTopics : List String := ["generate", "check", "help"]

/-- The meaning of the arguments of a command line. -/
def Invocation.ofArguments? : List String → Option Invocation
  | [] => none
  | argument :: arguments =>
    if argument = "--version" ∨ hasShortFlag 'V' argument then some .version
    else if argument = "--help" ∨ hasShortFlag 'h' argument then some .help
    else if argument = "help" then
      match arguments with
      | [] => some .help
      | [topic] => if topic ∈ helpTopics then some .help else none
      | _ => none
    else do
      let command ← Command.ofName? argument
      command.invocation? [] arguments

end CallerStubs
