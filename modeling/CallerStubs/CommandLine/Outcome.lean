/-
  Caller stubs — running a command line.

  Flags take precedence over the settings file, field by field.  What a
  command does to the disk it does through a `Disk`.

  * `FlagValues.settings`: the settings of a run;
  * `Command.run`: what a command prints, or why it fails;
  * `Outcome`, `runArguments`: what a command line prints, and its exit code.
-/
import CallerStubs.CommandLine.Failure
import CallerStubs.CommandLine.Invocation
import CallerStubs.Run

namespace CallerStubs

variable {m : Type → Type} [Monad m]

/-! ## Settings -/

namespace FlagValues

/-- The settings with the values of the flags in place of theirs. -/
def override (values : FlagValues) (base : Settings) (release : QtRelease) : Settings :=
  { base with
    schemaPath := (values.lookup .infile).getD base.schemaPath
    outputDir := (values.lookup .outdir).getD base.outputDir
    release
    provider := (values.lookup .provider).getD base.provider
    className := (values.lookup .className).getD base.className }

/-- The settings changed as the flags say, unless they cannot be used. -/
def merge (values : FlagValues) (base : Settings) : Except Fault Settings := do
  let release ← match values.lookup .version with
    | none => .ok base.release
    | some selector => QtRelease.ofSelector selector
  let s := values.override base release
  (s.check).mapError Fault.settings
  .ok s

/-- The settings before the flags change them: those in the settings file, or
    else the default ones. -/
def base (values : FlagValues) (disk : Disk m) : m (Except Failure Settings) := do
  match values.lookup .config, values.lookup .infile with
  | some path, _ => do
    let loaded ← Settings.load disk path
    pure (loaded.mapError (.settingsFile path))
  | none, some infile => pure (.ok (Settings.initial infile "."))
  | none, none => pure (.error .noDocument)

/-- The settings of a run. -/
def settings (values : FlagValues) (disk : Disk m) : m (Except Failure Settings) := do
  match ← values.base disk with
  | .error f => pure (.error f)
  | .ok base => pure ((values.merge base).mapError .settings)

end FlagValues

/-! ## Commands -/

/-- The line printed when the files have been written. -/
def Generation.doneLine (g : Generation) (directory : String) : String :=
  let requests := g.requestCount
  s!"Generated {requests} requests into {g.header.fileName} and {g.source.fileName} " ++
    s!"in {directory}\n"

/-- The line printed for a method. -/
def Stub.checkLine (s : Stub) : String :=
  let types := commaJoined s.signature.parameterTypes
  let response := s.response.getD "-"
  s!"  {s.signature.name}({types}) -> {response}\n"

/-- The lines printed for an interface. -/
def StubGroup.checkLines (g : StubGroup) : String :=
  s!"{g.name} ({g.stubs.length} requests)\n" ++ textOf (g.stubs.map (·.checkLine))

/-- The text printed when the files could be generated. -/
def Generation.checkText (g : Generation) : String :=
  let requests := g.requestCount
  textOf (g.groups.map (·.checkLines)) ++
    s!"OK: {g.header.fileName} would be generated with {requests} requests\n"

/-- Generates the files and writes them. -/
def runGenerate (disk : Disk m) (s : Settings) : m (Except Failure String) := do
  let run ← s.generate disk
  match run.result with
  | .ok g => pure (.ok (g.doneLine s.outputDir))
  | .error e => pure (.error (.generation s.schemaPath e))

/-- Generates the files and does not write them. -/
def runCheck (disk : Disk m) (s : Settings) : m (Except Failure String) := do
  match ← Document.load disk s.schemaPath with
  | .error e => pure (.error (.document s.schemaPath e))
  | .ok d =>
    match Generation.ofDocument d s with
    | .ok g => pure (.ok g.checkText)
    | .error e => pure (.error (.check e))

/-- What a command prints, or why it fails. -/
def Command.run (disk : Disk m) (c : Command) (values : FlagValues) :
    m (Except Failure String) := do
  match ← values.settings disk with
  | .error f => pure (.error f)
  | .ok s =>
    match c with
    | .generate => runGenerate disk s
    | .check => runCheck disk s

/-! ## Command lines -/

/-- What a command line prints, and its exit code. -/
structure Outcome where
  exitCode : Nat
  output : String := ""
  errors : String := ""
  deriving DecidableEq, Repr

/-- The name and the version of the program. -/
def versionLine : String := "rpcstub 0.1.0\n"

/-- How to write a command line. -/
def usage : String :=
  "Usage: rpcstub <generate|check> [--infile PATH] [--version VARIANT] [--config PATH]\n" ++
  "         [--provider NAME] [--class-name NAME] [--outdir PATH (generate only)]\n"

/-- Runs the command line with these arguments. -/
def runArguments (disk : Disk m) (arguments : List String) : m Outcome := do
  match Invocation.ofArguments? arguments with
  | none => pure { exitCode := 2, errors := usage }
  | some .help => pure { exitCode := 0, output := usage }
  | some .version => pure { exitCode := 0, output := versionLine }
  | some (.run command values) =>
    match ← command.run disk values with
    | .ok output => pure { exitCode := 0, output }
    | .error f => pure { exitCode := 1, errors := f.report }

end CallerStubs
