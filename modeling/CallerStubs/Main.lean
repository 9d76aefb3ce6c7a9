/-
  Caller stubs — the program.

  The command line run on the disk of the machine.
-/
import CallerStubs.CommandLine.Outcome

namespace CallerStubs

/-- The refusal that an error of the machine stands for. -/
def IoFault.ofError : IO.Error → IoFault
  | .noFileOrDirectory .. => .notFound
  | .alreadyExists .. => .alreadyExists
  | .inappropriateType .. => .isDirectory
  | e => .other (toString e)

/-- What an action returns, or why it is refused. -/
def refusalOf {α : Type} (action : IO α) : IO (Except IoFault α) := do
  try
    let result ← action
    pure (.ok result)
  catch e => pure (.error (IoFault.ofError e))

/-- The disk of the machine. -/
def machineDisk : Disk IO where
  readText path := do
    match ← refusalOf (IO.FS.readBinFile path) with
    | .error e => pure (.error e)
    | .ok bytes =>
      match String.fromUTF8? bytes with
      | some text => pure (.ok text)
      | none => pure (.error .notText)
  createDirectories path :=
    if path = "" then pure (.ok ()) else refusalOf (IO.FS.createDirAll path)
  writeText path contents := refusalOf (IO.FS.writeFile path contents)

end CallerStubs

open CallerStubs in
/-- Runs the command line. -/
def main (arguments : List String) : IO UInt32 := do
  let outcome ← runArguments machineDisk arguments
  IO.print outcome.output
  IO.eprint outcome.errors
  pure outcome.exitCode.toUInt32
