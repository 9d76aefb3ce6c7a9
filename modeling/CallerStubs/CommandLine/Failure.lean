/-
  Caller stubs — why a command fails.

  A failure is a fault together with what the command was about to do.  It is
  reported as a headline and the causes below it.

  * `Failure`: why a command fails;
  * `Failure.report`: the text shown to the user.
-/
import CallerStubs.Fault
import CallerStubs.Text.Split

namespace CallerStubs

/-- Why a command fails. -/
inductive Failure where
  /-- The settings file cannot be used. -/
  | settingsFile (path : String) (cause : Fault)
  /-- Neither a document nor a settings file is given. -/
  | noDocument
  /-- The settings, changed as the flags say, cannot be used. -/
  | settings (cause : Fault)
  | generation (schemaPath : String) (cause : Fault)
  /-- The document to be checked cannot be used. -/
  | document (schemaPath : String) (cause : Fault)
  /-- Nothing could be generated from the document to be checked. -/
  | check (cause : Fault)
  deriving DecidableEq, Repr

namespace Failure

/-- The first line of a report. -/
def headline : Failure → String
  | settingsFile path _ => "Failed to load config " ++ path
  | noDocument => "--infile is required when no --config is given"
  | settings cause => cause.message
  | generation path _ => "Failed to generate stubs from " ++ path
  | document path _ => "Failed to load schema " ++ path
  | check _ => "Schema check failed"

/-- The causes in a report, outermost first. -/
def causes : Failure → List String
  | noDocument => []
  | settings cause => cause.causes
  | settingsFile _ cause | generation _ cause | document _ cause | check cause =>
    cause.message :: cause.causes

/-- A text whose lines after the first are indented by some columns. -/
def hanging (columns : Nat) (text : String) : String :=
  String.intercalate ("\n" ++ String.ofList (List.replicate columns ' ')) (Text.splitText '\n' text)

/-- The line of a cause that has no number. -/
def causeLine (cause : String) : String :=
  "    " ++ hanging 4 cause ++ "\n"

/-- The line of a cause with its number. -/
def numberedCauseLine (number : Nat) (cause : String) : String :=
  let digits := toString number
  let padding := String.ofList (List.replicate (5 - digits.length) ' ')
  padding ++ digits ++ ": " ++ hanging 7 cause ++ "\n"

/-- The lines of the causes.  They are numbered if there are several. -/
def causeLines : List String → String
  | [cause] => causeLine cause
  | causes => String.join (causes.mapIdx numberedCauseLine)

/-- The text shown for a failure. -/
def report (f : Failure) : String :=
  "Error: " ++ f.headline ++ "\n" ++
    if f.causes.isEmpty then "" else "\nCaused by:\n" ++ causeLines f.causes

end Failure

end CallerStubs
