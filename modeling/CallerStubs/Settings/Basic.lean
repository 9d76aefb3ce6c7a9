/-
  Caller stubs — settings of a run.

  * `Settings`: where the document is, where the files go, and what the
    generated class is like;
  * `Settings.initial`: the settings before a user changes any of them;
  * `Settings.check`: refuses settings from which no usable file can be made;
  * `Settings.headerName`, `Settings.sourceName`: the names of the two files.
-/
import CallerStubs.QtRelease
import CallerStubs.Text.SnakeCase

namespace CallerStubs

/-- The settings of a run. -/
structure Settings where
  /-- The interface document. -/
  schemaPath : String
  /-- The directory of the generated files. -/
  outputDir : String
  release : QtRelease := .qt4
  /-- Who answers the requests that get a method. -/
  provider : String := "sdl"
  /-- The generated class. -/
  className : String := "RequestToSDL"
  /-- The service on the bus that the class talks to. -/
  dbusService : String := "com.ford.sdl.core"
  /-- The object of the service. -/
  dbusPath : String := "/"
  /-- The namespace of the dispatcher classes. -/
  requestsNamespace : String := "requests"
  deriving DecidableEq, Repr

namespace Settings

/-- The settings with a document and a directory, and otherwise as they are by
    default. -/
def initial (schemaPath outputDir : String) : Settings :=
  { schemaPath, outputDir }

/-- The fields that may not be blank, in the order in which they are looked
    at. -/
def required (s : Settings) : List (String × String) :=
  [("class_name", s.className), ("provider", s.provider), ("dbus_service", s.dbusService),
    ("requests_namespace", s.requestsNamespace)]

/-- The name of both files without their extension. -/
def stem (s : Settings) : String :=
  Text.snakeCase s.className

/-- Refuses settings from which no usable file can be made. -/
def check (s : Settings) : Except SettingsFault Unit :=
  match s.required.find? (Text.blank ·.2) with
  | some (field, _) => .error (.blankField field)
  | none => if s.stem = "" then .error (.emptyFileName s.className) else .ok ()

/-- The name of the generated header. -/
def headerName (s : Settings) : String := s.stem ++ ".h"

/-- The name of the generated source file. -/
def sourceName (s : Settings) : String := s.stem ++ ".cc"

end Settings

end CallerStubs
