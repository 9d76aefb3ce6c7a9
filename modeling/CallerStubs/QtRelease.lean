/-
  Caller stubs — the Qt release that the generated class is compiled with.

  The release decides the type of the callback that every generated method
  takes, the header that declares this type, and how the dispatcher is
  invoked; nothing else.

  * `QtRelease.ofSelector`: the release that a user asks for by its number.
-/
import CallerStubs.Fault
import CallerStubs.Text.Blank

namespace CallerStubs

/-- A supported release of Qt. -/
inductive QtRelease where
  | qt4
  | qt5
  deriving DecidableEq, Repr

namespace QtRelease

instance : Inhabited QtRelease := ⟨qt4⟩

/-- All supported releases, the default first. -/
def all : List QtRelease := [qt4, qt5]

/-- The number by which a user selects the release. -/
def selector : QtRelease → String
  | qt4 => "4.8.5"
  | qt5 => "5.1.0"

/-- The type of the callback that a generated method takes last. -/
def callbackType : QtRelease → String
  | qt4 => "QScriptValue"
  | qt5 => "QJSValue"

/-- The header that declares the callback type. -/
def callbackInclude : QtRelease → String
  | qt4 => "QtScript/QScriptValue"
  | qt5 => "QtQml/QJSValue"

/-- How the dispatcher is invoked, as the first part of the name of a connection type. -/
def connectionMode : QtRelease → String
  | qt4 => "Direct"
  | qt5 => "BlockingQueued"

/-- The release selected by a text, whatever white space surrounds it. -/
def ofSelector (text : String) : Except Fault QtRelease :=
  let wanted := Text.trim text
  if wanted = qt4.selector then .ok qt4
  else if wanted = qt5.selector then .ok qt5
  else .error (.unsupportedRelease wanted)

end QtRelease

end CallerStubs
