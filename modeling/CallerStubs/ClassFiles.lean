/-
  Caller stubs — the two files of the generated class.

  Both files have a fixed frame.  The header has a declaration for each
  method and a member for each interface; the source file creates and
  releases the members and defines the methods.  What is put into the frame
  is copied as it is.

  * `ClassFrame`: what the frames are made of, besides the methods;
  * `Artifact`: a file by its name and its contents;
  * `classHeader`, `classSource`: the two files.
-/
import CallerStubs.Settings.Basic
import CallerStubs.Stub

namespace CallerStubs

/-- A generated file. -/
structure Artifact where
  fileName : String
  contents : String
  deriving DecidableEq, Repr

/-- What the two files are made of, besides the methods. -/
structure ClassFrame where
  className : String
  headerName : String
  sourceName : String
  /-- The macro that guards the header. -/
  guard : String
  release : QtRelease
  dbusService : String
  dbusPath : String
  deriving DecidableEq, Repr

/-- The frame of the class that the settings ask for. -/
def Settings.frame (s : Settings) : ClassFrame where
  className := s.className
  headerName := s.headerName
  sourceName := s.sourceName
  guard := Text.headerGuard s.className
  release := s.release
  dbusService := s.dbusService
  dbusPath := s.dbusPath

/-- A list of texts, one after the other. -/
def textOf (texts : List String) : String :=
  texts.foldr (· ++ ·) ""

theorem textOf_eq_join (texts : List String) : textOf texts = String.join texts := by
  induction texts with
  | nil => rfl
  | cons text texts ih => rw [String.join_cons, ← ih, textOf, textOf, List.foldr_cons]

/-- The methods of several interfaces, in order. -/
def stubsOf (groups : List StubGroup) : List Stub :=
  groups.flatMap (·.stubs)

namespace ClassFrame

/-- The first line of a generated file. -/
def banner : String :=
  "// Warning! This file is generated by 'rpcstub'. Edit at your own risk.\n"

/-- The comment that names a file. -/
def fileComment (name : String) : String :=
  "/**\n * @file " ++ name ++ "\n * @brief Generated class that process requests from qtHMI\n */\n"

/-! ## The header -/

/-- The header up to the declarations of the methods. -/
def headerStart (f : ClassFrame) : String :=
  banner ++ fileComment f.headerName ++ textOf [
    "#ifndef ", f.guard, "\n",
    "#define ", f.guard, "\n\n",
    "#include <QtCore/QObject>\n",
    "#include <QtCore/QVariant>\n",
    "#include <", f.release.callbackInclude, ">\n\n",
    "class QDBusInterface;\n",
    "class ", f.className, " : public QObject\n",
    "\x7b\n",
    "  Q_OBJECT\n",
    " public:\n",
    "  explicit ", f.className, "(QObject *parent = 0);\n",
    "  ~", f.className, "();\n"]

/-- The line that declares a method. -/
def declarationLine (s : Stub) : String :=
  "  " ++ s.declaration ++ "\n"

/-- The header between the declarations and the members. -/
def headerMiddle : String :=
  "  /// Connection type request objects use to invoke the HMI\n" ++
  "  static const Qt::ConnectionType kInvokeConnection;\n" ++
  " private:\n"

/-- The line that declares the member for an interface. -/
def memberLine (interface : String) : String :=
  "  QDBusInterface *" ++ interface ++ ";\n"

/-- The header after the members. -/
def headerEnd (f : ClassFrame) : String :=
  "\x7d;\n#endif  // " ++ f.guard ++ "\n"

/-- The contents of the header. -/
def headerText (f : ClassFrame) (groups : List StubGroup) : String :=
  f.headerStart ++ textOf ((stubsOf groups).map declarationLine) ++ headerMiddle ++
    textOf (groups.map fun g => memberLine g.name) ++ f.headerEnd

/-! ## The source file -/

/-- The source file up to the creation of the members. -/
def sourceStart (f : ClassFrame) : String :=
  banner ++ fileComment f.sourceName ++ textOf [
    "#include \"", f.headerName, "\"\n",
    "#include <QtDBus/QDBusConnection>\n",
    "#include <QtDBus/QDBusInterface>\n",
    "#include \"hmi_requests.h\"\n\n",
    "const Qt::ConnectionType ", f.className, "::kInvokeConnection = Qt::",
    f.release.connectionMode, "Connection;\n\n",
    f.className, "::", f.className, "(QObject *parent) \x7b\n",
    "  QDBusConnection bus = QDBusConnection::sessionBus();\n"]

/-- The line that creates the member for an interface. -/
def creationLine (f : ClassFrame) (interface : String) : String :=
  textOf ["  ", interface, " = new QDBusInterface(\"", f.dbusService, "\", \"", f.dbusPath,
    "\", \"", f.dbusService, ".", interface, "\", bus, this);\n"]

/-- The source file between the creation and the release of the members. -/
def sourceMiddle (f : ClassFrame) : String :=
  textOf ["\x7d\n\n", f.className, "::~", f.className, "() \x7b\n"]

/-- The line that releases the member for an interface. -/
def releaseLine (interface : String) : String :=
  "  " ++ interface ++ "->deleteLater();\n"

/-- The definition of a method, with an empty line before it. -/
def definitionText (s : Stub) : String :=
  "\n" ++ s.definition

/-- The contents of the source file. -/
def sourceText (f : ClassFrame) (groups : List StubGroup) : String :=
  f.sourceStart ++ textOf (groups.map fun g => f.creationLine g.name) ++ f.sourceMiddle ++
    textOf (groups.map fun g => releaseLine g.name) ++ "\x7d\n" ++
    textOf ((stubsOf groups).map definitionText)

end ClassFrame

/-- The header of the class with these methods. -/
def classHeader (f : ClassFrame) (groups : List StubGroup) : Artifact :=
  ⟨f.headerName, f.headerText groups⟩

/-- The source file of the class with these methods. -/
def classSource (f : ClassFrame) (groups : List StubGroup) : Artifact :=
  ⟨f.sourceName, f.sourceText groups⟩

end CallerStubs
