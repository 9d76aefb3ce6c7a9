/-
  Caller stubs — a run on a disk.

  A run reads the document, makes the two files in memory, and only then
  writes them.  Whatever it does to the disk it does through a `Disk`.

  * `Logged`: a result with the records of the log up to it;
  * `Document.load`, `Settings.load`: the document and the settings in a file;
  * `Settings.save`, `Generation.write`: write the settings into a file, and the
    two files into a directory;
  * `Settings.generate`: the whole run.
-/
import CallerStubs.Document.Markup
import CallerStubs.FileTree
import CallerStubs.Generation
import CallerStubs.Settings.File

namespace CallerStubs

/-- A result with the records of the log up to it. -/
structure Logged (α : Type) where
  notices : List Notice
  result : α

variable {m : Type → Type} [Monad m]

/-! ## Reading -/

/-- The document in a file. -/
def Document.load (disk : Disk m) (path : String) : m (Except Fault Document) := do
  match ← disk.readText path with
  | .error e => pure (.error (.io e))
  | .ok text => pure (Document.parse text)

/-- The settings in a file. -/
def Settings.load (disk : Disk m) (path : String) : m (Except Fault Settings) := do
  match ← disk.readText path with
  | .error e => pure (.error (.io e))
  | .ok text => pure (Settings.parse text)

/-! ## Writing -/

/-- The record of a file that has been written. -/
def wroteNotice (path : String) : Notice where
  level := .info
  text := "Wrote " ++ path

/-- Writes files into a directory, one after the other, up to the first that
    is refused. -/
def writeArtifacts (disk : Disk m) (directory : String) :
    List Artifact → m (Logged (Except Fault Unit))
  | [] => pure ⟨[], .ok ()⟩
  | a :: rest => do
    let path := joinPath directory a.fileName
    match ← disk.writeText path a.contents with
    | .error e => pure ⟨[], .error (.io e)⟩
    | .ok () =>
      let more ← writeArtifacts disk directory rest
      pure ⟨wroteNotice path :: more.notices, more.result⟩

/-- Writes settings into a file. -/
def Settings.save (disk : Disk m) (path : String) (s : Settings) : m (Except Fault Unit) := do
  match ← disk.writeText path s.print with
  | .error e => pure (.error (.io e))
  | .ok () => pure (.ok ())

/-- Writes the header and the source file into a directory, which is created
    if it is missing. -/
def Generation.write (disk : Disk m) (directory : String) (g : Generation) :
    m (Logged (Except Fault Unit)) := do
  match ← disk.createDirectories directory with
  | .error e => pure ⟨[], .error (.io e)⟩
  | .ok () => writeArtifacts disk directory [g.header, g.source]

/-! ## The run -/

/-- The records of the start of a run. -/
def Settings.startNotices (s : Settings) : List Notice :=
  [⟨.info, s!"Generating {s.className} stubs from {s.schemaPath} (Qt {s.release.selector})"⟩,
    ⟨.debug, s!"Reading interface schema from {s.schemaPath}"⟩]

/-- The run that the settings ask for.  Nothing is written unless the whole
    generation succeeds. -/
def Settings.generate (disk : Disk m) (s : Settings) : m (Logged (Except Fault Generation)) := do
  match ← Document.load disk s.schemaPath with
  | .error e => pure ⟨s.startNotices, .error e⟩
  | .ok d =>
    let made := s.startNotices ++ Generation.notices d s
    match Generation.ofDocument d s with
    | .error e => pure ⟨made, .error e⟩
    | .ok g =>
      let written ← g.write disk s.outputDir
      pure ⟨made ++ written.notices, written.result.map fun () => g⟩

end CallerStubs
