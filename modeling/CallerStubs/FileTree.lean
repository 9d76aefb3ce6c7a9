/-
  Caller stubs — files and directories.

  * `FileTree`: the entries of a file system and the directory from which
    relative paths start;
  * `FilePath`: a path, by its segments;
  * `FileTree.readText`, `FileTree.createDirectories`, `FileTree.writeText`:
    the three operations that a run needs, with the refusals of a file system;
  * `Disk`, `FileTree.disk`: the operations as they are handed to a run.
-/
import CallerStubs.Fault
import CallerStubs.Text.Split

namespace CallerStubs

/-! ## Paths -/

/-- A path.  Its segments are the texts between the slashes, without the empty
    ones. -/
structure FilePath where
  absolute : Bool
  segments : List String
  /-- Does the path end with a slash? -/
  endsWithSlash : Bool
  deriving DecidableEq, Repr

namespace FilePath

/-- The path that a text writes. -/
def ofText (text : String) : FilePath where
  absolute := text.toList.head? == some '/'
  segments := (Text.splitText '/' text).filter (· ≠ "")
  endsWithSlash := text.toList.getLast? == some '/'

/-- The segments that count: a dot only does at the start of a relative
    path. -/
def components (p : FilePath) : List String :=
  match p.segments with
  | [] => []
  | s :: rest =>
    if s = "." ∧ p.absolute then rest.filter (· ≠ ".") else s :: rest.filter (· ≠ ".")

/-- The path with other segments. -/
def withSegments (p : FilePath) (segments : List String) : FilePath :=
  { p with segments, endsWithSlash := false }

/-- The paths above a path, from the nearest on, as far as they have a
    segment. -/
def ancestors (p : FilePath) : List FilePath :=
  let above := p.components.dropLast
  (List.range above.length).map fun k => p.withSegments (above.take (above.length - k))

end FilePath

/-- The path of a file in a directory.  An absolute path leads to the file from
    any directory. -/
def joinPath (directory fileName : String) : String :=
  if directory = "" ∨ fileName.toList.head? = some '/' then fileName
  else if directory.toList.getLast? == some '/' then directory ++ fileName
  else directory ++ "/" ++ fileName

/-! ## Trees -/

/-- The names on the way from the root of the file system. -/
abbrev Location := List String

/-- What a name stands for. -/
inductive Entry where
  | file (bytes : ByteArray)
  | directory

def Entry.isDirectory : Entry → Bool
  | .file _ => false
  | .directory => true

/-- The entries of a file system.  The root is a directory without an entry. -/
structure FileTree where
  entries : List (Location × Entry) := []
  /-- Where relative paths start. -/
  workingDirectory : Location := []

namespace FileTree

/-- The entry at a location. -/
def lookup (t : FileTree) (l : Location) : Option Entry :=
  if l = [] then some .directory else t.entries.lookup l

/-- The tree with an entry at a location, in place of the one that was there. -/
def insert (t : FileTree) (l : Location) (e : Entry) : FileTree :=
  { t with entries := (l, e) :: t.entries.filter (·.1 ≠ l) }

/-- The greatest length of a name, in bytes. -/
def maxNameSize : Nat := 255

/-- The length from which on a path is refused, in bytes. -/
def maxPathSize : Nat := 4096

/-- The location at the end of segments that are followed from a location.
    All of it has to be there. -/
def walk (t : FileTree) (l : Location) : List String → Except IoFault Location
  | [] => .ok l
  | s :: segments =>
    match t.lookup l with
    | none => .error .notFound
    | some (.file _) => .error .notDirectory
    | some .directory =>
      if s = "." then t.walk l segments
      else if s = ".." then t.walk l.dropLast segments
      else if s.utf8ByteSize > maxNameSize then .error .nameTooLong
      else if (t.lookup (l ++ [s])).isNone then .error .notFound
      else t.walk (l ++ [s]) segments

/-- The location from which a path is followed. -/
def origin (t : FileTree) (p : FilePath) : Location :=
  if p.absolute then [] else t.workingDirectory

/-- Refuses texts that write no path. -/
def checkPath (text : String) : Except IoFault Unit :=
  if '\x00' ∈ text.toList then .error .nameWithNul
  else if text = "" then .error .notFound
  else if text.utf8ByteSize ≥ maxPathSize then .error .nameTooLong
  else .ok ()

/-- The location of a path that names something present. -/
def resolve (t : FileTree) (p : FilePath) : Except IoFault Location :=
  t.walk (t.origin p) p.segments

/-- The place that a path names in an existing directory: the location of the
    directory, and the last segment. -/
def place (t : FileTree) (p : FilePath) : Except IoFault (Location × Option String) := do
  let l ← t.walk (t.origin p) p.segments.dropLast
  match t.lookup l with
  | some .directory => .ok (l, p.segments.getLast?)
  | some (.file _) => .error .notDirectory
  | none => .error .notFound

/-- Does the path name a directory? -/
def isDirectory (t : FileTree) (p : FilePath) : Bool :=
  match t.resolve p with
  | .ok l => (t.lookup l).any Entry.isDirectory
  | .error _ => false

/-! ## Operations -/

/-- The text of the file that a path names. -/
def readText (t : FileTree) (text : String) : Except IoFault String := do
  checkPath text
  let p := FilePath.ofText text
  let l ← t.resolve p
  match t.lookup l with
  | none => .error .notFound
  | some .directory => .error .isDirectory
  | some (.file bytes) =>
    if p.endsWithSlash then .error .notDirectory
    else match String.fromUTF8? bytes with
      | some s => .ok s
      | none => .error .notText

/-- The tree with a new directory. -/
def createDirectory (t : FileTree) (p : FilePath) : Except IoFault FileTree := do
  let (l, name) ← t.place p
  match name with
  | none => .error .alreadyExists
  | some s =>
    if s = "." ∨ s = ".." then .error .alreadyExists
    else if s.utf8ByteSize > maxNameSize then .error .nameTooLong
    else if (t.lookup (l ++ [s])).isSome then .error .alreadyExists
    else .ok (t.insert (l ++ [s]) .directory)

/-- The tree with the directory that is first in a list, and before it those of
    the others, each above the one before it, that are missing.  A refusal
    leaves what was created. -/
def createAll (t : FileTree) : List FilePath → FileTree × Except IoFault Unit
  | [] => (t, .ok ())
  | p :: above =>
    match t.createDirectory p with
    | .ok t => (t, .ok ())
    | .error .notFound =>
      match t.createAll above with
      | (t, .error e) => (t, .error e)
      | (t, .ok ()) =>
        match t.createDirectory p with
        | .ok t => (t, .ok ())
        | .error e => (t, if t.isDirectory p then .ok () else .error e)
    | .error e => (t, if t.isDirectory p then .ok () else .error e)

/-- The tree with the directory that a path names.  The empty path names the
    working directory. -/
def createDirectories (t : FileTree) (text : String) : FileTree × Except IoFault Unit :=
  if text = "" then (t, .ok ())
  else match checkPath text with
    | .error e => (t, .error e)
    | .ok () => t.createAll (FilePath.ofText text :: (FilePath.ofText text).ancestors)

/-- The tree with a file, whose old contents are lost. -/
def writeText (t : FileTree) (text contents : String) : Except IoFault FileTree := do
  checkPath text
  let p := FilePath.ofText text
  let (l, name) ← t.place p
  match name with
  | none => .error .isDirectory
  | some s =>
    if s = "." ∨ s = ".." ∨ p.endsWithSlash then .error .isDirectory
    else if s.utf8ByteSize > maxNameSize then .error .nameTooLong
    else if (t.lookup (l ++ [s])).any Entry.isDirectory then .error .isDirectory
    else .ok (t.insert (l ++ [s]) (.file contents.toUTF8))

end FileTree

/-! ## Disks -/

/-- The operations of a file system, as far as a run needs them. -/
structure Disk (m : Type → Type) where
  readText : String → m (Except IoFault String)
  createDirectories : String → m (Except IoFault Unit)
  writeText : (path contents : String) → m (Except IoFault Unit)

/-- The operations on a tree. -/
def FileTree.disk : Disk (StateM FileTree) where
  readText path := fun t => (t.readText path, t)
  createDirectories path := fun t => ((t.createDirectories path).2, (t.createDirectories path).1)
  writeText path contents := fun t =>
    match t.writeText path contents with
    | .ok t => (.ok (), t)
    | .error e => (.error e, t)

end CallerStubs
