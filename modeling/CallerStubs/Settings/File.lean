/-
  Caller stubs — settings as a file.

  A settings file is a YAML mapping.  Entries that have no meaning here are
  passed over; any scalar stands for its text.

  * `Settings.parse`: the settings that a text describes;
  * `Settings.print`: the text of settings.
-/
import CallerStubs.Settings.Basic
import CallerStubs.Yaml.Node
import CallerStubs.Yaml.Style

namespace CallerStubs

open Yaml

/-! ## Reading -/

/-- An entry of the mapping: the text of its key, and its value. -/
abbrev SettingsEntry := List Char × Node

/-- The text under a name: absent if the name is not there, and a failure if it
    is there twice or if its value has no text. -/
def settingText (anchors : Anchors) (entries : List SettingsEntry) (name : String) :
    Option (Option String) :=
  match entries.filter (·.1 == name.toList) with
  | [] => some none
  | [(_, node)] => (anchors.textOf? node).map fun cs => some (String.ofList cs)
  | _ => none

namespace Settings

/-- The settings that a mapping describes. -/
def ofEntries? (anchors : Anchors) (entries : List SettingsEntry) : Option Settings := do
  let text := settingText anchors entries
  let schemaPath ← ← text "schema_path"
  let outputDir ← ← text "output_dir"
  let release ← text "variant"
  let provider ← text "provider"
  let className ← text "class_name"
  let dbusService ← text "dbus_service"
  let dbusPath ← text "dbus_path"
  let requestsNamespace ← text "requests_namespace"
  let base := initial schemaPath outputDir
  let release ← match release with
    | none => some base.release
    | some selector => (QtRelease.ofSelector selector).toOption
  some { base with
    release
    provider := provider.getD base.provider
    className := className.getD base.className
    dbusService := dbusService.getD base.dbusService
    dbusPath := dbusPath.getD base.dbusPath
    requestsNamespace := requestsNamespace.getD base.requestsNamespace }

/-- The settings that a document describes. -/
def ofTree? (tree : Tree) : Option Settings :=
  match tree.root with
  | .mapping entries => do
    let keys ← entries.mapM fun (key, value) => (tree.anchors.textOf? key).map (·, value)
    ofEntries? tree.anchors keys
  | _ => none

/-- The settings that a text describes. -/
def parse (text : String) : Except Fault Settings :=
  match (Tree.read text.toList).bind ofTree? with
  | some s => .ok s
  | none => .error .settingsText

/-! ## Writing -/

/-- The fields of settings under the names that they have in a file. -/
def fields (s : Settings) : List (String × String) := [
  ("schema_path", s.schemaPath),
  ("output_dir", s.outputDir),
  ("variant", s.release.selector),
  ("provider", s.provider),
  ("class_name", s.className),
  ("dbus_service", s.dbusService),
  ("dbus_path", s.dbusPath),
  ("requests_namespace", s.requestsNamespace)]

/-- The entry of a field. -/
def printField (field : String × String) : List Char :=
  field.1.toList ++ [':', ' '] ++ writeScalar field.2

/-- The text of settings, an entry for each field. -/
def print (s : Settings) : String :=
  String.ofList (s.fields.flatMap printField)

end Settings

end CallerStubs
