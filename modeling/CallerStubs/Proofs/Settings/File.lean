/-
  Caller stubs — settings are read back from their file.

  * `Settings.entryOf`, `Settings.read_fields`: the entries of a settings file;
  * `settingText_field`: each field is found again under its name;
  * `Settings.parse_print`: the settings that a printed text describes;
  * `Settings.load_save`: settings are read back from the file that they were
    saved in.
-/
import CallerStubs.Proofs.CommandLine.Settings
import CallerStubs.Proofs.Run.Write
import CallerStubs.Proofs.Yaml.Mapping

namespace CallerStubs

open Yaml

namespace Settings

/-! ## The text -/

/-- The entry of a field. -/
def entryOf (field : String × String) : EntryText where
  name := field.1.toList
  value := field.2.toList
  written := writeScalar field.2

/-- The names of the fields, which are the same for all settings. -/
def fieldNames : List String :=
  ["schema_path", "output_dir", "variant", "provider", "class_name", "dbus_service", "dbus_path",
    "requests_namespace"]

theorem names_fields (s : Settings) : s.fields.map Prod.fst = fieldNames :=
  rfl

theorem nodup_names_fields (s : Settings) : (s.fields.map Prod.fst).Nodup := by
  rw [names_fields]
  decide

theorem isKey_of_mem_fieldNames {name : String} (h : name ∈ fieldNames) :
    Layout.IsKey name.toList := by
  have hnames : ∀ name ∈ fieldNames, name.toList ≠ [] ∧
      name.toList.all isKeyChar = true ∧ name.utf8ByteSize ≤ Layout.maxKeySize := by
    decide
  obtain ⟨hnonempty, hchars, hsize⟩ := hnames _ h
  exact ⟨hnonempty, List.all_eq_true.1 hchars, by rwa [String.ofList_toList]⟩

/-- **The text of fields is a mapping of names to texts.** -/
theorem read_fields {fields : List (String × String)} (hne : fields ≠ [])
    (hnames : ∀ field ∈ fields, field.1 ∈ fieldNames) :
    Tree.read (fields.flatMap printField) =
      some ⟨.mapping (fields.map fun field =>
        (.scalar field.1.toList, .scalar field.2.toList)), {}⟩ := by
  have hlegible : ∀ e ∈ fields.map entryOf, e.Legible := by
    intro e he
    obtain ⟨field, hfield, rfl⟩ := List.mem_map.1 he
    exact ⟨isKey_of_mem_fieldNames (hnames field hfield), isWritten_writeScalar field.2⟩
  have htext : fields.flatMap printField = (fields.map entryOf).flatMap EntryText.text := by
    rw [List.flatMap_map]
    refine congrArg (fields.flatMap ·) (funext fun field => ?_)
    simp [printField, entryOf, EntryText.text]
  rw [htext, Tree.read_entries hlegible (by simpa using hne), List.map_map]
  rfl

theorem read_print (s : Settings) :
    Tree.read s.print.toList =
      some ⟨.mapping (s.fields.map fun field =>
        (.scalar field.1.toList, .scalar field.2.toList)), {}⟩ := by
  rw [print, String.toList_ofList]
  exact read_fields (by simp [fields]) fun field hfield =>
    s.names_fields ▸ List.mem_map_of_mem hfield

/-! ## The settings -/

/-- The entries of fields, by the texts of their keys. -/
def textEntries (fields : List (String × String)) : List SettingsEntry :=
  fields.map fun field => (field.1.toList, .scalar field.2.toList)

/-- **A field is found again under its name.** -/
theorem settingText_field {fields : List (String × String)} (h : (fields.map Prod.fst).Nodup)
    {field : String × String} (hfield : field ∈ fields) (anchors : Anchors) :
    settingText anchors (textEntries fields) field.1 = some (some field.2) := by
  have hfilter : (textEntries fields).filter (·.1 == field.1.toList) =
      textEntries (fields.filter (·.1 == field.1)) := by
    rw [textEntries, List.filter_map, textEntries]
    refine congrArg (List.map _) (List.filter_congr fun other _ => ?_)
    simp [String.toList_inj]
  rw [settingText, hfilter, filter_key_eq_singleton h hfield]
  simp [textEntries, Anchors.textOf?]

theorem ofSelector_selector (release : QtRelease) :
    QtRelease.ofSelector release.selector = .ok release := by
  cases release with
  | qt4 => rfl
  | qt5 => rfl

theorem ofEntries?_fields (s : Settings) (anchors : Anchors) :
    ofEntries? anchors (textEntries s.fields) = some s := by
  have htext : ∀ field ∈ s.fields,
      settingText anchors (textEntries s.fields) field.1 = some (some field.2) :=
    fun field hfield => settingText_field s.nodup_names_fields hfield anchors
  generalize textEntries s.fields = entries at htext
  simp only [fields, List.forall_mem_cons] at htext
  obtain ⟨hschemaPath, houtputDir, hrelease, hprovider, hclassName, hdbusService, hdbusPath,
    hrequestsNamespace, -⟩ := htext
  simp [ofEntries?, hschemaPath, houtputDir, hrelease, hprovider, hclassName, hdbusService,
    hdbusPath, hrequestsNamespace, ofSelector_selector, Except.toOption, initial]

theorem mapM_keys_fields (fields : List (String × String)) :
    (fields.map fun field => (Node.scalar field.1.toList, Node.scalar field.2.toList)).mapM
      (fun (key, value) => (Anchors.textOf? {} key).map (·, value)) =
        some (textEntries fields) := by
  induction fields with
  | nil => rfl
  | cons field fields ih =>
    rw [List.map_cons, List.mapM_cons, ih]
    rfl

/-- **The settings that a printed text describes** are those that were
    printed. -/
theorem parse_print (s : Settings) : parse s.print = .ok s := by
  have htree : (Tree.read s.print.toList).bind ofTree? = some s := by
    rw [read_print, Option.bind_some, ofTree?]
    dsimp only
    rw [mapM_keys_fields]
    exact s.ofEntries?_fields {}
  rw [parse, htree]

/-! ## The file -/

variable {t t' : FileTree} {path : String}

theorem writeText_of_run_save {s : Settings}
    (h : (save FileTree.disk path s).run t = (.ok (), t')) :
    t.writeText path s.print = .ok t' := by
  rw [save, StateT.run_bind] at h
  cases hwrite : t.writeText path s.print with
  | error e =>
    rw [run_writeText_error hwrite] at h
    cases h
  | ok t₁ =>
    rw [run_writeText_ok hwrite] at h
    cases h
    rfl

/-- **Settings are read back from the file that they were saved in.** -/
theorem load_save (s : Settings) : parse s.print = .ok s ∧
    ∀ path t t', (save FileTree.disk path s).run t = (.ok (), t') →
      (load FileTree.disk path).run t' = (.ok s, t') := by
  refine ⟨s.parse_print, fun path t t' h => ?_⟩
  obtain ⟨l, name, hputs⟩ := FileTree.writeText_eq_ok_iff.1 (writeText_of_run_save h)
  have hread : t'.readText path = .ok s.print :=
    (hputs.readText_eq_ok_iff hputs.keeps).2 hputs.lookup_self
  have hload : t'.loadText path = .ok s.print := by
    rw [FileTree.loadText, hread]
    rfl
  rw [run_load, hload]
  simp only [bind, Except.bind, parse_print]

/-- Settings whose texts are not plain: they are empty, hold breaks or controls,
    or look like something other than a text. -/
def awkward : Settings where
  schemaPath := " ~ \n\n"
  outputDir := ""
  release := .qt5
  provider := "--- |\n  key: 'value' # \"note\"\n"
  className := "null"
  dbusService := "\u0000\u0007\u2028"
  dbusPath := "\n  0x1F\n"
  requestsNamespace := "- [&anchor, *alias]\r\n..."

/-- The settings are saved in an empty tree, and read back. -/
theorem load_save_awkward :
    ∃ t', (save FileTree.disk "settings.yaml" awkward).run {} = (.ok (), t') ∧
      (load FileTree.disk "settings.yaml").run t' = (.ok awkward, t') :=
  ⟨_, rfl, awkward.load_save.2 "settings.yaml" {} _ rfl⟩

end Settings

end CallerStubs
