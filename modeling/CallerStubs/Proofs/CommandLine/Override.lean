/-
  Caller stubs — flags take the place of what the settings file says.

  The settings of a run are those of its file, or else the default ones, with
  the values of the flags in place of theirs.  The file is read as a whole
  before that, so it has to be a settings file also where a flag is given; but
  it has to be usable only where none is.

  * `QtRelease.ofSelector_eq_ok_iff`: the texts that select a release;
  * `Settings.AsksFor`: a settings file asks for a release;
  * `FlagValues.Base`, `FlagValues.Selects`, `FlagValues.Overridden`: the
    settings before the flags, the release, and the settings after the flags;
  * `FlagValues.Resolves`: how the search for the settings of a run ends;
  * `Settings.Usable`, `FlagValues.Sound`: settings and flags without a fault;
  * `settings_overridden`: all this for every tree and all flags.
-/
import CallerStubs.Proofs.Run.Confinement
import CallerStubs.Proofs.Settings.File

namespace CallerStubs

open Yaml

/-! ## Releases -/

namespace QtRelease

variable {text : String}

theorem selector_inj {release release' : QtRelease} (h : release.selector = release'.selector) :
    release = release' := by
  cases release <;> cases release' <;> first | rfl | exact absurd h (by decide)

/-- **A text selects a release** iff it is its number, but for white space
    around it. -/
theorem ofSelector_eq_ok_iff {release : QtRelease} :
    ofSelector text = .ok release ↔ Text.trim text = release.selector := by
  unfold ofSelector
  dsimp only
  constructor
  · intro h
    split_ifs at h with h₄ h₅ <;> cases h
    · exact h₄
    · exact h₅
  · intro h
    cases release with
    | qt4 => rw [if_pos h]
    | qt5 =>
      have hne : Text.trim text ≠ qt4.selector := fun h₄ => by
        cases selector_inj (h.symm.trans h₄)
      rw [if_neg hne, if_pos h]

theorem ofSelector_eq_error_iff {fault : Fault} : ofSelector text = .error fault ↔
    (∀ release : QtRelease, Text.trim text ≠ release.selector) ∧
      fault = .unsupportedRelease (Text.trim text) := by
  unfold ofSelector
  dsimp only
  split_ifs with h₄ h₅
  · exact iff_of_false nofun fun h => h.1 .qt4 h₄
  · exact iff_of_false nofun fun h => h.1 .qt5 h₅
  · have hnone : ∀ release : QtRelease, Text.trim text ≠ release.selector := by
      intro release
      cases release with
      | qt4 => exact h₄
      | qt5 => exact h₅
    rw [Except.error.injEq, and_iff_right hnone, eq_comm]

end QtRelease

/-! ## Settings -/

namespace Settings

/-- **The text of a settings file asks for a release**: it is a mapping with
    this entry for the release. -/
def AsksFor (text selector : String) : Prop :=
  ∃ tree entries keys, Tree.read text.toList = some tree ∧ tree.root = .mapping entries ∧
    entries.mapM (fun (key, value) => (tree.anchors.textOf? key).map (·, value)) = some keys ∧
      settingText tree.anchors keys "variant" = some (some selector)

/-- Entries describe no settings if they ask for a release that is not
    supported. -/
theorem ofEntries?_eq_none {anchors : Anchors} {entries : List SettingsEntry} {selector : String}
    (hentry : settingText anchors entries "variant" = some (some selector))
    (hunsupported : ∀ release : QtRelease, Text.trim selector ≠ release.selector) :
    ofEntries? anchors entries = none := by
  have hrefused := QtRelease.ofSelector_eq_error_iff.2 ⟨hunsupported, rfl⟩
  refine Option.eq_none_iff_forall_ne_some.2 fun s h => ?_
  simp only [ofEntries?, hentry, bind, Option.bind_eq_some_iff] at h
  -- the release is looked at behind the other fields
  obtain ⟨_, _, _, _, _, _, _, _, release, hrelease, _, _, _, _, _, _, _, _, _, _, h⟩ := h
  obtain rfl := Option.some.inj hrelease
  simp only [hrefused] at h
  cases h

/-- **A file that asks for an unsupported release is no settings file.** -/
theorem AsksFor.parse_eq {text selector : String} (h : AsksFor text selector)
    (hunsupported : ∀ release : QtRelease, Text.trim selector ≠ release.selector) :
    parse text = .error .settingsText := by
  obtain ⟨tree, entries, keys, hread, hroot, hkeys, hentry⟩ := h
  have hnone : (Tree.read text.toList).bind ofTree? = none := by
    rw [hread, Option.bind_some, ofTree?, hroot]
    dsimp only
    rw [hkeys]
    exact ofEntries?_eq_none hentry hunsupported
  rw [parse, hnone]

/-- **Settings that pass the check**: no required field is blank, and the class
    gives the files a name. -/
structure Usable (s : Settings) : Prop where
  className : Text.blank s.className = false
  provider : Text.blank s.provider = false
  dbusService : Text.blank s.dbusService = false
  requestsNamespace : Text.blank s.requestsNamespace = false
  fileName : Text.snakeCase s.className ≠ ""

theorem check_eq_ok_iff_usable {s : Settings} : s.check = .ok () ↔ s.Usable := by
  rw [check_eq_ok_iff]
  simp only [required, List.forall_mem_cons, List.not_mem_nil, false_implies, implies_true,
    and_true]
  exact ⟨fun ⟨⟨hc, hp, hd, hr⟩, hn⟩ => ⟨hc, hp, hd, hr, hn⟩,
    fun ⟨hc, hp, hd, hr, hn⟩ => ⟨⟨hc, hp, hd, hr⟩, hn⟩⟩

end Settings

/-! ## Flags -/

namespace FlagValues

/-- **The settings before the flags change them**: those in the settings file,
    or else the default ones. -/
inductive Base (values : FlagValues) (t : FileTree) : Settings → Prop
  | file {path s} : values.lookup .config = some path →
      (Settings.load FileTree.disk path).run t = (.ok s, t) → Base values t s
  | initial {infile} : values.lookup .config = none → values.lookup .infile = some infile →
      Base values t (Settings.initial infile ".")

/-- The release is the one that the flags ask for, or else that of the settings
    before them. -/
inductive Selects (values : FlagValues) (base : Settings) : QtRelease → Prop
  | kept : values.lookup .version = none → Selects values base base.release
  | asked {selector release} : values.lookup .version = some selector →
      Text.trim selector = QtRelease.selector release → Selects values base release

/-- **The settings after the flags**: a field has the value of its flag, or
    else the one that it had. -/
structure Overridden (values : FlagValues) (base s : Settings) : Prop where
  schemaPath : s.schemaPath = (values.lookup .infile).getD base.schemaPath
  outputDir : s.outputDir = (values.lookup .outdir).getD base.outputDir
  release : values.Selects base s.release
  provider : s.provider = (values.lookup .provider).getD base.provider
  className : s.className = (values.lookup .className).getD base.className
  dbusService : s.dbusService = base.dbusService
  dbusPath : s.dbusPath = base.dbusPath
  requestsNamespace : s.requestsNamespace = base.requestsNamespace

/-- **How the search for the settings of a run ends.** -/
inductive Resolves (values : FlagValues) (t : FileTree) : Except Failure Settings → Prop
  | unloaded {path cause} : values.lookup .config = some path →
      (Settings.load FileTree.disk path).run t = (.error cause, t) →
      Resolves values t (.error (.settingsFile path cause))
  | noDocument : values.lookup .config = none → values.lookup .infile = none →
      Resolves values t (.error .noDocument)
  | unsupported {base selector} : values.Base t base → values.lookup .version = some selector →
      (∀ release : QtRelease, Text.trim selector ≠ release.selector) →
      Resolves values t (.error (.settings (.unsupportedRelease (Text.trim selector))))
  | refused {base s cause} : values.Base t base → values.Overridden base s →
      s.check = .error cause → Resolves values t (.error (.settings (.settings cause)))
  | resolved {base s} : values.Base t base → values.Overridden base s → s.check = .ok () →
      Resolves values t (.ok s)

/-- **Flags without a fault of their own.** -/
structure Sound (values : FlagValues) : Prop where
  version : ∀ selector, values.lookup .version = some selector →
    ∃ release : QtRelease, Text.trim selector = release.selector
  provider : ∀ provider, values.lookup .provider = some provider → Text.blank provider = false
  className : ∀ className, values.lookup .className = some className →
    Text.blank className = false ∧ Text.snakeCase className ≠ ""

variable {values : FlagValues} {t : FileTree} {base s : Settings}

/-! ## The settings before the flags -/

theorem run_load_eq_iff {path : String} {result : Except Fault Settings} :
    (Settings.load FileTree.disk path).run t = (result, t) ↔
      t.loadText path >>= Settings.parse = result := by
  rw [Settings.run_load, Prod.mk.injEq, and_iff_left rfl]

/-- A file is loaded as the settings that its text describes. -/
theorem run_load_of_readText {path text : String} (h : t.readText path = .ok text) :
    (Settings.load FileTree.disk path).run t = (Settings.parse text, t) := by
  have hload : t.loadText path = .ok text := by
    rw [FileTree.loadText, h]
    rfl
  rw [run_load_eq_iff, hload]
  rfl

theorem baseIn_eq_ok_iff : values.baseIn t = .ok base ↔ values.Base t base := by
  unfold baseIn
  constructor
  · intro h
    cases hconfig : values.lookup .config with
    | some path =>
      rw [hconfig] at h
      exact .file hconfig (run_load_eq_iff.2 (mapError_eq_ok_iff.1 h))
    | none =>
      cases hinfile : values.lookup .infile with
      | some infile =>
        rw [hconfig, hinfile] at h
        cases h
        exact .initial hconfig hinfile
      | none =>
        rw [hconfig, hinfile] at h
        cases h
  · intro h
    cases h with
    | file hconfig hload =>
      simp only [hconfig]
      exact mapError_eq_ok_iff.2 (run_load_eq_iff.1 hload)
    | initial hconfig hinfile => simp only [hconfig, hinfile]

theorem baseIn_eq_error_iff {failure : Failure} : values.baseIn t = .error failure ↔
    (∃ path cause, values.lookup .config = some path ∧
      (Settings.load FileTree.disk path).run t = (.error cause, t) ∧
        failure = .settingsFile path cause) ∨
      (values.lookup .config = none ∧ values.lookup .infile = none ∧ failure = .noDocument) := by
  unfold baseIn
  cases hconfig : values.lookup .config with
  | some path =>
    simp only [mapError_eq_error_iff, run_load_eq_iff, Option.some.injEq, reduceCtorEq, false_and,
      or_false, exists_and_left, exists_eq_left']
    exact exists_congr fun cause => and_congr_right fun _ => eq_comm
  | none =>
    cases hinfile : values.lookup .infile with
    | some infile => simp
    | none =>
      simp only [reduceCtorEq, false_and, exists_false, false_or, true_and, Except.error.injEq]
      exact eq_comm

/-! ## The settings after the flags -/

theorem selected_eq_ok_iff {release : QtRelease} :
    values.selected base = .ok release ↔ values.Selects base release := by
  unfold selected
  cases hversion : values.lookup .version with
  | none =>
    constructor
    · rintro ⟨⟩
      exact .kept hversion
    · intro h
      cases h with
      | kept => rfl
      | asked hasked => cases hversion.symm.trans hasked
  | some selector =>
    rw [QtRelease.ofSelector_eq_ok_iff]
    constructor
    · exact .asked hversion
    · intro h
      cases h with
      | kept hkept => cases hversion.symm.trans hkept
      | asked hasked hselector =>
        cases hversion.symm.trans hasked
        exact hselector

theorem selected_eq_error_iff {fault : Fault} : values.selected base = .error fault ↔
    ∃ selector, values.lookup .version = some selector ∧
      (∀ release : QtRelease, Text.trim selector ≠ release.selector) ∧
        fault = .unsupportedRelease (Text.trim selector) := by
  unfold selected
  cases values.lookup .version with
  | none => simp
  | some selector => simp [QtRelease.ofSelector_eq_error_iff]

theorem overridden_iff : values.Overridden base s ↔
    ∃ release, values.Selects base release ∧ s = values.override base release := by
  constructor
  · rintro ⟨hschema, houtput, hrelease, hprovider, hclass, hservice, hpath, hnamespace⟩
    refine ⟨s.release, hrelease, ?_⟩
    cases s
    simp_all [override]
  · rintro ⟨release, hrelease, rfl⟩
    exact ⟨rfl, rfl, hrelease, rfl, rfl, rfl, rfl, rfl⟩

theorem merge_eq_ok_iff :
    values.merge base = .ok s ↔ values.Overridden base s ∧ s.check = .ok () := by
  simp only [merge_eq, bind_eq_ok_iff, selected_eq_ok_iff, mapError_eq_ok_iff, overridden_iff,
    Except.ok.injEq]
  constructor
  · rintro ⟨release, hrelease, ⟨⟩, hcheck, rfl⟩
    exact ⟨⟨release, hrelease, rfl⟩, hcheck⟩
  · rintro ⟨⟨release, hrelease, rfl⟩, hcheck⟩
    exact ⟨release, hrelease, (), hcheck, rfl⟩

theorem merge_eq_error_iff {fault : Fault} : values.merge base = .error fault ↔
    (∃ selector, values.lookup .version = some selector ∧
      (∀ release : QtRelease, Text.trim selector ≠ release.selector) ∧
        fault = .unsupportedRelease (Text.trim selector)) ∨
      ∃ s cause, values.Overridden base s ∧ s.check = .error cause ∧ fault = .settings cause := by
  simp only [merge_eq, bind_eq_error_iff, selected_eq_error_iff, selected_eq_ok_iff,
    mapError_eq_error_iff, overridden_iff]
  refine or_congr_right ?_
  constructor
  · rintro ⟨release, hrelease, ⟨cause, hcheck, rfl⟩ | ⟨-, -, h⟩⟩
    · exact ⟨_, cause, ⟨release, hrelease, rfl⟩, hcheck, rfl⟩
    · cases h
  · rintro ⟨-, cause, ⟨release, hrelease, rfl⟩, hcheck, rfl⟩
    exact ⟨release, hrelease, .inl ⟨cause, hcheck, rfl⟩⟩

/-! ## The settings of a run -/

/-- **The search for the settings of a run** ends as said. -/
theorem resolve_eq_iff {result : Except Failure Settings} :
    values.resolve t = result ↔ values.Resolves t result := by
  cases result with
  | ok s =>
    simp only [resolve, bind_eq_ok_iff, baseIn_eq_ok_iff, mapError_eq_ok_iff, merge_eq_ok_iff]
    constructor
    · rintro ⟨base, hbase, hoverridden, hcheck⟩
      exact .resolved hbase hoverridden hcheck
    · intro h
      cases h with
      | resolved hbase hoverridden hcheck => exact ⟨_, hbase, hoverridden, hcheck⟩
  | error failure =>
    simp only [resolve, bind_eq_error_iff, baseIn_eq_ok_iff, baseIn_eq_error_iff,
      mapError_eq_error_iff, merge_eq_error_iff]
    constructor
    · rintro ((⟨path, cause, hconfig, hload, rfl⟩ | ⟨hconfig, hinfile, rfl⟩) |
        ⟨base, hbase, -, ⟨selector, hversion, hnone, rfl⟩ | ⟨s, cause, hover, hcheck, rfl⟩, rfl⟩)
      · exact .unloaded hconfig hload
      · exact .noDocument hconfig hinfile
      · exact .unsupported hbase hversion hnone
      · exact .refused hbase hover hcheck
    · intro h
      cases h with
      | unloaded hconfig hload => exact .inl (.inl ⟨_, _, hconfig, hload, rfl⟩)
      | noDocument hconfig hinfile => exact .inl (.inr ⟨hconfig, hinfile, rfl⟩)
      | unsupported hbase hversion hnone =>
        exact .inr ⟨_, hbase, _, .inl ⟨_, hversion, hnone, rfl⟩, rfl⟩
      | refused hbase hover hcheck => exact .inr ⟨_, hbase, _, .inr ⟨_, _, hover, hcheck, rfl⟩, rfl⟩

/-- The flags of settings that are found have no fault of their own. -/
theorem Overridden.sound (h : values.Overridden base s) (hs : s.Usable) : values.Sound where
  version selector hversion := by
    have hselects := h.release
    generalize s.release = release at hselects
    cases hselects with
    | kept hkept => cases hversion.symm.trans hkept
    | asked hasked hselector =>
      cases hversion.symm.trans hasked
      exact ⟨_, hselector⟩
  provider provider hprovider := by
    have hblank := hs.provider
    rwa [h.provider, hprovider] at hblank
  className className hclass := by
    have hblank := hs.className
    have hname := hs.fileName
    rw [h.className, hclass] at hblank hname
    exact ⟨hblank, hname⟩

end FlagValues

/-- **Flags take the place of what the settings file says**, field by field.
    The search for the settings of a run changes nothing on the disk.  A file
    that asks for an unsupported release is not loaded, whatever release the
    flags ask for.  The settings have to be usable only after the flags, so what
    is wrong with a field of the file is repaired by its flag; and a flag that
    is wrong itself is not hidden by any file. -/
theorem settings_overridden (values : FlagValues) (t : FileTree) :
    (∀ result t', (values.settings FileTree.disk).run t = (result, t') ↔
      values.Resolves t result ∧ t' = t) ∧
    (∀ path text selector, values.lookup .config = some path → t.readText path = .ok text →
      Settings.AsksFor text selector →
      (∀ release : QtRelease, Text.trim selector ≠ release.selector) →
        values.Resolves t (.error (.settingsFile path .settingsText))) ∧
    (∀ base s, values.Base t base → values.Overridden base s →
      (values.Resolves t (.ok s) ↔ s.Usable)) ∧
    ∀ s, values.Resolves t (.ok s) → values.Sound := by
  refine ⟨fun result t' => ?_, fun path text selector hconfig hread hasks hunsupported => ?_,
    fun base s hbase hoverridden => ⟨fun h => ?_, fun h => ?_⟩, fun s h => ?_⟩
  · rw [FlagValues.run_settings, Prod.mk.injEq, FlagValues.resolve_eq_iff, eq_comm (a := t)]
  · refine .unloaded hconfig ?_
    rw [FlagValues.run_load_of_readText hread, hasks.parse_eq hunsupported]
  · cases h with
    | resolved _ _ hcheck => exact Settings.check_eq_ok_iff_usable.1 hcheck
  · exact .resolved hbase hoverridden (Settings.check_eq_ok_iff_usable.2 h)
  · cases h with
    | resolved _ hoverridden hcheck =>
      exact hoverridden.sound (Settings.check_eq_ok_iff_usable.1 hcheck)

/-- Settings with a provider of one space, and with a class that gives no name. -/
def unusableSettings : Settings :=
  { Settings.initial "api.xml" "out" with provider := " ", className := "-" }

/-- The fields of a settings file for a release that is not supported. -/
def unsupportedFields : List (String × String) :=
  [("schema_path", "api.xml"), ("output_dir", "out"), ("variant", "6.0.0")]

/-- A tree with the settings file of `unusableSettings` and one with
    `unsupportedFields`. -/
def settingsFiles : FileTree where
  entries := [(["unusable.yaml"], .file unusableSettings.print.toUTF8),
    (["unsupported.yaml"],
      .file (String.ofList (unsupportedFields.flatMap Settings.printField)).toUTF8)]

/-- Flags for the two fields that are wrong in a file. -/
def repairingFlags : FlagValues :=
  [(.config, "unusable.yaml"), (.provider, "hmi"), (.className, "Caller")]

/-- The flags repair the unusable file, and they hide neither a wrong release
    among them nor one in the file. -/
theorem settingsFiles_overridden :
    unusableSettings.check = .error (.blankField "provider") ∧
      (repairingFlags.settings FileTree.disk).run settingsFiles =
        (.ok { unusableSettings with provider := "hmi", className := "Caller" }, settingsFiles) ∧
      (∀ s, ¬ FlagValues.Resolves (repairingFlags ++ [(.version, "6.0.0")]) settingsFiles
        (.ok s)) ∧
      FlagValues.Resolves [(.config, "unsupported.yaml"), (.version, "5.1.0")] settingsFiles
        (.error (.settingsFile "unsupported.yaml" .settingsText)) := by
  have hunsupported : ∀ release : QtRelease, Text.trim "6.0.0" ≠ release.selector := by
    intro release
    cases release <;> decide
  refine ⟨rfl, ?_, fun s h => ?_, ?_⟩
  · obtain ⟨hrun, -, husable, -⟩ := settings_overridden repairingFlags settingsFiles
    have hread : settingsFiles.readText "unusable.yaml" = .ok unusableSettings.print :=
      FileTree.readText_eq_ok_iff.2 ⟨rfl, rfl, ["unusable.yaml"], rfl, rfl⟩
    have hload : (Settings.load FileTree.disk "unusable.yaml").run settingsFiles =
        (.ok unusableSettings, settingsFiles) := by
      rw [FlagValues.run_load_of_readText hread, Settings.parse_print]
    have hbase : repairingFlags.Base settingsFiles unusableSettings := .file rfl hload
    refine (hrun _ _).2 ⟨(husable _ _ hbase ?_).2 ?_, rfl⟩
    · exact ⟨rfl, rfl, .kept rfl, rfl, rfl, rfl, rfl, rfl⟩
    · exact ⟨rfl, rfl, rfl, rfl, by decide⟩
  · obtain ⟨-, -, -, hsound⟩ :=
      settings_overridden (repairingFlags ++ [(.version, "6.0.0")]) settingsFiles
    obtain ⟨release, hrelease⟩ := (hsound s h).version "6.0.0" rfl
    exact hunsupported release hrelease
  · obtain ⟨-, hunloaded, -, -⟩ :=
      settings_overridden [(.config, "unsupported.yaml"), (.version, "5.1.0")] settingsFiles
    have hread : settingsFiles.readText "unsupported.yaml" =
        .ok (String.ofList (unsupportedFields.flatMap Settings.printField)) :=
      FileTree.readText_eq_ok_iff.2 ⟨rfl, rfl, ["unsupported.yaml"], rfl, rfl⟩
    have hnonempty : unsupportedFields ≠ [] := by decide
    have htree := Settings.read_fields hnonempty (by decide)
    rw [← String.toList_ofList (l := unsupportedFields.flatMap Settings.printField)] at htree
    have hfield : ("variant", "6.0.0") ∈ unsupportedFields := by decide
    have hentry := Settings.settingText_field (by decide) hfield {}
    exact hunloaded _ _ "6.0.0" rfl hread
      ⟨_, _, _, htree, rfl, Settings.mapM_keys_fields unsupportedFields, hentry⟩ hunsupported

end CallerStubs
