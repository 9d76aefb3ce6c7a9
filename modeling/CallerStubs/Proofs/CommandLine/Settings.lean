/-
  Caller stubs — the settings of a command line on a tree.

  The settings of a run are found without a change to the tree.  The directory
  of the generated files is not looked at on the way: neither the settings
  file nor the check of the settings asks for it.

  * `Document.run_load`, `Settings.run_load`: what is read from a tree;
  * `FlagValues.resolve`, `FlagValues.run_settings`: the settings of a run on a
    tree;
  * `FlagValues.resolve_eq_map`: flags that differ only in the directory give
    settings that differ only in the directory.
-/
import CallerStubs.CommandLine.Outcome

namespace CallerStubs

/-! ## Reading from a tree -/

/-- The text of a file of the tree, as something that a run can fail for. -/
def FileTree.loadText (t : FileTree) (path : String) : Except Fault String :=
  (t.readText path).mapError .io

/-- The document in a file of the tree. -/
def FileTree.document (t : FileTree) (path : String) : Except Fault Document :=
  t.loadText path >>= Document.parse

theorem Document.run_load (path : String) (t : FileTree) :
    (Document.load FileTree.disk path).run t = (t.document path, t) := by
  rw [Document.load, StateT.run_bind, FileTree.document, FileTree.loadText]
  simp only [FileTree.disk, StateT.run, bind]
  cases t.readText path with
  | error e => rfl
  | ok text => rfl

theorem Settings.run_load (path : String) (t : FileTree) :
    (Settings.load FileTree.disk path).run t = (t.loadText path >>= Settings.parse, t) := by
  rw [Settings.load, StateT.run_bind, FileTree.loadText]
  simp only [FileTree.disk, StateT.run, bind]
  cases t.readText path with
  | error e => rfl
  | ok text => rfl

/-! ## Settings -/

/-- The settings with another directory for the generated files. -/
def Settings.withDirectory (s : Settings) (directory : String) : Settings :=
  { s with outputDir := directory }

/-- The check of the settings does not ask for the directory. -/
theorem Settings.check_withDirectory (s : Settings) (directory : String) :
    (s.withDirectory directory).check = s.check :=
  rfl

namespace FlagValues

/-- The settings before the flags change them, on a tree. -/
def baseIn (values : FlagValues) (t : FileTree) : Except Failure Settings :=
  match values.lookup .config, values.lookup .infile with
  | some path, _ => (t.loadText path >>= Settings.parse).mapError (.settingsFile path)
  | none, some infile => .ok (Settings.initial infile ".")
  | none, none => .error .noDocument

/-- The settings of a run on a tree. -/
def resolve (values : FlagValues) (t : FileTree) : Except Failure Settings := do
  let base ← values.baseIn t
  (values.merge base).mapError .settings

/-- The release that the flags ask for, or else that of the settings before
    them. -/
def selected (values : FlagValues) (base : Settings) : Except Fault QtRelease :=
  match values.lookup .version with
  | none => .ok base.release
  | some selector => QtRelease.ofSelector selector

variable {values values' : FlagValues}

/-- The release is looked at before the check. -/
theorem merge_eq (values : FlagValues) (base : Settings) :
    values.merge base = values.selected base >>= fun release =>
      (values.override base release).check.mapError Fault.settings >>= fun () =>
        .ok (values.override base release) := by
  rw [merge, selected]
  cases values.lookup .version with
  | none => rfl
  | some selector => rfl

theorem run_base (values : FlagValues) (t : FileTree) :
    (values.base FileTree.disk).run t = (values.baseIn t, t) := by
  unfold base baseIn
  cases values.lookup .config with
  | some path =>
    simp only
    rw [StateT.run_bind, Settings.run_load]
    rfl
  | none =>
    cases values.lookup .infile with
    | some infile => rfl
    | none => rfl

/-- The settings of a run are found without a change to the tree. -/
theorem run_settings (values : FlagValues) (t : FileTree) :
    (values.settings FileTree.disk).run t = (values.resolve t, t) := by
  rw [settings, StateT.run_bind, run_base, resolve]
  cases values.baseIn t with
  | error f => rfl
  | ok base => rfl

/-! ## The directory -/

/-- The flags have the same values, up to the directory of the generated
    files. -/
def SameInput (values values' : FlagValues) : Prop :=
  ∀ flag, flag ≠ .outdir → values'.lookup flag = values.lookup flag

theorem SameInput.baseIn_eq (h : values.SameInput values') (t : FileTree) :
    values'.baseIn t = values.baseIn t := by
  rw [baseIn, baseIn, h .config (by decide), h .infile (by decide)]

theorem SameInput.override_eq (h : values.SameInput values') (base : Settings)
    (release : QtRelease) :
    values'.override base release = (values.override base release).withDirectory
      ((values'.lookup .outdir).getD base.outputDir) := by
  simp only [override, Settings.withDirectory, h .infile (by decide), h .provider (by decide),
    h .className (by decide)]

theorem SameInput.merge_eq_map (h : values.SameInput values') (base : Settings) :
    values'.merge base = (values.merge base).map
      (·.withDirectory ((values'.lookup .outdir).getD base.outputDir)) := by
  have hselected : values'.selected base = values.selected base := by
    rw [selected, selected, h .version (by decide)]
  rw [merge_eq, merge_eq, hselected]
  cases values.selected base with
  | error e => rfl
  | ok release =>
    simp only [bind, Except.bind, h.override_eq, Settings.check_withDirectory]
    cases (values.override base release).check with
    | error e => rfl
    | ok => rfl

/-- **Flags that differ only in the directory** give settings that differ only
    in the directory. -/
theorem SameInput.resolve_eq_map (h : values.SameInput values') (t : FileTree) :
    ∃ directory, values'.resolve t = (values.resolve t).map (·.withDirectory directory) := by
  rw [resolve, resolve, h.baseIn_eq]
  cases values.baseIn t with
  | error f => exact ⟨"", rfl⟩
  | ok base =>
    refine ⟨(values'.lookup .outdir).getD base.outputDir, ?_⟩
    simp only [bind, Except.bind, h.merge_eq_map]
    cases values.merge base with
    | error e => rfl
    | ok s => rfl

end FlagValues

end CallerStubs
