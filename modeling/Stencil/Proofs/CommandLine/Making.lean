import Stencil.CommandLine.Run
import Stencil.Proofs.StatusTable.Generation

/-!
# The files that settings make

Once a table is loaded, making its code and listing its files either gives the
files that the settings name (`Settings.paths`), or fails by a fault that is none
of the program's own (`files_made`): settings ask for what a maker makes of the
table, and that is known. So what a run complains about comes from its input.

`Clean` says of an outcome that it has no fault of the program's own.
-/

namespace Stencil.CommandLine

open Code Disk StatusTable

/-- An outcome is none of the program's own faults. -/
def Clean {α : Type} (outcome : Except Fault α) : Prop :=
  ∀ fault, outcome = .error fault → isOwn fault = false

/-- The paths of the files that settings ask for. -/
def Settings.paths (settings : Settings) : List Path :=
  let module := Path.ofText (settings.moduleName ++ ".py")
  let package := Path.ofText settings.packageName
  if settings.packageName = "" then [module]
  else [package.join (.ofText "__init__.py"), package.join module]

/-- The package that settings ask for, if they do. -/
def Settings.package (settings : Settings) : Option String :=
  if settings.packageName = "" then none else some settings.packageName

/-- The module maker of settings. -/
def Settings.module (settings : Settings) : ModuleMaker :=
  ⟨settings.moduleName, .literal (.text settings.default), settings.naming⟩

/-- The files that the settings' table says. -/
def Settings.tableFiles (settings : Settings) (table : Table) : List OutputFile :=
  StatusTable.tableFiles settings.naming settings.default settings.moduleName settings.package table

/-- The maker of settings makes a module, alone or in a package. -/
theorem maker_of (settings : Settings) :
    settings.maker = makerOf settings.module settings.package := by
  unfold Settings.maker Settings.package
  split <;> rfl

/-- The files that the settings' table says are at the paths that the settings name. -/
theorem table_paths (settings : Settings) (table : Table) :
    (settings.tableFiles table).map OutputFile.path = settings.paths := by
  unfold Settings.tableFiles Settings.paths Settings.package
  split <;> rfl

/-- What settings ask for fails to be made as their table fails to be loaded. -/
theorem files_refused (settings : Settings) {disk : Disk} {fault : Fault}
    (refused : load disk settings.input = .error fault) :
    settings.files disk = .error fault := by
  unfold Settings.files
  rw [refused]
  rfl

/-- With a table, what is made are the files that it says, or a code in it is too long. -/
theorem files_loaded (settings : Settings) {disk : Disk} {table : Table}
    (loaded : load disk settings.input = .ok table) :
    settings.files disk = .ok (settings.tableFiles table) ∨
      settings.files disk = .error .tooManyDigitsToWrite := by
  have files : settings.files disk = ((do
      let made ← (makerOf settings.module settings.package).make (.ofTable table)
      return ← (← get).files made : Build (List OutputFile)).run.run Store.empty).1 := by
    unfold Settings.files
    rw [loaded, maker_of]
    rfl
  by_cases writable : ∀ entry ∈ table, entry.Writable
  · obtain ⟨made, after, yielded, _, isMade⟩ :=
      make_yields settings.module settings.package rfl writable Store.empty
    have listed := made_written settings.module settings.package rfl isMade (Store.holds_refl after)
    left
    rw [files, Build.bind_run yielded, Build.bind_run (Build.get_yields after), listed]
    rfl
  · obtain ⟨after, failed⟩ := make_fails settings.module settings.package
      (by simpa using writable) Store.empty
    right
    rw [files, Build.bind_fails _ failed]

/-- The files of settings fail to be made as their table fails to be loaded. With a table they fail
by no fault of the program's own, and what is made are the files that the settings name. -/
theorem files_made (settings : Settings) (disk : Disk) :
    (∀ fault, load disk settings.input = .error fault → settings.files disk = .error fault) ∧
      ∀ table, load disk settings.input = .ok table → Clean (settings.files disk) ∧
        ∀ files, settings.files disk = .ok files →
          files.map OutputFile.path = settings.paths := by
  refine ⟨fun fault => files_refused settings, fun table loaded => ?_⟩
  rcases files_loaded settings loaded with made | failed
  · rw [made]
    refine ⟨nofun, fun files same => ?_⟩
    rw [← Except.ok.inj same, table_paths]
  · rw [failed]
    refine ⟨fun fault same => ?_, nofun⟩
    rw [← Except.error.inj same]
    rfl

end Stencil.CommandLine
