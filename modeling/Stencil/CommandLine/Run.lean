import Stencil.CommandLine.Request
import Stencil.StatusTable.Maker
import Stencil.StatusTable.Load
import Stencil.Report.Panel

/-!
# Running commands

Both commands load a table, make its code and plan the files. `plan` reports
the plan; `generate` also carries it out, unless a target could not be read,
and reports what became of it.

A run ends with code 0 if all went well, with 1 if some file could not be read
or written, and with 2 if the command line or the input is at fault or if
`generate` did not start to write. A fault that is none of the program's own
ends the run without a code. What was reported and written before stays.
-/

namespace Stencil.CommandLine

open Code Disk StatusTable Output Report

/-- What stands around a run: the setting of the home directory, and the clock that backups are
named by. -/
structure Surroundings where
  home : String
  clock : Clock

/-- What a run changes: the disk, what was reported, and what was noted. -/
structure Progress where
  disk : Disk
  panels : List Panel
  notes : List String
deriving Repr

/-- Why a run ends before its end. -/
inductive Stop where
  | code (code : Nat)
  | complaint (message : String)
  | fault (fault : Fault)
deriving DecidableEq, Repr

/-- Steps of a run. -/
abbrev Running (α : Type) := ExceptT Stop (StateM Progress) α

namespace Running

/-- Report panels. -/
def report (panels : List Panel) : Running Unit :=
  modify fun progress => { progress with panels := progress.panels ++ panels }

/-- Note texts. -/
def note (notes : List String) : Running Unit :=
  modify fun progress => { progress with notes := progress.notes ++ notes }

end Running

/-- The maker that settings ask for. -/
def Settings.maker (settings : Settings) : Maker :=
  let module : ModuleMaker :=
    ⟨settings.moduleName, .literal (.text settings.default), settings.naming⟩
  if settings.packageName = "" then .module module else .package ⟨settings.packageName, module⟩

/-- The files that settings ask for. -/
def Settings.files (settings : Settings) (disk : Disk) : Except Fault (List OutputFile) :=
  let steps : Build (List OutputFile) := do
    let table ← load disk settings.input
    let made ← settings.maker.make (.ofTable table)
    return ← (← get).files made
  ((ExceptT.run steps).run Store.empty).1

/-- Whether a fault is one of the program's own, which a run complains about. -/
def isOwn (fault : Fault) : Bool :=
  match fault.family with
  | .templateSyntax | .templateArgument | .duplicateRule | .missingRule | .missingInput
  | .unreadableInput | .malformedYaml | .schema => true
  | _ => false

/-- The stop that a fault is. -/
def Stop.ofFault (fault : Fault) : Stop :=
  if isOwn fault then .complaint fault.message else .fault fault

/-- The files that a run is about. -/
def loadFiles (settings : Settings) : Running (List OutputFile) := do
  match settings.files (← get).disk with
  | .ok files => return files
  | .error fault => throw (.ofFault fault)

/-- Plan files and report the plan. -/
def planFiles (around : Surroundings) (command : Command) (settings : Settings)
    (files : List OutputFile) : Running Plan := do
  let plan := Plan.build (← get).disk settings.out files
  Running.note [plan.note]
  match homeOf around.home with
  | .error fault => throw (.fault fault)
  | .ok home =>
    Running.report
      (ofPlan home plan.root command.text plan.actions (plan.errors.map Fault.message))
  return plan

/-- Carry out a plan and report what became of it. -/
def carryOut (around : Surroundings) (settings : Settings) (plan : Plan) : Running Unit := do
  let backup := if settings.backup then some around.clock else none
  let progress ← get
  let (execution, disk) := (Execution.run backup plan.actions).run progress.disk
  set { progress with disk }
  Running.note execution.notes
  if let some fault := execution.fault then throw (.fault fault)
  match homeOf around.home with
  | .error fault => throw (.fault fault)
  | .ok home => Running.report (ofResult home execution.result)
  if !execution.result.ok then throw (.code 1)

/-- Run a command. -/
def Command.run (around : Surroundings) (command : Command) (settings : Settings) :
    Running Unit := do
  let files ← loadFiles settings
  if settings.print then
    Running.report (files.map fun file => ofSource file.path.text file.text)
  let plan ← planFiles around command settings files
  match command with
  | .plan => if !plan.isValid then throw (.code 1)
  | .generate =>
    if !plan.isValid then throw (.complaint "Generate aborted due to errors above.")
    carryOut around settings plan

/-- What a call of the program leaves: its code, or the fault that ended it, what it reported,
what it wrote to both outputs, its notes, and the disk. -/
structure Report where
  code : Except Fault Nat
  panels : List Panel
  output : String
  complaint : String
  notes : List String
  disk : Disk
deriving Repr

/-- What a call leaves that ran no command. -/
def Report.early (disk : Disk) (code : Except Fault Nat) (output complaint : String) : Report :=
  ⟨code, [], output, complaint, [], disk⟩

/-- What a run leaves. Notes are kept only if they are wanted. -/
def Report.ofRun (verbose : Bool) (result : Except Stop Unit) (progress : Progress) : Report :=
  let (code, complaint) : Except Fault Nat × String := match result with
    | .ok _ => (.ok 0, "")
    | .error (.code code) => (.ok code, "")
    | .error (.complaint message) => (.ok 2, errorText message)
    | .error (.fault fault) => (.error fault, "")
  ⟨code, progress.panels, "", complaint, if verbose then progress.notes else [], progress.disk⟩

/-- Call the program with the words of a command line. -/
def call (around : Surroundings) (words : List String) (disk : Disk) : Report :=
  match request disk words with
  | (.error .noWords, _) => .early disk (.ok 2) "" (help none)
  | (.error (.misuse command misuse), _) => .early disk (.ok 2) "" (misuse.report command)
  | (.error (.fault fault), _) => .early disk (.error fault) "" ""
  | (.ok (.help command), _) => .early disk (.ok 0) (help command) ""
  | (.ok (.run command settings), verbose) =>
    let (result, progress) := (command.run around settings).run ⟨disk, [], []⟩
    .ofRun verbose result progress

end Stencil.CommandLine
