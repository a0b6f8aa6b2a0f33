import Stencil.Proofs.CommandLine.Making
import Stencil.Proofs.Output.Accounting

/-!
# What exit codes tell

A call that returns a code tells by it what has happened to the disk. A run of a
command goes through loading, planning and, for `generate`, carrying out; each of
them has an equation that says how it ends. A command line or an input that is at
fault ends a call with 2, before anything is written, and so does an output that
cannot be read (`PlanTold`, `GenerateTold`). With the code 1 some write has failed
and is listed, with 0 every file is as it should be (`exit_code_tells`).
-/

namespace Stencil.CommandLine

open Code Disk StatusTable Output
open Stencil.Report (Panel homeOf shortenText bullets ofPlan ofResult ofSource)

/-- What is at the target of a file can be read as a text, or nothing is there. This is said of the
disk, without the function that reads texts for a plan. -/
def Readable (disk : Disk) (root : Path) (file : OutputFile) : Prop :=
  ∃ existing, readText? disk (root.join file.path) = .ok existing

/-- The panel that lists the reasons of failures. -/
def failuresPanel (home : Path) (reasons : List String) : Panel :=
  ⟨"failures", "red", .text ("\n".intercalate
    (reasons.map fun reason => "- " ++ shortenText home reason))⟩

/-- The clock of backups, if settings ask for them. -/
def Settings.clock? (settings : Settings) (around : Surroundings) : Option Clock :=
  if settings.backup then some around.clock else none

/-- The attempts of a run at writing files. -/
def Settings.tries (settings : Settings) (around : Surroundings) (files : List OutputFile)
    (disk : Disk) : List Attempt :=
  Output.tries (settings.clock? around) settings.out files disk

/-- What the code of `plan` tells. Each code is tied to what is on the disk and in the input, not to
what the program reports of it. -/
structure PlanTold (disk : Disk) (settings : Settings) (report : Report) (code : Nat) : Prop where
  untouched : report.disk = disk
  settled : code = 0 ↔ ∃ table files, load disk settings.input = .ok table ∧
    settings.files disk = .ok files ∧ ∀ file ∈ files, Readable disk settings.out file
  unreadable : code = 1 ↔ ∃ table files, load disk settings.input = .ok table ∧
    settings.files disk = .ok files ∧ ∃ file ∈ files, ¬Readable disk settings.out file
  refused : code = 2 ↔ ∃ fault, load disk settings.input = .error fault

/-- What the code of `generate` tells. For 0 it says what became of each file, for 1 that some write
has failed and what is reported of it, and for 2 that the disk is as it was. -/
structure GenerateTold (around : Surroundings) (disk : Disk) (settings : Settings)
    (report : Report) (code : Nat) : Prop where
  among : code = 0 ∨ code = 1 ∨ code = 2
  refused : code = 2 → report.disk = disk ∧
    ((∃ fault, load disk settings.input = .error fault) ∨
      ∃ files, settings.files disk = .ok files ∧ ∃ file ∈ files, ¬Readable disk settings.out file)
  failed : code = 1 → ∃ files, settings.files disk = .ok files ∧
    (∀ file ∈ files, Readable disk settings.out file) ∧
    (∃ attempt ∈ settings.tries around files disk, ∃ reason,
      attempt.outcome = .ok (.failed reason)) ∧
    (∃ home, failuresPanel home
      ((settings.tries around files disk).filterMap Attempt.reason?) ∈ report.panels) ∧
    report.disk = leaving disk (settings.tries around files disk)
  done : code = 0 → ∃ files, settings.files disk = .ok files ∧
    (∀ file ∈ files, Readable disk settings.out file) ∧
    (∀ file ∈ files, ∃ attempt ∈ settings.tries around files disk,
      attempt.action.path = settings.out.join file.path ∧ attempt.action.payload = file.text ∧
        (attempt.Settled ∨ attempt.Wrote)) ∧
    report.disk = leaving disk (settings.tries around files disk)

/-! ## Plans -/

/-- A file gets an action exactly if its target can be read. -/
theorem action_for_readable {disk : Disk} {root : Path} {file : OutputFile} :
    Readable disk root file ↔ ∃ action, actionFor disk root file = .ok action := by
  constructor
  · rintro ⟨existing, read⟩
    exact ⟨_, action_for_iff.mpr ⟨existing, read, rfl⟩⟩
  · rintro ⟨action, made⟩
    obtain ⟨existing, read, _⟩ := action_for_iff.mp made
    exact ⟨existing, read⟩

/-- A plan has no errors exactly if every target can be read. -/
theorem errors_nil_iff {disk : Disk} {root : Path} {files : List OutputFile} :
    (Plan.build disk root files).errors = [] ↔ ∀ file ∈ files, Readable disk root file := by
  rw [(build_sorted disk root files).2.2, List.filterMap_eq_nil_iff]
  refine forall_congr' fun file => imp_congr_right fun _ => ?_
  rw [action_for_readable]
  cases actionFor disk root file with
  | ok action => simp [refusal?]
  | error fault => simp [refusal?]

/-- A plan has errors exactly if some target cannot be read. -/
theorem errors_some_iff {disk : Disk} {root : Path} {files : List OutputFile} :
    (Plan.build disk root files).errors ≠ [] ↔ ∃ file ∈ files, ¬Readable disk root file := by
  rw [Ne, errors_nil_iff]
  simp only [not_forall, exists_prop]

/-! ## Steps of a run -/

section Running

variable {around : Surroundings} {settings : Settings} {progress : Progress}

/-- Loading ends with the files that the settings ask for, or by their fault. -/
theorem load_files_run (settings : Settings) (progress : Progress) :
    (loadFiles settings).run.run progress = match settings.files progress.disk with
      | .ok files => (.ok files, progress)
      | .error fault => (.error (Stop.ofFault fault), progress) := by
  change (match settings.files progress.disk with
    | .ok files => (pure files : Running (List OutputFile))
    | .error fault => throw (Stop.ofFault fault)).run.run progress = _
  cases settings.files progress.disk <;> rfl

/-- Planning ends with the plan, unless there is no home directory. The disk is left alone. -/
theorem plan_files_run (around : Surroundings) (command : Command) (settings : Settings)
    (files : List OutputFile) (progress : Progress) :
    ∃ after : Progress, after.disk = progress.disk ∧
      (planFiles around command settings files).run.run progress =
        (match homeOf around.home with
          | .ok _ => .ok (Plan.build progress.disk settings.out files)
          | .error fault => .error (.fault fault), after) := by
  unfold planFiles
  cases found : homeOf around.home with
  | ok home =>
    refine ⟨_, ?_, rfl⟩
    rfl
  | error fault =>
    refine ⟨_, ?_, rfl⟩
    rfl

/-- What carrying out a plan does behind its execution. -/
def conclude (around : Surroundings) (execution : Execution) : Running Unit := do
  Running.note execution.notes
  if let some fault := execution.fault then throw (.fault fault)
  match homeOf around.home with
  | .error fault => throw (.fault fault)
  | .ok home => Running.report (ofResult home execution.result)
  if !execution.result.ok then throw (.code 1)

/-- Carrying out a plan runs its actions and concludes. -/
theorem carry_out_eq (around : Surroundings) (settings : Settings) (plan : Plan)
    (progress : Progress) :
    (carryOut around settings plan).run.run progress =
      (conclude around ((Execution.run (settings.clock? around) plan.actions).run
        progress.disk).1).run.run { progress with
          disk := ((Execution.run (settings.clock? around) plan.actions).run progress.disk).2 } :=
  rfl

/-- Concluding ends by the fault of the execution, or with what became of its actions. -/
theorem conclude_run (around : Surroundings) (execution : Execution) (progress : Progress) :
    ∃ after : Progress, after.disk = progress.disk ∧
      (conclude around execution).run.run progress =
        (match execution.fault, homeOf around.home with
          | some fault, _ => .error (.fault fault)
          | none, .error fault => .error (.fault fault)
          | none, .ok _ => if execution.result.ok then .ok () else .error (.code 1), after) ∧
      ∀ home, execution.fault = none → homeOf around.home = .ok home →
        ∀ panel ∈ ofResult home execution.result, panel ∈ after.panels := by
  obtain ⟨outcomes, fault⟩ := execution
  unfold conclude
  cases fault with
  | some fault =>
    refine ⟨_, ?_, rfl, fun home none => nomatch none⟩
    rfl
  | none =>
    cases found : homeOf around.home with
    | error fault =>
      refine ⟨_, ?_, rfl, fun home _ none => nomatch none⟩
      rfl
    | ok home =>
      cases well : (⟨outcomes, none⟩ : Execution).result.ok with
      | true =>
        refine ⟨_, ?_, rfl, fun other _ same panel member => ?_⟩
        · rfl
        · cases same
          exact List.mem_append_right _ member
      | false =>
        refine ⟨_, ?_, rfl, fun other _ same panel member => ?_⟩
        · rfl
        · cases same
          exact List.mem_append_right _ member

/-- Carrying out the plan of files ends by a fault of an attempt that is no outcome, or with 1 if
some attempt has failed, and then reports what has. It leaves what the attempts leave. -/
theorem carry_out_run (around : Surroundings) (settings : Settings) (files : List OutputFile)
    (progress : Progress) :
    ∃ after : Progress,
      after.disk = leaving progress.disk (settings.tries around files progress.disk) ∧
      (carryOut around settings (Plan.build progress.disk settings.out files)).run.run progress =
        (match (settings.tries around files progress.disk).findSome? Attempt.fault?,
            homeOf around.home with
          | some fault, _ => .error (.fault fault)
          | none, .error fault => .error (.fault fault)
          | none, .ok _ =>
            if (tally (settings.tries around files progress.disk)).ok then .ok ()
            else .error (.code 1), after) ∧
      ∀ home, (settings.tries around files progress.disk).findSome? Attempt.fault? = none →
        homeOf around.home = .ok home →
          ∀ panel ∈ ofResult home (tally (settings.tries around files progress.disk)),
            panel ∈ after.panels := by
  let tried := settings.tries around files progress.disk
  obtain ⟨after, left, ran, listed⟩ := conclude_run around
    ⟨tried.filterMap Attempt.report?, tried.findSome? Attempt.fault?⟩
    { progress with disk := leaving progress.disk tried }
  rw [result_tally] at ran listed
  rw [carry_out_eq, run_eq]
  exact ⟨after, left, ran, listed⟩

/-- What a command does behind planning. -/
def follow (around : Surroundings) (command : Command) (settings : Settings) (plan : Plan) :
    Running Unit :=
  match command with
  | .plan => if !plan.isValid then throw (.code 1) else pure ()
  | .generate => do
    if !plan.isValid then throw (.complaint "Generate aborted due to errors above.")
    carryOut around settings plan

/-- Behind planning `plan` ends with 1 if the plan has errors. -/
theorem follow_plan (around : Surroundings) (settings : Settings) (plan : Plan)
    (progress : Progress) :
    (follow around .plan settings plan).run.run progress =
      (if plan.errors = [] then .ok () else .error (.code 1), progress) := by
  unfold follow Plan.isValid
  cases plan.errors <;> rfl

/-- Behind planning `generate` stops with a complaint if the plan has errors, or carries it out. -/
theorem follow_generate (around : Surroundings) (settings : Settings) (plan : Plan)
    (progress : Progress) :
    (follow around .generate settings plan).run.run progress =
      if plan.errors = [] then (carryOut around settings plan).run.run progress
      else (.error (.complaint "Generate aborted due to errors above."), progress) := by
  unfold follow Plan.isValid
  cases plan.errors <;> rfl

/-- A chain of a run goes on from the outcome of its first step. -/
theorem chain_ok {α β : Type} {step : Running α} {value : α} {after : Progress}
    (first : step.run.run progress = (.ok value, after)) (next : α → Running β) :
    (step >>= next).run.run progress = (next value).run.run after := by
  rw [ExceptT.run_bind, StateT.run_bind, first]
  rfl

/-- A chain of a run stops as its first step does. -/
theorem chain_error {α β : Type} {step : Running α} {stop : Stop} {after : Progress}
    (first : step.run.run progress = (.error stop, after)) (next : α → Running β) :
    (step >>= next).run.run progress = (.error stop, after) := by
  rw [ExceptT.run_bind, StateT.run_bind, first]
  rfl

variable {disk : Disk} {command : Command} {files : List OutputFile}

/-- A command stops by the fault of its files. -/
theorem run_refused (around : Surroundings) (command : Command) {fault : Fault}
    (refused : settings.files disk = .error fault) :
    (command.run around settings).run.run ⟨disk, [], []⟩ =
      (.error (Stop.ofFault fault), ⟨disk, [], []⟩) := by
  have loading := load_files_run settings ⟨disk, [], []⟩
  rw [refused] at loading
  exact chain_error loading _

/-- A command whose files are made goes on with their plan, on the same disk, unless there is no
home directory. -/
theorem run_loaded (around : Surroundings) (command : Command)
    (made : settings.files disk = .ok files) :
    ∃ middle : Progress, middle.disk = disk ∧
      (command.run around settings).run.run ⟨disk, [], []⟩ = match homeOf around.home with
        | .error fault => (.error (.fault fault), middle)
        | .ok _ =>
          (follow around command settings (Plan.build disk settings.out files)).run.run middle := by
  have loading := load_files_run settings ⟨disk, [], []⟩
  rw [made] at loading
  let shown : List Panel :=
    if settings.print then files.map fun file => ofSource file.path.text file.text else []
  have echoed : (command.run around settings).run.run ⟨disk, [], []⟩ =
      (planFiles around command settings files >>= follow around command settings).run.run
        ⟨disk, shown, []⟩ := by
    refine (chain_ok loading _).trans ?_
    unfold shown
    cases settings.print <;> cases command <;> rfl
  obtain ⟨middle, same, planned⟩ := plan_files_run around command settings files ⟨disk, shown, []⟩
  refine ⟨middle, same, ?_⟩
  rw [echoed]
  cases found : homeOf around.home with
  | error fault =>
    rw [found] at planned
    exact chain_error planned _
  | ok home =>
    rw [found] at planned
    exact chain_ok planned _

end Running

/-! ## Codes -/

/-- The code that a run ends with, or the fault that ended it. -/
def ending : Except Stop Unit → Except Fault Nat
  | .ok _ => .ok 0
  | .error (.code code) => .ok code
  | .error (.complaint _) => .ok 2
  | .error (.fault fault) => .error fault

section Calling

variable {around : Surroundings} {words : List String} {disk : Disk} {command : Command}
  {settings : Settings} {code : Nat}

/-- What a call that runs a command leaves is what the run leaves. -/
theorem call_run (around : Surroundings)
    (asked : (request disk words).1 = .ok (.run command settings)) {result : Except Stop Unit}
    {progress : Progress}
    (ran : (command.run around settings).run.run ⟨disk, [], []⟩ = (result, progress)) :
    (call around words disk).code = ending result ∧
      (call around words disk).panels = progress.panels ∧
      (call around words disk).disk = progress.disk := by
  unfold call
  rcases requested : request disk words with ⟨asking, verbose⟩
  rw [requested] at asked
  dsimp only at asked
  subst asked
  change (Report.ofRun verbose ((command.run around settings).run.run ⟨disk, [], []⟩).1
      ((command.run around settings).run.run ⟨disk, [], []⟩).2).code = _ ∧
    (Report.ofRun verbose ((command.run around settings).run.run ⟨disk, [], []⟩).1
      ((command.run around settings).run.run ⟨disk, [], []⟩).2).panels = _ ∧
    (Report.ofRun verbose ((command.run around settings).run.run ⟨disk, [], []⟩).1
      ((command.run around settings).run.run ⟨disk, [], []⟩).2).disk = _
  rw [ran]
  cases result with
  | ok done => exact ⟨rfl, rfl, rfl⟩
  | error stop => cases stop <;> exact ⟨rfl, rfl, rfl⟩

/-- A call that returns was refused its input with 2 and has left the disk alone, or it went on with
the plan of its files. Whatever is wrong with the input is found out before the plan is made, and
nothing is written until then. -/
theorem call_cases (around : Surroundings)
    (asked : (request disk words).1 = .ok (.run command settings))
    (returned : (call around words disk).code = .ok code) :
    (∃ fault, load disk settings.input = .error fault ∧ code = 2 ∧
      (call around words disk).disk = disk) ∨
    ∃ table files middle result progress, load disk settings.input = .ok table ∧
      settings.files disk = .ok files ∧ middle.disk = disk ∧
      (follow around command settings (Plan.build disk settings.out files)).run.run middle =
        (result, progress) ∧
      ending result = .ok code ∧ (call around words disk).panels = progress.panels ∧
      (call around words disk).disk = progress.disk := by
  obtain ⟨refuses, makes⟩ := files_made settings disk
  cases made : settings.files disk with
  | error fault =>
    obtain ⟨is, _, left⟩ := call_run around asked (run_refused around command made)
    rw [is] at returned
    cases own : isOwn fault with
    | false =>
      rw [Stop.ofFault, own] at returned
      cases returned
    | true =>
      rw [Stop.ofFault, own] at returned
      cases returned
      cases loaded : load disk settings.input with
      | error other => exact .inl ⟨other, rfl, rfl, left⟩
      | ok table =>
        have foreign := (makes table loaded).1 fault made
        rw [own] at foreign
        cases foreign
  | ok files =>
    obtain ⟨middle, same, ran⟩ := run_loaded around command made
    cases loaded : load disk settings.input with
    | error fault =>
      rw [refuses fault loaded] at made
      cases made
    | ok table =>
      cases found : homeOf around.home with
      | error fault =>
        rw [found] at ran
        obtain ⟨is, _, _⟩ := call_run around asked ran
        rw [is] at returned
        cases returned
      | ok home =>
        rw [found] at ran
        obtain ⟨is, panels, left⟩ := call_run around asked ran
        rw [is] at returned
        exact .inr ⟨table, files, middle, _, _, rfl, rfl, same, rfl, returned, panels, left⟩

/-- The code 2 of `plan` tells that the input was refused. -/
theorem plan_told_refused {report : Report} {fault : Fault}
    (refused : load disk settings.input = .error fault) (left : report.disk = disk) :
    PlanTold disk settings report 2 := by
  have unloaded {table : StatusTable.Table} (loaded : load disk settings.input = .ok table) :
      False := by
    rw [refused] at loaded
    cases loaded
  refine ⟨left, ⟨fun same => ?_, ?_⟩, ⟨fun same => ?_, ?_⟩, fun _ => ⟨fault, refused⟩, fun _ => rfl⟩
  · cases same
  · rintro ⟨_, _, loaded, _⟩
    exact (unloaded loaded).elim
  · cases same
  · rintro ⟨_, _, loaded, _⟩
    exact (unloaded loaded).elim

/-- The codes 0 and 1 of `plan` tell whether the plan has errors. A plan has an error exactly if
some target cannot be read, and a table with its files was loaded in either case. -/
theorem plan_told_planned {report : Report} {table : StatusTable.Table} {files : List OutputFile}
    (loaded : load disk settings.input = .ok table) (made : settings.files disk = .ok files)
    (left : report.disk = disk) :
    PlanTold disk settings report
      (if (Plan.build disk settings.out files).errors = [] then 0 else 1) := by
  have unrefused {fault : Fault} (refused : load disk settings.input = .error fault) : False := by
    rw [loaded] at refused
    cases refused
  have others {other : List OutputFile} (again : settings.files disk = .ok other) :
      other = files := Except.ok.inj (again.symm.trans made)
  split
  · rename_i valid
    have readable := errors_nil_iff.mp valid
    refine ⟨left, ⟨fun _ => ⟨table, files, loaded, made, readable⟩, fun _ => rfl⟩,
      ⟨fun one => ?_, ?_⟩, ⟨fun two => ?_, ?_⟩⟩
    · cases one
    · rintro ⟨_, other, _, again, file, member, unreadable⟩
      rw [others again] at member
      exact absurd (readable file member) unreadable
    · cases two
    · rintro ⟨_, refused⟩
      exact (unrefused refused).elim
  · rename_i invalid
    have unreadable := errors_some_iff.mp invalid
    refine ⟨left, ⟨fun none => ?_, ?_⟩,
      ⟨fun _ => ⟨table, files, loaded, made, unreadable⟩, fun _ => rfl⟩, ⟨fun two => ?_, ?_⟩⟩
    · cases none
    · rintro ⟨_, other, _, again, readable⟩
      rw [others again] at readable
      exact absurd (errors_nil_iff.mpr readable) invalid
    · cases two
    · rintro ⟨_, refused⟩
      exact (unrefused refused).elim

/-- The code of `plan` tells whether the input was loaded and every output can be read. -/
theorem plan_told (asked : (request disk words).1 = .ok (.run .plan settings))
    (returned : (call around words disk).code = .ok code) :
    PlanTold disk settings (call around words disk) code := by
  rcases call_cases around asked returned with
    ⟨fault, refused, rfl, left⟩ |
      ⟨table, files, middle, result, progress, loaded, made, same, ran, ended, _, left⟩
  · exact plan_told_refused refused left
  · rw [follow_plan] at ran
    cases ran
    have told := plan_told_planned loaded made (left.trans same)
    split at ended
    · rename_i valid
      cases ended
      rwa [if_pos valid] at told
    · rename_i invalid
      cases ended
      rwa [if_neg invalid] at told

/-- All went well exactly if no attempt has a reason why it failed. -/
theorem tally_ok_iff {tried : List Attempt} :
    (tally tried).ok = true ↔ tried.filterMap Attempt.reason? = [] := by
  rw [Result.ok, decide_eq_true_iff]
  exact Int.natCast_eq_zero.trans List.length_eq_zero_iff

/-- The attempts of a run without faults and failures have left each file alone or written it. -/
theorem tries_done {backup : Option Clock} {root : Path} {files : List OutputFile}
    (faultless : (Output.tries backup root files disk).findSome? Attempt.fault? = none)
    (well : (tally (Output.tries backup root files disk)).ok = true)
    (readable : ∀ file ∈ files, Readable disk root file) :
    ∀ file ∈ files, ∃ attempt ∈ Output.tries backup root files disk,
      attempt.action.path = root.join file.path ∧ attempt.action.payload = file.text ∧
        (attempt.Settled ∨ attempt.Wrote) := by
  intro file member
  obtain ⟨actions, outcomes⟩ := attempts_settled faultless
  obtain ⟨existing, read⟩ := readable file member
  have planned := action_for_iff.mpr ⟨existing, read, rfl⟩
  obtain ⟨attempt, tried, is⟩ : ∃ attempt ∈ Output.tries backup root files disk,
      attempt.action = _ := by
    rw [← List.mem_map, Output.tries, actions, (build_sorted disk root files).2.1]
    exact List.mem_filterMap.mpr ⟨file, member, by rw [planned]; rfl⟩
  refine ⟨attempt, tried, by rw [is], by rw [is], ?_⟩
  have unfailed : attempt.reason? = none :=
    List.filterMap_eq_nil_iff.mp (tally_ok_iff.mp well) attempt tried
  rcases attempt.attempt_cases with settled | wrote | stopped
  · exact .inl settled
  · exact .inr wrote
  · obtain ⟨outcome, became⟩ := outcomes attempt tried
    rcases stopped.outcome with ⟨fault, failed⟩ | ⟨fault, failed, _⟩
    · rw [Attempt.reason?, failed] at unfailed
      cases unfailed
    · rw [became] at failed
      cases failed

/-- A run without faults that is not well has a failed attempt. -/
theorem tries_failed {tried : List Attempt} (unwell : (tally tried).ok = false) :
    tried.filterMap Attempt.reason? ≠ [] ∧
      ∃ attempt ∈ tried, ∃ reason, attempt.outcome = .ok (.failed reason) := by
  have some : tried.filterMap Attempt.reason? ≠ [] := by
    rw [Ne, ← tally_ok_iff, unwell]
    decide
  refine ⟨some, ?_⟩
  obtain ⟨reason, listed⟩ := List.exists_mem_of_ne_nil _ some
  obtain ⟨attempt, member, failed⟩ := List.mem_filterMap.mp listed
  refine ⟨attempt, member, reason, ?_⟩
  unfold Attempt.reason? at failed
  split at failed
  · rename_i became
    cases failed
    exact became
  · cases failed

/-- Carrying out the plan of files returns only if no attempt ends by a fault. Its code is 0 if all
went well and 1 otherwise, and it reports what became of the attempts. A fault that ends an attempt
ends the call without a code, and so does asking for the home directory where there is none. -/
theorem carry_out_ended {files : List OutputFile} {middle progress : Progress}
    {result : Except Stop Unit}
    (ran : (carryOut around settings (Plan.build middle.disk settings.out files)).run.run middle =
      (result, progress))
    (ended : ending result = .ok code) :
    (settings.tries around files middle.disk).findSome? Attempt.fault? = none ∧
      code = (if (tally (settings.tries around files middle.disk)).ok then 0 else 1) ∧
      progress.disk = leaving middle.disk (settings.tries around files middle.disk) ∧
      ∃ home, ∀ panel ∈ ofResult home (tally (settings.tries around files middle.disk)),
        panel ∈ progress.panels := by
  obtain ⟨after, kept, whole, listed⟩ := carry_out_run around settings files middle
  rw [whole] at ran
  cases faultless : (settings.tries around files middle.disk).findSome? Attempt.fault? with
  | some fault =>
    rw [faultless] at ran
    cases ran
    cases ended
  | none =>
    cases found : homeOf around.home with
    | error fault =>
      rw [faultless, found] at ran
      cases ran
      cases ended
    | ok home =>
      rw [faultless, found] at ran
      cases ran
      refine ⟨rfl, ?_, kept, home, listed home faultless found⟩
      cases well : (tally (settings.tries around files middle.disk)).ok with
      | true =>
        rw [well] at ended
        cases ended
        rfl
      | false =>
        rw [well] at ended
        cases ended
        rfl

/-- The failures of a run that is not well are listed in its report. -/
theorem failures_listed {tried : List Attempt} (home : Path)
    (some : tried.filterMap Attempt.reason? ≠ []) :
    failuresPanel home (tried.filterMap Attempt.reason?) ∈ ofResult home (tally tried) := by
  have failures : (tally tried).failures ≠ [] := some
  refine List.mem_cons_of_mem _ ?_
  rw [bullets, if_neg failures]
  exact List.mem_singleton_self _

/-- The code of `generate` tells whether the disk was left alone, some write has failed, or every
file is as it should be. The code is 0 exactly if the count of failures is none, and then every
attempt has written its file or had nothing to do; 2 comes from refusals, which leave the disk
alone. -/
theorem generate_told (asked : (request disk words).1 = .ok (.run .generate settings))
    (returned : (call around words disk).code = .ok code) :
    GenerateTold around disk settings (call around words disk) code := by
  rcases call_cases around asked returned with
    ⟨fault, refused, rfl, left⟩ |
      ⟨table, files, middle, result, progress, _, made, rfl, ran, ended, panels, left⟩
  · refine ⟨.inr (.inr rfl), fun _ => ⟨left, .inl ⟨fault, refused⟩⟩, fun one => ?_, fun none => ?_⟩
    · cases one
    · cases none
  rw [follow_generate] at ran
  split at ran
  · rename_i valid
    have readable := errors_nil_iff.mp valid
    obtain ⟨faultless, rfl, kept, home, listed⟩ := carry_out_ended ran ended
    cases well : (tally (settings.tries around files middle.disk)).ok with
    | true =>
      refine ⟨.inl rfl, fun two => ?_, fun one => ?_, fun _ => ?_⟩
      · cases two
      · cases one
      · exact ⟨files, made, readable, tries_done faultless well readable, left.trans kept⟩
    | false =>
      refine ⟨.inr (.inl rfl), fun two => ?_, fun _ => ?_, fun none => ?_⟩
      · cases two
      · obtain ⟨some, failed⟩ := tries_failed well
        refine ⟨files, made, readable, failed, ⟨home, ?_⟩, left.trans kept⟩
        rw [panels]
        exact listed _ (failures_listed home some)
      · cases none
  · rename_i invalid
    cases ran
    cases ended
    refine ⟨.inr (.inr rfl), fun _ => ⟨left, .inr ⟨files, made, ?_⟩⟩, fun one => ?_, fun none => ?_⟩
    · exact errors_some_iff.mp invalid
    · cases one
    · cases none

/-- A call that was refused its command line returns 2 and leaves the disk alone. -/
theorem refused_told {refusal : Refusal} (refused : (request disk words).1 = .error refusal)
    (returned : (call around words disk).code = .ok code) :
    code = 2 ∧ (call around words disk).disk = disk := by
  unfold call at returned ⊢
  rcases requested : request disk words with ⟨asking, verbose⟩
  rw [requested] at refused returned
  dsimp only at refused
  subst refused
  cases refusal with
  | noWords =>
    cases returned
    exact ⟨rfl, rfl⟩
  | misuse command misuse =>
    cases returned
    exact ⟨rfl, rfl⟩
  | fault fault => cases returned

/-- The exit code of a call that is not for help tells what has happened to the disk.

Proof: by what the words ask for. A refusal comes before the disk is looked at. A plan leaves the
disk as it is, and its code is made from the plan (`plan_told`); a generation carries the plan out,
and its code is made from the count of the failures (`generate_told`). -/
theorem exit_code_tells (around : Surroundings) (words : List String) (disk : Disk) {code : Nat}
    (running : ∀ command, (request disk words).1 ≠ .ok (.help command))
    (returned : (call around words disk).code = .ok code) :
    ((∃ refusal, (request disk words).1 = .error refusal) ∧ code = 2 ∧
      (call around words disk).disk = disk) ∨
    (∃ settings, (request disk words).1 = .ok (.run .plan settings) ∧
      PlanTold disk settings (call around words disk) code) ∨
    ∃ settings, (request disk words).1 = .ok (.run .generate settings) ∧
      GenerateTold around disk settings (call around words disk) code := by
  cases asked : (request disk words).1 with
  | error refusal => exact .inl ⟨⟨refusal, rfl⟩, refused_told asked returned⟩
  | ok wanted =>
    cases wanted with
    | help command => exact absurd asked (running command)
    | run command settings =>
      cases command with
      | plan => exact .inr (.inl ⟨settings, rfl, plan_told asked returned⟩)
      | generate => exact .inr (.inr ⟨settings, rfl, generate_told asked returned⟩)

end Calling

/-- A disk with a table of one entry, and a file where a module will want its directory. -/
def obstructed : Disk :=
  ⟨["work"], [(["work"], .directory),
    (["work", "codes.yaml"], .file (Text.encode "codes: [[7, seven]]".toList)),
    (["work", "p"], .file [])], usualRoom⟩

/-- A call that writes a package but cannot write its module tells so with 1, and a call that names
no input leaves the disk alone. -/
theorem obstructed_told :
    (∃ settings, (request obstructed
        ["generate", "codes.yaml", "--package", "q", "--module", "../p/x"]).1 =
          .ok (.run .generate settings) ∧
      GenerateTold ⟨"/home/u", ""⟩ obstructed settings (call ⟨"/home/u", ""⟩
        ["generate", "codes.yaml", "--package", "q", "--module", "../p/x"] obstructed) 1) ∧
    (call ⟨"/home/u", ""⟩ ["plan"] obstructed).disk = obstructed := by
  constructor
  · have one : (call ⟨"/home/u", ""⟩
        ["generate", "codes.yaml", "--package", "q", "--module", "../p/x"] obstructed).code =
          .ok 1 := by
      decide +kernel
    have asked : (request obstructed
        ["generate", "codes.yaml", "--package", "q", "--module", "../p/x"]).1 =
          .ok (.run .generate ⟨.ofText "codes.yaml", .ofText ".", "../p/x", "q", .upperSnake,
            "None", false, false⟩) := by
      decide +kernel
    rcases exit_code_tells _ _ obstructed (fun _ help => by rw [asked] at help; cases help) one with
      ⟨_, two, _⟩ | ⟨settings, planned, _⟩ | told
    · cases two
    · rw [asked] at planned
      cases planned
    · exact told
  · have unhelped : ∀ command, (request obstructed ["plan"]).1 ≠ .ok (.help command) :=
      fun _ help => by cases help
    rcases exit_code_tells ⟨"/home/u", ""⟩ ["plan"] obstructed unhelped rfl with
      ⟨_, _, same⟩ | ⟨settings, planned, told⟩ | ⟨settings, generated, _⟩
    · exact same
    · exact told.untouched
    · cases generated

end Stencil.CommandLine
