import Stencil.Output.Write
import Stencil.Proofs.Disk.Changing

/-!
# Attempts

An action that is carried out meets a disk and leaves one. What it did is told
by the files that it wrote: the backup of its target, if one was made, and its
own text, if it was written (`attempt_written`). An attempt that fails may have
made its backup and directories.

The attempts of a plan follow each other, each on the disk that the one before
has left (`attempts`). A run of the actions reports them in order (`run_eq`),
and what it has done to the disk is told by their writes, one after another
(`attempts_written`). A fault that is no outcome ends the run, so every attempt
but the last has an outcome.
-/

namespace Stencil.Output

open Code Disk

/-- An action on the disk that it meets, with the stamp of the moment if backups are to be made.
What the action does to that disk is not part of it but follows from it, so a run is a list of
attempts. -/
structure Attempt where
  backup : Option String
  action : Action
  met : Disk

namespace Attempt

/-- What became of an action. -/
def outcome (attempt : Attempt) : Except Fault Outcome :=
  ((attempt.action.perform attempt.backup).run.run attempt.met).1

/-- The disk that an action leaves. -/
def left (attempt : Attempt) : Disk :=
  ((attempt.action.perform attempt.backup).run.run attempt.met).2

/-- The place that an action is to write to. -/
def target (attempt : Attempt) : Place := attempt.met.goal attempt.action.path

/-- The bytes that an action is to write. -/
def bytes (attempt : Attempt) : List UInt8 := Text.encode attempt.action.payload.toList

/-- Whether an action has written its text. -/
def applied (attempt : Attempt) : Bool :=
  match attempt.outcome with
  | .ok .written => true
  | _ => false

/-- The reason why an action has failed. -/
def reason? (attempt : Attempt) : Option String :=
  match attempt.outcome with
  | .ok (.failed reason) => some reason
  | _ => none

/-- What the backup of an action's target wrote, if one was made. -/
def saved? (attempt : Attempt) : Option Write :=
  if attempt.action.status = .noop then none
  else match attempt.backup, attempt.met.holds attempt.action.path with
    | some stamp, .ok true =>
      attempt.met.copied? attempt.action.path (backupPath attempt.action.path stamp)
    | _, _ => none

/-- The files that an action wrote, one after another. -/
def writes (attempt : Attempt) : List Write :=
  attempt.saved?.toList ++ if attempt.applied then [⟨attempt.target, attempt.bytes⟩] else []

end Attempt

/-- The attempts of actions that are carried out one after another. -/
def attempts : (backup : Option Clock) → List Action → Disk → List Attempt
  | _, [], _ => []
  | backup, action :: rest, disk =>
    let attempt : Attempt := ⟨backup.map Clock.now, action, disk⟩
    match attempt.outcome with
    | .ok _ => attempt :: attempts (backup.map Clock.next) rest attempt.left
    | .error _ => [attempt]

/-- The disk that attempts leave. -/
def leaving (disk : Disk) (tried : List Attempt) : Disk :=
  (tried.getLast?.map Attempt.left).getD disk

/-! ## One action -/

namespace Action

variable {action : Action} {backup : Option String} {disk after : Disk}

/-- With a stamp, a target that is there is copied before the text is written. -/
theorem write_run (action : Action) (stamp : String) (disk : Disk) :
    (action.write (some stamp)).run.run disk =
      match disk.holds action.path with
      | .error fault => (.error fault, disk)
      | .ok false => (OnDisk.writeText action.path action.payload).run.run disk
      | .ok true =>
        (OnDisk.copy action.path (backupPath action.path stamp) >>= fun _ =>
          OnDisk.writeText action.path action.payload).run.run disk := by
  unfold write
  simp only [OnDisk.get_run]
  cases held : disk.holds action.path with
  | error fault => rw [OnDisk.lift_run_error rfl]
  | ok there =>
    rw [OnDisk.lift_run_ok rfl]
    cases there <;> rfl

/-- An action that changes nothing does nothing. -/
theorem perform_noop (backup : Option String) (settled : action.status = .noop) (disk : Disk) :
    (action.perform backup).run.run disk = (.ok .unchanged, disk) := by
  unfold perform
  rw [if_pos settled]
  rfl

/-- Carrying out an action that changes something turns faults of the file system into outcomes. -/
theorem perform_run (backup : Option String) (pending : action.status ≠ .noop) (disk : Disk) :
    (action.perform backup).run.run disk =
      match (action.write backup).run.run disk with
      | (.ok (), after) => (.ok .written, after)
      | (.error (.file cause shown), after) =>
        (.ok (.failed ("write failed for " ++ action.path.text ++ ": " ++
          (Fault.file cause shown).message)), after)
      | (.error fault, after) => (.error fault, after) := by
  unfold perform
  rw [if_neg pending, ExceptT.run_tryCatch, StateT.run_bind]
  cases ran : (action.write backup).run.run disk with
  | mk result after =>
    cases result with
    | ok done =>
      rw [OnDisk.bind_run_ok ran]
      rfl
    | error fault =>
      rw [OnDisk.bind_run_error ran]
      cases fault <;> rfl

/-- A text that cannot be written is an outcome, if the file system has refused it. -/
theorem perform_refused (pending : action.status ≠ .noop) {fault : Fault}
    (ran : (action.write backup).run.run disk = (.error fault, after)) :
    (fault.OfFiles ∧ (action.perform backup).run.run disk =
      (.ok (.failed ("write failed for " ++ action.path.text ++ ": " ++ fault.message)), after)) ∨
    (¬fault.OfFiles ∧ (action.perform backup).run.run disk = (.error fault, after)) := by
  rw [perform_run backup pending, ran]
  by_cases ours : fault.OfFiles
  · obtain ⟨cause, shown, rfl⟩ := ours
    exact .inl ⟨⟨cause, shown, rfl⟩, rfl⟩
  · refine .inr ⟨ours, ?_⟩
    cases fault with
    | file cause shown => exact absurd ⟨cause, shown, rfl⟩ ours
    | _ => rfl

end Action

namespace Attempt

variable {attempt : Attempt}

/-- No path that an action deals with holds the character that ends paths. -/
def Plain (attempt : Attempt) : Prop :=
  holdsNul attempt.action.path = false ∧
    ∀ stamp, attempt.backup = some stamp →
      holdsNul (backupPath attempt.action.path stamp) = false

/-- The faults that are no outcome of an action: one of its paths leads nowhere, or as many
directories above its path are missing as there is room for calls. -/
def Ended (attempt : Attempt) (fault : Fault) : Prop :=
  fault = .nulInPath ∧ ¬attempt.Plain ∨
    fault = .tooManyCalls ∧ attempt.met.Sunk attempt.met.room attempt.action.path.parent

/-- A fault that a path of an action meets is an outcome or one that ends the action. -/
theorem ended_of_path {fault : Fault} {path : Path}
    (ours : attempt.Plain → holdsNul path = false) (met : fault.OfPath path) :
    fault.OfFiles ∨ attempt.Ended fault := by
  refine met.imp_right fun ⟨is, nul⟩ => .inl ⟨is, fun plain => ?_⟩
  rw [ours plain] at nul
  cases nul

/-- Nothing was to be done, and nothing was. The disk that is left is the disk that was met. -/
structure Settled (attempt : Attempt) : Prop where
  settled : attempt.action.status = .noop
  outcome : attempt.outcome = .ok .unchanged
  left : attempt.left = attempt.met
  saved : attempt.saved? = none

/-- The text was written, behind the backup if one was made, and the path leads to it. All that is
true afterwards is said of the disk that the attempt leaves. -/
structure Wrote (attempt : Attempt) : Prop where
  pending : attempt.action.status ≠ .noop
  outcome : attempt.outcome = .ok .written
  plain : holdsNul attempt.action.path = false
  there : attempt.left.stat attempt.action.path = .ok (.file attempt.bytes)
  written : attempt.met.Written (attempt.saved?.toList ++ [⟨attempt.target, attempt.bytes⟩])
    attempt.left

/-- The text was not written, though a backup may have been made. The fault is an outcome or one
that ends the action. -/
structure Stopped (attempt : Attempt) : Prop where
  pending : attempt.action.status ≠ .noop
  outcome : (∃ fault : Fault, attempt.outcome =
      .ok (.failed ("write failed for " ++ attempt.action.path.text ++ ": " ++ fault.message))) ∨
    ∃ fault, attempt.outcome = .error fault ∧ attempt.Ended fault
  written : attempt.met.Written attempt.saved?.toList attempt.left

/-- All that an action's backup can do: nothing is copied, the copy is written, or it fails without
a trace. What follows is the writing of the text. Copying comes before writing and may fail by a
fault of files or by one that ends the run; the text is then not written at all. -/
theorem write_cases (pending : attempt.action.status ≠ .noop) {result : Except Fault Unit}
    {after : Disk}
    (ran : (attempt.action.write attempt.backup).run.run attempt.met = (result, after)) :
    (∃ middle, attempt.met.Written attempt.saved?.toList middle ∧
      (OnDisk.writeText attempt.action.path attempt.action.payload).run.run middle =
        (result, after)) ∨
    ∃ fault, result = .error fault ∧ after = attempt.met ∧ attempt.saved? = none ∧
      (fault.OfFiles ∨ attempt.Ended fault) := by
  have saved : attempt.saved? = match attempt.backup, attempt.met.holds attempt.action.path with
      | some stamp, .ok true =>
        attempt.met.copied? attempt.action.path (backupPath attempt.action.path stamp)
      | _, _ => none := if_neg pending
  cases given : attempt.backup with
  | none =>
    rw [given] at ran saved
    rw [saved]
    exact .inl ⟨attempt.met, Disk.written_refl _, ran⟩
  | some stamp =>
    rw [given] at ran saved
    rw [Action.write_run] at ran
    cases held : attempt.met.holds attempt.action.path with
    | error fault =>
      rw [held] at ran saved
      cases ran
      exact .inr ⟨fault, rfl, rfl, saved, .inl (Disk.holds_refused held)⟩
    | ok there =>
      rw [held] at ran saved
      cases there with
      | false =>
        rw [saved]
        exact .inl ⟨attempt.met, Disk.written_refl _, ran⟩
      | true =>
        cases copied : (OnDisk.copy attempt.action.path
            (backupPath attempt.action.path stamp)).run.run attempt.met with
        | mk first middle =>
          rcases OnDisk.copy_cases copied with
            ⟨rfl, bytes, _, is, written⟩ | ⟨fault, rfl, rfl, is, ours⟩
          · rw [saved.trans is]
            exact .inl ⟨middle, written, (OnDisk.bind_run_ok copied _).symm.trans ran⟩
          · have whole := (OnDisk.bind_run_error copied _).symm.trans ran
            cases whole
            exact .inr ⟨fault, rfl, rfl, saved.trans is, ours.elim (ended_of_path And.left)
              (ended_of_path fun plain => plain.2 stamp given)⟩

/-- An attempt whose writing was refused has stopped. -/
theorem stopped_of_refused (pending : attempt.action.status ≠ .noop) {fault : Fault} {after : Disk}
    (ran : (attempt.action.write attempt.backup).run.run attempt.met = (.error fault, after))
    (ours : fault.OfFiles ∨ attempt.Ended fault)
    (written : attempt.met.Written attempt.saved?.toList after) : attempt.Stopped := by
  rcases Action.perform_refused pending ran with ⟨_, run⟩ | ⟨other, run⟩
  · refine ⟨pending, .inl ⟨fault, ?_⟩, ?_⟩
    · rw [outcome, run]
    · rw [left, run]
      exact written
  · refine ⟨pending, .inr ⟨fault, ?_, ours.resolve_left other⟩, ?_⟩
    · rw [outcome, run]
    · rw [left, run]
      exact written

/-- All that an action can do: nothing where nothing is to be done; else its text is written, or it
stops before. By what is to be done and what comes out of writing. -/
theorem attempt_cases (attempt : Attempt) :
    attempt.Settled ∨ attempt.Wrote ∨ attempt.Stopped := by
  by_cases settled : attempt.action.status = .noop
  · refine .inl ⟨settled, ?_, ?_, if_pos settled⟩
    · rw [outcome, Action.perform_noop _ settled]
    · rw [left, Action.perform_noop _ settled]
  · right
    cases ran : (attempt.action.write attempt.backup).run.run attempt.met with
    | mk result after =>
      rcases write_cases settled ran with ⟨middle, saved, wrote⟩ | ⟨fault, rfl, rfl, none, ours⟩
      · rcases OnDisk.write_text_cases wrote with
          ⟨rfl, plain, there, written⟩ | ⟨fault, rfl, ours, made⟩
        · have run := Action.perform_run attempt.backup settled attempt.met
          rw [ran] at run
          refine .inl ⟨settled, ?_, plain, ?_, ?_⟩
          · rw [outcome, run]
          · rw [left, run]
            exact there
          · rw [left, run, target, ← Disk.goal_same saved.current]
            exact Disk.written_trans saved written
        · refine .inr (stopped_of_refused settled ran ?_ ?_)
          · rcases ours with met | ⟨is, sunk⟩
            · exact ended_of_path And.left met
            · rw [saved.room] at sunk
              exact .inr (.inr ⟨is, Disk.sunk_before saved sunk⟩)
          rw [← List.append_nil attempt.saved?.toList]
          exact Disk.written_trans saved made
      · refine .inr (stopped_of_refused settled ran ours ?_)
        rw [none]
        exact Disk.written_refl _

/-- An action that has written its text is one that is applied. -/
theorem Wrote.applied (wrote : attempt.Wrote) : attempt.applied = true := by
  rw [Attempt.applied, wrote.outcome]

/-- An action that is applied has written its text. -/
theorem wrote_of_applied (applied : attempt.applied = true) : attempt.Wrote := by
  rcases attempt_cases attempt with settled | wrote | stopped
  · rw [Attempt.applied, settled.outcome] at applied
    cases applied
  · exact wrote
  · rcases stopped.outcome with ⟨fault, is⟩ | ⟨fault, is, _⟩
    · rw [Attempt.applied, is] at applied
      cases applied
    · rw [Attempt.applied, is] at applied
      cases applied

/-- What an action has done to the disk is told by the files that it wrote. -/
theorem attempt_written (attempt : Attempt) :
    attempt.met.Written attempt.writes attempt.left := by
  rw [writes]
  by_cases applied : attempt.applied = true
  · rw [if_pos applied]
    exact (wrote_of_applied applied).written
  · rw [if_neg applied, List.append_nil]
    rcases attempt_cases attempt with settled | wrote | stopped
    · rw [settled.saved, settled.left]
      exact Disk.written_refl _
    · exact absurd wrote.applied applied
    · exact stopped.written

/-- What an action wrote is the copy that its backup made, or its text at its target. -/
theorem mem_writes {write : Write} :
    write ∈ attempt.writes ↔ attempt.saved? = some write ∨
      attempt.applied = true ∧ write = ⟨attempt.target, attempt.bytes⟩ := by
  rw [writes, List.mem_append, Option.mem_toList]
  refine or_congr Iff.rfl ?_
  split
  · rename_i applied
    rw [List.mem_singleton]
    exact ⟨fun is => ⟨applied, is⟩, fun is => is.2⟩
  · rename_i none
    exact ⟨fun member => (nomatch member), fun is => absurd is.1 none⟩

/-- A backup that was made has what the target held, and it was written where the path of the backup
leads, or into the directory that stood there. -/
theorem saved_source {copy : Write} (saved : attempt.saved? = some copy) :
    ∃ stamp, attempt.backup = some stamp ∧
      attempt.met.holds attempt.action.path = .ok true ∧
      attempt.met.copied? attempt.action.path (backupPath attempt.action.path stamp) =
        some copy := by
  unfold saved? at saved
  split at saved
  · cases saved
  · split at saved
    · rename_i stamp given held
      exact ⟨stamp, given, held, saved⟩
    · cases saved

/-- Where an action was applied with a stamp, and its path led to a file, the file was saved. -/
theorem saved_of_applied {stamp : String} {bytes : List UInt8} (applied : attempt.applied = true)
    (given : attempt.backup = some stamp)
    (there : attempt.met.stat attempt.action.path = .ok (.file bytes)) :
    ∃ copy, attempt.saved? = some copy ∧ copy.bytes = bytes := by
  have wrote := wrote_of_applied applied
  have held : attempt.met.holds attempt.action.path = .ok true :=
    Disk.holds_ok_iff.mpr ⟨wrote.plain, _, there⟩
  have saved : attempt.saved? =
      attempt.met.copied? attempt.action.path (backupPath attempt.action.path stamp) := by
    rw [saved?, if_neg wrote.pending, given, held]
  cases copied : (OnDisk.copy attempt.action.path
      (backupPath attempt.action.path stamp)).run.run attempt.met with
  | mk first middle =>
    rcases OnDisk.copy_cases copied with ⟨rfl, found, held, is, _⟩ | ⟨fault, rfl, rfl, _⟩
    · rw [there] at held
      cases held
      exact ⟨_, saved.trans is, rfl⟩
    · -- a copy that fails lets the action fail
      have ran : (attempt.action.write attempt.backup).run.run attempt.met =
          (.error fault, attempt.met) := by
        rw [given, Action.write_run, held]
        exact OnDisk.bind_run_error copied _
      have outcome := wrote.outcome
      rcases Action.perform_refused wrote.pending ran with ⟨_, run⟩ | ⟨_, run⟩
      · rw [Attempt.outcome, run] at outcome
        cases outcome
      · rw [Attempt.outcome, run] at outcome
        cases outcome

end Attempt

/-! ## One action after another -/

/-- Each attempt meets the disk that the one before it has left. -/
def Chained : Disk → List Attempt → Prop
  | _, [] => True
  | disk, attempt :: rest => attempt.met = disk ∧ Chained attempt.left rest

variable {disk : Disk} {backup : Option Clock}

/-- What attempts leave is what the ones behind the first leave. -/
@[simp] theorem leaving_cons (disk : Disk) (attempt : Attempt) (rest : List Attempt) :
    leaving disk (attempt :: rest) = leaving attempt.left rest := by
  cases rest with
  | nil => rfl
  | cons next others => rw [leaving, leaving, List.getLast?_cons_cons]; rfl

/-- Attempts in two parts leave what the second part leaves. -/
theorem leaving_append (disk : Disk) (first second : List Attempt) :
    leaving disk (first ++ second) = leaving (leaving disk first) second := by
  induction first generalizing disk with
  | nil => rfl
  | cons attempt rest inductionHypothesis =>
    rw [List.cons_append, leaving_cons, leaving_cons, inductionHypothesis]

/-- Attempts in two parts follow each other if they do so in each part. -/
theorem chained_append {first second : List Attempt} :
    Chained disk (first ++ second) ↔
      Chained disk first ∧ Chained (leaving disk first) second := by
  induction first generalizing disk with
  | nil => simp [Chained, leaving]
  | cons attempt rest inductionHypothesis =>
    rw [List.cons_append, Chained, Chained, inductionHypothesis, leaving_cons, and_assoc]

/-- What attempts have done to the disk is told by the files that they wrote, one after another. -/
theorem attempts_written {tried : List Attempt} (chained : Chained disk tried) :
    disk.Written (tried.flatMap Attempt.writes) (leaving disk tried) := by
  induction tried generalizing disk with
  | nil => exact Disk.written_refl disk
  | cons attempt rest inductionHypothesis =>
    obtain ⟨rfl, behind⟩ := chained
    rw [List.flatMap_cons, leaving_cons]
    exact Disk.written_trans attempt.attempt_written (inductionHypothesis behind)

/-- An attempt among others meets what the ones before it have written and leaves what the ones
behind it write on. -/
theorem chained_split {earlier later : List Attempt} {attempt : Attempt}
    (chained : Chained disk (earlier ++ attempt :: later)) :
    disk.Written (earlier.flatMap Attempt.writes) attempt.met ∧
      attempt.left.Written (later.flatMap Attempt.writes)
        (leaving disk (earlier ++ attempt :: later)) := by
  obtain ⟨before, met, behind⟩ := chained_append.mp chained
  rw [leaving_append, leaving_cons, met]
  exact ⟨attempts_written before, attempts_written behind⟩

/-- An attempt among others meets a disk that the ones before it have written. -/
theorem chained_met {tried : List Attempt} {attempt : Attempt} (chained : Chained disk tried)
    (member : attempt ∈ tried) : ∃ writes, disk.Written writes attempt.met := by
  obtain ⟨earlier, later, rfl⟩ := List.append_of_mem member
  exact ⟨_, (chained_split chained).1⟩

/-- Attempts at actions are made one after another. -/
theorem attempts_chained (backup : Option Clock) (actions : List Action) (disk : Disk) :
    Chained disk (attempts backup actions disk) := by
  induction actions generalizing backup disk with
  | nil => trivial
  | cons action rest inductionHypothesis =>
    rw [attempts]
    split
    · exact ⟨rfl, inductionHypothesis _ _⟩
    · exact ⟨rfl, trivial⟩

/-- An attempt is one at an action, with the stamp that the clock shows at some moment. -/
theorem attempts_mem {actions : List Action} {attempt : Attempt}
    (member : attempt ∈ attempts backup actions disk) :
    attempt.action ∈ actions ∧
      ∃ moment, attempt.backup = backup.map fun clock => clock.shows moment := by
  induction actions generalizing backup disk with
  | nil => cases member
  | cons action rest inductionHypothesis =>
    rw [attempts] at member
    split at member
    · rcases List.mem_cons.mp member with rfl | behind
      · exact ⟨List.mem_cons_self, 0, rfl⟩
      · obtain ⟨there, moment, same⟩ := inductionHypothesis behind
        refine ⟨List.mem_cons_of_mem _ there, moment + 1, ?_⟩
        rw [same, Option.map_map]
        rfl
    · rcases List.mem_singleton.mp member with rfl
      exact ⟨List.mem_cons_self, 0, rfl⟩

/-- The stamp of an attempt is what the clock shows at some moment. -/
theorem attempts_stamp {actions : List Action} {attempt : Attempt}
    (member : attempt ∈ attempts backup actions disk) {stamp : String}
    (given : attempt.backup = some stamp) :
    ∃ clock, backup = some clock ∧ ∃ moment, clock.shows moment = stamp := by
  obtain ⟨_, moment, shown⟩ := attempts_mem member
  rw [shown] at given
  obtain ⟨clock, there, is⟩ := Option.map_eq_some_iff.mp given
  exact ⟨clock, there, moment, is⟩

namespace Attempt

/-- What a run reports of an attempt. -/
def report? (attempt : Attempt) : Option (Action × Outcome) :=
  match attempt.outcome with
  | .ok outcome => some (attempt.action, outcome)
  | .error _ => none

/-- The fault that ends a run at an attempt. -/
def fault? (attempt : Attempt) : Option Fault :=
  match attempt.outcome with
  | .ok _ => none
  | .error fault => some fault

end Attempt

/-- A run reports its attempts in order, up to a fault that is no outcome, and leaves what they
leave. -/
theorem run_eq (backup : Option Clock) (actions : List Action) (disk : Disk) :
    (Execution.run backup actions).run disk =
      (⟨(attempts backup actions disk).filterMap Attempt.report?,
        (attempts backup actions disk).findSome? Attempt.fault?⟩,
        leaving disk (attempts backup actions disk)) := by
  induction actions generalizing backup disk with
  | nil => rfl
  | cons action rest inductionHypothesis =>
    rw [Execution.run, StateT.run_bind, attempts]
    have parts : (action.perform (backup.map Clock.now)).run.run disk =
        ((⟨backup.map Clock.now, action, disk⟩ : Attempt).outcome,
          (⟨backup.map Clock.now, action, disk⟩ : Attempt).left) := rfl
    have own : (⟨backup.map Clock.now, action, disk⟩ : Attempt).action = action := rfl
    rw [parts]
    generalize (⟨backup.map Clock.now, action, disk⟩ : Attempt) = attempt at own ⊢
    cases became : attempt.outcome with
    | error fault =>
      simp only [List.filterMap_cons, List.findSome?_cons, Attempt.report?, Attempt.fault?, became,
        leaving_cons]
      rfl
    | ok outcome =>
      simp only [List.filterMap_cons, List.findSome?_cons, Attempt.report?, Attempt.fault?, became,
        leaving_cons, own]
      have behind := inductionHypothesis (backup.map Clock.next) attempt.left
      refine (StateT.run_bind _ _ _).trans ?_
      rw [behind]
      rfl

end Stencil.Output
