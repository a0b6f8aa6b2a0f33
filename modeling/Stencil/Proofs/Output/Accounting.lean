import Mathlib.Control.Monad.Basic
import Stencil.Proofs.Output.Attempts
import Stencil.Proofs.Output.Planning

/-!
# Accounting for every file

A plan sorts the files: each one is planned or refused, in the order of the
files. Carrying the plan out accounts for each planned one: it was to be left
alone, or was applied, or has failed (`Accounted`). What is reported is the
number of each and the reasons, those of the plan first.

The disk holds what was reported (`write_accounted`): the text of each applied
action is at its target unless a later one was written there, and everything
that is neither the target of an applied action nor a backup is as it was. An
attempt that fails changes none of that, since the writes of all attempts are
known (`attempts_written`).
-/

namespace Stencil.Output

open Code Disk

variable {disk : Disk} {backup : Option Clock}

/-- Where a run ends by no fault, each action was attempted and has an outcome. -/
theorem attempts_settled {actions : List Action}
    (faultless : (attempts backup actions disk).findSome? Attempt.fault? = none) :
    (attempts backup actions disk).map Attempt.action = actions ∧
      ∀ attempt ∈ attempts backup actions disk, ∃ outcome, attempt.outcome = .ok outcome := by
  induction actions generalizing backup disk with
  | nil => exact ⟨rfl, fun _ none => nomatch none⟩
  | cons action rest inductionHypothesis =>
    rw [attempts] at faultless ⊢
    cases became : (⟨backup.map Clock.now, action, disk⟩ : Attempt).outcome with
    | error fault =>
      simp [became, Attempt.fault?] at faultless
    | ok outcome =>
      simp only [became, List.findSome?_cons, Attempt.fault?] at faultless ⊢
      obtain ⟨each, settled⟩ := inductionHypothesis faultless
      refine ⟨by rw [List.map_cons, each], fun attempt member => ?_⟩
      rcases List.mem_cons.mp member with rfl | behind
      · exact ⟨outcome, became⟩
      · exact settled attempt behind

/-- What is reported of attempts. -/
def tally (tried : List Attempt) : Result :=
  ⟨tried.countP Attempt.applied, (tried.filterMap Attempt.reason?).length,
    tried.filterMap Attempt.reason?⟩

/-- The result of a run is the tally of what it reports. -/
theorem result_tally (tried : List Attempt) (fault : Option Fault) :
    (⟨tried.filterMap Attempt.report?, fault⟩ : Execution).result = tally tried := by
  have failures : (⟨tried.filterMap Attempt.report?, fault⟩ : Execution).failures =
      tried.filterMap Attempt.reason? := by
    rw [Execution.failures, List.filterMap_filterMap]
    congr 1
    funext attempt
    rw [Attempt.report?, Attempt.reason?]
    rcases attempt.outcome with fault | outcome
    · rfl
    · cases outcome <;> rfl
  have written : (tried.filterMap Attempt.report?).countP
      (fun told => told.2 = .written) = tried.countP Attempt.applied := by
    rw [List.countP_filterMap]
    refine List.countP_congr fun attempt _ => ?_
    rw [Attempt.report?, Attempt.applied]
    rcases attempt.outcome with fault | outcome
    · simp
    · cases outcome <;> simp
  rw [Execution.result, failures, tally, ← written]

/-- Carrying out a plan reports the tally of its attempts, unless one ends by a fault. -/
theorem execute_run (backup : Option Clock) (plan : Plan) (disk : Disk) :
    (plan.execute backup).run.run disk =
      (match (attempts backup plan.actions disk).findSome? Attempt.fault? with
        | some fault => .error fault
        | none => .ok (tally (attempts backup plan.actions disk)),
        leaving disk (attempts backup plan.actions disk)) := by
  have ran : (liftM (Execution.run backup plan.actions) : OnDisk Execution).run.run disk =
      (.ok ((Execution.run backup plan.actions).run disk).1,
        ((Execution.run backup plan.actions).run disk).2) := rfl
  rw [run_eq] at ran
  rw [Plan.execute, OnDisk.bind_run_ok ran]
  cases ended : (attempts backup plan.actions disk).findSome? Attempt.fault? with
  | some fault => rfl
  | none =>
    simp only [result_tally]
    rfl

/-- The wording of a target that a plan could not read. -/
def unread (fault : Fault) : String := "cannot read existing output: " ++ fault.message

/-- The attempts at writing files: those at the actions of their plan. -/
def tries (backup : Option Clock) (root : Path) (files : List OutputFile) (disk : Disk) :
    List Attempt :=
  attempts backup (Plan.build disk root files).actions disk

/-- The attempts at writing files follow each other. -/
theorem tries_chained (backup : Option Clock) (root : Path) (files : List OutputFile)
    (disk : Disk) : Chained disk (tries backup root files disk) := attempts_chained backup _ disk

/-- Writing files leaves what its attempts leave. If none of them ends by a fault it reports their
tally, with what the plan could not read before it. -/
theorem write_into_run (backup : Option Clock) (root : Path) (files : List OutputFile)
    (disk : Disk) :
    (writeInto backup root files).run.run disk =
      (match (tries backup root files disk).findSome? Attempt.fault? with
        | some fault => .error fault
        | none =>
          let told := tally (tries backup root files disk)
          let errors := (Plan.build disk root files).errors
          .ok ⟨told.applied, told.failed + errors.length, errors.map unread ++ told.failures⟩,
        leaving disk (tries backup root files disk)) := by
  have ran := execute_run backup (Plan.build disk root files) disk
  rw [writeInto, OnDisk.get_run]
  unfold tries
  cases ended : (attempts backup (Plan.build disk root files).actions disk).findSome?
      Attempt.fault? with
  | some fault =>
    rw [ended] at ran
    exact OnDisk.bind_run_error ran _
  | none =>
    rw [ended] at ran
    refine (OnDisk.bind_run_ok ran _).trans ?_
    simp only [List.length_map]
    rfl

/-- Where writing files returns, no attempt has ended by a fault. -/
theorem write_into_ok {root : Path} {files : List OutputFile} {result : Result} {after : Disk}
    (returns : (writeInto backup root files).run.run disk = (.ok result, after)) :
    (tries backup root files disk).findSome? Attempt.fault? = none ∧
      result = ⟨(tally (tries backup root files disk)).applied,
        (tally (tries backup root files disk)).failed + (Plan.build disk root files).errors.length,
        (Plan.build disk root files).errors.map unread ++
          (tally (tries backup root files disk)).failures⟩ ∧
      after = leaving disk (tries backup root files disk) := by
  rw [write_into_run] at returns
  cases ended : (tries backup root files disk).findSome? Attempt.fault? with
  | some fault =>
    rw [ended] at returns
    cases returns
  | none =>
    rw [ended] at returns
    cases returns
    exact ⟨rfl, rfl, rfl⟩

/-- What can become of an action: it was to be left alone and was, it was applied, or it has failed
with a reason. -/
inductive Attempt.Fate (attempt : Attempt) : Prop where
  | noop (settled : attempt.action.status = .noop) (unchanged : attempt.outcome = .ok .unchanged)
  | applied (pending : attempt.action.status ≠ .noop) (written : attempt.outcome = .ok .written)
  | failed (pending : attempt.action.status ≠ .noop) (reason : String)
    (refused : attempt.outcome = .ok (.failed reason))

/-- How writing files accounts for them. Each file is planned or refused, each planned one has been
attempted and has a fate, in the order of the files; the result counts them, and its reasons are
those of the plan and then those of the attempts. -/
structure Accounted (disk : Disk) (root : Path) (files : List OutputFile) (tried : List Attempt)
    (result : Result) : Prop where
  planned : tried.map Attempt.action =
    files.filterMap fun file => (actionFor disk root file).toOption
  fates : ∀ attempt ∈ tried, attempt.Fate
  applied : result.applied = tried.countP Attempt.applied
  failures : result.failures =
    (files.filterMap fun file => refusal? (actionFor disk root file)).map unread ++
      tried.filterMap Attempt.reason?
  failed : result.failed = result.failures.length
  total : (files.length : Int) =
    (Plan.build disk root files).count .noop + result.applied + result.failed

/-- An attempt with an outcome has a fate. -/
theorem fate_of_settled {attempt : Attempt} {outcome : Outcome}
    (settled : attempt.outcome = .ok outcome) : attempt.Fate := by
  rcases attempt.attempt_cases with noop | wrote | stopped
  · exact .noop noop.settled noop.outcome
  · exact .applied wrote.pending wrote.outcome
  · rcases stopped.outcome with ⟨fault, is⟩ | ⟨fault, is, _⟩
    · exact .failed stopped.pending _ is
    · rw [settled] at is
      cases is

/-- Attempts that have fates are those left alone, those applied and those that failed. -/
theorem fates_length {tried : List Attempt} (fates : ∀ attempt ∈ tried, attempt.Fate) :
    tried.length = (tried.map Attempt.action).countP (fun action => action.status = .noop) +
      tried.countP Attempt.applied + (tried.filterMap Attempt.reason?).length := by
  induction tried with
  | nil => rfl
  | cons attempt rest inductionHypothesis =>
    have behind := inductionHypothesis fun each member => fates each (List.mem_cons_of_mem _ member)
    rw [List.length_cons, List.map_cons, List.countP_cons, List.countP_cons, List.filterMap_cons,
      behind, Attempt.applied, Attempt.reason?]
    rcases fates attempt List.mem_cons_self with ⟨settled, is⟩ | ⟨pending, is⟩ | ⟨pending, _, is⟩
    · simp only [is, settled]
      simp
      omega
    · simp only [is, pending]
      simp
      omega
    · simp only [is, pending]
      simp
      omega

/-- Writing files accounts for each of them, whatever the disk holds. -/
theorem files_accounted {root : Path} {files : List OutputFile} {result : Result} {after : Disk}
    (returns : (writeInto backup root files).run.run disk = (.ok result, after)) :
    Accounted disk root files (tries backup root files disk) result := by
  obtain ⟨faultless, is, _⟩ := write_into_ok returns
  obtain ⟨each, settled⟩ := attempts_settled faultless
  obtain ⟨_, actions, errors⟩ := build_sorted disk root files
  have fates : ∀ attempt ∈ tries backup root files disk, attempt.Fate := fun attempt member =>
    fate_of_settled (settled attempt member).choose_spec
  have counted := fates_length fates
  have sorted := build_length disk root files
  rw [← each, List.length_map] at sorted
  subst is
  exact {
    planned := each.trans actions
    fates := fates
    applied := rfl
    failures := by rw [← errors]; rfl
    failed := by simp [tally]; omega
    total := by
      rw [Plan.count, ← each]
      simp only [tally, tries] at counted ⊢
      omega }

/-- Attempts wrote to no place that is neither the target of one that was applied nor the place of a
backup. -/
theorem writes_apart {tried : List Attempt} {place : Place}
    (targets : ∀ attempt ∈ tried, attempt.applied = true → attempt.target ≠ place)
    (copies : ∀ attempt ∈ tried, ∀ copy ∈ attempt.saved?, copy.place ≠ place) :
    ∀ write ∈ tried.flatMap Attempt.writes, write.place ≠ place := by
  intro write member
  obtain ⟨attempt, there, wrote⟩ := List.mem_flatMap.mp member
  rcases Attempt.mem_writes.mp wrote with saved | ⟨applied, rfl⟩
  · exact copies attempt there write saved
  · exact targets attempt there applied

/-- The text of an applied action stays where it was written unless a later attempt writes there. -/
theorem applied_stands {earlier later : List Attempt} {attempt : Attempt}
    (chained : Chained disk (earlier ++ attempt :: later)) (applied : attempt.applied = true)
    (targets : ∀ other ∈ later, other.applied = true → other.target ≠ attempt.target)
    (copies : ∀ other ∈ later, ∀ copy ∈ other.saved?, copy.place ≠ attempt.target) :
    (leaving disk (earlier ++ attempt :: later)).at? attempt.target =
        some (.file attempt.bytes) ∧
      (leaving disk (earlier ++ attempt :: later)).stat attempt.action.path =
        .ok (.file attempt.bytes) := by
  have wrote := Attempt.wrote_of_applied applied
  have behind := (chained_split chained).2
  have here : attempt.left.goal attempt.action.path = attempt.target :=
    Disk.goal_same wrote.written.current _
  have apart := writes_apart targets copies
  rw [← here] at apart ⊢
  exact ⟨(Disk.written_apart behind apart _).mpr (Disk.stat_ok_iff.mp wrote.there).2,
    Disk.written_stat behind apart wrote.there⟩

/-- A backup is made with a stamp only, of what the target held, and where the path of the backup
leads, or into a directory that stands there. -/
theorem backup_source {attempt : Attempt} {copy : Write} (saved : copy ∈ attempt.saved?) :
    ∃ stamp, attempt.backup = some stamp ∧
      attempt.met.stat attempt.action.path = .ok (.file copy.bytes) ∧
      copy.place = attempt.met.goal
        (attempt.met.intake attempt.action.path (backupPath attempt.action.path stamp)) := by
  obtain ⟨stamp, given, _, copied⟩ := Attempt.saved_source saved
  obtain ⟨held, _, is, _⟩ := OnDisk.copied_source copied
  exact ⟨stamp, given, held, is⟩

/-- Writing files writes what it reports and nothing else. Every file is accounted for once; what an
applied action wrote is there unless a later one, or a later backup, was written to the same place;
all other places hold the files that they held; and backups are copies of what targets held, beside
them under a stamp that the clock showed.

Proof: the attempts are one chain of disks. All that they do is told by one list of writes, so what
stands at a place is decided by the last write to it; a place that no write is for is as it was. -/
theorem write_accounted {root : Path} {files : List OutputFile} {result : Result} {after : Disk}
    (returns : (writeInto backup root files).run.run disk = (.ok result, after)) :
    Accounted disk root files (tries backup root files disk) result ∧
      (∀ earlier attempt later, tries backup root files disk = earlier ++ attempt :: later →
        attempt.applied = true →
        (∀ other ∈ later, other.applied = true → other.target ≠ attempt.target) →
        (∀ other ∈ later, ∀ copy ∈ other.saved?, copy.place ≠ attempt.target) →
        after.at? attempt.target = some (.file attempt.bytes) ∧
          after.stat attempt.action.path = .ok (.file attempt.bytes)) ∧
      (∀ place,
        (∀ attempt ∈ tries backup root files disk,
          attempt.applied = true → attempt.target ≠ place) →
        (∀ attempt ∈ tries backup root files disk, ∀ copy ∈ attempt.saved?, copy.place ≠ place) →
        ∀ bytes, after.at? place = some (.file bytes) ↔ disk.at? place = some (.file bytes)) ∧
      ∀ attempt ∈ tries backup root files disk, ∀ copy ∈ attempt.saved?,
        ∃ clock moment, backup = some clock ∧
          attempt.met.stat attempt.action.path = .ok (.file copy.bytes) ∧
          copy.place = attempt.met.goal (attempt.met.intake attempt.action.path
            (backupPath attempt.action.path (clock.shows moment))) := by
  obtain ⟨_, _, is⟩ := write_into_ok returns
  have chained := tries_chained backup root files disk
  subst is
  refine ⟨files_accounted returns, ?_, ?_, ?_⟩
  · intro earlier attempt later whole applied targets copies
    rw [whole] at chained ⊢
    exact applied_stands chained applied targets copies
  · intro place targets copies bytes
    exact Disk.written_apart (attempts_written chained) (writes_apart targets copies) bytes
  · intro attempt member copy saved
    obtain ⟨stamp, given, held, place⟩ := backup_source saved
    obtain ⟨clock, there, moment, rfl⟩ := attempts_stamp member given
    exact ⟨clock, moment, there, held, place⟩

/-- A disk that is in the way of some files: one is up to date, one holds another text, one is a
directory and one stands where a directory is needed. -/
def crowded : Disk :=
  ⟨["work"], [(["work"], .directory), (["work", "same.py"], .file [120, 10]),
    (["work", "old.py"], .file [121, 13]), (["work", "taken.py"], .directory),
    (["work", "plain"], .file [122])], usualRoom⟩

/-- Files for that disk, one for each case and a new one. -/
def mixed : List OutputFile :=
  [⟨.ofText "same.py", "x\n"⟩, ⟨.ofText "old.py", "w\n"⟩, ⟨.ofText "taken.py", "w\n"⟩,
    ⟨.ofText "plain/inner.py", "w\n"⟩, ⟨.ofText "made/new.py", "é\n"⟩]

/-- On a disk that is in the way, five files are one left alone, two written and two failed. The new
file is there, and the file that stood in the way is as it was. -/
theorem crowded_accounted :
    ∃ after, (writeInto (some "20240102-030405") (.ofText ".") mixed).run.run crowded =
        (.ok ⟨2, 2, ["cannot read existing output: [Errno 21] Is a directory: 'taken.py'",
          "write failed for plain/inner.py: [Errno 17] File exists: 'plain'"]⟩, after) ∧
      Accounted crowded (.ofText ".") mixed
        (tries (some "20240102-030405") (.ofText ".") mixed crowded)
        ⟨2, 2, ["cannot read existing output: [Errno 21] Is a directory: 'taken.py'",
          "write failed for plain/inner.py: [Errno 17] File exists: 'plain'"]⟩ ∧
      after.at? ["work", "made", "new.py"] = some (.file [195, 169, 10]) ∧
      after.at? ["work", "plain"] = some (.file [122]) := by
  obtain ⟨any, applied, target, bytes⟩ :
      ∃ any : tries (some "20240102-030405") (.ofText ".") mixed crowded ≠ [],
        (List.getLast _ any).applied = true ∧
          (List.getLast _ any).target = ["work", "made", "new.py"] ∧
          (List.getLast _ any).bytes = [195, 169, 10] := by decide +kernel
  have told : ((writeInto (some "20240102-030405") (.ofText ".") mixed).run.run crowded).1 =
      .ok ⟨2, 2, ["cannot read existing output: [Errno 21] Is a directory: 'taken.py'",
        "write failed for plain/inner.py: [Errno 17] File exists: 'plain'"]⟩ := by decide +kernel
  generalize ran : (writeInto (some "20240102-030405") (.ofText ".") mixed).run.run crowded = run
    at told
  obtain ⟨outcome, after⟩ := run
  obtain rfl : outcome = _ := told
  obtain ⟨accounted, stands, others, _⟩ := write_accounted ran
  refine ⟨after, rfl, accounted, ?_, ?_⟩
  · have last := (stands _ _ [] (List.dropLast_concat_getLast any).symm applied
      (fun _ none => nomatch none) (fun _ none => nomatch none)).1
    rwa [target, bytes] at last
  · refine (others ["work", "plain"] ?_ ?_ [122]).mpr (by decide +kernel)
    · decide +kernel
    · decide +kernel

end Stencil.Output
