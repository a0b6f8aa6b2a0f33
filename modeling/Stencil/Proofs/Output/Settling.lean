import Stencil.Proofs.Output.Accounting
import Stencil.Proofs.Text.Utf8

/-!
# Writing the same files again

Where nothing has failed every file was planned, and either its text was there
already or it was written (`complete_attempt`). What is at its target is then
the text of a file that leads there (`write_source`). So if the files that lead
to one place have one text and no text holds a carriage return, which is read
as a line feed, each file is read back as it was written (`file_settles`):
planned again it is to be left alone, and writing again changes nothing
(`written_settles`).

Files that lead to one place with different texts take turns: each is written
over the one before it, and again the next time (`doubled_unsettled`).
-/

namespace Stencil.Output

open Code Disk

variable {disk after : Disk} {backup : Option Clock} {root : Path} {files : List OutputFile}
  {result : Result}

/-! ## Where nothing has failed -/

/-- An attempt that has not failed has left its text alone or has written it. -/
theorem settled_or_wrote {attempt : Attempt} (fate : attempt.Fate)
    (none : attempt.reason? = none) : attempt.Settled ∨ attempt.Wrote := by
  rcases attempt.attempt_cases with settled | wrote | stopped
  · exact .inl settled
  · exact .inr wrote
  · rcases fate with ⟨noop, _⟩ | ⟨_, is⟩ | ⟨_, _, is⟩
    · exact absurd noop stopped.pending
    · exact .inr (Attempt.wrote_of_applied (by rw [Attempt.applied, is]))
    · rw [Attempt.reason?, is] at none
      cases none

/-- Where nothing has failed each file was attempted, and its text was there or was written. -/
theorem complete_attempt
    (returns : (writeInto backup root files).run.run disk = (.ok result, after))
    (complete : result.failed = 0) {file : OutputFile} (member : file ∈ files) :
    ∃ attempt ∈ tries backup root files disk, actionFor disk root file = .ok attempt.action ∧
      (attempt.Settled ∨ attempt.Wrote) := by
  have accounted := files_accounted returns
  have none : result.failures = [] := by
    have counted := accounted.failed
    rw [complete] at counted
    exact List.length_eq_zero_iff.mp (by omega)
  rw [accounted.failures, List.append_eq_nil_iff, List.map_eq_nil_iff,
    List.filterMap_eq_nil_iff, List.filterMap_eq_nil_iff] at none
  obtain ⟨read, done⟩ := none
  cases planned : actionFor disk root file with
  | error fault =>
    have refused := read file member
    rw [planned] at refused
    cases refused
  | ok action =>
    have among : action ∈ (tries backup root files disk).map Attempt.action := by
      rw [accounted.planned]
      exact List.mem_filterMap.mpr ⟨file, member, by rw [planned]; rfl⟩
    obtain ⟨attempt, tried, rfl⟩ := List.mem_map.mp among
    exact ⟨attempt, tried, rfl,
      settled_or_wrote (accounted.fates attempt tried) (done attempt tried)⟩

/-- An attempt has met a disk with the current directory of the first. -/
theorem attempt_met {attempt : Attempt} (tried : attempt ∈ tries backup root files disk) :
    attempt.met.current = disk.current := by
  obtain ⟨_, written⟩ := chained_met (tries_chained backup root files disk) tried
  exact written.current

/-- Without backups all that is written is the text of some file, where the file leads. -/
theorem write_source {write : Write}
    (wrote : write ∈ (tries none root files disk).flatMap Attempt.writes) :
    ∃ file ∈ files, write = ⟨disk.goal (root.join file.path), Text.encode file.text.toList⟩ := by
  obtain ⟨attempt, tried, among⟩ := List.mem_flatMap.mp wrote
  obtain ⟨file, member, planned⟩ := planned_source (attempts_mem tried).1
  obtain ⟨existing, _, is⟩ := action_for_iff.mp planned
  refine ⟨file, member, ?_⟩
  rcases Attempt.mem_writes.mp among with saved | ⟨_, rfl⟩
  · obtain ⟨stamp, given, _⟩ := backup_source saved
    obtain ⟨_, none, _⟩ := attempts_stamp tried given
    cases none
  · rw [Attempt.target, Attempt.bytes, Disk.goal_same (attempt_met tried), is]

/-! ## Reading back -/

/-- A file that holds the bytes of a text without carriage returns is read as that text. -/
theorem read_text_written {path : Path} {text : String} (plain : holdsNul path = false)
    (there : disk.stat path = .ok (.file (Text.encode text.toList)))
    (uniform : '\r' ∉ text.toList) : readText? disk path = .ok (some text) := by
  refine read_text_iff.mpr ⟨_, _, Disk.read_ok_iff.mpr ⟨plain, there⟩, Text.decode_encode _, ?_⟩
  rw [Text.newlines_same uniform, String.ofList_toList]

/-- What is left alone holds its text, up to line ends. -/
theorem settled_read {file : OutputFile} {action : Action}
    (planned : actionFor disk root file = .ok action) (noop : action.status = .noop) :
    readText? disk (root.join file.path) = .ok (some file.text) :=
  up_to_date_iff.mp ⟨action, planned, noop⟩

/-- Where a file was left alone or written its path can still be followed after the run. -/
theorem path_reached {file : OutputFile} {attempt : Attempt}
    (tried : attempt ∈ tries backup root files disk)
    (planned : actionFor disk root file = .ok attempt.action)
    (became : attempt.Settled ∨ attempt.Wrote) :
    holdsNul (root.join file.path) = false ∧
      (leaving disk (tries backup root files disk)).resolve (root.join file.path) =
        .ok (disk.goal (root.join file.path)) := by
  have chained := tries_chained backup root files disk
  rcases became with settled | wrote
  · obtain ⟨bytes, cs, got, _⟩ := read_text_iff.mp (settled_read planned settled.settled)
    obtain ⟨plain, there⟩ := Disk.read_ok_iff.mp got
    have written := attempts_written chained
    exact ⟨plain, Disk.resolve_kept written.toKeeps (Disk.stat_ok_iff.mp there).1⟩
  · obtain ⟨existing, _, action⟩ := action_for_iff.mp planned
    have path : attempt.action.path = root.join file.path := by rw [action]
    have led := (Disk.stat_ok_iff.mp wrote.there).1
    rw [Disk.goal_same wrote.written.current, Disk.goal_same (attempt_met tried), path] at led
    obtain ⟨earlier, later, whole⟩ := List.append_of_mem tried
    rw [whole] at chained ⊢
    exact ⟨path ▸ wrote.plain, Disk.resolve_kept (chained_split chained).2.toKeeps led⟩

/-- Where nothing has failed, a file whose text holds no carriage return is read back as it was
written, if all files that lead to its place have its text. What is written last at its place is
written by a file that leads there, and all of these have its text. If nothing was written there,
the plan found it up to date. -/
theorem file_settles (returns : (writeInto none root files).run.run disk = (.ok result, after))
    (complete : result.failed = 0) {file : OutputFile} (member : file ∈ files)
    (uniform : '\r' ∉ file.text.toList)
    (agreed : ∀ other ∈ files,
      disk.goal (root.join other.path) = disk.goal (root.join file.path) →
        other.text = file.text) :
    UpToDate after root file := by
  obtain ⟨attempt, tried, planned, became⟩ := complete_attempt returns complete member
  obtain ⟨_, _, is⟩ := write_into_ok returns
  subst is
  have written := attempts_written (tries_chained none root files disk)
  obtain ⟨plain, led⟩ := path_reached tried planned became
  rw [up_to_date_iff]
  by_cases touched : ∃ write ∈ (tries none root files disk).flatMap Attempt.writes,
      write.place = disk.goal (root.join file.path)
  · -- what was written there last is the text of a file that leads there
    obtain ⟨write, among, there⟩ := touched
    obtain ⟨bytes, last⟩ := last_some among
    rw [there] at last
    obtain ⟨other, others, same⟩ := write_source (last_mem last)
    obtain ⟨leads, rfl⟩ := Write.mk.inj same
    rw [agreed other others leads.symm] at last
    refine read_text_written plain (Disk.stat_ok_iff.mpr ?_) uniform
    rw [Disk.goal_same written.current]
    exact ⟨led, written.files _ _ last⟩
  · -- nothing was written there, so the text was there from the start
    have apart : ∀ write ∈ (tries none root files disk).flatMap Attempt.writes,
        write.place ≠ disk.goal (root.join file.path) :=
      fun write among there => touched ⟨write, among, there⟩
    rcases became with settled | wrote
    · obtain ⟨bytes, cs, got, decoded, text⟩ :=
        read_text_iff.mp (settled_read planned settled.settled)
      have kept := Disk.written_stat written apart (Disk.read_ok_iff.mp got).2
      exact read_text_iff.mpr ⟨bytes, cs, Disk.read_ok_iff.mpr ⟨plain, kept⟩, decoded, text⟩
    · obtain ⟨existing, _, action⟩ := action_for_iff.mp planned
      refine absurd ?_ (apart ⟨attempt.target, attempt.bytes⟩
        (List.mem_flatMap.mpr ⟨attempt, tried, Attempt.mem_writes.mpr (.inr ⟨wrote.applied, rfl⟩)⟩))
      rw [Attempt.target, Disk.goal_same (attempt_met tried), action]

/-! ## Nothing to do -/

/-- Attempts at actions that change nothing change nothing and report nothing. -/
theorem attempts_noop {actions : List Action} (noop : ∀ action ∈ actions, action.status = .noop) :
    (attempts backup actions disk).findSome? Attempt.fault? = none ∧
      tally (attempts backup actions disk) = ⟨0, 0, []⟩ ∧
      leaving disk (attempts backup actions disk) = disk := by
  induction actions generalizing backup with
  | nil => exact ⟨rfl, rfl, rfl⟩
  | cons action rest inductionHypothesis =>
    obtain ⟨faultless, told, stays⟩ := @inductionHypothesis (backup.map Clock.next) fun each member =>
      noop each (List.mem_cons_of_mem _ member)
    have run := Action.perform_noop (backup.map Clock.now) (noop action List.mem_cons_self) disk
    have outcome : (⟨backup.map Clock.now, action, disk⟩ : Attempt).outcome = .ok .unchanged := by
      rw [Attempt.outcome, run]
    have left : (⟨backup.map Clock.now, action, disk⟩ : Attempt).left = disk := by
      rw [Attempt.left, run]
    rw [attempts]
    simp only [outcome, left]
    refine ⟨?_, ?_, ?_⟩
    · rw [List.findSome?_cons, Attempt.fault?, outcome]
      exact faultless
    · rw [tally, List.countP_cons, List.filterMap_cons, Attempt.applied, Attempt.reason?, outcome]
      exact told
    · rw [leaving_cons, left]
      exact stays

/-- Writing files that are up to date changes nothing and reports nothing. -/
theorem write_settled (settled : ∀ file ∈ files, UpToDate disk root file) :
    (writeInto backup root files).run.run disk = (.ok ⟨0, 0, []⟩, disk) := by
  obtain ⟨errors, statuses⟩ := build_settled_iff.mpr settled
  have noop : ∀ action ∈ (Plan.build disk root files).actions, action.status = .noop := by
    intro action member
    have status := List.mem_map_of_mem (f := Action.status) member
    rw [statuses] at status
    obtain ⟨_, _, is⟩ := List.mem_map.mp status
    exact is.symm
  obtain ⟨faultless, told, stays⟩ := @attempts_noop disk backup _ noop
  rw [write_into_run, tries, faultless, stays, errors]
  simp only [told]
  rfl

/-! ## Writing again -/

/-- Files that lead to one place have one text. Which paths lead to one place depends on the disk's
current directory and on climbs in the paths. -/
def Agreeing (disk : Disk) (root : Path) (files : List OutputFile) : Prop :=
  ∀ one ∈ files, ∀ other ∈ files,
    disk.goal (root.join one.path) = disk.goal (root.join other.path) → one.text = other.text

instance (disk : Disk) (root : Path) (files : List OutputFile) :
    Decidable (Agreeing disk root files) :=
  inferInstanceAs (Decidable (∀ one ∈ files, ∀ other ∈ files,
    disk.goal (root.join one.path) = disk.goal (root.join other.path) → one.text = other.text))

/-- Files that are up to date together agree, since they are read from the places they lead to. -/
theorem agreeing_of_up_to_date (settled : ∀ file ∈ files, UpToDate disk root file) :
    Agreeing disk root files := by
  intro one first other second same
  obtain ⟨bytes, cs, got, decoded, text⟩ := read_text_iff.mp (up_to_date_iff.mp (settled one first))
  obtain ⟨held, chars, read, means, is⟩ :=
    read_text_iff.mp (up_to_date_iff.mp (settled other second))
  have here := (Disk.stat_ok_iff.mp (Disk.read_ok_iff.mp got).2).2
  have there := (Disk.stat_ok_iff.mp (Disk.read_ok_iff.mp read).2).2
  rw [same, there] at here
  cases here
  rw [decoded] at means
  cases means
  rw [text, is]

/-- Files whose texts hold no carriage return, written without a failure, are all up to date if and
only if those that lead to one place agree. Then writing them again, with backups or without,
changes nothing.

Proof: a file is written as the bytes of its text, which are read back as this text since no line
end is translated. What stands at a place in the end was written there last, so a file is up to date
if all that lead to its place have its text (`file_settles`). And where two of them are up to date,
one place holds the texts of both. -/
theorem written_settles (returns : (writeInto none root files).run.run disk = (.ok result, after))
    (complete : result.failed = 0) (uniform : ∀ file ∈ files, '\r' ∉ file.text.toList) :
    ((Plan.build after root files).errors = [] ∧
        (Plan.build after root files).actions.map Action.status = files.map (fun _ => .noop) ↔
      Agreeing disk root files) ∧
    (Agreeing disk root files → ∀ backup,
      (writeInto backup root files).run.run after = (.ok ⟨0, 0, []⟩, after)) := by
  have settles (agreeing : Agreeing disk root files) : ∀ file ∈ files, UpToDate after root file :=
    fun file member => file_settles returns complete member (uniform file member)
      fun other others same => agreeing other others file member same
  have current : after.current = disk.current := by
    rw [(write_into_ok returns).2.2]
    exact (attempts_written (tries_chained none root files disk)).current
  rw [build_settled_iff]
  refine ⟨⟨fun settled => ?_, settles⟩, fun agreeing backup => write_settled (settles agreeing)⟩
  have agreeing := agreeing_of_up_to_date settled
  unfold Agreeing at agreeing ⊢
  simpa only [Disk.goal_same current] using agreeing

/-- Files of which two lead to one place and have one text, one is up to date, and one is out of
date. -/
def settling : List OutputFile :=
  [⟨.ofText "p/__init__.py", "x = \"é\"\n"⟩, ⟨.ofText "./p/../p/__init__.py", "x = \"é\"\n"⟩,
    ⟨.ofText "same.py", "x\n"⟩, ⟨.ofText "old.py", ""⟩]

/-- On a disk with files that are up to date and files that are not, the files are written once, and
not again. -/
theorem settling_once :
    ∃ after, (writeInto none (.ofText ".") settling).run.run crowded = (.ok ⟨3, 0, []⟩, after) ∧
      (Plan.build after (.ofText ".") settling).actions.map Action.status =
        [.noop, .noop, .noop, .noop] ∧
      ∀ backup, (writeInto backup (.ofText ".") settling).run.run after =
        (.ok ⟨0, 0, []⟩, after) := by
  have told : ((writeInto none (.ofText ".") settling).run.run crowded).1 = .ok ⟨3, 0, []⟩ := by
    decide +kernel
  generalize ran : (writeInto none (.ofText ".") settling).run.run crowded = run at told
  obtain ⟨outcome, after⟩ := run
  obtain rfl : outcome = _ := told
  obtain ⟨planned, again⟩ := written_settles ran rfl (by decide +kernel)
  have agreeing : Agreeing crowded (.ofText ".") settling := by decide +kernel
  exact ⟨after, rfl, (planned.mpr agreeing).2, again agreeing⟩

/-- A package, and a module in it that is named as the package's root module is and has another
text. -/
def doubled : Build Value := do
  let package : Value := .object (.package (← Build.newPackage "p"))
  let inner : Value := .object (.module (← Build.newModule "__init__"))
  let _ ← Build.pushOnto package (.object (.statement (← Build.newStatement (.raw "x = 1"))))
  let _ ← Build.pushOnto inner (.object (.statement (← Build.newStatement (.raw "y = 2"))))
  Build.attach .module package inner

/-- The files of that package. -/
def twins : List OutputFile :=
  [⟨.ofText "p/__init__.py", "x = 1\n"⟩, ⟨.ofText "p/__init__.py", "y = 2\n"⟩]

/-- A module with a line that holds a carriage return. -/
def returning : Build Value := do
  let module : Value := .object (.module (← Build.newModule "m"))
  Build.pushOnto module (.object (.statement (← Build.newStatement (.raw "x\ry"))))

/-- The file of that module. -/
def returned : List OutputFile := [⟨.ofText "m.py", "x\ry\n"⟩]

/-- Files that lead to one place with different texts are never up to date together: both are
written without a failure, and the first of them is to be written again. A text with a carriage
return is not read back as it was written. -/
theorem doubled_unsettled :
    ((doubled.run.run Store.empty).1.bind (doubled.run.run Store.empty).2.files = .ok twins ∧
      ((writeInto none (.ofText "out") twins).run.run Disk.fresh).1 = .ok ⟨2, 0, []⟩ ∧
      (Plan.build ((writeInto none (.ofText "out") twins).run.run Disk.fresh).2
        (.ofText "out") twins).actions.map Action.status = [.update, .noop] ∧
      ((writeInto none (.ofText "out") twins).run.run
        ((writeInto none (.ofText "out") twins).run.run Disk.fresh).2).1 = .ok ⟨1, 0, []⟩) ∧
    (returning.run.run Store.empty).1.bind (returning.run.run Store.empty).2.files =
        .ok returned ∧
      ((writeInto none (.ofText "out") returned).run.run Disk.fresh).1 = .ok ⟨1, 0, []⟩ ∧
      (Plan.build ((writeInto none (.ofText "out") returned).run.run Disk.fresh).2
        (.ofText "out") returned).actions.map Action.status = [.update] := by
  refine ⟨⟨?_, ?_, ?_, ?_⟩, ?_, ?_, ?_⟩
  · decide +kernel
  · decide +kernel
  · decide +kernel
  · decide +kernel
  · decide +kernel
  · decide +kernel
  · decide +kernel

end Stencil.Output
