import Stencil.Proofs.Output.Accounting
import Stencil.Proofs.Code.Pathnames

/-!
# When carrying out a plan returns

Whatever the file system refuses is an outcome of the action that met it. So
carrying out a plan returns, with every action attempted, on any disk and not
just the one that the plan was made for (`execute_returns`), under two
conditions: no path of the plan holds the character that ends paths, and above
none of them as many directories are missing as there is room for calls. Only a
path that breaks one of the two ends a run (`execute_ends`), and then the actions
behind it are not attempted, although the plan takes it for a new file: a name
with that character, and a path that is too deep (`ending_name_ends`).
-/

namespace Stencil.Output

open Code Disk

variable {disk after : Disk} {backup : Option Clock} {root : Path} {files : List OutputFile}

/-- The characters of a path that was read are those of its text. -/
theorem holds_nul_of_text {text : String} (none : '\x00' ∉ text.toList) :
    holdsNul (.ofText text) = false := by
  refine List.any_eq_false.mpr fun name member => ?_
  obtain ⟨segment, among, rfl⟩ := List.mem_map.mp member
  rw [String.toList_ofList, List.contains_iff_mem]
  exact fun inside => none (Path.segment_characters (List.mem_filter.mp among).1 _ inside).1

/-- The backup of a path is free of the character that ends paths if the path and the stamp are. -/
theorem backup_plain {path : Path} {stamp : String} (plain : holdsNul path = false)
    (clock : '\x00' ∉ stamp.toList) : holdsNul (backupPath path stamp) = false := by
  refine holds_nul_of_text fun inside => ?_
  rw [String.toList_append, String.toList_append, List.mem_append, List.mem_append] at inside
  rcases inside with (path | suffix) | stamped
  · rcases Path.text_characters path with slash | dot | ⟨name, member, there⟩
    · exact absurd slash (by decide)
    · exact absurd dot (by decide)
    · exact List.any_eq_false.mp plain name member (List.contains_iff_mem.mpr there)
  · exact absurd suffix (by decide)
  · exact clock stamped

/-- An attempt ends a run only at a path that holds the character that ends paths, or above which as
many directories are missing as there is room for calls. -/
theorem attempt_ends {attempt : Attempt} {fault : Fault}
    (clock : ∀ stamp ∈ attempt.backup, '\x00' ∉ stamp.toList)
    (ended : attempt.outcome = .error fault) :
    fault = .nulInPath ∧ holdsNul attempt.action.path = true ∨
      fault = .tooManyCalls ∧ attempt.met.Sunk attempt.met.room attempt.action.path.parent := by
  rcases attempt.attempt_cases with settled | wrote | stopped
  · rw [settled.outcome] at ended
    cases ended
  · rw [wrote.outcome] at ended
    cases ended
  · rcases stopped.outcome with ⟨_, is⟩ | ⟨met, is, other⟩
    · rw [is] at ended
      cases ended
    · rw [is] at ended
      cases ended
      refine other.imp_left fun ⟨nul, marked⟩ => ⟨nul, ?_⟩
      cases plain : holdsNul attempt.action.path with
      | true => rfl
      | false =>
        exact absurd ⟨plain, fun stamp given => backup_plain plain (clock stamp given)⟩ marked

/-- Carrying out a plan ends by a fault only at an action whose path holds the character that ends
paths, or above which as many directories are missing as there is room for calls.

Proof: the fault is that of an attempt. What is missing on the disk that the attempt meets was
missing from the start, since the attempts before it have only written. -/
theorem execute_ends {plan : Plan} {fault : Fault}
    (clock : ∀ shown ∈ backup, ∀ moment, '\x00' ∉ (shown.shows moment).toList)
    (ended : (plan.execute backup).run.run disk = (.error fault, after)) :
    ∃ attempt ∈ attempts backup plan.actions disk, attempt.outcome = .error fault ∧
      (fault = .nulInPath ∧ holdsNul attempt.action.path = true ∨
        fault = .tooManyCalls ∧ disk.Sunk disk.room attempt.action.path.parent) := by
  rw [execute_run] at ended
  cases first : (attempts backup plan.actions disk).findSome? Attempt.fault? with
  | none =>
    rw [first] at ended
    cases ended
  | some met =>
    rw [first] at ended
    cases ended
    obtain ⟨attempt, tried, is⟩ := List.exists_of_findSome?_eq_some first
    have outcome : attempt.outcome = .error fault := by
      unfold Attempt.fault? at is
      split at is
      · cases is
      · cases is
        assumption
    obtain ⟨_, before⟩ := chained_met (attempts_chained backup plan.actions disk) tried
    have cause := attempt_ends (fun stamp given => by
      obtain ⟨shown, there, moment, rfl⟩ := attempts_stamp tried given
      exact clock shown there moment) outcome
    rw [before.room] at cause
    exact ⟨attempt, tried, outcome,
      cause.imp_right fun ⟨deep, sunk⟩ => ⟨deep, Disk.sunk_before before sunk⟩⟩

/-- A plan that was made on any disk, of files whose paths are free of the character that ends
paths, is carried out on any disk on which above none of them as many directories are missing as
there is room for calls: each action is attempted and has a fate, and the result counts them.

Proof: a run ends by the first fault that is no outcome. An attempt that has one is at a path of some
file, and both kinds of such paths are excluded (`execute_ends`). -/
theorem execute_returns (planned disk : Disk)
    (plain : ∀ file ∈ files, holdsNul (root.join file.path) = false)
    (shallow : ∀ file ∈ files, ¬disk.Sunk disk.room (root.join file.path).parent)
    (clock : ∀ shown ∈ backup, ∀ moment, '\x00' ∉ (shown.shows moment).toList) :
    ∃ result after,
      ((Plan.build planned root files).execute backup).run.run disk = (.ok result, after) ∧
      (attempts backup (Plan.build planned root files).actions disk).map Attempt.action =
        (Plan.build planned root files).actions ∧
      (∀ attempt ∈ attempts backup (Plan.build planned root files).actions disk, attempt.Fate) ∧
      result = tally (attempts backup (Plan.build planned root files).actions disk) := by
  have faultless : (attempts backup (Plan.build planned root files).actions disk).findSome?
      Attempt.fault? = none := by
    cases ended : (attempts backup (Plan.build planned root files).actions disk).findSome?
        Attempt.fault? with
    | none => rfl
    | some fault =>
      have ran := execute_run backup (Plan.build planned root files) disk
      rw [ended] at ran
      obtain ⟨attempt, tried, _, cause⟩ := execute_ends clock ran
      obtain ⟨file, member, made⟩ := planned_source (attempts_mem tried).1
      obtain ⟨_, _, action⟩ := action_for_iff.mp made
      have path : attempt.action.path = root.join file.path := by rw [action]
      rw [path] at cause
      rcases cause with ⟨_, nul⟩ | ⟨_, deep⟩
      · rw [plain file member] at nul
        cases nul
      · exact absurd deep (shallow file member)
  obtain ⟨each, settled⟩ := attempts_settled faultless
  have ran := execute_run backup (Plan.build planned root files) disk
  rw [faultless] at ran
  exact ⟨_, _, ran, each, fun attempt member =>
    fate_of_settled (settled attempt member).choose_spec, rfl⟩

/-- A plan for a disk that is in the way is carried out there: one file is left alone, two are
written, and the one below a file has failed. -/
theorem crowded_returns :
    ∃ after,
      ((Plan.build crowded (.ofText ".") mixed).execute (some "20240102-030405")).run.run crowded =
        (.ok ⟨2, 1, ["write failed for plain/inner.py: [Errno 17] File exists: 'plain'"]⟩, after) ∧
      (attempts (some "20240102-030405") (Plan.build crowded (.ofText ".") mixed).actions
        crowded).map Attempt.action = (Plan.build crowded (.ofText ".") mixed).actions := by
  have told : (((Plan.build crowded (.ofText ".") mixed).execute
      (some "20240102-030405")).run.run crowded).1 =
      .ok ⟨2, 1, ["write failed for plain/inner.py: [Errno 17] File exists: 'plain'"]⟩ := by
    decide +kernel
  have clock : ∀ shown ∈ (some "20240102-030405" : Option Clock), ∀ moment,
      '\x00' ∉ (shown.shows moment).toList := by
    rintro shown ⟨⟩ moment
    exact (by decide : '\x00' ∉ "20240102-030405".toList)
  have few : ∀ file ∈ mixed,
      ((Path.ofText ".").join file.path).parent.parts.length < crowded.room := by decide +kernel
  obtain ⟨result, after, ran, each, _⟩ := execute_returns crowded crowded
    (show ∀ file ∈ mixed, holdsNul ((Path.ofText ".").join file.path) = false by decide +kernel)
    (fun file member sunk => Nat.not_le_of_lt (few file member) (Disk.sunk_length sunk)) clock
  rw [ran] at told
  obtain rfl : result = _ := Except.ok.inj told
  exact ⟨after, ran, each⟩

/-- A package of two modules, one of them with a name that holds the character that ends paths. -/
def ending : Build Value := do
  let package : Value := .object (.package (← Build.newPackage "p"))
  let first : Value := .object (.module (← Build.newModule "a\x00b"))
  let second : Value := .object (.module (← Build.newModule "c"))
  let _ ← Build.attach .module package first
  Build.attach .module package second

/-- The files of that package. -/
def endingFiles : List OutputFile :=
  [⟨.ofText "p/__init__.py", ""⟩, ⟨.ofText "p/a\x00b.py", ""⟩, ⟨.ofText "p/c.py", ""⟩]

/-- Where as many directories above the path of the first action are missing as there is room for
calls, carrying out a plan ends at once and leaves the disk as it was. -/
theorem execute_sunk {plan : Plan} {action : Action} {rest : List Action}
    (first : plan.actions = action :: rest) (pending : action.status ≠ .noop)
    (plain : holdsNul action.path.parent = false)
    (sunk : disk.Sunk disk.room action.path.parent) :
    (plan.execute none).run.run disk = (.error .tooManyCalls, disk) := by
  have run := Action.perform_run none pending disk
  have wrote : (action.write none).run.run disk = (.error .tooManyCalls, disk) :=
    OnDisk.write_text_sunk plain sunk
  rw [wrote] at run
  have outcome : (⟨none, action, disk⟩ : Attempt).outcome = .error .tooManyCalls := by
    rw [Attempt.outcome, run]
  have left : (⟨none, action, disk⟩ : Attempt).left = disk := by
    rw [Attempt.left, run]
  rw [execute_run, first, attempts]
  simp only [Option.map_none, outcome, List.findSome?_cons, Attempt.fault?, leaving_cons, left]
  rfl

/-- A disk with room for three calls only. -/
def cramped : Disk := ⟨["work"], [(["work"], .directory)], 3⟩

/-- Files of which the first one is too deep for that disk. -/
def deepFiles : List OutputFile := [⟨.ofText "a/b/c/m.py", ""⟩, ⟨.ofText "n.py", ""⟩]

/-- A name that holds the character that ends paths is planned as a new file, and ends the run: the
file behind it is not attempted and not written. So does a path above which more directories are
missing than there is room for calls. -/
theorem ending_name_ends :
    ((ending.run.run Store.empty).1.bind (ending.run.run Store.empty).2.files = .ok endingFiles ∧
      (Plan.build Disk.fresh (.ofText "out") endingFiles).actions.map Action.status =
        [.create, .create, .create] ∧
      (((Plan.build Disk.fresh (.ofText "out") endingFiles).execute none).run.run Disk.fresh).1 =
        .error .nulInPath ∧
      (((Plan.build Disk.fresh (.ofText "out") endingFiles).execute none).run.run
        Disk.fresh).2.at? ["work", "out", "p", "c.py"] = none) ∧
    (Plan.build cramped (.ofText "out") deepFiles).actions.map Action.status =
        [.create, .create] ∧
      ((Plan.build cramped (.ofText "out") deepFiles).execute none).run.run cramped =
        (.error .tooManyCalls, cramped) := by
  refine ⟨⟨?_, ?_, ?_, ?_⟩, ?_, ?_⟩
  · decide +kernel
  · decide +kernel
  · decide +kernel
  · decide +kernel
  · decide +kernel
  · obtain ⟨action, rest, first, path, pending⟩ : ∃ action rest,
        (Plan.build cramped (.ofText "out") deepFiles).actions = action :: rest ∧
          action.path = (Path.ofText "out").join (.ofText "a/b/c/m.py") ∧
          action.status ≠ .noop := ⟨_, _, rfl, rfl, by decide⟩
    refine execute_sunk first pending ?_ ?_
    · rw [path]
      decide
    · rw [path]
      exact ⟨Disk.mkdir_missing_iff.mpr (by decide), Disk.mkdir_missing_iff.mpr (by decide),
        Disk.mkdir_missing_iff.mpr (by decide), trivial⟩

end Stencil.Output
