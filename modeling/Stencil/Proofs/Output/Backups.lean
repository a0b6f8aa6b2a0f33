import Stencil.Proofs.Output.Accounting
import Stencil.Proofs.Code.Pathnames

/-!
# What becomes of backups

A backup stands beside its target, under the target's name with the stamp
behind it (`backup_path_beside`). Stamps have one length, so the name tells the
target and the stamp (`backup_name_injective`): whatever is written to the place
of a backup is a backup of the same target at the same stamp, or a file that is
itself named so (`write_of_backup`), which no file of a module is
(`module_file_apart`).

So what an action overwrites is in its backup at the end of all runs
(`backups_kept`), unless a later action overwrites other content at the same
target and the same stamp. The conditions are needed (`backups_lost`): a
directory at the path of the backup takes the copy in, and a file that its path
does not lead to, because directories are missing on the way, is not copied.
-/

namespace Stencil.Output

open Code Disk

/-! ## Names of backups -/

/-- A stamp as a clock writes it: the digits of the day, a hyphen, and the digits of the time. Such
stamps have one length and no hyphen but one, so the name of a backup tells which target it is
of. -/
structure ClockStamp (stamp : String) : Prop where
  length : stamp.toList.length = 15
  marks : stamp.toList.all (fun c => c.isDigit || c == '-') = true

/-- A clock shows nothing but such stamps. -/
def Clock.Regular (clock : Clock) : Prop := ∀ moment, ClockStamp (clock.shows moment)

/-- The name of the backup of a name at a stamp. -/
def backupName (name stamp : String) : String := name ++ (".bak-" ++ stamp)

/-- A stamp holds digits and hyphens only. -/
theorem stamp_mark {stamp : String} (clock : ClockStamp stamp) {c : Char}
    (member : c ∈ stamp.toList) : c.isDigit = true ∨ c = '-' := by
  have mark := List.all_eq_true.mp clock.marks c member
  rwa [Bool.or_eq_true, beq_iff_eq] at mark

/-- A stamp holds no slash. -/
theorem stamp_plain {stamp : String} (clock : ClockStamp stamp) : '/' ∉ stamp.toList :=
  fun slash => (stamp_mark clock slash).elim (by decide) (by decide)

/-- A backup's name tells what it is a backup of, and when it was made. -/
theorem backup_name_injective {name other stamp late : String} (clock : ClockStamp stamp)
    (later : ClockStamp late) (same : backupName name stamp = backupName other late) :
    name = other ∧ stamp = late := by
  have texts : name.toList ++ (".bak-" ++ stamp).toList =
      other.toList ++ (".bak-" ++ late).toList := by
    rw [← String.toList_append, ← String.toList_append]
    exact congrArg String.toList same
  have lengths : (".bak-" ++ stamp).toList.length = (".bak-" ++ late).toList.length := by
    rw [String.toList_append, String.toList_append, List.length_append, List.length_append,
      clock.length, later.length]
  obtain ⟨names, stamps⟩ := List.append_inj' texts lengths
  rw [String.toList_append, String.toList_append] at stamps
  exact ⟨String.toList_inj.mp names, String.toList_inj.mp (List.append_cancel_left stamps)⟩

/-- The backup of a normal path stands beside it. -/
theorem backup_path_beside {path : Path} {names : List String} {name stamp : String}
    (normal : path.Normal) (parts : path.parts = names ++ [name]) (clock : ClockStamp stamp) :
    backupPath path stamp = ⟨path.root, names ++ [backupName name stamp]⟩ := by
  rw [backupPath, String.append_assoc]
  refine Path.of_text_extended normal parts ?_
  rw [String.toList_append, List.mem_append, not_or]
  exact ⟨by decide, stamp_plain clock⟩

/-- The name of a backup is longer than that of its target. -/
theorem backup_name_longer (name stamp : String) : name ≠ backupName name stamp := by
  intro same
  have lengths := congrArg (List.length ∘ String.toList) same
  simp only [backupName, Function.comp_apply, String.toList_append, List.length_append] at lengths
  have marks : ".bak-".toList.length = 5 := rfl
  omega

/-- The name of a backup is longer than that of a way back. -/
theorem backup_name_down (name stamp : String) : backupName name stamp ≠ ".." := by
  intro same
  have lengths := congrArg (List.length ∘ String.toList) same
  simp only [backupName, Function.comp_apply, String.toList_append, List.length_append] at lengths
  have marks : ".bak-".toList.length = 5 := rfl
  have dots : "..".toList.length = 2 := rfl
  omega

/-- What ends in `.py` is not named as backups are. -/
theorem module_apart {stamp : String} (clock : ClockStamp stamp) (stem name : String) :
    stem ++ ".py" ≠ backupName name stamp := by
  intro same
  have lasts := congrArg (List.getLast? ∘ String.toList) same
  simp only [backupName, Function.comp_apply, String.toList_append, List.getLast?_append] at lasts
  cases last : stamp.toList.getLast? with
  | none =>
    have length := clock.length
    rw [List.getLast?_eq_none_iff.mp last] at length
    cases length
  | some c =>
    rw [last] at lasts
    obtain rfl : 'y' = c := Option.some.inj lasts
    exact (stamp_mark clock (List.mem_of_getLast? last)).elim (by decide) (by decide)

/-- The file of a module is not named as backups are, whatever its name and wherever it is put. -/
theorem module_file_apart {stamp : String} (clock : ClockStamp stamp) (directory : Path)
    (module name : String) :
    (directory.join (.ofText (module ++ ".py"))).parts.getLast? ≠
      some (backupName name stamp) := by
  have long (segment : List Char) : 1 < (segment ++ ".py".toList).length := by
    have suffix : ".py".toList.length = 3 := rfl
    rw [List.length_append]
    omega
  obtain ⟨names, stem, ends⟩ := Path.of_text_ends (show '/' ∉ ".py".toList by decide)
    (fun segment => Path.name_of_long (long segment)) module
  rw [Path.join_ends ends directory]
  exact fun same => module_apart clock stem name (Option.some.inj same)

/-! ## Writes at the places of backups -/

/-- An attempt that is made with a clock's stamp at a normal path. Nothing is asked of the order of
stamps: a clock may stand still or go back. -/
structure Attempt.Orderly (attempt : Attempt) : Prop where
  clock : ∃ stamp, attempt.backup = some stamp ∧ ClockStamp stamp
  normal : attempt.action.path.Normal

variable {attempt : Attempt} {disk : Disk}

/-- A target that is a file on a tree is named by the last name of its path. -/
theorem target_named {after : Disk} (tree : after.Tree)
    (current : after.current = attempt.met.current) {bytes : List UInt8}
    (there : after.stat attempt.action.path = .ok (.file bytes)) :
    ∃ names name, attempt.action.path.parts = names ++ [name] ∧ name ≠ ".." ∧
      attempt.target =
        names.foldl Place.beside (attempt.met.start attempt.action.path) ++ [name] := by
  obtain ⟨led, held⟩ := Disk.stat_ok_iff.mp there
  obtain ⟨names, name, parts, down, place⟩ :=
    Disk.ends_in_name tree led (by rw [held]; exact fun same => nomatch same)
  rw [Disk.goal_same current, Disk.start_same current] at place
  exact ⟨names, name, parts, down, place⟩

/-- A copy is put at the place of a backup beside the target, or into a directory that stands there,
under the name of the target. -/
theorem copy_place (orderly : attempt.Orderly) (tree : attempt.met.Tree) {copy : Write}
    (saved : attempt.saved? = some copy) :
    ∃ above name stamp, attempt.backup = some stamp ∧ ClockStamp stamp ∧
      attempt.action.path.parts.getLast? = some name ∧
      (backupPath attempt.action.path stamp).parts.getLast? = some (backupName name stamp) ∧
      attempt.target = above ++ [name] ∧
      if attempt.met.isDirectory (backupPath attempt.action.path stamp) then
        copy.place.getLast? = some name
      else copy.place = above ++ [backupName name stamp] := by
  obtain ⟨stamp, given, clock⟩ := orderly.clock
  obtain ⟨made, stamped, there, place⟩ := backup_source saved
  obtain rfl : stamp = made := Option.some.inj (given.symm.trans stamped)
  obtain ⟨names, name, parts, down, target⟩ := target_named tree rfl there
  have beside := backup_path_beside orderly.normal parts clock
  refine ⟨_, name, stamp, given, clock, by rw [parts, List.getLast?_concat],
    by rw [beside, List.getLast?_concat], target, ?_⟩
  rw [place, Disk.intake]
  split
  · rw [beside, parts, List.getLast?_concat]
    rw [Disk.goal_named rfl down, List.getLast?_concat]
  · rw [beside, Disk.goal_named rfl (backup_name_down name stamp)]
    rfl

/-- What was written at the place of a backup is the backup of that target at that stamp, unless
what was written is itself named so. -/
theorem write_of_backup (orderly : attempt.Orderly) (tree : attempt.met.Tree) {write : Write}
    (wrote : write ∈ attempt.writes) {above : Place} {name stamp : String}
    (clock : ClockStamp stamp)
    (apart : attempt.action.path.parts.getLast? ≠ some (backupName name stamp))
    (there : write.place = above ++ [backupName name stamp]) :
    attempt.saved? = some write ∧ attempt.backup = some stamp ∧
      attempt.target = above ++ [name] := by
  rcases Attempt.mem_writes.mp wrote with saved | ⟨applied, rfl⟩
  · obtain ⟨directory, other, late, given, later, last, _, target, place⟩ :=
      copy_place orderly tree saved
    split at place
    · -- a copy in a directory has the name of its target
      rw [there, List.getLast?_concat] at place
      exact absurd (last.trans place.symm) apart
    · rw [there] at place
      obtain ⟨rfl, same⟩ := List.append_singleton_inj.mp place
      obtain ⟨rfl, rfl⟩ := backup_name_injective clock later same
      exact ⟨saved, given, target⟩
  · -- the text has the name of its target, too
    have left := attempt.attempt_written
    obtain ⟨names, other, parts, _, target⟩ :=
      target_named (left.tree tree) left.current (Attempt.wrote_of_applied applied).there
    rw [target] at there
    obtain ⟨_, rfl⟩ := List.append_singleton_inj.mp there
    rw [parts, List.getLast?_concat] at apart
    exact absurd rfl apart

/-! ## Whole histories -/

/-- What an action overwrites, where its path leads to it, is in its backup after all that follows,
if no directory is at the path of the backup, no later file is named as the backup is, and no later
action saves other content of the same target at the same stamp. The stamps of the actions may be
any. -/
theorem backup_stands {earlier later : List Attempt} (tree : disk.Tree)
    (chained : Chained disk (earlier ++ attempt :: later))
    (orderly : ∀ other ∈ attempt :: later, other.Orderly) {stamp : String} {bytes : List UInt8}
    (given : attempt.backup = some stamp) (applied : attempt.applied = true)
    (there : attempt.met.stat attempt.action.path = .ok (.file bytes))
    (free : attempt.met.isDirectory (backupPath attempt.action.path stamp) = false)
    (apart : ∀ other ∈ later, other.action.path.parts.getLast? ≠
      (backupPath attempt.action.path stamp).parts.getLast?)
    (once : ∀ other ∈ later, other.backup = some stamp → other.target = attempt.target →
      ∀ copy ∈ other.saved?, copy.bytes = bytes) :
    (leaving disk (earlier ++ attempt :: later)).stat (backupPath attempt.action.path stamp) =
      .ok (.file bytes) := by
  have trees : ∀ other ∈ attempt :: later, other.met.Tree := fun other member =>
    (chained_met chained (List.mem_append_right _ member)).choose_spec.tree tree
  obtain ⟨copy, saved, rfl⟩ := Attempt.saved_of_applied applied given there
  have path : attempt.met.intake attempt.action.path (backupPath attempt.action.path stamp) =
      backupPath attempt.action.path stamp := by
    rw [Disk.intake, if_neg (by rw [free]; exact Bool.false_ne_true)]
  obtain ⟨made, stamped, _, copied⟩ := Attempt.saved_source saved
  obtain rfl : stamp = made := Option.some.inj (given.symm.trans stamped)
  obtain ⟨_, led, place, _⟩ := OnDisk.copied_source copied
  rw [path] at led place
  obtain ⟨above, name, _, stamps, clock, own, last, target, beside⟩ := copy_place
    (orderly attempt List.mem_cons_self) (trees attempt List.mem_cons_self) saved
  obtain rfl := Option.some.inj (given.symm.trans stamps)
  rw [free, if_neg Bool.false_ne_true] at beside
  rw [last] at apart
  -- the writes from the attempt on put nothing else at the place of the backup
  have among : copy ∈ (attempt :: later).flatMap Attempt.writes :=
    List.mem_flatMap.mpr ⟨attempt, List.mem_cons_self, Attempt.mem_writes.mpr (.inl saved)⟩
  have same : ∀ write ∈ (attempt :: later).flatMap Attempt.writes,
      write.place = copy.place → write.bytes = copy.bytes := by
    intro write member lies
    obtain ⟨other, tried, wrote⟩ := List.mem_flatMap.mp member
    rcases List.mem_cons.mp tried with rfl | behind
    · have itself : other.action.path.parts.getLast? ≠ some (backupName name stamp) := by
        rw [own]
        exact fun same => backup_name_longer name stamp (Option.some.inj same)
      obtain ⟨again, _⟩ := write_of_backup (orderly other tried) (trees other tried) wrote clock
        itself (lies.trans beside)
      rw [Option.some.inj (saved.symm.trans again)]
    · obtain ⟨again, sooner, there⟩ := write_of_backup (orderly other tried) (trees other tried)
        wrote clock (apart other behind) (lies.trans beside)
      exact once other behind sooner (there.trans target.symm) write again
  obtain ⟨_, _, behind⟩ := chained_append.mp chained
  have written := attempts_written (show Chained attempt.met (attempt :: later) from ⟨rfl, behind⟩)
  rw [leaving_append, leaving_cons]
  rw [leaving_cons] at written
  refine Disk.stat_ok_iff.mpr ?_
  rw [Disk.goal_same written.current, ← place]
  exact ⟨Disk.resolve_kept written.toKeeps led,
    written.files _ _ (last_of_same among same)⟩

/-- One run with backups: the clock, the root and the files. -/
structure Round where
  clock : Clock
  root : Path
  files : List OutputFile

namespace Round

/-- The attempts of a run. -/
def tries (round : Round) (disk : Disk) : List Attempt :=
  Output.tries (some round.clock) round.root round.files disk

/-- The disk that a run leaves, whether or not it returns. -/
def leaves (round : Round) (disk : Disk) : Disk :=
  ((writeInto (some round.clock) round.root round.files).run.run disk).2

/-- A run with a clock that shows stamps, of files with normal paths. -/
structure Orderly (round : Round) : Prop where
  clock : round.clock.Regular
  root : round.root.Normal
  files : ∀ file ∈ round.files, file.path.Normal

/-- A run leaves what its attempts leave. -/
theorem leaves_eq (round : Round) (disk : Disk) :
    round.leaves disk = leaving disk (round.tries disk) := by
  rw [leaves, write_into_run]
  rfl

/-- The attempts of an orderly run are orderly. -/
theorem tries_orderly {round : Round} (orderly : round.Orderly)
    (tried : attempt ∈ round.tries disk) : attempt.Orderly := by
  obtain ⟨among, moment, given⟩ := attempts_mem tried
  obtain ⟨file, member, planned⟩ := planned_source among
  obtain ⟨_, _, action⟩ := action_for_iff.mp planned
  have path : attempt.action.path = round.root.join file.path := by rw [action]
  exact {
    clock := ⟨_, given, orderly.clock moment⟩
    normal := by
      rw [path]
      exact Path.normal_join orderly.root (orderly.files file member) }

end Round

/-- The attempts of runs one after another. -/
def history : List Round → Disk → List Attempt
  | [], _ => []
  | round :: rest, disk => round.tries disk ++ history rest (round.leaves disk)

/-- The disk that runs leave one after another. -/
def session (rounds : List Round) (disk : Disk) : Disk :=
  rounds.foldl (fun disk round => round.leaves disk) disk

variable {rounds : List Round}

/-- The attempts of runs follow each other, and the runs leave what they leave. -/
theorem history_chained (rounds : List Round) (disk : Disk) :
    Chained disk (history rounds disk) ∧
      session rounds disk = leaving disk (history rounds disk) := by
  induction rounds generalizing disk with
  | nil => exact ⟨trivial, rfl⟩
  | cons round rest inductionHypothesis =>
    obtain ⟨chained, left⟩ := inductionHypothesis (round.leaves disk)
    rw [history, chained_append, leaving_append, ← Round.leaves_eq]
    exact ⟨⟨tries_chained _ _ _ disk, chained⟩, left⟩

/-- The attempts of orderly runs are orderly. -/
theorem history_orderly (orderly : ∀ round ∈ rounds, round.Orderly)
    (tried : attempt ∈ history rounds disk) : attempt.Orderly := by
  induction rounds generalizing disk with
  | nil => cases tried
  | cons round rest inductionHypothesis =>
    rw [List.forall_mem_cons] at orderly
    rcases List.mem_append.mp tried with now | later
    · exact Round.tries_orderly orderly.1 now
    · exact inductionHypothesis orderly.2 later

/-- Whenever an action of some run overwrites a file that its path leads to, the content of the file
is in the backup after all the runs, if no directory is at the path of the backup, no later file is
named as the backup is, and no later action saves other content of the same target at the same
stamp. Each action has the stamp of its own moment.

Proof: the attempts of all runs are one chain. What is written to the place of a backup is named as
that backup is, so it is a backup of the same target at the same stamp (`write_of_backup`), and such
a one holds the same content. -/
theorem backups_kept (tree : disk.Tree) (orderly : ∀ round ∈ rounds, round.Orderly)
    {earlier later : List Attempt} (whole : history rounds disk = earlier ++ attempt :: later)
    {stamp : String} {bytes : List UInt8} (given : attempt.backup = some stamp)
    (applied : attempt.applied = true)
    (there : attempt.met.stat attempt.action.path = .ok (.file bytes))
    (free : attempt.met.isDirectory (backupPath attempt.action.path stamp) = false)
    (apart : ∀ other ∈ later, other.action.path.parts.getLast? ≠
      (backupPath attempt.action.path stamp).parts.getLast?)
    (once : ∀ other ∈ later, other.backup = some stamp → other.target = attempt.target →
      ∀ copy ∈ other.saved?, copy.bytes = bytes) :
    (session rounds disk).stat (backupPath attempt.action.path stamp) = .ok (.file bytes) := by
  obtain ⟨chained, left⟩ := history_chained rounds disk
  rw [left, whole]
  rw [whole] at chained
  refine backup_stands tree chained (fun other member => ?_) given applied there free apart once
  exact history_orderly orderly (whole ▸ List.mem_append_right earlier member)

/-- The stamp of a day in January is one as a clock writes it. -/
theorem january_clock : ClockStamp "20240102-030405" := ⟨rfl, rfl⟩

/-- A disk with one old file. -/
def aged : Disk :=
  ⟨["work"], [(["work"], .directory), (["work", "m.py"], .file [111])], usualRoom⟩

/-- A clock that goes on by a second after the first moment. -/
def turning : Clock :=
  ⟨fun moment => if moment = 0 then "20240102-030406" else "20240102-030407"⟩

/-- Three runs that write one file with different texts, two of them at one time. In the last one
the clock goes on. -/
def hurried : List Round :=
  [⟨"20240102-030405", .ofText ".", [⟨.ofText "m.py", "a"⟩]⟩,
    ⟨"20240102-030406", .ofText ".", [⟨.ofText "m.py", "b"⟩]⟩,
    ⟨turning, .ofText ".", [⟨.ofText "n.py", "c"⟩, ⟨.ofText "m.py", "d"⟩]⟩]

/-- After runs at different times the old content of a file is in its first backup. -/
theorem hurried_kept :
    (session hurried aged).stat (.ofText "m.py.bak-20240102-030405") = .ok (.file [111]) := by
  obtain ⟨any, given, applied, there, free, path, modules, once⟩ :
      ∃ any : history hurried aged ≠ [],
        ((history hurried aged).head any).backup = some "20240102-030405" ∧
        ((history hurried aged).head any).applied = true ∧
        ((history hurried aged).head any).met.stat ((history hurried aged).head any).action.path =
          .ok (.file [111]) ∧
        ((history hurried aged).head any).met.isDirectory
          (backupPath ((history hurried aged).head any).action.path "20240102-030405") = false ∧
        backupPath ((history hurried aged).head any).action.path "20240102-030405" =
          .ofText "m.py.bak-20240102-030405" ∧
        (∀ other ∈ (history hurried aged).tail, ∃ name ∈ ["m", "n"],
          other.action.path = (Path.ofText ".").join (.ofText (name ++ ".py"))) ∧
        ∀ other ∈ (history hurried aged).tail, other.backup = some "20240102-030405" →
          other.target = ((history hurried aged).head any).target →
            ∀ copy ∈ other.saved?, copy.bytes = [111] := by decide +kernel
  have tree : aged.Tree := Disk.tree_of_entries (by decide) (by decide)
  have clocks : ∀ round ∈ hurried, round.clock.Regular := by
    have sooner : ClockStamp "20240102-030406" := ⟨rfl, rfl⟩
    have later : ClockStamp "20240102-030407" := ⟨rfl, rfl⟩
    intro round member
    simp only [hurried, List.mem_cons, List.not_mem_nil, or_false] at member
    rcases member with rfl | rfl | rfl
    · exact fun _ => january_clock
    · exact fun _ => sooner
    · intro moment
      simp only [turning]
      split
      · exact sooner
      · exact later
  have roots : ∀ round ∈ hurried, round.root.Normal := by decide
  have files : ∀ round ∈ hurried, ∀ file ∈ round.files, file.path.Normal := by decide
  have orderly : ∀ round ∈ hurried, round.Orderly := fun round member =>
    ⟨clocks round member, roots round member, files round member⟩
  have whole : history hurried aged =
      [] ++ (history hurried aged).head any :: (history hurried aged).tail :=
    (List.cons_head_tail any).symm
  rw [← path]
  refine backups_kept tree orderly whole given applied there free (fun other member => ?_) once
  obtain ⟨name, _, is⟩ := modules other member
  have last : (Path.ofText "m.py.bak-20240102-030405").parts.getLast? =
      some (backupName "m.py" "20240102-030405") := by decide
  rw [is, path, last]
  exact module_file_apart january_clock _ name "m.py"

/-- Some run has overwritten a file whose content is in no backup of its target after all runs. -/
def Lost (disk : Disk) (rounds : List Round) : Prop :=
  ∃ attempt ∈ history rounds disk, ∃ bytes, attempt.applied = true ∧
    attempt.met.at? attempt.target = some (.file bytes) ∧
    ∀ stamp, ClockStamp stamp →
      (session rounds disk).stat (backupPath attempt.action.path stamp) ≠ .ok (.file bytes)

/-- Content that was overwritten is lost if no file that holds it is named as the target's backups
are. -/
theorem lost_of_entries {bytes : List UInt8} {names : List String} {name : String}
    (overwritten : ∃ attempt ∈ history rounds disk, attempt.applied = true ∧
      attempt.met.at? attempt.target = some (.file bytes) ∧
      attempt.action.path.Normal ∧ attempt.action.path.parts = names ++ [name])
    (gone : ∀ entry ∈ (session rounds disk).entries, entry.2 = .file bytes →
      ∀ stamp, ClockStamp stamp → entry.1.getLast? ≠ some (backupName name stamp)) :
    Lost disk rounds := by
  obtain ⟨attempt, tried, applied, held, normal, parts⟩ := overwritten
  refine ⟨attempt, tried, bytes, applied, held, fun stamp clock there => ?_⟩
  obtain ⟨_, found⟩ := Disk.stat_ok_iff.mp there
  rw [backup_path_beside normal parts clock,
    Disk.goal_named rfl (backup_name_down name stamp)] at found
  exact gone _ (Disk.at_entry (by simp) found) rfl stamp clock (List.getLast?_concat ..)

/-- Two runs at one time. -/
def twice : List Round :=
  [⟨"20240102-030405", .ofText ".", [⟨.ofText "m.py", "a"⟩]⟩,
    ⟨"20240102-030405", .ofText ".", [⟨.ofText "m.py", "b"⟩]⟩]

/-- A run that writes one file, by a given path. -/
def single (path : String) : List Round :=
  [⟨"20240102-030405", .ofText ".", [⟨.ofText path, "a"⟩]⟩]

/-- A run that writes a file that is named as a backup. -/
def named : List Round :=
  [⟨"20240102-030405", .ofText ".",
    [⟨.ofText "m.py", "a"⟩, ⟨.ofText "m.py.bak-20240102-030405", "b"⟩]⟩]

/-- A disk with an old file, and a directory at the path of its backup. -/
def barred : Disk :=
  ⟨["work"], [(["work"], .directory), (["work", "m.py"], .file [111]),
    (["work", "m.py.bak-20240102-030405"], .directory)], usualRoom⟩

/-- Old content is lost where a file is overwritten twice at one time, where a directory is at the
path of the backup, where the path of the file leads through a directory that is not there yet, and
where another file is written over the backup. -/
theorem backups_lost :
    Lost aged twice ∧ Lost barred (single "m.py") ∧ Lost aged (single "a/../m.py") ∧
      Lost aged named := by
  refine ⟨?_, ?_, ?_, ?_⟩
  · refine @lost_of_entries aged twice [111] [] "m.py" (by decide +kernel) ?_
    have none : ∀ entry ∈ (session twice aged).entries, entry.2 ≠ .file [111] := by
      decide +kernel
    exact fun entry member held => absurd held (none entry member)
  · refine @lost_of_entries barred (single "m.py") [111] [] "m.py" (by decide +kernel) ?_
    have inside : ∀ entry ∈ (session (single "m.py") barred).entries,
        entry.2 = .file [111] → entry.1.getLast? = some ("m" ++ ".py") := by decide +kernel
    intro entry member held stamp clock beside
    rw [inside entry member held] at beside
    exact module_apart clock "m" "m.py" (Option.some.inj beside)
  · refine @lost_of_entries aged (single "a/../m.py") [111] ["a", ".."] "m.py"
      (by decide +kernel) ?_
    have none : ∀ entry ∈ (session (single "a/../m.py") aged).entries,
        entry.2 ≠ .file [111] := by decide +kernel
    exact fun entry member held => absurd held (none entry member)
  · refine @lost_of_entries aged named [111] [] "m.py" (by decide +kernel) ?_
    have behind : ∀ entry ∈ (session named aged).entries, entry.2 = .file [111] →
        entry.1.getLast? =
          some (backupName "m.py.bak-20240102-030405" "20240102-030405") := by decide +kernel
    intro entry member held stamp clock beside
    rw [behind entry member held] at beside
    have names := (backup_name_injective january_clock clock (Option.some.inj beside)).1
    exact absurd names (by decide)

end Stencil.Output
