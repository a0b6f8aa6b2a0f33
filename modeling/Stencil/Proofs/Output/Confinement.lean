import Stencil.Proofs.Code.Filing
import Stencil.Proofs.CommandLine.Making
import Stencil.Proofs.Disk.Inward
import Stencil.Proofs.Output.Backups

/-!
# Files that stay below the output directory

Whether files stay below the output directory is decided by their paths alone:
for every output directory, every disk and every clock of backups they do so
exactly if the paths are inward (`confined_iff`). Then every planned target,
every backup and every text lies there, and outside of the directory nothing
changes, except that directories may be made on the way to it.

The paths of modules and packages are read from names and joined. So names that
are inward keep all files below the output directory, however modules and
packages are nested, and so do the two names that the command line takes
(`output_confined`). Nothing keeps other names from being used
(`climbing_name_escapes`).
-/

namespace Stencil.Output

open Code Disk CommandLine

/-- What writing files under an output directory plans, writes and leaves lies below it. -/
structure Within (backup : Option Clock) (root : Path) (files : List OutputFile) (disk : Disk) :
    Prop where
  targets : ∀ file ∈ files, disk.goal root <+: disk.goal (root.join file.path)
  planned : ∀ action ∈ (Plan.build disk root files).actions,
    disk.goal root <+: disk.goal action.path
  written : ∀ attempt ∈ tries backup root files disk, ∀ write ∈ attempt.writes,
    disk.goal root <+: write.place
  outside : ∀ place, ¬disk.goal root <+: place →
    ((writeInto backup root files).run.run disk).2.at? place = disk.at? place ∨
      disk.at? place = none ∧
        ((writeInto backup root files).run.run disk).2.at? place = some .directory

/-- Files stay below every output directory, whatever is on the disk, also with backups. Every root,
every disk and every regular clock is meant, so it is a property of the files' paths. -/
def Confined (files : List OutputFile) : Prop :=
  ∀ (disk : Disk) (root : String) (backup : Option Clock),
    (∀ clock, backup = some clock → clock.Regular) → Within backup (.ofText root) files disk

/-- A path that ends in the name of a module's file. -/
structure Titled (path : Path) : Prop where
  normal : path.Normal
  ends : ∃ names stem, path.parts = names ++ [stem ++ ".py"]

/-! ## Paths of modules -/

/-- The name of a module's file leads down. -/
theorem title_down (stem : String) : stem ++ ".py" ≠ ".." := by
  intro same
  have lengths := congrArg (List.length ∘ String.toList) same
  simp only [Function.comp_apply, String.toList_append, List.length_append] at lengths
  have suffix : ".py".toList.length = 3 := rfl
  have dots : "..".toList.length = 2 := rfl
  omega

/-- The path of a module is titled, whatever its name. -/
theorem titled_of_name (name : String) : Titled (.ofText (name ++ ".py")) := by
  refine ⟨Path.normal_of_text _, ?_⟩
  have long (segment : List Char) : 1 < (segment ++ ".py".toList).length := by
    have suffix : ".py".toList.length = 3 := rfl
    rw [List.length_append]
    omega
  exact Path.of_text_ends (show '/' ∉ ".py".toList by decide)
    (fun segment => Path.name_of_long (long segment)) name

/-- A titled path is titled below a directory. -/
theorem titled_join {outer inner : Path} (normal : outer.Normal) (titled : Titled inner) :
    Titled (outer.join inner) := by
  refine ⟨Path.normal_join normal titled.normal, ?_⟩
  obtain ⟨names, stem, ends⟩ := titled.ends
  unfold Path.join
  split
  · exact ⟨outer.parts ++ names, stem, by rw [ends, List.append_assoc]⟩
  · exact ⟨names, stem, ends⟩

/-- Normal directories keep titled files. -/
theorem filing_titled : Filing Path.Normal Titled where
  root := titled_of_name "__init__"
  deeper := Path.normal_join
  below := titled_join

/-- Inward directories keep inward files. -/
theorem filing_inward : Filing Path.Inward Path.Inward where
  root := by decide
  deeper := Path.inward_join
  below := Path.inward_join

/-- The files of a construction are titled. -/
theorem construct_titled {Label : Type} [DecidableEq Label] {steps : List (Step Label)}
    {label : Label} {files : List OutputFile}
    (found : (construct Store.empty steps).files label = .ok files) :
    ∀ file ∈ files, Titled file.path := by
  refine construct_files filing_titled (fun step _ => ?_) found
  cases step with
  | module label name => exact titled_of_name name
  | package label name => exact Path.normal_of_text name
  | _ => trivial

/-- The paths of settings are titled. -/
theorem settings_titled (settings : Settings) : ∀ path ∈ settings.paths, Titled path := by
  have package := Path.normal_of_text settings.packageName
  have module := titled_of_name settings.moduleName
  unfold Settings.paths
  split
  · exact fun path member => List.mem_singleton.mp member ▸ module
  · intro path member
    rcases List.mem_cons.mp member with rfl | member
    · exact titled_join package (titled_of_name "__init__")
    · rcases List.mem_singleton.mp member with rfl
      exact titled_join package module

/-- The paths of settings are inward if their two names are. -/
theorem settings_inward {settings : Settings}
    (module : (Path.ofText (settings.moduleName ++ ".py")).Inward)
    (package : (Path.ofText settings.packageName).Inward) : ∀ path ∈ settings.paths, path.Inward := by
  unfold Settings.paths
  split
  · exact fun path member => List.mem_singleton.mp member ▸ module
  · intro path member
    rcases List.mem_cons.mp member with rfl | member
    · exact Path.inward_join package (by decide)
    · rcases List.mem_singleton.mp member with rfl
      exact Path.inward_join package module

/-! ## Where files are written -/

section Writing

variable {disk : Disk} {root : Path} {files : List OutputFile} {backup : Option Clock}

/-- An inward titled path seen from a directory leads to a name in a place below the directory. -/
theorem title_below {path : Path} (inward : path.Inward) (titled : Titled path) :
    ∃ names stem, (root.join path).parts = names ++ [stem ++ ".py"] ∧
      disk.goal root <+: names.foldl Place.beside (disk.start (root.join path)) := by
  obtain ⟨names, stem, ends⟩ := titled.ends
  obtain ⟨unrooted, level, found⟩ := inward
  rw [ends] at found
  have joined : root.join path = ⟨root.root, root.parts ++ path.parts⟩ := by
    rw [Path.join, unrooted]
  rw [joined]
  refine ⟨root.parts ++ names, stem, by rw [ends, List.append_assoc], ?_⟩
  rw [List.foldl_append]
  exact Disk.goal_below disk root (Path.level_before found)

/-- What an attempt at an inward titled path writes lies below the directory: the text, the backup
beside it, and a backup that a directory took in. The stem of a titled path is no climb, so the
backup stands beside the text; and a directory of the backup's name is itself beside it. -/
theorem write_below {attempt : Attempt} {path : Path} (inward : path.Inward) (titled : Titled path)
    (normal : root.Normal) (target : attempt.action.path = root.join path)
    (clock : ∀ stamp, attempt.backup = some stamp → ClockStamp stamp) :
    ∀ write ∈ attempt.writes, attempt.met.goal root <+: write.place := by
  obtain ⟨names, stem, parts, below⟩ := @title_below attempt.met root path inward titled
  rw [← target] at parts below
  intro write member
  rcases Attempt.mem_writes.mp member with saved | ⟨_, rfl⟩
  · obtain ⟨stamp, given, _, place⟩ := backup_source saved
    have beside := backup_path_beside
      (show attempt.action.path.Normal from target ▸ Path.normal_join normal titled.normal) parts
      (clock stamp given)
    have copy : attempt.met.goal
        ⟨attempt.action.path.root, names ++ [backupName (stem ++ ".py") stamp]⟩ =
          names.foldl Place.beside (attempt.met.start attempt.action.path) ++
            [backupName (stem ++ ".py") stamp] :=
      Disk.goal_named rfl (backup_name_down (stem ++ ".py") stamp)
    rw [place, Disk.intake, beside]
    split
    · -- a directory at the path of the backup takes the copy in
      have inner : attempt.met.goal ⟨attempt.action.path.root,
          names ++ [backupName (stem ++ ".py") stamp] ++
            attempt.action.path.parts.getLast?.toList⟩ =
          attempt.met.goal
            ⟨attempt.action.path.root, names ++ [backupName (stem ++ ".py") stamp]⟩ ++
              [stem ++ ".py"] := by
        rw [parts, List.getLast?_concat]
        exact Disk.goal_named rfl (title_down stem)
      rw [inner, copy, List.append_assoc]
      exact below.trans (List.prefix_append _ _)
    · rw [copy]
      exact below.trans (List.prefix_append _ _)
  · have text : attempt.target = _ := Disk.goal_named parts (title_down stem)
    rw [text]
    exact below.trans (List.prefix_append _ _)

/-- Files at inward titled paths stay below the output directory. The attempts are those of the
files' paths, and each of them is met on a disk with the same directories above the root. -/
theorem within_of_inward (normal : root.Normal)
    (titled : ∀ file ∈ files, file.path.Inward ∧ Titled file.path)
    (regular : ∀ clock, backup = some clock → clock.Regular) (disk : Disk) :
    Within backup root files disk := by
  have target {action : Action} (planned : action ∈ (Plan.build disk root files).actions) :
      ∃ file ∈ files, action.path = root.join file.path := by
    obtain ⟨file, member, made⟩ := planned_source planned
    obtain ⟨existing, _, is⟩ := action_for_iff.mp made
    exact ⟨file, member, by rw [is]⟩
  have inside {file : OutputFile} (member : file ∈ files) :
      disk.goal root <+: disk.goal (root.join file.path) := by
    have inward := (titled file member).1
    rw [Disk.goal_join disk root inward.unrooted]
    exact Disk.goal_below disk root inward.inside
  have written : ∀ attempt ∈ tries backup root files disk, ∀ write ∈ attempt.writes,
      disk.goal root <+: write.place := by
    intro attempt tried write wrote
    obtain ⟨file, member, path⟩ := target (attempts_mem tried).1
    obtain ⟨_, before⟩ := chained_met (tries_chained backup root files disk) tried
    have clock (stamp : String) (given : attempt.backup = some stamp) : ClockStamp stamp := by
      obtain ⟨clock, there, moment, rfl⟩ := attempts_stamp tried given
      exact regular clock there moment
    have below := write_below (titled file member).1 (titled file member).2 normal path clock write
      wrote
    rwa [Disk.goal_same before.current] at below
  refine ⟨fun file member => inside member, ?_, written, ?_⟩
  · intro action planned
    obtain ⟨file, member, path⟩ := target planned
    rw [path]
    exact inside member
  · intro place outside
    have left := attempts_written (tries_chained backup root files disk)
    have ran : ((writeInto backup root files).run.run disk).2 =
        leaving disk (tries backup root files disk) := by rw [write_into_run]
    rw [ran]
    refine left.others place (last_none fun write member same => outside ?_)
    obtain ⟨attempt, tried, wrote⟩ := List.mem_flatMap.mp member
    rw [← same]
    exact written attempt tried write wrote

/-- Files of modules stay below the output directory, whichever it is and whatever is on the disk,
exactly if their paths are inward. -/
theorem confined_iff (titled : ∀ file ∈ files, Titled file.path) :
    Confined files ↔ ∀ file ∈ files, file.path.Inward := by
  constructor
  · intro confined file member
    refine Disk.inward_iff.mpr fun disk root => ?_
    exact (confined disk root none fun _ none => nomatch none).targets file member
  · intro inward disk root backup regular
    exact within_of_inward (Path.normal_of_text root)
      (fun file member => ⟨inward file member, titled file member⟩) regular disk

end Writing

/-! ## Names -/

/-- The files of a construction stay below the output directory exactly if their paths are inward,
and they are if what is read from every name is. The files of a command line do so exactly if the
paths that its two names give are inward, and they are if what is read from the two names is.

Proof: a path leads out of some root on some disk exactly if it climbs above its own start
(`confined_iff`). Inward paths stay so when they are joined and when a name is put behind them; so
if the names are inward, this is an invariant of the construction, and holds of all its files
(`construct_files`). -/
theorem output_confined {Label : Type} [DecidableEq Label] :
    (∀ (steps : List (Step Label)) (label : Label) (files : List OutputFile),
      (construct Store.empty steps).files label = .ok files →
        (Confined files ↔ ∀ file ∈ files, file.path.Inward) ∧
          ((∀ step ∈ steps, step.Filed Path.Inward Path.Inward) → Confined files)) ∧
      ∀ (settings : Settings) (disk : Disk) (files : List OutputFile),
        settings.files disk = .ok files →
          (Confined files ↔ ∀ path ∈ settings.paths, path.Inward) ∧
            ((Path.ofText (settings.moduleName ++ ".py")).Inward →
              (Path.ofText settings.packageName).Inward → Confined files) := by
  constructor
  · intro steps label files found
    have decided := confined_iff (construct_titled found)
    exact ⟨decided, fun named => decided.mpr (construct_files filing_inward named found)⟩
  · intro settings disk files made
    have paths : files.map OutputFile.path = settings.paths := by
      cases loaded : StatusTable.load disk settings.input with
      | error fault =>
        rw [(files_made settings disk).1 fault loaded] at made
        cases made
      | ok table => exact ((files_made settings disk).2 table loaded).2 files made
    have listed {file : OutputFile} (member : file ∈ files) : file.path ∈ settings.paths :=
      paths ▸ List.mem_map_of_mem member
    have decided : Confined files ↔ ∀ path ∈ settings.paths, path.Inward := by
      rw [confined_iff fun file member => settings_titled settings file.path (listed member),
        ← paths, List.forall_mem_map]
    exact ⟨decided, fun module package => decided.mpr (settings_inward module package)⟩

/-- A disk with a table of one entry. -/
def tabled : Disk :=
  ⟨["work"], [(["work"], .directory),
    (["work", "codes.yaml"], .file (Text.encode "codes: [[7, seven]]".toList))], usualRoom⟩

/-- Settings for the table of that disk. -/
def tabledSettings (module package : String) : Settings :=
  ⟨.ofText "codes.yaml", .ofText "out", module, package, .upperSnake, "None", true, false⟩

/-- A module that climbs out of its own name only as far as into the package around it stays below
the output directory, and so do a module and a package that are named by paths. -/
theorem nested_names_confined :
    (∃ files, (construct Store.empty
        [.package 0 "p/q", .module 1 "../m", .attach .module 0 1]).files 0 = .ok files ∧
      files.map (Path.text ∘ OutputFile.path) = ["p/q/__init__.py", "p/q/../m.py"] ∧
      Confined files) ∧
    ∃ files, (tabledSettings "a/./m" "p/..").files tabled = .ok files ∧
      files.map (Path.text ∘ OutputFile.path) = ["p/../__init__.py", "p/../a/m.py"] ∧
      Confined files := by
  constructor
  · let files : List OutputFile := [⟨.ofText "p/q/__init__.py", ""⟩, ⟨.ofText "p/q/../m.py", ""⟩]
    have built : (construct Store.empty
        [.package 0 "p/q", .module 1 "../m", .attach .module 0 1]).files 0 = .ok files := by
      decide +kernel
    exact ⟨files, built, by decide, ((output_confined.1 _ _ files) built).1.mpr (by decide)⟩
  · have texts : ((tabledSettings "a/./m" "p/..").files tabled).toOption.map
        (List.map (Path.text ∘ OutputFile.path)) = some ["p/../__init__.py", "p/../a/m.py"] := by
      decide +kernel
    cases made : (tabledSettings "a/./m" "p/..").files tabled with
    | error fault =>
      rw [made] at texts
      cases texts
    | ok files =>
      rw [made] at texts
      exact ⟨files, rfl, Option.some.inj texts,
        ((@output_confined Nat _).2 _ tabled files made).2 (by decide) (by decide)⟩

/-- A module that climbs out of the output directory is written outside of it, and one that is named
by a rooted path is planned outside of it, also from the command line. -/
theorem climbing_name_escapes :
    (¬∀ (steps : List (Step Nat)) (label : Nat) (files : List OutputFile),
      (construct Store.empty steps).files label = .ok files → Confined files) ∧
    ¬∀ (settings : Settings) (disk : Disk) (files : List OutputFile),
      settings.files disk = .ok files → Confined files := by
  constructor
  · intro all
    have built : (construct Store.empty [.module 0 "../m"]).files 0 =
        .ok [⟨.ofText "../m.py", ""⟩] := by decide +kernel
    have within := all _ 0 _ built Disk.fresh "out" none fun _ none => nomatch none
    exact absurd (within.outside ["work", "m.py"] (by decide)) (by decide +kernel)
  · intro all
    have module : ((tabledSettings "/m" "").files tabled).toOption.map
        (List.map OutputFile.path) = some [.ofText "/m.py"] := by decide +kernel
    cases made : (tabledSettings "/m" "").files tabled with
    | error fault =>
      rw [made] at module
      cases module
    | ok files =>
      rw [made] at module
      have paths : files.map OutputFile.path = [.ofText "/m.py"] := Option.some.inj module
      obtain ⟨file, rfl, path⟩ := List.map_eq_singleton_iff.mp paths
      have within := all _ tabled _ made tabled "out" none fun _ none => nomatch none
      have inside := within.targets file List.mem_cons_self
      rw [path] at inside
      exact absurd inside (by decide)

end Stencil.Output
