import Stencil.Proofs.Disk.Following

/-!
# What changes a disk

All that steps do to a disk is told by the files that they write, one after
another. `Disk.Written` says what such writes leave: at each place that was
written the last bytes, everywhere else what was there before or, where nothing
was, perhaps a directory that was made on the way. Directories stay, and a tree
stays a tree. Writes that follow each other are put behind each other
(`written_trans`), so each step needs one lemma.

Making directories writes nothing (`Furnishes`), copying writes one file or
fails without a change (`copy_cases`), and writing a text may fail after it has
made directories (`write_text_cases`). What a step at a path fails by is a fault
of the file system, unless the path holds the character that ends paths
(`Fault.OfPath`). Only making directories has one more cause: as many of them
are missing as there is room for calls (`Disk.Sunk`). Files that are written do
not lead to it (`sunk_before`), and a path has a name for each that is missing
(`sunk_length`).
-/

namespace Stencil

open Code

/-- A fault of the file system. -/
def Fault.OfFiles (fault : Fault) : Prop := ∃ cause shown, fault = .file cause shown

/-- A fault that a path meets: one of the file system, or that the path leads nowhere. -/
def Fault.OfPath (fault : Fault) (path : Path) : Prop :=
  fault.OfFiles ∨ fault = .nulInPath ∧ Disk.holdsNul path = true

namespace Disk

/-- Bytes written at a place. -/
structure Write where
  place : Place
  bytes : List UInt8
deriving DecidableEq, Repr

/-- What the last of some writes to a place has left there. -/
def lastAt? : List Write → Place → Option (List UInt8)
  | [], _ => none
  | write :: rest, place =>
    (lastAt? rest place).or (if write.place = place then some write.bytes else none)

/-- The last write to a place is the one of the later writes, if any of them is there. -/
theorem last_append (first second : List Write) (place : Place) :
    lastAt? (first ++ second) place = (lastAt? second place).or (lastAt? first place) := by
  induction first with
  | nil => simp [lastAt?]
  | cons write rest inductionHypothesis =>
    rw [List.cons_append, lastAt?, lastAt?, inductionHypothesis, Option.or_assoc]

/-- The last write to a place is among the writes. -/
theorem last_mem {writes : List Write} {place : Place} {bytes : List UInt8}
    (last : lastAt? writes place = some bytes) : ⟨place, bytes⟩ ∈ writes := by
  induction writes with
  | nil => cases last
  | cons write rest inductionHypothesis =>
    rw [lastAt?, Option.or_eq_some_iff] at last
    rcases last with behind | ⟨_, here⟩
    · exact List.mem_cons_of_mem _ (inductionHypothesis behind)
    · split at here
      · rename_i is
        cases here
        rw [← is]
        exact List.mem_cons_self
      · cases here

/-- A place that was written to has a last write. -/
theorem last_some {writes : List Write} {write : Write} (member : write ∈ writes) :
    ∃ bytes, lastAt? writes write.place = some bytes := by
  induction writes with
  | nil => cases member
  | cons first rest inductionHypothesis =>
    rw [lastAt?]
    rcases List.mem_cons.mp member with rfl | behind
    · rw [if_pos rfl]
      cases lastAt? rest write.place with
      | none => exact ⟨_, rfl⟩
      | some bytes => exact ⟨bytes, rfl⟩
    · obtain ⟨bytes, last⟩ := inductionHypothesis behind
      exact ⟨bytes, by rw [last, Option.some_or]⟩

/-- Where nothing was written there is no last write. -/
theorem last_none {writes : List Write} {place : Place}
    (apart : ∀ write ∈ writes, write.place ≠ place) : lastAt? writes place = none := by
  cases last : lastAt? writes place with
  | none => rfl
  | some bytes => exact absurd rfl (apart _ (last_mem last))

/-- Where all that was written to a place is one content, the last write there is that. -/
theorem last_of_same {writes : List Write} {place : Place} {bytes : List UInt8}
    (among : ⟨place, bytes⟩ ∈ writes)
    (same : ∀ write ∈ writes, write.place = place → write.bytes = bytes) :
    lastAt? writes place = some bytes := by
  obtain ⟨last, is⟩ : ∃ last, lastAt? writes place = some last := last_some among
  have found : last = bytes := same _ (last_mem is) rfl
  rw [is, found]

namespace Disk

/-- A disk is what another one is after files were written one after another, and directories made
for them. -/
structure Written (before : Disk) (writes : List Write) (after : Disk) : Prop
    extends Keeps before after where
  files : ∀ place bytes, lastAt? writes place = some bytes → after.at? place = some (.file bytes)
  others : ∀ place, lastAt? writes place = none →
    after.at? place = before.at? place ∨
      before.at? place = none ∧ after.at? place = some .directory
  tree : before.Tree → after.Tree

variable {disk before middle after : Disk} {first second : List Write}

/-- Where nothing was done a disk is as it was. -/
theorem written_refl (disk : Disk) : Written disk [] disk where
  current := rfl
  room := rfl
  directories _ held := held
  files _ _ none := nomatch none
  others _ _ := .inl rfl
  tree whole := whole

/-- Writes that follow each other are put behind each other. The last bytes written to a place are
those of the second run where it writes there, and those of the first elsewhere. -/
theorem written_trans (one : Written before first middle) (two : Written middle second after) :
    Written before (first ++ second) after where
  current := two.current.trans one.current
  room := two.room.trans one.room
  directories place held := two.directories place (one.directories place held)
  files place bytes last := by
    rw [last_append, Option.or_eq_some_iff] at last
    rcases last with later | ⟨none, earlier⟩
    · exact two.files place bytes later
    · have held := one.files place bytes earlier
      rcases two.others place none with same | ⟨empty, _⟩
      · exact same.trans held
      · rw [held] at empty
        cases empty
  others place none := by
    rw [last_append, Option.or_eq_none_iff] at none
    rcases two.others place none.1 with same | ⟨empty, made⟩
    · rw [same]
      exact one.others place none.2
    · rcases one.others place none.2 with as | ⟨_, there⟩
      · exact .inr ⟨as ▸ empty, made⟩
      · rw [there] at empty
        cases empty
  tree whole := two.tree (one.tree whole)

/-- A place that was not written to holds a file if and only if it held it before. -/
theorem written_apart {writes : List Write} (written : Written before writes after) {place : Place}
    (apart : ∀ write ∈ writes, write.place ≠ place) (bytes : List UInt8) :
    after.at? place = some (.file bytes) ↔ before.at? place = some (.file bytes) := by
  rcases written.others place (last_none apart) with same | ⟨empty, made⟩
  · rw [same]
  · rw [empty, made]
    simp

/-- A path that led to a file still does so, if the file was not written to. -/
theorem written_stat {writes : List Write} (written : Written before writes after) {path : Path}
    (apart : ∀ write ∈ writes, write.place ≠ before.goal path) {bytes : List UInt8}
    (there : before.stat path = .ok (.file bytes)) : after.stat path = .ok (.file bytes) := by
  obtain ⟨led, held⟩ := stat_ok_iff.mp there
  rw [stat_ok_iff, goal_same written.current]
  exact ⟨resolve_kept written.toKeeps led, (written_apart written apart bytes).mpr held⟩

/-- What is put where a path leads, and no directory is, leaves a tree. -/
theorem put_tree {path : Path} {place : Place} (led : disk.resolve path = .ok place)
    (free : disk.at? place ≠ some .directory) (entry : Entry) (whole : disk.Tree) :
    (disk.put place entry).Tree := by
  have inside : place ≠ [] := fun root => free (root ▸ at_root disk)
  have stays (other : Place) (held : disk.at? other = some .directory) :
      (disk.put place entry).at? other = some .directory := by
    rw [at_put disk inside, if_neg (fun same => free (by rwa [← same]))]
    exact held
  refine ⟨stays _ whole.current, fun other kept found => ?_⟩
  rw [at_put disk inside] at found
  split at found
  · rename_i same
    rw [same]
    exact stays _ (resolve_above whole led)
  · exact stays _ (whole.above other kept found)

/-- Making a directory writes no file. A directory is put where nothing was, so no place of a file
changes. -/
theorem mkdir_written {path : Path} (made : disk.mkdir path = .ok after) :
    Written disk [] after := by
  obtain ⟨place, led, put⟩ := bind_ok made
  split at put
  · cases put
  · rename_i free
    cases put
    have inside : place ≠ [] := by
      rintro rfl
      rw [at_root] at free
      cases free
    have other (held : disk.at? place = some .directory) : False := by
      rw [free] at held
      cases held
    exact {
      current := rfl
      room := rfl
      directories := fun each held => by
        rw [at_put disk inside, if_neg (fun same => other (by rwa [← same]))]
        exact held
      files := fun _ _ none => nomatch none
      others := fun each _ => by
        rw [at_put disk inside]
        split
        · rename_i same
          exact .inr ⟨same ▸ free, rfl⟩
        · exact .inl rfl
      tree := put_tree led other .directory }

/-- Writing a file writes its bytes where the path leads, and no directory was there. -/
theorem write_written {path : Path} {bytes : List UInt8}
    (done : disk.write path bytes = .ok after) :
    disk.resolve path = .ok (disk.goal path) ∧ disk.at? (disk.goal path) ≠ some .directory ∧
      Written disk [⟨disk.goal path, bytes⟩] after := by
  obtain ⟨place, led, put⟩ := bind_ok done
  have is := resolve_goal led
  subst is
  have free : disk.at? (disk.goal path) ≠ some .directory := by
    intro held
    rw [held] at put
    cases put
  have filled : after = disk.put (disk.goal path) (.file bytes) := by
    split at put
    · exact absurd ‹_› free
    · cases put
      rfl
  have inside : disk.goal path ≠ [] := fun root => free (root ▸ at_root disk)
  subst filled
  refine ⟨led, free, ⟨rfl, rfl, fun each held => ?_⟩, fun place kept last => ?_, fun place none => ?_,
    put_tree led free _⟩
  · rw [at_put disk inside, if_neg (fun same => free (by rwa [← same]))]
    exact held
  · rcases List.mem_singleton.mp (last_mem last) with ⟨rfl, rfl⟩
    rw [at_put disk inside, if_pos rfl]
  · rw [at_put disk inside, if_neg]
    · exact .inl rfl
    · rintro rfl
      simp [lastAt?] at none

/-- The path that a copy goes to: a directory takes it in under the file's name. -/
def intake (disk : Disk) (source target : Path) : Path :=
  if disk.isDirectory target then
    { target with parts := target.parts ++ source.parts.getLast?.toList }
  else target

/-- What copying a file writes, if it succeeds. -/
def copied? (disk : Disk) (source target : Path) : Option Write :=
  match (OnDisk.copy source target).run.run disk, disk.read source with
  | (.ok _, _), .ok bytes => some ⟨disk.goal (disk.intake source target), bytes⟩
  | _, _ => none

/-- A file is read from where its path leads. A name with the character that ends paths is refused
before the path is followed. -/
theorem read_ok_iff {path : Path} {bytes : List UInt8} :
    disk.read path = .ok bytes ↔ holdsNul path = false ∧ disk.stat path = .ok (.file bytes) := by
  unfold read checkNul
  cases nul : holdsNul path with
  | true =>
    constructor
    · intro found
      cases found
    · rintro ⟨none, _⟩
      cases none
  | false =>
    cases found : disk.stat path with
    | error cause =>
      constructor
      · intro got
        cases got
      · rintro ⟨_, got⟩
        cases got
    | ok entry =>
      cases entry with
      | file held =>
        constructor
        · intro got
          cases got
          exact ⟨rfl, rfl⟩
        · rintro ⟨_, got⟩
          cases got
          rfl
      | directory =>
        constructor
        · intro got
          cases got
        · rintro ⟨_, got⟩
          cases got

/-- Reading a file fails by a fault that its path meets. -/
theorem read_refused {path : Path} {fault : Fault} (refused : disk.read path = .error fault) :
    fault.OfPath path := by
  unfold read checkNul at refused
  cases nul : holdsNul path with
  | true =>
    rw [nul] at refused
    cases refused
    exact .inr ⟨rfl, nul⟩
  | false =>
    rw [nul] at refused
    cases found : disk.stat path with
    | error cause =>
      rw [found] at refused
      cases refused
      exact .inl ⟨_, _, rfl⟩
    | ok entry =>
      rw [found] at refused
      cases entry with
      | file held => cases refused
      | directory =>
        cases refused
        exact .inl ⟨_, _, rfl⟩

/-- A path leads to something if what is there can be found. -/
theorem holds_ok_iff {path : Path} :
    disk.holds path = .ok true ↔ holdsNul path = false ∧ ∃ entry, disk.stat path = .ok entry := by
  unfold holds
  cases nul : holdsNul path with
  | true => simp
  | false =>
    cases found : disk.stat path with
    | ok entry => simp
    | error cause => cases cause <;> simp

/-- Looking at a path fails by a fault of the file system. -/
theorem holds_refused {path : Path} {fault : Fault} (refused : disk.holds path = .error fault) :
    fault.OfFiles := by
  unfold holds at refused
  split at refused
  · cases refused
  · split at refused
    · cases refused
    · cases refused
      exact ⟨_, _, rfl⟩
    · cases refused

/-! ## Missing directories -/

/-- So many directories, a path's own and the ones above it, cannot be made as the next one above is
missing. -/
def Sunk (disk : Disk) : Nat → Path → Prop
  | 0, _ => True
  | count + 1, path => disk.mkdir path = .error .notFound ∧ disk.Sunk count path.parent

/-- A directory cannot be made as the one above is missing exactly if its path cannot be followed
for that reason. -/
theorem mkdir_missing_iff {path : Path} :
    disk.mkdir path = .error .notFound ↔ disk.resolve path = .error .notFound := by
  unfold mkdir
  cases led : disk.resolve path with
  | error cause => exact ⟨fun is => by cases is; rfl, fun is => by cases is; rfl⟩
  | ok place =>
    refine ⟨fun is => ?_, fun is => nomatch is⟩
    rw [ok_bind rfl] at is
    cases there : disk.at? place <;> rw [there] at is <;> cases is

/-- A directory that cannot be made as the one above is missing has a name. -/
theorem parts_of_missing {path : Path} (missing : disk.mkdir path = .error .notFound) :
    path.parts ≠ [] := by
  intro bare
  rw [mkdir_missing_iff, resolve, bare] at missing
  split at missing <;> cases missing

/-- A path has a name for each of the directories that are missing. The induction is on the number
of directories, each of which is the last name of a path. -/
theorem sunk_length {count : Nat} {path : Path} (sunk : disk.Sunk count path) :
    count ≤ path.parts.length := by
  induction count generalizing path with
  | zero => exact Nat.zero_le _
  | succ count inductionHypothesis =>
    have above : count ≤ path.parts.dropLast.length := inductionHypothesis sunk.2
    have named := List.length_pos_iff.mpr (parts_of_missing sunk.1)
    rw [List.length_dropLast] at above
    omega

/-- Names that lead to something missing did so before files were written.

Proof: by induction on the names. A place that is passed is a directory. It was one before, and then
the next name led to the same place, or nothing was there, and that was missing. -/
theorem names_missing {writes : List Write} (written : Written before writes after)
    {names : List String} {place : Place}
    (missing : names.foldlM after.follow place = .error .notFound) :
    names.foldlM before.follow place = .error .notFound := by
  induction names generalizing place with
  | nil => cases missing
  | cons name rest inductionHypothesis =>
    rw [List.foldlM_cons] at missing ⊢
    have first : before.follow place name = .error .notFound ∨
        before.follow place name = after.follow place name := by
      unfold follow
      cases last : lastAt? writes place with
      | some bytes =>
        -- a file was written here, so that the names cannot be followed
        have stop : after.follow place name = .error .notDirectory := by
          rw [follow, written.files place bytes last]
        rw [stop] at missing
        cases missing
      | none =>
        rcases written.others place last with same | ⟨empty, _⟩
        · exact .inr (by rw [same])
        · exact .inl (by rw [empty])
    rcases first with absent | same
    · rw [absent]
      rfl
    · rw [same]
      cases led : after.follow place name with
      | error cause =>
        rw [led] at missing
        exact missing
      | ok next =>
        rw [led] at missing
        exact inductionHypothesis missing

/-- Directories that are missing were missing before files were written. Writing makes directories
and removes none, so a place that is missing afterwards was missing before. -/
theorem sunk_before {writes : List Write} (written : Written before writes after) {count : Nat}
    {path : Path} (sunk : after.Sunk count path) : before.Sunk count path := by
  induction count generalizing path with
  | zero => trivial
  | succ count inductionHypothesis =>
    refine ⟨?_, inductionHypothesis sunk.2⟩
    have missing := mkdir_missing_iff.mp sunk.1
    rw [resolve, start_same written.current] at missing
    rw [mkdir_missing_iff, resolve]
    split at missing
    · cases missing
    · rename_i short
      rw [if_neg short]
      exact names_missing written missing

end Disk

/-! ## Steps -/

namespace OnDisk

variable {disk : Disk}

/-- A chain goes on with the outcome of its first step. -/
theorem bind_run_ok {α β : Type} {step : OnDisk α} {value : α} {after : Disk}
    (first : step.run.run disk = (.ok value, after)) (next : α → OnDisk β) :
    (step >>= next).run.run disk = (next value).run.run after := by
  rw [ExceptT.run_bind, StateT.run_bind, first]
  rfl

/-- A chain fails as its first step does. -/
theorem bind_run_error {α β : Type} {step : OnDisk α} {fault : Fault} {after : Disk}
    (first : step.run.run disk = (.error fault, after)) (next : α → OnDisk β) :
    (step >>= next).run.run disk = (.error fault, after) := by
  rw [ExceptT.run_bind, StateT.run_bind, first]
  rfl

/-- A chain that looks at the disk first goes on with it. -/
theorem get_run {β : Type} (next : Disk → OnDisk β) (disk : Disk) :
    (get >>= next).run.run disk = (next disk).run.run disk := rfl

/-- A chain that starts with an outcome goes on with it. -/
theorem lift_run_ok {α β : Type} {outcome : Except Fault α} {value : α}
    (given : outcome = .ok value) (next : α → OnDisk β) (disk : Disk) :
    (liftM outcome >>= next).run.run disk = (next value).run.run disk := by
  subst given
  rfl

/-- A chain that starts with a fault fails by it. -/
theorem lift_run_error {α β : Type} {outcome : Except Fault α} {fault : Fault}
    (given : outcome = .error fault) (next : α → OnDisk β) (disk : Disk) :
    (liftM outcome >>= next).run.run disk = (.error fault, disk) := by
  subst given
  rfl

/-- A chain that starts with a path goes on, unless the path leads nowhere. -/
theorem check_run {β : Type} (path : Path) (next : Unit → OnDisk β) (disk : Disk) :
    (liftM (checkNul path) >>= next).run.run disk =
      if holdsNul path then (.error .nulInPath, disk) else (next ()).run.run disk := by
  cases nul : holdsNul path with
  | true => exact lift_run_error (by rw [checkNul, nul]; rfl) next disk
  | false => exact lift_run_ok (by rw [checkNul, nul]; rfl) next disk

/-- A change either happens or fails without a trace. -/
theorem change_run (path : Path) (step : Disk → Except FileFault Disk) (disk : Disk) :
    (change path step).run.run disk =
      if holdsNul path then (.error .nulInPath, disk)
      else match step disk with
        | .ok after => (.ok (), after)
        | .error cause => (.error (faultAt path cause), disk) := by
  rw [change, check_run, get_run]
  cases step disk <;> rfl

/-- A step for a path makes directories at most, and fails by a fault that the path meets, unless
it is too deep for the disk. -/
def Furnishes (path : Path) (deep : Disk → Prop) (step : OnDisk Unit) : Prop :=
  ∀ disk result after, step.run.run disk = (result, after) →
    Disk.Written disk [] after ∧
      ∀ fault, result = .error fault → fault.OfPath path ∨ fault = .tooManyCalls ∧ deep disk

/-- What a path meets without its last name, it meets with it. -/
theorem of_path_parent {path : Path} {fault : Fault} (met : fault.OfPath path.parent) :
    fault.OfPath path := by
  refine met.imp_right fun ⟨is, nul⟩ => ⟨is, ?_⟩
  obtain ⟨name, member, there⟩ := List.any_eq_true.mp nul
  exact List.any_eq_true.mpr ⟨name, List.dropLast_subset _ member, there⟩

/-- Making one directory makes it, finds it there, or fails without a trace. -/
theorem ensure_one_run (path : Path) (disk : Disk) :
    (ensureOne path).run.run disk =
      if holdsNul path then (.error .nulInPath, disk)
      else match disk.mkdir path with
        | .ok after => (.ok (), after)
        | .error .notFound => (.error (faultAt path .notFound), disk)
        | .error cause =>
          if disk.isDirectory path then (.ok (), disk)
          else (.error (faultAt path cause), disk) := by
  rw [ensureOne, check_run, get_run]
  cases disk.mkdir path with
  | ok after => rfl
  | error cause =>
    cases cause with
    | notFound => rfl
    | alreadyThere | notDirectory | isDirectory | nameTooLong =>
      simp only [get_run]
      cases disk.isDirectory path <;> rfl

/-- Making one directory makes that directory at most. -/
theorem ensure_one_furnishes (path : Path) : Furnishes path (fun _ => False) (ensureOne path) := by
  intro disk result after ran
  rw [ensure_one_run] at ran
  split at ran
  · rename_i nul
    cases ran
    exact ⟨Disk.written_refl disk, fun _ is => by cases is; exact .inl (.inr ⟨rfl, nul⟩)⟩
  · split at ran
    · rename_i made
      cases ran
      exact ⟨Disk.mkdir_written made, fun _ none => nomatch none⟩
    · cases ran
      exact ⟨Disk.written_refl disk, fun _ is => by cases is; exact .inl (.inl ⟨_, _, rfl⟩)⟩
    · split at ran
      · cases ran
        exact ⟨Disk.written_refl disk, fun _ none => nomatch none⟩
      · cases ran
        exact ⟨Disk.written_refl disk, fun _ is => by cases is; exact .inl (.inl ⟨_, _, rfl⟩)⟩

/-- Making the directories of a path makes directories at most, and there is room for it unless as
many directories are missing.

Proof: by induction on the room. A call within the call has one less, and meets the path without its
last name. -/
theorem ensure_within_furnishes (room : Nat) (path : Path) :
    Furnishes path (fun disk => disk.Sunk room path) (ensureWithin room path) := by
  induction room generalizing path with
  | zero =>
    intro disk result after ran
    cases ran
    exact ⟨Disk.written_refl disk, fun _ is => by cases is; exact .inr ⟨rfl, trivial⟩⟩
  | succ room inductionHypothesis =>
    intro disk result after ran
    rw [ensureWithin, check_run] at ran
    split at ran
    · rename_i nul
      cases ran
      exact ⟨Disk.written_refl disk, fun _ is => by cases is; exact .inl (.inr ⟨rfl, nul⟩)⟩
    · rw [get_run] at ran
      split at ran
      · rename_i missing
        cases above : (ensureWithin room path.parent).run.run disk with
        | mk first middle =>
          obtain ⟨made, ours⟩ := inductionHypothesis path.parent disk first middle above
          cases first with
          | error fault =>
            rw [bind_run_error above] at ran
            cases ran
            refine ⟨made, fun _ is => ?_⟩
            cases is
            exact (ours fault rfl).imp of_path_parent fun ⟨deep, sunk⟩ => ⟨deep, missing, sunk⟩
          | ok =>
            rw [bind_run_ok above] at ran
            obtain ⟨more, theirs⟩ := ensure_one_furnishes path middle result after ran
            exact ⟨Disk.written_trans made more, fun fault is =>
              .inl ((theirs fault is).resolve_right fun deep => deep.2)⟩
      · obtain ⟨made, ours⟩ := ensure_one_furnishes path disk result after ran
        exact ⟨made, fun fault is => .inl ((ours fault is).resolve_right fun deep => deep.2)⟩

/-- Where as many directories are missing as there is room for calls, nothing is made. -/
theorem ensure_within_sunk {room : Nat} {path : Path} (plain : holdsNul path = false)
    (sunk : disk.Sunk room path) :
    (ensureWithin room path).run.run disk = (.error .tooManyCalls, disk) := by
  induction room generalizing path with
  | zero => rfl
  | succ room inductionHypothesis =>
    have above : holdsNul path.parent = false := by
      cases nul : holdsNul path.parent with
      | false => rfl
      | true =>
        rcases of_path_parent (.inr ⟨rfl, nul⟩) with ⟨_, _, is⟩ | ⟨_, there⟩
        · cases is
        · rw [plain] at there
          cases there
    rw [ensureWithin, check_run, if_neg (by rw [plain]; exact Bool.false_ne_true), get_run,
      sunk.1]
    exact bind_run_error (inductionHypothesis above sunk.2) _

/-- Where as many directories above a path are missing as there is room for calls, a text cannot be
written, and nothing is done. -/
theorem write_text_sunk {path : Path} {text : String} (plain : holdsNul path.parent = false)
    (sunk : disk.Sunk disk.room path.parent) :
    (writeText path text).run.run disk = (.error .tooManyCalls, disk) :=
  bind_run_error (show (ensureDirectory path.parent).run.run disk = (.error .tooManyCalls, disk) from
    ensure_within_sunk plain sunk) _

/-- Writing a text either writes it where the path leads, and the path leads to it, or fails and
has made directories at most.

Proof: the directories are made first, and the file is written on the disk that this leaves. Making
directories changes neither where the path leads nor what is written there. -/
theorem write_text_cases {path : Path} {text : String} {disk after : Disk}
    {result : Except Fault Unit} (ran : (writeText path text).run.run disk = (result, after)) :
    (result = .ok () ∧ holdsNul path = false ∧
      after.stat path = .ok (.file (Text.encode text.toList)) ∧
      disk.Written [⟨disk.goal path, Text.encode text.toList⟩] after) ∨
    ∃ fault, result = .error fault ∧
      (fault.OfPath path ∨ fault = .tooManyCalls ∧ disk.Sunk disk.room path.parent) ∧
      disk.Written [] after := by
  unfold writeText writeBytes ensureDirectory at ran
  cases above : (ensureWithin disk.room path.parent).run.run disk with
  | mk first middle =>
    have whole : (get >>= fun held : Disk => ensureWithin held.room path.parent :
        OnDisk Unit).run.run disk = (first, middle) := above
    obtain ⟨made, ours⟩ := ensure_within_furnishes _ path.parent disk first middle above
    cases first with
    | error fault =>
      rw [bind_run_error whole] at ran
      cases ran
      exact .inr ⟨fault, rfl, (ours fault rfl).imp_left of_path_parent, made⟩
    | ok =>
      rw [bind_run_ok whole, change_run] at ran
      split at ran
      · rename_i nul
        cases ran
        exact .inr ⟨_, rfl, .inl (.inr ⟨rfl, nul⟩), made⟩
      · rename_i plain
        split at ran
        · rename_i done
          cases ran
          obtain ⟨led, _, written⟩ := Disk.write_written done
          have there : disk.goal path = middle.goal path :=
            (Disk.goal_same made.current path).symm
          refine .inl ⟨rfl, by simpa using plain, Disk.stat_ok_iff.mpr ⟨?_, ?_⟩, ?_⟩
          · rw [Disk.goal_same written.current]
            exact Disk.resolve_kept written.toKeeps led
          · rw [Disk.goal_same written.current]
            exact written.files _ _ (last_of_same List.mem_cons_self (by simp))
          · rw [there]
            exact Disk.written_trans made written
        · cases ran
          exact .inr ⟨_, rfl, .inl (.inl ⟨_, _, rfl⟩), made⟩

/-- Copying writes what it has read where the copy goes. -/
theorem copy_run_ok {source target : Path} {disk : Disk} {bytes : List UInt8}
    (got : disk.read source = .ok bytes) :
    (copy source target).run.run disk =
      (change (disk.intake source target)
        fun held => held.write (disk.intake source target) bytes).run.run disk := by
  rw [copy, get_run, get_run, lift_run_ok got]
  rfl

/-- Copying does nothing where the file cannot be read. -/
theorem copy_run_error {source target : Path} {disk : Disk} {fault : Fault}
    (refused : disk.read source = .error fault) :
    (copy source target).run.run disk = (.error fault, disk) := by
  rw [copy, get_run, get_run, lift_run_error refused]

/-- The path that a copy goes to holds the character that ends paths only if one of the two
does. -/
theorem intake_nul {source target : Path} {disk : Disk}
    (nul : holdsNul (disk.intake source target) = true) :
    holdsNul source = true ∨ holdsNul target = true := by
  unfold Disk.intake at nul
  split at nul
  · obtain ⟨name, member, there⟩ := List.any_eq_true.mp nul
    rcases List.mem_append.mp member with own | last
    · exact .inr (List.any_eq_true.mpr ⟨name, own, there⟩)
    · exact .inl (List.any_eq_true.mpr
        ⟨name, List.mem_of_getLast? (Option.mem_toList.mp last), there⟩)
  · exact .inr nul

/-- Copying a file writes its bytes where the copy goes, or fails without a trace. Its source is
read first, and nothing is changed where that fails. -/
theorem copy_cases {source target : Path} {disk after : Disk} {result : Except Fault Unit}
    (ran : (copy source target).run.run disk = (result, after)) :
    (result = .ok () ∧ ∃ bytes, disk.stat source = .ok (.file bytes) ∧
      disk.copied? source target = some ⟨disk.goal (disk.intake source target), bytes⟩ ∧
      disk.Written [⟨disk.goal (disk.intake source target), bytes⟩] after) ∨
    ∃ fault, result = .error fault ∧ after = disk ∧ disk.copied? source target = none ∧
      (fault.OfPath source ∨ fault.OfPath target) := by
  unfold Disk.copied?
  rw [ran]
  cases got : disk.read source with
  | error fault =>
    rw [copy_run_error got] at ran
    cases ran
    exact .inr ⟨fault, rfl, rfl, rfl, .inl (Disk.read_refused got)⟩
  | ok bytes =>
    rw [copy_run_ok got, change_run] at ran
    split at ran
    · rename_i nul
      cases ran
      exact .inr ⟨_, rfl, rfl, rfl,
        (intake_nul nul).imp (fun one => .inr ⟨rfl, one⟩) fun other => .inr ⟨rfl, other⟩⟩
    · split at ran
      · rename_i done
        cases ran
        exact .inl ⟨rfl, bytes, (Disk.read_ok_iff.mp got).2, rfl, (Disk.write_written done).2.2⟩
      · cases ran
        exact .inr ⟨_, rfl, rfl, rfl, .inl (.inl ⟨_, _, rfl⟩)⟩

/-- What a copy has written was read from the file, and it was written where the copy goes, to which
the path leads. -/
theorem copied_source {source target : Path} {disk : Disk} {copy : Write}
    (copied : disk.copied? source target = some copy) :
    disk.stat source = .ok (.file copy.bytes) ∧
      disk.resolve (disk.intake source target) = .ok copy.place ∧
      copy.place = disk.goal (disk.intake source target) ∧
      disk.at? copy.place ≠ some .directory := by
  unfold Disk.copied? at copied
  cases got : disk.read source with
  | error fault =>
    rw [copy_run_error got] at copied
    cases copied
  | ok bytes =>
    rw [got, copy_run_ok got, change_run] at copied
    split at copied
    · rename_i done is
      cases is
      cases copied
      split at done
      · cases done
      · split at done
        · rename_i wrote
          obtain ⟨led, free, _⟩ := Disk.write_written wrote
          exact ⟨(Disk.read_ok_iff.mp got).2, led, rfl, free⟩
        · cases done
    · cases copied

end OnDisk

end Disk

end Stencil
