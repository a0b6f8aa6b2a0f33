import Mathlib.Data.List.Forall2
import Stencil.Proofs.Output.Planning
import Stencil.Proofs.Text.Canonical

/-!
# What a status says of the bytes

Every file has one outcome in a plan, in the order of the files
(`build_verdicts`): an action for a target that holds nothing or the bytes of a
text, and a fault for any other. The bytes of a text are told by the text alone,
so a status says which bytes are there: nothing for `create`, those of a text
that is read as the payload for `noop`, those of another for `update`.

Reading makes line ends uniform and writing does not, so `noop` stands for the
payload's own bytes only where no carriage return is among them. A file with a
carriage return may be left alone although its bytes are others, and is to be
updated although they are the same (`returns_misjudged`).
-/

namespace Stencil.Output

open Code Disk

variable {disk : Disk} {root path : Path} {file : OutputFile}

/-! ## What is at a target -/

/-- A path leads to an entry. -/
def Meets (disk : Disk) (path : Path) (entry : Entry) : Prop :=
  holdsNul path = false ∧ disk.stat path = .ok entry

/-- Why a target cannot be read, or holds no text: a name on its path is too long, it is a
directory, or its bytes are no UTF-8. -/
inductive Unreadable (disk : Disk) (path : Path) : Fault → Prop where
  | name (plain : holdsNul path = false) (long : disk.stat path = .error .nameTooLong) :
    Unreadable disk path (faultAt path .nameTooLong)
  | directory (met : Meets disk path .directory) : Unreadable disk path (faultAt path .isDirectory)
  | encoding (bytes : List UInt8) (fault : Text.DecodeFault) (met : Meets disk path (.file bytes))
    (refused : Text.decode bytes = .error fault) : Unreadable disk path (.encoding fault)

/-- What is read of an entry at a path. -/
def entryText (path : Path) : Entry → Except Fault (Option String)
  | .directory => .error (faultAt path .isDirectory)
  | .file bytes => match Text.decode bytes with
    | .ok text => .ok (some (String.ofList (Text.universalNewlines text)))
    | .error fault => .error (.encoding fault)

/-- A target that holds something is read. -/
theorem read_text_met {entry : Entry} (met : Meets disk path entry) :
    readText? disk path = entryText path entry := by
  have held : disk.holds path = .ok true := Disk.holds_ok_iff.mpr ⟨met.1, entry, met.2⟩
  rw [readText?, ok_bind held, if_neg (by decide)]
  cases entry with
  | directory =>
    unfold Disk.read checkNul
    rw [met.1, met.2]
    rfl
  | file bytes =>
    have got : disk.read path = .ok bytes := Disk.read_ok_iff.mpr met
    rw [ok_bind got, entryText]
    cases Text.decode bytes with
    | ok text => rfl
    | error fault => rfl

/-- A target that holds nothing is not read, and a name that is too long is the only fault that it
can have. -/
theorem read_text_unmet (nothing : ¬ ∃ entry, Meets disk path entry) :
    readText? disk path =
      if holdsNul path = false ∧ disk.stat path = .error .nameTooLong then
        .error (faultAt path .nameTooLong)
      else .ok none := by
  unfold readText? Disk.holds
  cases plain : holdsNul path with
  | true => rfl
  | false =>
    cases there : disk.stat path with
    | ok entry => exact absurd ⟨entry, plain, there⟩ nothing
    | error cause => cases cause <;> rfl

/-- The faults of targets that cannot be read are those of reading them. Either the path leads to
something, which is a directory or holds no text, or there is nothing and the path itself cannot be
followed. -/
theorem read_text_error_iff {fault : Fault} :
    readText? disk path = .error fault ↔ Unreadable disk path fault := by
  constructor
  · intro refused
    by_cases met : ∃ entry, Meets disk path entry
    · obtain ⟨entry, met⟩ := met
      rw [read_text_met met] at refused
      cases entry with
      | directory =>
        cases refused
        exact .directory met
      | file bytes =>
        rw [entryText] at refused
        split at refused
        · cases refused
        · rename_i fault decoded
          cases refused
          exact .encoding bytes fault met decoded
    · rw [read_text_unmet met] at refused
      split at refused
      · rename_i long
        cases refused
        exact .name long.1 long.2
      · cases refused
  · intro unreadable
    cases unreadable with
    | name plain long =>
      have nothing : ¬ ∃ entry, Meets disk path entry := by
        rintro ⟨entry, _, there⟩
        rw [long] at there
        cases there
      rw [read_text_unmet nothing, if_pos ⟨plain, long⟩]
    | directory met => exact read_text_met met
    | encoding bytes fault met refused => rw [read_text_met met, entryText, refused]

/-- A file that can be read holds the bytes of a text. -/
theorem met_encoded {existing : Option String} {bytes : List UInt8}
    (got : readText? disk path = .ok existing) (met : Meets disk path (.file bytes)) :
    ∃ cs, bytes = Text.encode cs ∧ existing = some (String.ofList (Text.universalNewlines cs)) := by
  rw [read_text_met met, entryText] at got
  split at got
  · rename_i cs decoded
    cases got
    exact ⟨cs, Text.decode_ok_iff.mp decoded, rfl⟩
  · cases got

/-- Nothing is read where a target that can be read holds nothing. -/
theorem read_text_none {existing : Option String} (got : readText? disk path = .ok existing) :
    existing = none ↔ ¬ ∃ entry, Meets disk path entry := by
  constructor
  · rintro rfl ⟨entry, met⟩
    rw [read_text_met met] at got
    cases entry with
    | directory => cases got
    | file bytes =>
      rw [entryText] at got
      split at got <;> cases got
  · intro nothing
    rw [read_text_unmet nothing] at got
    split at got
    · cases got
    · cases got
      rfl

/-- A text is read from its bytes, with its line ends made uniform. -/
theorem read_text_some {text : String} :
    readText? disk path = .ok (some text) ↔
      ∃ cs, Meets disk path (.file (Text.encode cs)) ∧
        String.ofList (Text.universalNewlines cs) = text := by
  rw [read_text_iff]
  constructor
  · rintro ⟨bytes, cs, got, decoded, rfl⟩
    obtain rfl := Text.decode_ok_iff.mp decoded
    exact ⟨cs, Disk.read_ok_iff.mp got, rfl⟩
  · rintro ⟨cs, met, rfl⟩
    exact ⟨_, cs, Disk.read_ok_iff.mpr met, Text.decode_encode cs, rfl⟩

/-! ## Statuses -/

/-- What an action says of its target. The last two say when the bytes of the target are those of
the payload: where no carriage return is among them this is what `noop` means, and where one is, the
target is to be updated although its bytes are the payload's. -/
structure Judged (disk : Disk) (root : Path) (file : OutputFile) (action : Action) : Prop where
  path : action.path = root.join file.path
  relative : action.relative = file.path
  payload : action.payload = file.text
  detail : action.detail = action.status.detail
  readable : ∀ fault, ¬ Unreadable disk action.path fault
  create : action.status = .create ↔ ¬ ∃ entry, Meets disk action.path entry
  noop : action.status = .noop ↔ ∃ cs, Meets disk action.path (.file (Text.encode cs)) ∧
    String.ofList (Text.universalNewlines cs) = action.payload
  update : action.status = .update ↔ ∃ cs, Meets disk action.path (.file (Text.encode cs)) ∧
    String.ofList (Text.universalNewlines cs) ≠ action.payload
  exactly : ∀ bytes, Meets disk action.path (.file bytes) → 0x0D ∉ bytes →
    (action.status = .noop ↔ bytes = Text.encode action.payload.toList)
  returns : ∀ bytes, Meets disk action.path (.file bytes) → 0x0D ∈ bytes →
    bytes = Text.encode action.payload.toList → action.status = .update

/-- The outcome of a file in a plan: an action that is true of its target, or the fault of a target
that cannot be read. -/
def Told (disk : Disk) (root : Path) (file : OutputFile) : Except Fault Action → Prop
  | .ok action => Judged disk root file action
  | .error fault => Unreadable disk (root.join file.path) fault

/-- A target is to be created where nothing is read. -/
theorem status_create_iff {existing : Option String} {payload : String} :
    statusFor existing payload = .create ↔ existing = none := by
  unfold statusFor
  cases existing with
  | none => simp
  | some text => by_cases same : text = payload <;> simp [same]

/-- A target is to be updated where another text is read. -/
theorem status_update_iff {existing : Option String} {payload : String} :
    statusFor existing payload = .update ↔ ∃ text, existing = some text ∧ text ≠ payload := by
  unfold statusFor
  cases existing with
  | none => simp
  | some text => by_cases same : text = payload <;> simp [same]

/-- A text without carriage returns is that of its bytes. -/
theorem noop_exactly {cs : List Char} {payload : String} (plain : 0x0D ∉ Text.encode cs) :
    String.ofList (Text.universalNewlines cs) = payload ↔
      Text.encode cs = Text.encode payload.toList := by
  rw [Text.return_byte_iff] at plain
  rw [Text.newlines_same plain]
  constructor
  · rintro rfl
    rw [String.toList_ofList]
  · intro same
    rw [Text.encode_injective same, String.ofList_toList]

/-- A text with a carriage return is read as another. -/
theorem returns_other {cs : List Char} {payload : String} (returned : 0x0D ∈ Text.encode cs)
    (same : Text.encode cs = Text.encode payload.toList) :
    String.ofList (Text.universalNewlines cs) ≠ payload := by
  rintro rfl
  rw [same, Text.return_byte_iff, String.toList_ofList] at returned
  exact Text.newlines_uniform cs returned

/-- An outcome of a plan is true of the target. -/
theorem action_told (disk : Disk) (root : Path) (file : OutputFile) :
    Told disk root file (actionFor disk root file) := by
  cases planned : actionFor disk root file with
  | error fault =>
    rcases bind_error planned with refused | ⟨_, _, done⟩
    · exact read_text_error_iff.mp refused
    · cases done
  | ok action =>
    obtain ⟨existing, got, rfl⟩ := action_for_iff.mp planned
    refine ⟨rfl, rfl, rfl, rfl, ?_, ?_, ?_, ?_, ?_, ?_⟩
    · intro fault unreadable
      have refused := read_text_error_iff.mpr unreadable
      rw [got] at refused
      cases refused
    · exact status_create_iff.trans (read_text_none got)
    · rw [status_noop_iff, ← read_text_some, got]
      simp
    · rw [status_update_iff]
      constructor
      · rintro ⟨text, rfl, other⟩
        obtain ⟨cs, met, rfl⟩ := read_text_some.mp got
        exact ⟨cs, met, other⟩
      · rintro ⟨cs, met, other⟩
        have read := read_text_some.mpr ⟨cs, met, rfl⟩
        rw [got] at read
        exact ⟨_, Except.ok.inj read, other⟩
    · intro bytes met plain
      obtain ⟨cs, rfl, rfl⟩ := met_encoded got met
      rw [status_noop_iff, Option.some_inj]
      exact noop_exactly plain
    · intro bytes met returned same
      obtain ⟨cs, rfl, rfl⟩ := met_encoded got met
      exact status_update_iff.mpr ⟨_, rfl, returns_other returned same⟩

/-- Every file has one outcome in a plan, in the order of the files: the actions are those among the
outcomes, and the errors are the faults among them. Each is true of what is at the file's target.

Proof: a plan goes through the files one by one and puts the outcome of each into one of its two
lists (`build_sorted`). What is left to say is said of one file (`action_told`). -/
theorem build_verdicts (disk : Disk) (root : Path) (files : List OutputFile) :
    ∃ outcomes : List (Except Fault Action), List.Forall₂ (Told disk root) files outcomes ∧
      (Plan.build disk root files).root = root ∧
      (Plan.build disk root files).actions = outcomes.filterMap Except.toOption ∧
      (Plan.build disk root files).errors = outcomes.filterMap refusal? := by
  obtain ⟨rooted, actions, errors⟩ := build_sorted disk root files
  refine ⟨files.map (actionFor disk root), ?_, rooted, ?_, ?_⟩
  · rw [List.forall₂_map_right_iff, List.forall₂_same]
    intro file _
    exact action_told disk root file
  · rw [actions, List.filterMap_map]
    rfl
  · rw [errors, List.filterMap_map]
    rfl

/-- A module with one line. -/
def oneLine (line : String) : Build Value := do
  let module : Value := .object (.module (← Build.newModule "m"))
  Build.pushOnto module (.object (.statement (← Build.newStatement (.raw line))))

/-- A disk with one file. -/
def holding (bytes : List UInt8) : Disk :=
  ⟨["work"], [(["work"], .directory), (["work", "m.py"], .file bytes)], usualRoom⟩

/-- The bytes of a file with a carriage return are not those of the text that it is left alone for.
A file that holds the very bytes of its text is to be updated if there is a carriage return among
them, and is read as another text. -/
theorem returns_misjudged :
    (((oneLine "x").run.run Store.empty).1.bind ((oneLine "x").run.run Store.empty).2.files =
        .ok [⟨.ofText "m.py", "x\n"⟩] ∧
      Meets (holding [120, 13, 10]) (.ofText "m.py") (.file [120, 13, 10]) ∧
      Text.encode "x\n".toList = [120, 10] ∧
      (Plan.build (holding [120, 13, 10]) (.ofText ".") [⟨.ofText "m.py", "x\n"⟩]).actions.map
        Action.status = [.noop]) ∧
    ((oneLine "x\ry").run.run Store.empty).1.bind ((oneLine "x\ry").run.run Store.empty).2.files =
        .ok [⟨.ofText "m.py", "x\ry\n"⟩] ∧
      Meets (holding [120, 13, 121, 10]) (.ofText "m.py") (.file [120, 13, 121, 10]) ∧
      Text.encode "x\ry\n".toList = [120, 13, 121, 10] ∧
      (Plan.build (holding [120, 13, 121, 10]) (.ofText ".")
        [⟨.ofText "m.py", "x\ry\n"⟩]).actions.map Action.status = [.update] := by
  refine ⟨⟨?_, ⟨?_, ?_⟩, ?_, ?_⟩, ?_, ⟨?_, ?_⟩, ?_, ?_⟩ <;> decide

end Stencil.Output
