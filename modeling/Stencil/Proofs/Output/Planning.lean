import Stencil.Output.Plan
import Stencil.Proofs.Disk.Changing

/-!
# What a plan says

A plan sorts the files in their order: a file whose target can be read, or is
not there, gets an action, any other a fault (`build_sorted`). A file is up to
date if and only if what is read at its target is its text
(`up_to_date_iff`), and a plan has nothing to do if and only if all its files
are (`build_settled_iff`).
-/

namespace Stencil.Output

open Code Disk

/-- The fault of an outcome that is none. -/
def refusal? {α : Type} : Except Fault α → Option Fault
  | .ok _ => none
  | .error fault => some fault

/-- A plan sorts the files in order: those that can be read get an action, the others a fault. -/
theorem build_sorted (disk : Disk) (root : Path) (files : List OutputFile) :
    (Plan.build disk root files).root = root ∧
      (Plan.build disk root files).actions =
        files.filterMap (fun file => (actionFor disk root file).toOption) ∧
      (Plan.build disk root files).errors =
        files.filterMap (fun file => refusal? (actionFor disk root file)) := by
  induction files with
  | nil => exact ⟨rfl, rfl, rfl⟩
  | cons file rest inductionHypothesis =>
    obtain ⟨rooted, actions, errors⟩ := inductionHypothesis
    rw [Plan.build]
    cases planned : actionFor disk root file with
    | ok action =>
      exact ⟨rooted, by simp [planned, Except.toOption, actions],
        by simp [planned, refusal?, errors]⟩
    | error fault =>
      exact ⟨rooted, by simp [planned, Except.toOption, actions],
        by simp [planned, refusal?, errors]⟩

/-- An action of a plan is that of a file. -/
theorem planned_source {disk : Disk} {root : Path} {files : List OutputFile} {action : Action}
    (planned : action ∈ (Plan.build disk root files).actions) :
    ∃ file ∈ files, actionFor disk root file = .ok action := by
  rw [(build_sorted disk root files).2.1] at planned
  obtain ⟨file, member, is⟩ := List.mem_filterMap.mp planned
  refine ⟨file, member, ?_⟩
  cases made : actionFor disk root file with
  | error fault =>
    rw [made] at is
    cases is
  | ok other =>
    rw [made] at is
    cases is
    rfl

/-- Every file is either planned or refused. -/
theorem build_length (disk : Disk) (root : Path) (files : List OutputFile) :
    files.length = (Plan.build disk root files).actions.length +
      (Plan.build disk root files).errors.length := by
  induction files with
  | nil => rfl
  | cons file rest inductionHypothesis =>
    rw [Plan.build, List.length_cons, inductionHypothesis]
    cases actionFor disk root file with
    | ok action => simp only [List.length_cons]; omega
    | error fault => simp only [List.length_cons]; omega

/-! ## Files that are up to date -/

variable {disk : Disk} {root path : Path} {file : OutputFile}

/-- A text is read where there is a file whose bytes are a text, with its line ends made uniform. -/
theorem read_text_iff {text : String} :
    readText? disk path = .ok (some text) ↔
      ∃ bytes cs, disk.read path = .ok bytes ∧ Text.decode bytes = .ok cs ∧
        text = String.ofList (Text.universalNewlines cs) := by
  constructor
  · intro got
    obtain ⟨there, _, behind⟩ := bind_ok got
    cases there with
    | false => cases behind
    | true =>
      obtain ⟨bytes, read, rest⟩ := bind_ok behind
      cases decoded : Text.decode bytes with
      | error fault =>
        rw [decoded] at rest
        cases rest
      | ok cs =>
        rw [decoded] at rest
        cases rest
        exact ⟨bytes, cs, read, decoded, rfl⟩
  · rintro ⟨bytes, cs, read, decoded, rfl⟩
    obtain ⟨plain, there⟩ := Disk.read_ok_iff.mp read
    have held : disk.holds path = .ok true := Disk.holds_ok_iff.mpr ⟨plain, _, there⟩
    rw [readText?, ok_bind held, if_neg (by decide), ok_bind read, decoded]
    rfl

/-- A file has an action if its target can be read: one for its target, with its text. -/
theorem action_for_iff {action : Action} :
    actionFor disk root file = .ok action ↔
      ∃ existing, readText? disk (root.join file.path) = .ok existing ∧
        action = ⟨root.join file.path, file.path, statusFor existing file.text,
          (statusFor existing file.text).detail, file.text⟩ := by
  constructor
  · intro planned
    obtain ⟨existing, read, is⟩ := bind_ok planned
    cases is
    exact ⟨existing, read, rfl⟩
  · rintro ⟨existing, read, rfl⟩
    unfold actionFor
    dsimp only
    rw [read]
    rfl

/-- A target is left alone where its text is already there. -/
theorem status_noop_iff {existing : Option String} {payload : String} :
    statusFor existing payload = .noop ↔ existing = some payload := by
  unfold statusFor
  cases existing with
  | none => simp
  | some text => by_cases same : text = payload <;> simp [same]

/-- A file that a plan leaves alone. -/
def UpToDate (disk : Disk) (root : Path) (file : OutputFile) : Prop :=
  ∃ action, actionFor disk root file = .ok action ∧ action.status = .noop

/-- A file is up to date if what is read at its target is its text. -/
theorem up_to_date_iff :
    UpToDate disk root file ↔ readText? disk (root.join file.path) = .ok (some file.text) := by
  constructor
  · rintro ⟨action, planned, noop⟩
    obtain ⟨existing, read, rfl⟩ := action_for_iff.mp planned
    rw [read, status_noop_iff.mp noop]
  · intro read
    exact ⟨_, action_for_iff.mpr ⟨_, read, rfl⟩, status_noop_iff.mpr rfl⟩

/-- A plan has nothing to do if all its files are up to date. -/
theorem build_settled_iff {files : List OutputFile} :
    (Plan.build disk root files).errors = [] ∧
        (Plan.build disk root files).actions.map Action.status = files.map (fun _ => .noop) ↔
      ∀ file ∈ files, UpToDate disk root file := by
  induction files with
  | nil => simp [Plan.build]
  | cons file rest inductionHypothesis =>
    rw [Plan.build, List.forall_mem_cons, ← inductionHypothesis]
    unfold UpToDate
    cases planned : actionFor disk root file with
    | ok action => simp [and_left_comm]
    | error fault => simp

end Stencil.Output
