import Stencil.Proofs.Disk.Changing
import Stencil.Proofs.Outcome
import Stencil.Proofs.StatusTable.Shape
import Stencil.Proofs.Yaml.Raising
import Stencil.StatusTable.Load

/-!
# What loading a table ends in

Loading goes through the disk, the encoding, the YAML and the shape of a table.
It ends in a table, in one of four faults that name the file (`InputFault`), or
in a fault that is let through as it is (`Escape`): of a name that is too long,
of a scalar without the value that its form promises, of mappings that give
their own texts, and of a misfit that cannot be worded. These are all
(`load_cases`), and none of them names the file (`escape_iff`).
-/

namespace Stencil.StatusTable

open Code Disk

/-- A fault of the input file at a path, which names it. There are four sorts, and each names the
path; how one comes about is not said here. -/
inductive InputFault (path : Path) : Fault → Prop where
  | missing : InputFault path (.missingInput path.text)
  | unreadable (detail : String) : InputFault path (.unreadableInput path.text detail)
  | malformed (detail : String) : InputFault path (.malformedYaml path.text detail)
  | misfit (detail : String) : InputFault path (.schema path.text detail)

/-- A path leads to a file that writes a text in UTF-8. -/
def Writes (disk : Disk) (path : Path) (text : List Char) : Prop :=
  ∃ bytes written, disk.read path = .ok bytes ∧ Text.decode bytes = .ok written ∧
    Text.universalNewlines written = text

/-- A fault that loading lets through. Each sort says what of the disk, the path or the text it
comes from. -/
inductive Escape (disk : Disk) (path : Path) : Fault → Prop where
  /-- A name on the way is too long to be looked for. -/
  | name (plain : holdsNul path = false) (long : disk.stat path = .error .nameTooLong) :
    Escape disk path (faultAt path .nameTooLong)
  /-- A scalar does not have the value that its form promises. -/
  | value {text : List Char} {fault : Fault} (writes : Writes disk path text)
    (valueless : Yaml.Content.ofText text = .error (.value fault)) : Escape disk path fault
  /-- The text of a scalar is sought in mappings that contain each other. -/
  | depth {text : List Char} (writes : Writes disk path text)
    (nested : Yaml.Content.ofText text = .error .nestedTooDeep) : Escape disk path .tooDeep
  /-- What is wrong with the content cannot be worded. -/
  | wording {text : List Char} {content : Yaml.Content} {misfit : Schema.Misfit Nat} {fault : Fault}
    (writes : Writes disk path text) (read : Yaml.Content.ofText text = .ok content)
    (misfits : (File.contentView content).misfit? content.root = some misfit)
    (unworded : (File.contentView content).misfitText misfit = .error fault) :
    Escape disk path fault

/-- The families of the faults that are let through. -/
def escapeFamilies : List Family := .file .nameTooLong :: .recursion :: Yaml.valueFamilies

/-! ## Wordings -/

section Wording

variable {α : Type} {view : Schema.View α} {fault : Fault}

/-- A wording fails only where a part fails to be shown, or to give its text. -/
theorem misfit_text_error {P : Fault → Prop}
    (shown : ∀ part fault, view.shown part = .error fault → P fault)
    (text : ∀ part fault, view.text part = .error fault → P fault) {misfit : Schema.Misfit α}
    (unworded : view.misfitText misfit = .error fault) : P fault := by
  have whole : view.flawText misfit.flaw = .error fault := by
    rcases bind_error unworded with flawed | ⟨_, _, ended⟩
    · exact flawed
    · cases ended
  cases Schema.flaw_cases view misfit.flaw with
  | one _ worded =>
    rw [worded] at whole
    exact shown _ fault (map_error whole)
  | fixed _ worded =>
    rw [worded] at whole
    cases whole
  | keys worded =>
    rw [worded] at whole
    rcases bind_error (map_error whole) with untold | ⟨_, _, unshown⟩
    · obtain ⟨key, _, failed⟩ := each_error untold
      exact text key fault failed
    · obtain ⟨key, _, failed⟩ := each_error unshown
      exact shown key fault failed

end Wording

section Content

variable {content : Yaml.Content} {fault : Fault}

/-- The families of the faults of showing. -/
def shownFamilies : List Family := [.value, .recursion]

/-- A scalar fails to be shown for its digits only. -/
theorem atom_shown_error {atom : Yaml.Atom} (unshown : atom.shown = .error fault) :
    fault.family ∈ shownFamilies := by
  cases atom with
  | moment stamp => cases unshown
  | plain value =>
    cases value with
    | int number =>
      change intSource number = _ at unshown
      unfold intSource at unshown
      split at unshown
      · cases unshown
        decide
      · cases unshown
    | _ => cases unshown

/-- A part fails to be shown for the digits of a scalar, or at the bound. -/
theorem shown_within_error (fuel : Nat) {around : List Nat} {id : Nat}
    (unshown : content.shownWithin fuel around id = .error fault) :
    fault.family ∈ shownFamilies := by
  induction fuel generalizing around id with
  | zero =>
    cases unshown
    decide
  | succ fuel inductionHypothesis =>
    have each {items : List Nat}
        (failed : items.mapM (content.shownWithin fuel (id :: around)) = .error fault) :
        fault.family ∈ shownFamilies := by
      obtain ⟨item, _, within⟩ := each_error failed
      exact inductionHypothesis within
    rw [Yaml.Content.shownWithin] at unshown
    dsimp only at unshown
    split at unshown
    · exact atom_shown_error unshown
    · split at unshown
      · cases unshown
      · rcases bind_error unshown with failed | ⟨_, _, ended⟩
        · exact each failed
        · cases ended
    · split at unshown
      · cases unshown
      · rcases bind_error unshown with first | ⟨_, _, second⟩
        · exact inductionHypothesis first
        · rcases bind_error second with failed | ⟨_, _, ended⟩
          · exact inductionHypothesis failed
          · cases ended
    · split at unshown
      · cases unshown
      · rcases bind_error unshown with failed | ⟨_, _, ended⟩
        · obtain ⟨pair, _, here⟩ := each_error failed
          rcases bind_error here with first | ⟨_, _, second⟩
          · exact inductionHypothesis first
          · rcases bind_error second with other | ⟨_, _, ended⟩
            · exact inductionHypothesis other
            · cases ended
        · cases ended
    · cases unshown
    · rcases bind_error unshown with failed | ⟨_, _, ended⟩
      · exact each failed
      · cases ended

/-- A part fails to give its text for the digits of a scalar, or at the bound. -/
theorem text_error {id : Nat} (untold : content.text id = .error fault) :
    fault.family ∈ shownFamilies := by
  unfold Yaml.Content.text at untold
  split at untold
  · rename_i atom _
    cases atom with
    | moment stamp => cases untold
    | plain value =>
      have shown : (Yaml.Atom.plain value).shown = .error fault := by
        cases value with
        | text written => cases untold
        | _ => exact untold
      exact atom_shown_error shown
  · exact shown_within_error _ untold

/-- What is wrong with a content fails to be worded for the digits of a scalar, or at the bound. -/
theorem misfit_unworded {misfit : Schema.Misfit Nat}
    (unworded : (File.contentView content).misfitText misfit = .error fault) :
    fault.family ∈ shownFamilies :=
  misfit_text_error (P := fun fault => fault.family ∈ shownFamilies)
    (fun _ _ unshown => shown_within_error _ unshown) (fun _ _ untold => text_error untold) unworded

end Content

/-! ## Loading -/

section Loading

variable {disk : Disk} {path : Path} {text : List Char} {fault : Fault}

/-- A file that writes a text is loaded from what the text says. -/
theorem load_writes (writes : Writes disk path text) :
    load disk path = (Yaml.Content.ofText text).mapError (File.ofYaml path) >>= fun content =>
      (File.contentView content).readTable path content.root := by
  obtain ⟨bytes, written, read, decoded, rfl⟩ := writes
  have there : disk.holds path = .ok true := by
    obtain ⟨plain, found⟩ := Disk.read_ok_iff.mp read
    exact Disk.holds_ok_iff.mpr ⟨plain, _, found⟩
  unfold load
  rw [there, ok_bind rfl, read]
  change (File.content path bytes >>= fun content =>
    (File.contentView content).readTable path content.root) = _
  rw [File.content, decoded]

/-- A path that leads to no file with a text is not loaded from: by a fault that names it, or since
a name is too long. Either the path cannot be asked for, or there is nothing, or it cannot be read,
or what is read is no text; all but the first of these name the path. -/
theorem load_unwritten (unwritten : ∀ text, ¬Writes disk path text) :
    ∃ fault, load disk path = .error fault ∧ (InputFault path fault ∨ Escape disk path fault) := by
  unfold load
  cases looked : disk.holds path with
  | error fault =>
    refine ⟨fault, rfl, .inr ?_⟩
    unfold Disk.holds at looked
    split at looked
    · cases looked
    · rename_i plain
      split at looked
      · cases looked
      · rename_i long
        cases looked
        exact .name (by simpa using plain) long
      · cases looked
  | ok there =>
    cases there with
    | false => exact ⟨_, rfl, .inl .missing⟩
    | true =>
      cases read : disk.read path with
      | error fault =>
        rw [ok_bind rfl]
        exact ⟨_, rfl, .inl (.unreadable _)⟩
      | ok bytes =>
        cases decoded : Text.decode bytes with
        | ok written => exact absurd ⟨bytes, written, read, decoded, rfl⟩ (unwritten _)
        | error fault =>
          refine ⟨_, ?_, .inl (.unreadable fault.message)⟩
          rw [ok_bind rfl]
          change File.table path bytes = _
          rw [File.table, File.content, decoded]
          rfl

/-- Loading ends in a table, in a fault that names the file, or in one that it lets through. -/
theorem load_cases (disk : Disk) (path : Path) :
    (∃ table, load disk path = .ok table) ∨
      ∃ fault, load disk path = .error fault ∧ (InputFault path fault ∨ Escape disk path fault) := by
  by_cases written : ∃ text, Writes disk path text
  · obtain ⟨text, writes⟩ := written
    rw [load_writes writes]
    cases read : Yaml.Content.ofText text with
    | error fault =>
      right
      refine ⟨_, rfl, ?_⟩
      cases fault with
      | value inner => exact .inr (.value writes read)
      | nestedTooDeep => exact .inr (.depth writes read)
      | _ => exact .inl (.malformed _)
    | ok content =>
      change (∃ table, (File.contentView content).readTable path content.root = .ok table) ∨
        ∃ fault, (File.contentView content).readTable path content.root = .error fault ∧ _
      cases misfits : (File.contentView content).misfit? content.root with
      | none =>
        unfold Schema.View.readTable
        rw [misfits]
        exact .inl ⟨_, rfl⟩
      | some misfit =>
        right
        rw [Schema.read_table_misfit path misfits]
        cases worded : (File.contentView content).misfitText misfit with
        | ok detail => exact ⟨_, rfl, .inl (.misfit detail)⟩
        | error fault => exact ⟨fault, rfl, .inr (.wording writes read misfits worded)⟩
  · exact .inr (load_unwritten (not_exists.mp written))

/-- What loading lets through is what it ends in. -/
theorem escape_loaded (escapes : Escape disk path fault) : load disk path = .error fault := by
  cases escapes with
  | name plain long =>
    unfold load Disk.holds
    rw [plain, long]
    rfl
  | value writes valueless =>
    rw [load_writes writes, valueless]
    rfl
  | depth writes nested =>
    rw [load_writes writes, nested]
    rfl
  | @wording _ content misfit _ writes read misfits unworded =>
    rw [load_writes writes, read]
    change (File.contentView content).readTable path content.root = _
    rw [Schema.read_table_misfit path misfits, unworded]
    rfl

/-- What is let through is of few families. -/
theorem escape_family (escapes : Escape disk path fault) : fault.family ∈ escapeFamilies := by
  cases escapes with
  | name plain long => exact List.mem_cons_self
  | value writes valueless =>
    exact List.mem_cons_of_mem _ (List.mem_cons_of_mem _ (Yaml.Content.of_text_settled valueless))
  | depth writes nested => exact List.mem_cons_of_mem _ List.mem_cons_self
  | wording writes read misfits unworded =>
    have among : ∀ family ∈ shownFamilies, family ∈ escapeFamilies := by decide
    exact among _ (misfit_unworded unworded)

/-- A fault that names the input file is of none of those families. -/
theorem input_fault_family (names : InputFault path fault) : fault.family ∉ escapeFamilies := by
  cases names <;> simp [Fault.family, escapeFamilies, Yaml.valueFamilies]

/-- A fault is let through if loading ends in it and it does not name the file. -/
theorem escape_iff :
    Escape disk path fault ↔ load disk path = .error fault ∧ ¬InputFault path fault := by
  constructor
  · exact fun escapes =>
      ⟨escape_loaded escapes, fun names => input_fault_family names (escape_family escapes)⟩
  · rintro ⟨loaded, nameless⟩
    rcases load_cases disk path with ⟨table, done⟩ | ⟨other, ended, names | escapes⟩
    · rw [loaded] at done
      cases done
    · rw [loaded] at ended
      cases ended
      exact absurd names nameless
    · rw [loaded] at ended
      cases ended
      exact escapes

end Loading

end Stencil.StatusTable
