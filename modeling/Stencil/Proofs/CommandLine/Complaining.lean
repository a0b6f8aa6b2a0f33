import Stencil.Proofs.CommandLine.ExitCode
import Stencil.Proofs.StatusTable.Loading

/-!
# Which problems of the input a run complains about

A run complains about a problem of its input with code 2 where loading ends in a
fault that names the file. A fault that loading lets through ends the run without
a code. `input_complaints` says which faults are which, for all disks, paths and
command lines; in both cases nothing is reported and the disk is left alone.
-/

namespace Stencil.CommandLine

open Code Disk StatusTable

variable {around : Surroundings} {words : List String} {disk : Disk} {command : Command}
  {settings : Settings} {path : Path} {fault : Fault}

/-- A call whose input is not loaded reports nothing and leaves the disk alone. It complains about a
fault of the program's own, and any other ends it. -/
theorem call_refused (around : Surroundings)
    (asked : (request disk words).1 = .ok (.run command settings))
    (refused : load disk settings.input = .error fault) :
    (call around words disk).disk = disk ∧ (call around words disk).panels = [] ∧
      (call around words disk).code = ending (.error (Stop.ofFault fault)) ∧
      (isOwn fault = true → (call around words disk).complaint = errorText fault.message) := by
  have ran := run_refused around command (files_refused settings refused)
  obtain ⟨code, panels, left⟩ := call_run around asked ran
  refine ⟨left, panels, code, fun own => ?_⟩
  unfold call
  rcases requested : request disk words with ⟨asking, verbose⟩
  rw [requested] at asked
  dsimp only at asked
  subst asked
  change (Report.ofRun verbose ((command.run around settings).run.run ⟨disk, [], []⟩).1
    ((command.run around settings).run.run ⟨disk, [], []⟩).2).complaint = _
  rw [ran, Stop.ofFault, if_pos own]
  rfl

/-- A fault that names the input file is one of the program's own. -/
theorem input_fault_own (names : InputFault path fault) : isOwn fault = true := by
  cases names <;> rfl

/-- A fault of the families that are let through is none of the program's own. -/
theorem escape_foreign (escapes : Escape disk path fault) : isOwn fault = false := by
  have foreign : ∀ family ∈ escapeFamilies, ∀ fault : Fault, fault.family = family →
      isOwn fault = false := by
    simp only [escapeFamilies, Yaml.valueFamilies, List.forall_mem_cons, isOwn]
    refine ⟨?_, ?_, ?_, ?_, ?_, ?_, ?_, ?_, List.forall_mem_nil _⟩ <;>
      · intro fault same
        rw [same]
  exact foreign _ (escape_family escapes) fault rfl

/-- Loading a path ends in a table, in a fault that names the path, or in a fault that is let
through; these are told apart by whether they name the path. A run complains about the first sort of
fault with 2, and ends without a code by the second; it reports nothing and leaves the disk
alone.

Proof: loading has stages, and each has its faults (`load_cases`): what the stages turn into faults
of the file names the path, and all that is let through is among the escapes. No escape is a fault
of the program's own, which is what a run goes by when it complains or ends. -/
theorem input_complaints (disk : Disk) (path : Path) :
    ((∃ table, load disk path = .ok table) ∨ ∃ fault, load disk path = .error fault ∧
      (InputFault path fault ∨ Escape disk path fault)) ∧
    (∀ fault, Escape disk path fault ↔ load disk path = .error fault ∧ ¬InputFault path fault) ∧
    ∀ around words command settings fault,
      (request disk words).1 = .ok (.run command settings) → settings.input = path →
      load disk path = .error fault →
      (call around words disk).disk = disk ∧ (call around words disk).panels = [] ∧
      (InputFault path fault → (call around words disk).code = .ok 2 ∧
        (call around words disk).complaint = errorText fault.message) ∧
      (Escape disk path fault → (call around words disk).code = .error fault) := by
  refine ⟨load_cases disk path, fun fault => escape_iff, ?_⟩
  rintro around words command settings fault asked rfl refused
  obtain ⟨left, panels, code, complaint⟩ := call_refused around asked refused
  refine ⟨left, panels, fun names => ?_, fun escapes => ?_⟩
  · have own := input_fault_own names
    rw [Stop.ofFault, if_pos own] at code
    exact ⟨code, complaint own⟩
  · have foreign : ¬isOwn fault = true := by
      rw [escape_foreign escapes]
      exact Bool.false_ne_true
    rw [Stop.ofFault, if_neg foreign] at code
    exact code

/-- A disk of one file, in the current directory. -/
def oneFile (name text : String) : Disk :=
  ⟨["work"], [(["work"], .directory), (["work", name], .file (Text.encode text.toList))],
    usualRoom⟩

/-- A list that does not end is complained about. -/
theorem unended_complained :
    (call ⟨"/home/u", ""⟩ ["plan", "codes.yaml"] (oneFile "codes.yaml" "codes: [[7, x]")).code =
      .ok 2 := by
  let disk := oneFile "codes.yaml" "codes: [[7, x]"
  have asked : (request disk ["plan", "codes.yaml"]).1 =
      .ok (.run .plan ⟨.ofText "codes.yaml", .ofText ".", "status_codes", "", .upperSnake, "None",
        false, false⟩) := by
    decide +kernel
  have refused : load disk (.ofText "codes.yaml") =
      .error (.malformedYaml "codes.yaml" "while parsing a flow sequence") := by
    decide +kernel
  have told := (input_complaints disk (.ofText "codes.yaml")).2.2 ⟨"/home/u", ""⟩ _ _ _ _ asked rfl
    refused
  exact (told.2.2.1 (.malformed _)).1

/-- A date in a thirteenth month ends in a fault that does not name the file, and the run ends
without a code. -/
theorem month_escapes :
    let dated := oneFile "codes.yaml" "codes: [[2024-13-45, X]]"
    let fault : Fault := .outOfRange "month must be in 1..12"
    load dated (.ofText "codes.yaml") = .error fault ∧
      ¬InputFault (.ofText "codes.yaml") fault ∧
      (call ⟨"/home/u", ""⟩ ["plan", "codes.yaml"] dated).code = .error fault :=
  ⟨by decide +kernel, nofun, by decide +kernel⟩

end Stencil.CommandLine
