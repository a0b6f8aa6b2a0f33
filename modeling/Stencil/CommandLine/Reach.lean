import Stencil.CommandLine.Run

/-!
# What a call looks at

A call looks at few places: where its words lead, where the files it makes go,
and where their backups go. A disk that holds these, and the directories on the
way, serves a call as well as one that holds everything.
-/

namespace Stencil.CommandLine

open Code Disk Output

/-- The paths that a command's words name: where the output goes and, if there is one, the
input. -/
def Reading.paths (reading : Reading) : List Path :=
  ((reading.value? .out).getD "." :: reading.arguments.take 1).map Path.ofText

/-- The paths that a command line names. -/
def namedPaths (words : List String) : List Path :=
  let paths : Except Misuse (List Path) := do
    let reading ← programGrammar.read words
    match reading.arguments with
    | [] => return []
    | name :: rest => match Command.ofText? name with
      | none => return []
      | some command => return (← command.grammar.read rest).paths
  paths.toOption.getD []

/-- The target of a file, and both places that its backup may go to. -/
def targetPaths (stamp : String) (out : Path) (file : OutputFile) : List Path :=
  let target := out.join file.path
  let copy := backupPath target stamp
  [target, copy, { copy with parts := copy.parts ++ target.parts.getLast?.toList }]

/-- The paths that a call may write to, told by a disk that holds what its words name. -/
def writtenPaths (around : Surroundings) (words : List String) (disk : Disk) : List Path :=
  match request disk words with
  | (.ok (.run _ settings), _) =>
    ((settings.files disk).toOption.getD []).zipIdx.flatMap fun (file, moment) =>
      targetPaths (around.clock.shows moment) settings.out file
  | _ => []

end Stencil.CommandLine
