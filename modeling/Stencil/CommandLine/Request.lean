import Stencil.CommandLine.Help
import Stencil.StatusTable.Naming
import Stencil.Disk.Tree

/-!
# Requests

What a command line asks for. A request for help comes before everything that
the values of options can do wrong, but not before words that cannot be read.
The values given are checked in the order in which the options stand; then the
input has to be named, and nothing more may be.
-/

namespace Stencil.CommandLine

open Code Disk StatusTable

/-- What a command works with. -/
structure Settings where
  input : Path
  out : Path
  moduleName : String
  packageName : String
  naming : Naming
  default : String
  backup : Bool
  print : Bool
deriving DecidableEq, Repr

/-- What a command line asks for. -/
inductive Request where
  | help (command : Option Command)
  | run (command : Command) (settings : Settings)
deriving DecidableEq, Repr

/-- Why a command line asks for nothing that can be done. -/
inductive Refusal where
  /-- There are no words at all. -/
  | noWords
  | misuse (command : Option Command) (misuse : Misuse)
  | fault (fault : Fault)
deriving DecidableEq, Repr

/-- A letter without regard to case. The long s and the Kelvin sign are forms of letters too. -/
def foldLetter (c : Char) : Char :=
  if c = 'ſ' then 's' else if c.toNat = 0x212A then 'k' else c.toLower

/-- The naming convention that a text names, without regard to case. -/
def namingOf (text : String) : Option Naming :=
  Naming.ofText? (String.ofList (text.toList.map foldLetter))

/-- The names of the naming conventions. -/
def namingNames : List String := [Naming.asIs.text, Naming.upperSnake.text]

/-- Check the value of a setting. -/
def checkValue (disk : Disk) (command : Command) (reading : Reading) (setting : Setting) :
    Except Refusal Unit := do
  let value := (reading.value? setting).getD ""
  match setting with
  | .out =>
    if ← (disk.namesFile value).mapError .fault then
      throw (.misuse (some command) (.outIsFile value))
  | .naming =>
    if (namingOf value).isNone then
      throw (.misuse (some command) (.unknownNaming value namingNames))
  | _ => pure ()

/-- The settings of a command. -/
def Command.settings (disk : Disk) (command : Command) (reading : Reading) :
    Except Refusal Settings := do
  reading.settings.forM (checkValue disk command reading)
  let value (setting : Setting) (fallback : String) : String :=
    (reading.value? setting).getD fallback
  match reading.arguments with
  | [] => throw (.misuse (some command) .missingInput)
  | input :: rest =>
    let input := Path.ofText input
    (checkNul input).mapError .fault
    if rest ≠ [] then throw (.misuse (some command) (.surplusArguments rest))
    return {
      input
      out := .ofText (value .out ".")
      moduleName := value .module "status_codes"
      packageName := value .package ""
      naming := ((reading.value? .naming).bind namingOf).getD .upperSnake
      default := value .default "None"
      backup := reading.has .backup
      print := reading.has .print }

/-- What a command's words ask for. -/
def Command.request (disk : Disk) (command : Command) (words : List String) :
    Except Refusal Request := do
  let reading ← (command.grammar.read words).mapError (.misuse (some command))
  if reading.has .help then return .help (some command)
  return .run command (← command.settings disk reading)

/-- What is wrong with words that name no command. What looks like an option is read as one. -/
def unknownCommand (words : List String) : Except Refusal Request := do
  let name := words.headD ""
  let close := Text.closest name (Command.all.map Command.text)
  let unknown : Except Refusal Request := throw (.misuse none (.unknownCommand name close))
  if isOption name then
    let reading ← (programGrammar.read words).mapError (.misuse none)
    if reading.has .help then return .help none
    unknown
  else unknown

/-- What a command line asks for, and whether notes are wanted. -/
def request (disk : Disk) (words : List String) : Except Refusal Request × Bool :=
  if words = [] then (.error .noWords, false)
  else match programGrammar.read words with
    | .error misuse => (.error (.misuse none misuse), false)
    | .ok reading =>
      let verbose := reading.has .verbose
      if reading.has .help then (.ok (.help none), verbose)
      else match reading.arguments with
        | [] => (.error (.misuse none .missingCommand), verbose)
        | name :: rest => match Command.ofText? name with
          | some command => (command.request disk rest, verbose)
          | none => (unknownCommand (name :: rest), verbose)

end Stencil.CommandLine
