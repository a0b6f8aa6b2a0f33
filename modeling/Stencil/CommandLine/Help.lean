import Stencil.CommandLine.Option
import Stencil.Text.Sequence

/-!
# Commands and their help

The program has two commands. Each has its options and its help; usage errors
show the first line of the help and where to find the rest.
-/

namespace Stencil.CommandLine

/-- The commands. -/
inductive Command where
  | plan
  | generate
deriving DecidableEq, Repr

namespace Command

/-- A command's name. -/
def text : Command → String
  | plan => "plan"
  | generate => "generate"

/-- All commands. -/
def all : List Command := [generate, plan]

/-- The command of a name. -/
def ofText? (text : String) : Option Command := all.find? (·.text == text)

end Command

/-- The option that asks for help. -/
def helpForm : Form := ⟨.help, "--help", some 'h', false⟩

/-- The options before the command. -/
def programGrammar : Grammar :=
  ⟨[⟨.verbose, "--verbose", some 'v', false⟩, helpForm], false⟩

/-- The options of both commands. -/
def sharedForms : List Form :=
  [⟨.out, "--out", none, true⟩, ⟨.module, "--module", none, true⟩,
    ⟨.package, "--package", none, true⟩, ⟨.naming, "--naming", none, true⟩,
    ⟨.default, "--default", none, true⟩]

/-- The options of a command. -/
def Command.grammar : Command → Grammar
  | .plan => ⟨sharedForms ++ [helpForm], true⟩
  | .generate =>
    let flags : List Form :=
      [⟨.backup, "--backup", none, false⟩, ⟨.print, "--print", none, false⟩]
    ⟨sharedForms ++ flags ++ [helpForm], true⟩

/-- How the program is called, up to the command. -/
def callName : Option Command → String
  | none => "codemaker"
  | some command => "codemaker " ++ command.text

/-- The first line of the help. -/
def usage (command : Option Command) : String :=
  let arguments := match command with
    | none => "[OPTIONS] COMMAND [ARGS]..."
    | some _ => "[OPTIONS] INPUT_PATH"
  "Usage: " ++ callName command ++ " " ++ arguments ++ "\n"

/-- The help on the options that both commands have. -/
def sharedHelp : String :=
  "  --out DIRECTORY               Directory the generated files are rooted at.
                                [default: .]
  --module TEXT                 Name of the generated module.  [default:
                                status_codes]
  --package TEXT                Wrap the module in a package of this name.
  --naming [as_is|upper_snake]  Naming convention for the generated constants.
                                [default: upper_snake]
  --default TEXT                Python expression returned for unknown codes.
                                [default: None]
"

/-- The help on the options that only `generate` has. -/
def generateHelp : String :=
  "  --backup                      Back up files before overwriting them.
  --print                       Print the generated source.
"

/-- The help on help. -/
def helpHelp : String := "  -h, --help                    Show this message and exit.\n"

/-- The help of the program or of a command. -/
def help : Option Command → String
  | none =>
    usage none ++ "
  Generate Python modules from status-code tables.

Options:
  -v, --verbose  Enable debug logging.
  -h, --help     Show this message and exit.

Commands:
  generate  Generate the files and write them to disk.
  plan      Build and print a dry-run plan of the generated files.
"
  | some .plan =>
    usage (some .plan) ++ "
  Build and print a dry-run plan of the generated files.

Options:
" ++ sharedHelp ++ helpHelp
  | some .generate =>
    usage (some .generate) ++ "
  Generate the files and write them to disk.

Options:
" ++ sharedHelp ++ generateHelp ++ helpHelp

/-- What is written about an error. It cannot steer the terminal. -/
def errorText (message : String) : String :=
  "Error: " ++ Text.dropSequences message ++ "\n"

/-- What is written about a misuse of the program or of a command. -/
def Misuse.report (command : Option Command) (misuse : Misuse) : String :=
  if misuse.showsUsage then
    usage command ++ "Try '" ++ callName command ++ " --help' for help.\n\n"
      ++ errorText misuse.message
  else errorText misuse.message

end Stencil.CommandLine
