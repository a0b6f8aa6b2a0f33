import Stencil.Text.Likeness
import Stencil.Text.Quoted
import Stencil.Conversion.Order

/-!
# Options

Reading the words of a command line. A word of two dashes and a name is an
option, and so is each letter of a word of one dash; what follows an equals
sign is the option's value, or else the next word is, whatever it looks like.
The word `--` ends the options. A grammar either takes options between the
arguments too, or takes the first argument to end them.

Of an option that is given more than once the last value counts and the first
place. A word that names no option or command is answered with the names that
are like it.
-/

namespace Stencil.CommandLine

/-- What options set. -/
inductive Setting where
  | out
  | module
  | package
  | naming
  | default
  | backup
  | print
  | verbose
  | help
deriving DecidableEq, Repr

/-- An option: how it is written, and whether it has a value. -/
structure Form where
  setting : Setting
  long : String
  short : Option Char
  takesValue : Bool
deriving DecidableEq, Repr

/-- The options of a command, and whether they may stand behind arguments. -/
structure Grammar where
  forms : List Form
  interspersed : Bool
deriving DecidableEq, Repr

/-- A use that the grammar of a command line does not allow. -/
inductive Misuse where
  | unknownOption (name : String) (close : List String)
  | missingValue (name : String)
  | surplusValue (name : String)
  | missingCommand
  | unknownCommand (name : String) (close : List String)
  | missingInput
  | surplusArguments (arguments : List String)
  | unknownNaming (text : String) (known : List String)
  | outIsFile (text : String)
deriving DecidableEq, Repr

namespace Misuse

/-- The names that may have been meant, as a misuse adds them. -/
def proposal : List String → String
  | [] => ""
  | [name] => " Did you mean " ++ Text.display name ++ "?"
  | names => " (Did you mean one of: " ++ ", ".intercalate (names.map Text.display) ++ "?)"

/-- The wording of a misuse. -/
def message : Misuse → String
  | unknownOption name close => "No such option " ++ Text.display name ++ "." ++ proposal close
  | missingValue name => "Option " ++ Text.display name ++ " requires an argument."
  | surplusValue name => "Option " ++ Text.display name ++ " does not take a value."
  | missingCommand => "Missing command."
  | unknownCommand name close =>
    "No such command " ++ Text.display name ++ "." ++ proposal close
  | missingInput => "Missing argument 'INPUT_PATH'."
  | surplusArguments arguments =>
    "Got unexpected extra argument" ++ (if arguments.length = 1 then "" else "s")
      ++ " (" ++ " ".intercalate arguments ++ ")"
  | unknownNaming text known =>
    "Invalid value for '--naming': " ++ Text.display text ++ " is not one of "
      ++ ", ".intercalate (known.map Text.display) ++ "."
  | outIsFile text => "Invalid value for '--out': Directory " ++ Text.display text ++ " is a file."

/-- Whether the message of a misuse comes with the usage of the command. -/
def showsUsage : Misuse → Bool
  | missingValue _ | surplusValue _ => false
  | _ => true

end Misuse

/-- What the words of a command line say: the options with their values and the arguments, in
order. -/
structure Reading where
  given : List (Setting × String)
  arguments : List String
deriving DecidableEq, Repr

namespace Reading

/-- The settings given, at their first places. -/
def settings (reading : Reading) : List Setting :=
  Conversion.Order.distinct (reading.given.map Prod.fst)

/-- Whether a setting is given. -/
def has (reading : Reading) (setting : Setting) : Bool :=
  reading.given.any fun given => given.1 = setting

/-- The last value of a setting. -/
def value? (reading : Reading) (setting : Setting) : Option String :=
  reading.given.reverse.lookup setting

end Reading

/-- Whether a word is an option. -/
def isOption (word : String) : Bool :=
  match word.toList with
  | '-' :: _ :: _ => true
  | _ => false

/-- An option's name and the value behind its equals sign. -/
def splitOption (word : String) : String × Option String :=
  let cs := word.toList
  let name := String.ofList (cs.takeWhile (· ≠ '='))
  match cs.dropWhile (· ≠ '=') with
  | [] => (name, none)
  | _ :: value => (name, some (String.ofList value))

namespace Grammar

/-- The settings of letters behind one dash. -/
def letters (grammar : Grammar) : List Char → Except Misuse (List (Setting × String))
  | [] => .ok []
  | c :: rest =>
    match grammar.forms.find? fun form => form.short = some c with
    | some form => do return (form.setting, "") :: (← grammar.letters rest)
    | none => .error (.unknownOption (String.ofList ['-', c]) [])

/-- What one option says: the settings it gives, or the setting whose value is the next word. -/
def option (grammar : Grammar) (word : String) :
    Except Misuse (List (Setting × String) × Option (Setting × String)) :=
  let (name, value) := splitOption word
  match grammar.forms.find? fun form => form.long = name with
  | some form => match form.takesValue, value with
    | true, some value => .ok ([(form.setting, value)], none)
    | true, none => .ok ([], some (form.setting, name))
    | false, some _ => .error (.surplusValue name)
    | false, none => .ok ([(form.setting, "")], none)
  | none => match word.toList with
    | '-' :: '-' :: _ =>
      .error (.unknownOption name (Text.closest name (grammar.forms.map Form.long)))
    | cs => do return (← grammar.letters cs.tail, none)

/-- Read words. If a setting awaits its value the first word is that, whatever it looks like. -/
def readFrom (grammar : Grammar) (reading : Reading) :
    (awaiting : Option (Setting × String)) → List String → Except Misuse Reading
  | some (_, name), [] => .error (.missingValue name)
  | none, [] => .ok reading
  | some (setting, _), word :: rest =>
    grammar.readFrom { reading with given := reading.given ++ [(setting, word)] } none rest
  | none, word :: rest =>
    if word = "--" then .ok { reading with arguments := reading.arguments ++ rest }
    else if isOption word then do
      let (given, awaiting) ← grammar.option word
      grammar.readFrom { reading with given := reading.given ++ given } awaiting rest
    else if grammar.interspersed then
      grammar.readFrom { reading with arguments := reading.arguments ++ [word] } none rest
    else .ok { reading with arguments := reading.arguments ++ word :: rest }

/-- Read the words of a command line. -/
def read (grammar : Grammar) (words : List String) : Except Misuse Reading :=
  grammar.readFrom ⟨[], []⟩ none words

end Grammar

end Stencil.CommandLine
