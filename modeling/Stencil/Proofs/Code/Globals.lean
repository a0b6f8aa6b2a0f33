import Stencil.Proofs.Code.Running

/-!
# What a module binds

The statements of a module are run from top to bottom: an assignment binds the
name in front of it to what its literal stands for, a definition binds the
function's name to the function, and a name that is bound again has what it was
bound to last. A module with another statement has no run here, and neither has
one with an assignment to what is no name.

A text of ASCII characters is a name if it is a word and no keyword. Names with
other characters are told apart by a normal form, which is left open
(`Spelling`), as is the question which of them are names. There is one name that
nothing can be bound to (`Spelling.target?`).
-/

namespace Stencil.Code

/-- The words that are no names. -/
def keywords : List String :=
  ["False", "None", "True", "and", "as", "assert", "async", "await", "break", "class", "continue",
    "def", "del", "elif", "else", "except", "finally", "for", "from", "global", "if", "import", "in",
    "is", "lambda", "nonlocal", "not", "or", "pass", "raise", "return", "try", "while", "with",
    "yield"]

/-- The name that nothing can be bound to. -/
def fixedName : String := "__debug__"

/-- The words that nothing can be bound to: the keywords, and the fixed name. -/
def reservedWords : List String := fixedName :: keywords

/-- Whether a text of ASCII characters is a name. -/
def isName (text : String) : Bool :=
  match text.toList with
  | [] => false
  | first :: rest =>
    (first.isAlpha || first == '_') && rest.all (fun c => c.isAlphanum || c == '_') &&
      !keywords.contains text

/-- Whether all characters of a text are in ASCII. -/
def isAscii (text : String) : Bool := text.toList.all fun c => c.toNat < 0x80

/-- How texts are read as names. The name that a text is read as is the one that tells it apart from
other names; in ASCII that is the text itself. -/
structure Spelling where
  name? : String → Option String
  ascii : ∀ text, isAscii text = true → name? text = if isName text then some text else none

/-- The name that a text is read as where something is bound to it. -/
def Spelling.target? (spelling : Spelling) (text : String) : Option String :=
  (spelling.name? text).filter fun name => name != fixedName

/-- The spelling that has no names beyond ASCII. -/
def Spelling.plain : Spelling where
  name? text := if isAscii text && isName text then some text else none
  ascii := by
    intro text ascii
    rw [ascii, Bool.true_and]

/-- What a name is bound to. -/
inductive Global where
  | datum (datum : Datum)
  /-- A function with this body. -/
  | function (body : Nat)
deriving DecidableEq, Repr

/-- What the names of a module are bound to. -/
abbrev Globals := String → Option Global

namespace Globals

/-- Nothing is bound. -/
def none : Globals := fun _ => .none

/-- Bind a name. -/
def bind (globals : Globals) (name : String) (held : Global) : Globals :=
  fun other => if other = name then some held else globals other

/-- The data among what is bound. -/
def data (globals : Globals) : Variables := fun name => match globals name with
  | some (.datum datum) => some datum
  | _ => .none

end Globals

namespace Spelling

variable (spelling : Spelling) (store : Store)

/-- What is bound after a statement, if it is an assignment or a definition. -/
def execute (globals : Globals) (ref : StatementRef) : Option Globals :=
  match store.statements[ref.id]? with
  | some (.assignment (.text target) value) => do
    let name ← spelling.target? target
    let datum ← value.datum? globals.data
    return globals.bind name (.datum datum)
  | some (.function name _ body) => do
    return globals.bind (← spelling.target? name) (.function body)
  | _ => none

/-- What is bound after the statements of a module, from top to bottom. There is no run if some
statement is neither an assignment of a literal nor a definition, or if what is assigned to is no
name. -/
def run (refs : List StatementRef) : Option Globals := refs.foldlM (spelling.execute store) .none

variable {spelling store} {globals : Globals} {ref : StatementRef} {name : String}

/-- What a text is read as where it is bound is what it is read as elsewhere. -/
theorem target_named {text : String} (bound : spelling.target? text = some name) :
    spelling.name? text = some name :=
  (Option.filter_eq_some_iff.mp bound).1

/-- A text of ASCII characters that is a name can be bound, but for the fixed name. -/
theorem target_ascii (spelling : Spelling) {text : String} (ascii : isAscii text = true)
    (named : isName text = true) (other : text ≠ fixedName) :
    spelling.target? text = some text := by
  rw [target?, spelling.ascii text ascii, if_pos named, Option.filter_some,
    if_pos (bne_iff_ne.mpr other)]

/-- A name that was just bound has what it was bound to, and the others have what they had. -/
theorem bind_eq (globals : Globals) (name : String) (held : Global) (other : String) :
    globals.bind name held other = if other = name then some held else globals other := rfl

/-- An assignment of an integer's literal binds the name to the integer. -/
theorem execute_integer {target : String} {number : Int}
    (stored : store.statements[ref.id]? =
      some (.assignment (.text target) (.literal (.text (toString number))))) :
    spelling.execute store globals ref =
      (spelling.target? target).map fun name => globals.bind name (.datum (.int number)) := by
  have datum : (Value.literal (.text (toString number))).datum? globals.data = some (.int number) :=
    literal_int number
  rw [execute, stored]
  simp only [datum]
  cases spelling.target? target <;> rfl

/-- A definition binds the name to the function. -/
theorem execute_function {args : List String} {body : Nat}
    (stored : store.statements[ref.id]? = some (.function name args body)) :
    spelling.execute store globals ref =
      (spelling.target? name).map fun name => globals.bind name (.function body) := by
  rw [execute, stored]
  dsimp only
  cases spelling.target? name <;> rfl

end Spelling

end Stencil.Code
