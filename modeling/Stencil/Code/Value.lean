import Stencil.Fault
import Stencil.Text.Quoted
import Stencil.Decimal.Layout

/-!
# Values

What templates are filled with, tables hold and rules convert: plain data, the
expressions of generated code, and references to stored objects (statements,
bodies, modules and the like, see `Store`). Expressions are plain data too:
two expressions with the same parts are the same.

The module says what a value's kind is called, when two values are equal, which
values can be keys, and how a value is displayed.
-/

namespace Stencil.Code

/-- The shapes of statements. -/
inductive Shape where
  | assignment
  | result
  | raw
  | function
  | conditional
deriving DecidableEq, Repr

/-- A stored statement. -/
structure StatementRef where
  shape : Shape
  id : Nat
deriving DecidableEq, Repr

/-- What an iterator walks through. -/
inductive Walked where
  | list
  | tuple
  | asciiText
  | text
  | bytes
  | dict
deriving DecidableEq, Repr

/-- A reference to a stored object. -/
inductive Ref where
  | statement (ref : StatementRef)
  | block (id : Nat)
  | module (id : Nat)
  | package (id : Nat)
  | template (id : Nat)
  | iterator (walked : Walked) (id : Nat)
  /-- A list that can grow. -/
  | cell (id : Nat)
deriving DecidableEq, Repr

/-- A declared kind of values: its name, its number among the declared kinds, and the plain kind
that it goes back to. A name that is declared again names another kind. -/
structure DeclaredKind where
  name : String
  serial : Nat
  base : String
deriving DecidableEq, Repr, Inhabited

/-- A value. -/
inductive Value where
  | none
  | bool (value : Bool)
  | int (value : Int)
  | float (value : Decimal.Double)
  | text (value : String)
  | bytes (value : List UInt8)
  | list (items : List Value)
  | tuple (items : List Value)
  | dict (entries : List (Value × Value))
  /-- The source text of a literal. -/
  | literal (text : Value)
  /-- A variable. -/
  | reference (name : Value)
  /-- A comparison of two expressions. -/
  | equals (lhs rhs : Value)
  /-- A value of a declared kind, which behaves as the value under it. -/
  | declared (kind : DeclaredKind) (value : Value)
  | object (ref : Ref)
deriving Repr, Inhabited

namespace Shape

/-- The name of a statement's kind. -/
def kind : Shape → String
  | assignment => "Assignment"
  | result => "Return"
  | raw => "Raw"
  | function => "FunctionDefinition"
  | conditional => "IfElse"

end Shape

namespace Walked

/-- The name of an iterator's kind. -/
def kind : Walked → String
  | list => "list_iterator"
  | tuple => "tuple_iterator"
  | asciiText => "str_ascii_iterator"
  | text => "str_iterator"
  | bytes => "bytes_iterator"
  | dict => "dict_keyiterator"

end Walked

namespace Ref

/-- The name of an object's kind. -/
def kind : Ref → String
  | statement ref => ref.shape.kind
  | block _ => "Block"
  | module _ => "Module"
  | package _ => "Package"
  | template _ => "Template"
  | iterator walked _ => walked.kind
  | cell _ => "list"

end Ref

namespace Value

/-- The name of a value's kind. -/
def kind : Value → String
  | none => "NoneType"
  | bool _ => "bool"
  | int _ => "int"
  | float _ => "float"
  | text _ => "str"
  | bytes _ => "bytes"
  | list _ => "list"
  | tuple _ => "tuple"
  | dict _ => "dict"
  | literal _ => "Literal"
  | reference _ => "Variable"
  | equals .. => "Equals"
  | declared kind _ => kind.name
  | object ref => ref.kind

/-- The value under its declared kinds. -/
def plain : Value → Value
  | declared _ value => value.plain
  | value => value

/-- A number among the values: the truth values count as zero and one. -/
inductive Number where
  | int (value : Int)
  | float (value : Decimal.Double)

/-- The number that a value is. -/
def number? : Value → Option Number
  | bool value => some (.int (if value then 1 else 0))
  | int value => some (.int value)
  | float value => some (.float value)
  | _ => Option.none

/-- Equality of numbers across their kinds. -/
def Number.same : Number → Number → Bool
  | int a, int b => a == b
  | int a, float b => b.toInt? == some a
  | float a, int b => a.toInt? == some b
  | float a, float b => a.same b

mutual

/-- Equality of values. Numbers are equal across their kinds, expressions by their parts, stored
objects by identity, and dictionaries whatever their order. -/
def same : Value → Value → Bool
  | none, other => match other.plain with
    | none => true
    | _ => false
  | bool a, other => other.plain.number?.any (Number.same (.int (if a then 1 else 0)))
  | int a, other => other.plain.number?.any (Number.same (.int a))
  | float a, other => other.plain.number?.any (Number.same (.float a))
  | text a, other => match other.plain with
    | text b => a == b
    | _ => false
  | bytes a, other => match other.plain with
    | bytes b => a == b
    | _ => false
  | list a, other => match other.plain with
    | list b => sameItems a b
    | _ => false
  | tuple a, other => match other.plain with
    | tuple b => sameItems a b
    | _ => false
  | dict a, other => match other.plain with
    | dict b => a.length == b.length && sameEntries a b
    | _ => false
  | literal a, other => match other.plain with
    | literal b => same a b
    | _ => false
  | reference a, other => match other.plain with
    | reference b => same a b
    | _ => false
  | equals a b, other => match other.plain with
    | equals c d => same a c && same b d
    | _ => false
  | declared _ a, other => same a other
  | object a, other => match other.plain with
    | object b => a == b
    | _ => false

termination_by structural x => x

/-- Equality item by item. -/
def sameItems : List Value → List Value → Bool
  | [], [] => true
  | a :: as, b :: bs => same a b && sameItems as bs
  | _, _ => false

termination_by structural x => x

/-- Whether the second dictionary binds every key of the first to an equal value. -/
def sameEntries : List (Value × Value) → List (Value × Value) → Bool
  | [], _ => true
  | (key, value) :: rest, others =>
    others.any (fun other => same key other.1 && same value other.2) && sameEntries rest others

termination_by structural x => x

end

mutual

/-- The kind of the first part that keeps a value from being a key. -/
def unhashable? : Value → Option String
  | list _ => some "list"
  | dict _ => some "dict"
  | object (.cell _) => some "list"
  | tuple items => unhashableIn? items
  | literal inner => inner.unhashable?
  | reference inner => inner.unhashable?
  | equals lhs rhs => lhs.unhashable? <|> rhs.unhashable?
  | declared kind value => match value with
    | list _ | dict _ => some kind.name
    | value => value.unhashable?
  | _ => Option.none

/-- The kind of the first part that keeps a list of values from being keys. -/
def unhashableIn? : List Value → Option String
  | [] => Option.none
  | value :: rest => value.unhashable? <|> unhashableIn? rest

end

/-- Bind a key. An equal key keeps its place and its first form. -/
def insertEntry (key value : Value) : List (Value × Value) → List (Value × Value)
  | [] => [(key, value)]
  | (other, old) :: rest =>
    if same key other then (other, value) :: rest else (other, old) :: insertEntry key value rest

/-- The value that a dictionary binds to a key. -/
def lookup? (key : Value) (entries : List (Value × Value)) : Option Value :=
  (entries.find? fun entry => same key entry.1).map Prod.snd

/-- The display of a list between its brackets. -/
def commas (items : List String) : String := ", ".intercalate items

mutual

/-- A value as it is shown inside messages and lists. The parameter names stored objects. -/
def display (name : Ref → String) : Value → String
  | none => "None"
  | bool value => if value then "True" else "False"
  | int value => toString value
  | float value => value.write
  | text value => Text.display value
  | bytes value => Text.displayBytes value
  | list items => "[" ++ commas (displayItems name items) ++ "]"
  | tuple items => match items with
    | [item] => "(" ++ item.display name ++ ",)"
    | items => "(" ++ commas (displayItems name items) ++ ")"
  | dict entries => "\x7b" ++ commas (displayEntries name entries) ++ "\x7d"
  | literal value => "Literal(text=" ++ value.display name ++ ")"
  | reference inner => "Variable(name=" ++ inner.display name ++ ")"
  | equals lhs rhs => "Equals(lhs=" ++ lhs.display name ++ ", rhs=" ++ rhs.display name ++ ")"
  | declared _ value => value.display name
  | object ref => name ref

/-- The items of a list as they are shown. -/
def displayItems (name : Ref → String) : List Value → List String
  | [] => []
  | item :: rest => item.display name :: displayItems name rest

/-- The entries of a dictionary as they are shown. -/
def displayEntries (name : Ref → String) : List (Value × Value) → List String
  | [] => []
  | (key, value) :: rest =>
    (key.display name ++ ": " ++ value.display name) :: displayEntries name rest

end

/-- A stored object where its contents are not known: its kind. -/
def nameKind (ref : Ref) : String := "<" ++ ref.kind ++ " object>"

/-- The text of a value that holds no stored objects: a text itself, anything else displayed. -/
def plainText (value : Value) : String :=
  match value.plain with
  | text value => value
  | value => value.display nameKind

end Value

end Stencil.Code
