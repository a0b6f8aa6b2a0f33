import Stencil.Code.Cast
import Stencil.Conversion.Tag

/-!
# Declared kinds

Kinds of values that extend other kinds. A value of a declared kind is a value
of the plain kind that its kind goes back to, and keeps its own kind: rules are
chosen by that alone, so a declared kind has none of the rules of what it
extends. A name that is declared hides what it named before.

Two kinds cannot be extended, and a kind that extends nothing but `object` has
values that hold nothing.

A kind can be called with one value, which it casts. Where it stands in the
place of a rule's function it is called with a role in front of the value, which
no kind takes (`castFault`).
-/

namespace Stencil.Conversion

open Code

/-- The kinds that need no declaration. -/
def plainKinds : List String :=
  ["int", "str", "float", "bool", "list", "tuple", "dict", "bytes", "object", "NoneType"]

/-- The plain kinds that cannot be extended. -/
def finalKinds : List String := ["bool", "NoneType"]

/-- The value of a plain kind that a value is cast to. The name is that of the kind that is asked
for it. -/
def castTo (name base : String) (value : Value) : Build Value := do
  match base with
  | "bool" => return .bool ((← get).isTrue value)
  | "int" => return .int (← intOf value)
  | "float" => return .float (← doubleOf value)
  | "str" => return .text (← (← get).text value)
  | "bytes" => return .bytes (← bytesOf value)
  | "list" => return .list (← itemsOf value)
  | "tuple" => return .tuple (← itemsOf value)
  | "dict" => return .dict (← entriesOf value)
  | "NoneType" => throw .noneTakesNoValue
  | _ => throw (.takesNoValue name)

/-- The value of a tag's kind that a value is cast to. Only kinds have values. -/
def Tag.construct (tag : Tag) (value : Value) : Build Value := do
  match tag with
  | .kind name => castTo name name value
  | .declared held => return .declared held (← castTo held.name held.base value)
  | .mark held => throw (.notCallable held.kind)

/-- What keeps a value from naming an encoding, if anything does. The name is that of the kind that
is asked for it. -/
def encodingFault? (name : String) (value : Value) : Option Fault :=
  match value.plain with
  | .text written =>
    if written.toList.contains '\x00' then some (.outOfRange "embedded null character") else none
  | .none => some (.unfitCall (name ++ "() argument 'encoding' must be str, not None"))
  | _ => some (.unfitCall
      (name ++ "() argument 'encoding' must be str, not " ++ Text.clip 50 value.kind))

/-- The fault of asking a plain kind for what a role and a value behind it stand for. No kind takes
both. The name is that of the kind that is asked. -/
def castFault (name base role : String) (value : Value) : Fault :=
  match base with
  | "int" => match integerOf value with
    | .error fault => fault
    | .ok number =>
      if (number ≠ 0 ∧ number < 2) ∨ 36 < number then
        .outOfRange "int() base must be >= 2 and <= 36, or 0"
      else .unfitCall "int() can't convert non-string with explicit base"
  | "str" => (encodingFault? base value).getD
      (.unfitCall ("decoding to str: need a bytes-like object, " ++ Text.clip 80 role ++ " found"))
  | "bytes" => (encodingFault? base value).getD (.unfitCall "encoding without a string argument")
  | "NoneType" => .noneTakesNoValue
  | "object" => .takesNoValue name
  | _ => .unfitCall (base ++ " expected at most 1 argument, got 2")

/-- The fault of calling what a tag stands for with a role and a value, as rules call functions. -/
def Tag.callFault (tag : Tag) (role : String) (value : Value) : Fault :=
  match tag with
  | .kind name => castFault name name role value
  | .declared held => castFault held.name held.base role value
  | .mark held => .notCallable held.kind

/-- Refuse a name that the character zero would end. -/
def checkName (name : String) : Except Fault Unit :=
  if name.toList.contains '\x00' then .error .nulInName else .ok ()

/-- Declared kinds, newest first. -/
abbrev Kinds := List DeclaredKind

namespace Kinds

/-- The tag of the kind of a name, which has to be there. -/
def tag (kinds : Kinds) (name : String) : Except Fault Tag :=
  match kinds.find? (·.name == name) with
  | some kind => .ok (.declared kind)
  | none =>
    if plainKinds.contains name then .ok (.kind name)
    else .error (.missingKey (Text.display name))

/-- Declare a kind. -/
def declare (kinds : Kinds) (name base : String) : Except Fault Kinds := do
  let extended ← match ← kinds.tag base with
    | .declared kind => pure kind.base
    | _ => if finalKinds.contains base then throw (.finalBase base) else pure base
  checkName name
  return ⟨name, kinds.length, extended⟩ :: kinds

/-- A value of the kind of a name. -/
def construct (kinds : Kinds) (name : String) (value : Value) : Build Value := do
  (← kinds.tag name).construct value

end Kinds

end Stencil.Conversion
