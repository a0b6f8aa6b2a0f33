import Stencil.Fault
import Stencil.Code.Value

/-!
# Tags

What a conversion goes from and what it goes to. A tag is a kind of values or a
mark, which is any value that can be a key. Marks are equal as values are, so
`1`, `true` and `1.0` are one mark; a kind is equal to itself alone, and two
declared kinds are different also if they have one name.

A pair that a function declares remembers where it was declared, since it is
the same pair wherever it is inherited, even if its marks are not equal to
themselves.
-/

namespace Stencil.Conversion

open Code

/-- One end of a conversion. -/
inductive Tag where
  | kind (name : String)
  | declared (kind : DeclaredKind)
  | mark (value : Value)
deriving Repr, Inhabited

namespace Tag

/-- Equality of tags. -/
def same : Tag → Tag → Bool
  | .kind a, .kind b => a == b
  | .declared a, .declared b => a == b
  | .mark a, .mark b => a.same b
  | _, _ => false

/-- A tag as it is named in messages and listings. -/
def label : Tag → String
  | .kind name => name
  | .declared held => held.name
  | .mark value => value.display Value.nameKind

/-- The kind of what keeps a tag from being a key. -/
def unhashable? : Tag → Option String
  | mark value => value.unhashable?
  | _ => none

/-- Whether a tag is a kind. -/
def isKind : Tag → Bool
  | mark _ => false
  | _ => true

/-- The mark that stands for no tag at all. -/
def absent : Tag := mark .none

/-- A tag that is given: every one but the absent one. -/
def given? : Tag → Option Tag
  | mark .none => none
  | tag => some tag

/-- The tag of the values of a value's kind. -/
def ofValue : Value → Tag
  | .declared held _ => .declared held
  | value => .kind value.kind

end Tag

/-- Where a pair was declared: the function's number, and the pair's number in the function. -/
structure Origin where
  function : Nat
  index : Nat
deriving DecidableEq, Repr

/-- Both ends of a conversion, and where they were declared as a pair if a function did that. -/
structure Pair where
  input : Tag
  output : Tag
  origin : Option Origin
deriving Repr, Inhabited

namespace Pair

/-- The pair of two tags, which no function declares. -/
def ofTags (input output : Tag) : Pair := ⟨input, output, none⟩

/-- Equality of pairs: of what was declared in one place, or of both ends. -/
def same (a b : Pair) : Bool :=
  (a.origin.isSome && a.origin == b.origin) || (a.input.same b.input && a.output.same b.output)

/-- A pair as it is listed. -/
def describe (pair : Pair) : String := pair.input.label ++ " -> " ++ pair.output.label

/-- Refuse a pair that cannot be a key, for its first faulty end. -/
def checkKey (pair : Pair) : Except Fault Unit :=
  match pair.input.unhashable? <|> pair.output.unhashable? with
  | some kind => .error (.unhashable kind)
  | none => .ok ()

end Pair

end Stencil.Conversion
