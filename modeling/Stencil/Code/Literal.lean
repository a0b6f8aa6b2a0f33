import Stencil.Code.Value
import Stencil.Decimal.Reading

/-!
# Literals of values

The source text that stands for a plain value: `None`, truth values, integers,
finite doubles and texts have one. Texts are written between double quotes on
one line.
-/

namespace Stencil.Code

/-- The source text of an integer, up to the limit of digits. -/
def intSource (value : Int) : Except Fault String :=
  if Decimal.tenPow Decimal.digitLimit ≤ value.natAbs then .error .tooManyDigitsToWrite
  else .ok (toString value)

namespace Value

mutual

/-- Whether every integer in a value is within the limit of digits, so that the value can be shown. -/
def isWritable : Value → Bool
  | int number => decide (number.natAbs < Decimal.tenPow Decimal.digitLimit)
  | list items => areWritable items
  | tuple items => areWritable items
  | dict entries => entriesWritable entries
  | literal inner => inner.isWritable
  | reference inner => inner.isWritable
  | equals lhs rhs => lhs.isWritable && rhs.isWritable
  | declared _ value => value.isWritable
  | _ => true

/-- Whether every integer in some values is within the limit of digits. -/
def areWritable : List Value → Bool
  | [] => true
  | value :: rest => value.isWritable && areWritable rest

/-- Whether every integer in the entries of a dictionary is within the limit of digits. -/
def entriesWritable : List (Value × Value) → Bool
  | [] => true
  | (key, value) :: rest => key.isWritable && value.isWritable && entriesWritable rest

end

end Value

/-- The source text of a value. -/
def literalSource (value : Value) : Except Fault String :=
  match value.plain with
  | .none => .ok "None"
  | .bool true => .ok "True"
  | .bool false => .ok "False"
  | .int number => intSource number
  | .float number => match number with
    | .finite .. => .ok number.write
    | number => .error (.unquotableDouble number.write)
  | .text written => .ok (String.ofList (Text.quote written.toList))
  | _ => .error (.unquotable value.kind)

/-- The literal of a value. -/
def literalOf (value : Value) : Except Fault Value :=
  (literalSource value).map fun source => .literal (.text source)

end Stencil.Code
