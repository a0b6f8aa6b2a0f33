import Stencil.Code.Value

/-!
# Names of constants

A status name becomes the name of a constant either as it is or in upper snake
case: every run of characters other than ASCII letters and digits becomes one
underscore, underscores at the ends are dropped, letters become capitals, and a
name that would be empty or start with a digit gets an underscore in front.
-/

namespace Stencil.StatusTable

open Code

/-- The conventions for names. -/
inductive Naming where
  | asIs
  | upperSnake
deriving DecidableEq, Repr

namespace Naming

/-- A convention's name. -/
def text : Naming → String
  | asIs => "as_is"
  | upperSnake => "upper_snake"

/-- The convention of a name. -/
def ofText? (text : String) : Option Naming := [asIs, upperSnake].find? (·.text == text)

/-- A character that a constant's name keeps. -/
def isWord (c : Char) : Bool := c.isAlphanum

/-- Write one underscore for every run of other characters. The flag says that the run before has
its underscore already. -/
def collapse : (written : Bool) → List Char → List Char
  | _, [] => []
  | written, c :: rest =>
    if isWord c then c :: collapse false rest
    else if written then collapse true rest
    else '_' :: collapse true rest

/-- Drop underscores at both ends. -/
def trim (cs : List Char) : List Char :=
  ((cs.dropWhile (· = '_')).reverse.dropWhile (· = '_')).reverse

/-- An upper snake case name. -/
def upperSnakeChars (cs : List Char) : List Char :=
  match (trim (collapse false cs)).map Char.toUpper with
  | [] => ['_']
  | c :: rest => if c.isDigit then '_' :: c :: rest else c :: rest

/-- An upper snake case name. -/
def upperSnakeText (text : String) : String := String.ofList (upperSnakeChars text.toList)

/-- The name of a constant. Only texts have an upper snake case form. -/
def apply (naming : Naming) (name : Value) : Except Fault Value :=
  match naming with
  | .asIs => .ok name
  | .upperSnake => match name.plain with
    | .text written => .ok (.text (upperSnakeText written))
    | .bytes _ => .error .textPatternOnBytes
    | _ => .error (.expectedText name.kind)

end Naming

end Stencil.StatusTable
