/-!
# Control sequences

A terminal reads an escape character and a bracket as the start of a control
sequence: parameters, intermediate characters and one final character follow,
each from a range of its own. What is not written to a terminal is written
without them.
-/

namespace Stencil.Text

/-- A character that stands for a parameter in a control sequence. -/
def isParameter (c : Char) : Bool := '0' ≤ c && c ≤ '?'

/-- A character between the parameters and the end of a control sequence. -/
def isIntermediate (c : Char) : Bool := ' ' ≤ c && c ≤ '/'

/-- A character that ends a control sequence. -/
def isFinal (c : Char) : Bool := '@' ≤ c && c ≤ '~'

/-- How many characters of a text behind an escape character belong to a control sequence; none if
it starts with no complete one. -/
def sequenceLength? : List Char → Option Nat
  | '[' :: rest =>
    let parameters := rest.takeWhile isParameter
    let intermediates := (rest.drop parameters.length).takeWhile isIntermediate
    match (rest.drop (parameters.length + intermediates.length)).head? with
    | some c =>
      if isFinal c then some (parameters.length + intermediates.length + 2) else none
    | none => none
  | _ => none

/-- Drop the control sequences of a text, passing over the first `skip` characters. -/
def dropSequencesFrom : (skip : Nat) → List Char → List Char
  | _, [] => []
  | skip + 1, _ :: rest => dropSequencesFrom skip rest
  | 0, c :: rest =>
    if c.toNat = 0x1B then match sequenceLength? rest with
      | some length => dropSequencesFrom length rest
      | none => c :: dropSequencesFrom 0 rest
    else c :: dropSequencesFrom 0 rest

/-- A text without its control sequences. -/
def dropSequences (text : String) : String := String.ofList (dropSequencesFrom 0 text.toList)

end Stencil.Text
