/-!
# Base 64

Four characters carry three bytes. Characters outside of the alphabet are
skipped; equals signs fill up the last group of four and end the data.
-/

namespace Stencil.Yaml.Base64

/-- The six bits of a character. -/
def value? (c : Char) : Option Nat :=
  if 'A' ≤ c ∧ c ≤ 'Z' then some (c.toNat - 65)
  else if 'a' ≤ c ∧ c ≤ 'z' then some (c.toNat - 71)
  else if '0' ≤ c ∧ c ≤ '9' then some (c.toNat + 4)
  else if c = '+' then some 62
  else if c = '/' then some 63
  else none

/-- Data that stops inside a group. -/
inductive Fault where
  /-- One character alone carries no byte. -/
  | single (characters : Nat)
  | unfilled
deriving DecidableEq, Repr

/-- The wording of a fault. -/
def Fault.message : Fault → String
  | single characters =>
    "Invalid base64-encoded string: number of data characters (" ++ toString characters
      ++ ") cannot be 1 more than a multiple of 4"
  | unfilled => "Incorrect padding"

/-- Decode from inside a group: the place in the group, the bits left over, the equals signs just
read and the number of bytes so far. -/
def decodeFrom (place left pads count : Nat) : List Char → Except Fault (List UInt8)
  | [] =>
    if place = 0 then .ok []
    else if place = 1 then .error (.single (count / 3 * 4 + 1))
    else .error .unfilled
  | c :: rest =>
    if c = '=' then
      if 2 ≤ place ∧ 4 ≤ place + (pads + 1) then .ok []
      else decodeFrom place left (if 2 ≤ place then pads + 1 else pads) count rest
    else match value? c with
      | none => decodeFrom place left pads count rest
      | some bits =>
        let byte (high low : Nat) (place left : Nat) : Except Fault (List UInt8) :=
          (decodeFrom place left 0 (count + 1) rest).map (UInt8.ofNat (high + low) :: ·)
        match place with
        | 0 => decodeFrom 1 bits 0 count rest
        | 1 => byte (left * 4) (bits / 16) 2 (bits % 16)
        | 2 => byte (left * 16) (bits / 4) 3 (bits % 4)
        | _ => byte (left * 64) bits 0 0

/-- Decode a text. -/
def decode (cs : List Char) : Except Fault (List UInt8) := decodeFrom 0 0 0 0 cs

end Stencil.Yaml.Base64
