import Stencil.Yaml.Scalar

/-!
# Places in a set

A set of numbers is shown in the order of the places that its members take. The
places are a power of two, more than enough for the members. Every number has a
mark, which is the same for equal numbers of different types: its residue modulo
a prime, with the sign of the number. The mark says where to look for a free
place; the members take theirs in the order in which they are written.

Scalars of other types have no mark here, and a set that holds one of them is
shown as it is written.
-/

namespace Stencil.Yaml.Places

open Code

/-- The prime of residues. -/
def prime : Nat := Decimal.twoPow 61 - 1

/-- The residue of `m · 2 ^ q`. It has the same one when the exponent grows by 61. -/
def residue (m : Nat) (q : Int) : Nat := m * Decimal.twoPow (q % 61).toNat % prime

/-- The residue of what has no end. -/
def endless : Nat := 314159

/-- A residue with a sign as a word of 64 bits. Minus one has the word of minus two. -/
def word (negative : Bool) (residue : Nat) : Nat :=
  if negative && residue != 0 then Decimal.twoPow 64 - max residue 2 else residue

/-- The mark of a number. -/
def mark? : Atom → Option Nat
  | .plain (.bool truth) => some truth.toNat
  | .plain (.int n) => some (word (n < 0) (residue n.natAbs 0))
  | .plain (.float (.finite negative m q)) => some (word negative (residue m q))
  | .plain (.float (.infinite negative)) => some (word negative endless)
  | _ => none

/-- How many places there are for a number of members. -/
def count (members : Nat) : Nat :=
  if members ≤ 4 then 8 else Decimal.twoPow (Nat.log2 (2 * members) + 1)

/-- How many places behind a taken one are tried next, if there are so many. -/
def run : Nat := 9

/-- The first free place that is found: a place and the run behind it are tried, and then a place
that depends on five more bits of the mark. The bound counts the places to start from. -/
def free? (places : Nat) (taken : List Nat) : (fuel : Nat) → (start mark : Nat) → Option Nat
  | 0, _, _ => none
  | fuel + 1, start, mark =>
    let tried := if start + run < places then run + 1 else 1
    match ((List.range tried).map (start + ·)).find? fun place => !taken.contains place with
    | some place => some place
    | none => free? places taken fuel ((start * 5 + 1 + mark / 32) % places) (mark / 32)

/-- The place of a member of a mark. After the bits of the mark are used up, every place is
tried in turn. -/
def placeOf (places : Nat) (taken : List Nat) (mark : Nat) : Nat :=
  (free? places taken (places + 13) (mark % places) mark).getD places

/-- Members in the order of their places. -/
def arranged {α : Type} (members : List (α × Nat)) : List α :=
  let places := count members.length
  let put (placed : List (Nat × α)) (member : α × Nat) : List (Nat × α) :=
    (placeOf places (placed.map Prod.fst) member.2, member.1) :: placed
  ((members.foldl put []).mergeSort fun a b => a.1 ≤ b.1).map Prod.snd

/-- Members in the order in which they are shown. -/
def ordered {α : Type} (atom? : α → Option Atom) (members : List α) : List α :=
  match members.mapM fun member => (atom? member).bind mark? |>.map fun mark => (member, mark) with
  | some marked => arranged marked
  | none => members

end Stencil.Yaml.Places
