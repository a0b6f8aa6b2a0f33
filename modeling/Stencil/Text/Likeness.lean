/-!
# Likeness of words

How much two words have in common, counted in blocks: the longest run of
characters that stands in both is one block, and the parts before and behind
it are compared in the same way. `closest` offers the names that are most like
a word.
-/

namespace Stencil.Text

/-- The length of the common start of two texts. -/
def commonStart : List Char → List Char → Nat
  | a :: as, b :: bs => if a = b then commonStart as bs + 1 else 0
  | _, _ => 0

/-- A run of characters that stands in two texts: where it starts in each, and its length. -/
structure Block where
  left : Nat
  right : Nat
  length : Nat
deriving DecidableEq, Repr

/-- The longest block at the start of the first text, the second text's places counted from
`right` on, if it is longer than the best one known. -/
def longestAt (left : Nat) (as : List Char) : (right : Nat) → List Char → Block → Block
  | _, [], best => best
  | right, b :: bs, best =>
    let length := commonStart as (b :: bs)
    let best := if best.length < length then ⟨left, right, length⟩ else best
    longestAt left as (right + 1) bs best

/-- The longest block of two texts, the first text's places counted from `left` on, if it is longer
than the best one known. Of equally long ones the first counts. -/
def longestFrom (bs : List Char) : (left : Nat) → List Char → Block → Block
  | _, [], best => best
  | left, a :: as, best => longestFrom bs (left + 1) as (longestAt left (a :: as) 0 bs best)

/-- The longest block of two texts. -/
def longest (as bs : List Char) : Block := longestFrom bs 0 as ⟨0, 0, 0⟩

/-- How many characters of two texts lie in common blocks. Every block shortens both, which the
bound counts. -/
def sharedWithin : (fuel : Nat) → List Char → List Char → Nat
  | 0, _, _ => 0
  | fuel + 1, as, bs =>
    let block := longest as bs
    if block.length = 0 then 0
    else
      block.length + sharedWithin fuel (as.take block.left) (bs.take block.right)
        + sharedWithin fuel (as.drop (block.left + block.length))
          (bs.drop (block.right + block.length))

/-- The likeness of two words: the characters of both that lie in common blocks, out of all. -/
structure Likeness where
  shared : Nat
  total : Nat
deriving DecidableEq, Repr

namespace Likeness

/-- The likeness of two words. -/
def of (a b : String) : Likeness :=
  let as := a.toList
  let bs := b.toList
  ⟨2 * sharedWithin (as.length + 1) as bs, as.length + bs.length⟩

/-- Whether three fifths of the characters are shared, or more. -/
def isClose (likeness : Likeness) : Bool := 3 * likeness.total ≤ 5 * likeness.shared

/-- The order of likenesses by the part that is shared. -/
def order (a b : Likeness) : Ordering := compare (a.shared * b.total) (b.shared * a.total)

end Likeness

/-- How many names are offered for a word at most. -/
def offerLimit : Nat := 3

/-- The names that are close to a word, in the order of names. Only the closest are offered; of
equally close ones the last in the order of names come first. -/
def closest (word : String) (names : List String) : List String :=
  let rated := names.filterMap fun name =>
    let likeness := Likeness.of name word
    if likeness.isClose then some (likeness, name) else none
  let before (a b : Likeness × String) : Bool :=
    match a.1.order b.1 with
    | .gt => true
    | .lt => false
    | .eq => b.2 ≤ a.2
  (((rated.mergeSort before).take offerLimit).map Prod.snd).mergeSort fun a b => decide (a ≤ b)

end Stencil.Text
