import Stencil.Proofs.Code.Globals
import Stencil.StatusTable.Naming

/-!
# What upper snake names are

An upper snake case name is made of capitals, digits and underscores, and does
not start with a digit (`upper_snake_chars`). Every reserved word has a letter
that is no capital, so such a name can always be bound (`upper_snake_named`).
-/

namespace Stencil.StatusTable.Naming

open Code

/-- A character of upper snake case names. -/
def isCapital (c : Char) : Bool := c.isUpper || c.isDigit || c == '_'

/-- The characters of upper snake case names are in ASCII. -/
theorem capital_ascii {c : Char} (capital : isCapital c = true) : c.toNat < 0x80 := by
  simp only [isCapital, Char.isDigit, Bool.or_eq_true] at capital
  delta Char.isUpper at capital
  simp only [Bool.and_eq_true, decide_eq_true_eq, beq_iff_eq, UInt32.le_iff_toNat_le] at capital
  rcases capital with (⟨_, upper⟩ | ⟨_, digit⟩) | rfl
  · exact Nat.lt_of_le_of_lt upper (by decide)
  · exact Nat.lt_of_le_of_lt digit (by decide)
  · decide

/-- Letters and digits are in ASCII. -/
theorem word_ascii {c : Char} (word : isWord c = true) : c.toNat < 0x80 := by
  simp only [isWord, Char.isAlphanum, Char.isDigit] at word
  delta Char.isAlpha Char.isUpper Char.isLower at word
  simp only [Bool.or_eq_true, Bool.and_eq_true, decide_eq_true_eq,
    UInt32.le_iff_toNat_le] at word
  rcases word with (⟨_, upper⟩ | ⟨_, lower⟩) | ⟨_, digit⟩
  · exact Nat.lt_of_le_of_lt upper (by decide)
  · exact Nat.lt_of_le_of_lt lower (by decide)
  · exact Nat.lt_of_le_of_lt digit (by decide)

/-- A letter or digit becomes a capital or stays a digit. -/
theorem capital_of_word {c : Char} (word : isWord c = true) : isCapital c.toUpper = true := by
  have each : ∀ n < 0x80, isWord (Char.ofNat n) = true →
      isCapital (Char.ofNat n).toUpper = true := by decide
  have known := each c.toNat (word_ascii word)
  rw [Char.ofNat_toNat] at known
  exact known word

/-- Collapsing leaves letters, digits and underscores. -/
theorem collapse_chars (written : Bool) (cs : List Char) :
    ∀ c ∈ collapse written cs, isWord c = true ∨ c = '_' := by
  induction cs generalizing written with
  | nil => exact List.forall_mem_nil _
  | cons first rest inductionHypothesis =>
    rw [collapse]
    split
    · rename_i word
      exact List.forall_mem_cons.mpr ⟨.inl word, inductionHypothesis false⟩
    · split
      · exact inductionHypothesis true
      · exact List.forall_mem_cons.mpr ⟨.inr rfl, inductionHypothesis true⟩

/-- Trimming adds nothing. -/
theorem mem_of_trim {cs : List Char} {c : Char} (member : c ∈ trim cs) : c ∈ cs := by
  rw [trim, List.mem_reverse] at member
  have front := (List.dropWhile_sublist _).subset member
  rw [List.mem_reverse] at front
  exact (List.dropWhile_sublist _).subset front

/-- An upper snake case name has a first character, which is no digit, and capitals, digits and
underscores only. -/
theorem upper_snake_chars (cs : List Char) :
    ∃ first rest, upperSnakeChars cs = first :: rest ∧ first.isDigit = false ∧
      ∀ c ∈ first :: rest, isCapital c = true := by
  have capitals : ∀ c ∈ (trim (collapse false cs)).map Char.toUpper, isCapital c = true := by
    intro c member
    obtain ⟨source, kept, rfl⟩ := List.mem_map.mp member
    rcases collapse_chars false cs source (mem_of_trim kept) with word | rfl
    · exact capital_of_word word
    · decide
  unfold upperSnakeChars
  split
  · exact ⟨'_', [], rfl, by decide, List.forall_mem_singleton.mpr (by decide)⟩
  · rename_i first rest chars
    rw [chars] at capitals
    split
    · exact ⟨'_', first :: rest, rfl, by decide, List.forall_mem_cons.mpr ⟨by decide, capitals⟩⟩
    · rename_i noDigit
      exact ⟨first, rest, rfl, by simpa using noDigit, capitals⟩

/-- A capital that is no digit can start a name, and every capital can stand in one. -/
theorem capital_cases {c : Char} (capital : isCapital c = true) :
    (c.isDigit = false → (c.isAlpha || c == '_') = true) ∧ (c.isAlphanum || c == '_') = true := by
  simp only [isCapital, Bool.or_eq_true] at capital
  simp only [Char.isAlphanum]
  delta Char.isAlpha
  simp only [Bool.or_eq_true]
  rcases capital with (upper | digit) | underscore
  · exact ⟨fun _ => .inl (.inl upper), .inl (.inl (.inl upper))⟩
  · refine ⟨fun no => ?_, .inl (.inr digit)⟩
    rw [digit] at no
    cases no
  · exact ⟨fun _ => .inr underscore, .inr underscore⟩

/-- A text with a character that is no capital is no upper snake case name. -/
theorem upper_snake_apart (text : String) {other : String}
    (small : other.toList.all isCapital = false) : upperSnakeText text ≠ other := by
  rintro rfl
  obtain ⟨first, rest, chars, _, capitals⟩ := upper_snake_chars text.toList
  rw [upperSnakeText, String.toList_ofList, chars, List.all_eq_true.mpr capitals] at small
  cases small

/-- An upper snake case name is no reserved word. -/
theorem upper_snake_unreserved (text : String) : upperSnakeText text ∉ reservedWords := by
  have small : ∀ word ∈ reservedWords, word.toList.all isCapital = false := by decide
  exact fun member => upper_snake_apart text (small _ member) rfl

/-- An upper snake case name can be bound, as itself, however names are spelled. -/
theorem upper_snake_named (spelling : Spelling) (text : String) :
    spelling.target? (upperSnakeText text) = some (upperSnakeText text) := by
  obtain ⟨first, rest, chars, noDigit, capitals⟩ := upper_snake_chars text.toList
  have written : (upperSnakeText text).toList = first :: rest := by
    rw [upperSnakeText, String.toList_ofList, chars]
  have ascii : isAscii (upperSnakeText text) = true := by
    rw [isAscii, written, List.all_eq_true]
    exact fun c member => decide_eq_true (capital_ascii (capitals c member))
  obtain ⟨other, noKeyword⟩ := not_or.mp (mt List.mem_cons.mpr (upper_snake_unreserved text))
  have reserved : keywords.contains (upperSnakeText text) = false := by
    rw [List.contains_eq_mem, decide_eq_false_iff_not]
    exact noKeyword
  have name : isName (upperSnakeText text) = true := by
    have behind : rest.all (fun c => c.isAlphanum || c == '_') = true :=
      List.all_eq_true.mpr fun c member =>
        (capital_cases (capitals c (List.mem_cons_of_mem _ member))).2
    rw [isName, written]
    simp only [(capital_cases (capitals first List.mem_cons_self)).1 noDigit, behind, reserved,
      Bool.not_false, Bool.and_self]
  exact spelling.target_ascii ascii name other

end Stencil.StatusTable.Naming
