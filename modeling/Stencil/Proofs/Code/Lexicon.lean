import Stencil.Proofs.Code.Decoding

/-!
# The lexical grammar of literals

Which texts are numbers and strings of generated code, said without anything
that writes or cuts them.

A number is decimal, with a sign or not: an integer, or digits with a point or an
exponent. Its digits are those of ASCII, with single underscores between them. An
integer that is not zero does not start with a zero.

A string is on one line, between two equal quotes that stand bare nowhere else. A
backslash in it opens an escape. The escapes themselves are given to the grammar
(`StringBody`), as there are two readings of it: `IsEscape` has the escapes that
stand for a character, and `IsTolerated` also lets a backslash stand for itself.
-/

namespace Stencil.Code

/-- What the grammar leaves to a release of the language and to its settings: how many digits of an
integer are converted, and the names of characters. The names are of ASCII letters and digits,
blanks and hyphens. -/
structure Release where
  integerDigits : Nat
  Named : List Char → Prop
  plain : ∀ name, Named name → ∀ c ∈ name, c.isAlphanum = true ∨ c = ' ' ∨ c = '-'

/-- The release that converts integers within the usual limit and knows no name of a character. -/
instance : Inhabited Release := ⟨⟨Decimal.digitLimit, fun _ => False, fun _ => False.elim⟩⟩

/-! ## Numbers -/

/-- Digits with single underscores between them. -/
inductive DigitPart : List Char → Prop where
  | last (c : Char) (digit : c.isDigit = true) : DigitPart [c]
  | next (c : Char) (rest : List Char) (digit : c.isDigit = true) (tail : DigitPart rest) :
      DigitPart (c :: rest)
  | underscore (c : Char) (rest : List Char) (digit : c.isDigit = true) (tail : DigitPart rest) :
      DigitPart (c :: '_' :: rest)

/-- A decimal integer. It is written with zeros alone, or it starts with another digit and has no
more digits than are converted. -/
def DecimalInteger (release : Release) (text : List Char) : Prop :=
  DigitPart text ∧ ((∀ c ∈ text, c = '0' ∨ c = '_') ∨
    text.head? ≠ some '0' ∧ (text.filter Char.isDigit).length ≤ release.integerDigits)

/-- Digits with a point: before it, behind it, or on both sides. -/
inductive PointFloat : List Char → Prop where
  | whole (digits : List Char) (before : DigitPart digits) : PointFloat (digits ++ ['.'])
  | fraction (digits : List Char) (behind : DigitPart digits) : PointFloat ('.' :: digits)
  | both (digits decimals : List Char) (before : DigitPart digits) (behind : DigitPart decimals) :
      PointFloat (digits ++ '.' :: decimals)

/-- An exponent: its letter, and digits with a sign or not. -/
def Exponent (text : List Char) : Prop :=
  ∃ letter sign digits, (letter = 'e' ∨ letter = 'E') ∧ (sign = [] ∨ sign = ['+'] ∨ sign = ['-']) ∧
    DigitPart digits ∧ text = letter :: (sign ++ digits)

/-- A decimal number. -/
inductive DecimalNumber (release : Release) : List Char → Prop where
  | integer {text : List Char} (digits : DecimalInteger release text) : DecimalNumber release text
  | point {text : List Char} (float : PointFloat text) : DecimalNumber release text
  | exponent {digits power : List Char} (scaled : DigitPart digits ∨ PointFloat digits)
      (raised : Exponent power) : DecimalNumber release (digits ++ power)

/-- A decimal number with a minus sign before it or not. -/
def IsNumber (release : Release) (text : List Char) : Prop :=
  ∃ sign number, (sign = [] ∨ sign = ['-']) ∧ DecimalNumber release number ∧ text = sign ++ number

/-- The characters of digits are digits and underscores. -/
theorem digit_part_chars {text : List Char} (digits : DigitPart text) :
    ∀ c ∈ text, c.isDigit = true ∨ c = '_' := by
  induction digits with
  | last c digit => simpa using Or.inl digit
  | next c rest digit _ inductionHypothesis =>
    rw [List.forall_mem_cons]
    exact ⟨.inl digit, inductionHypothesis⟩
  | underscore c rest digit _ inductionHypothesis =>
    rw [List.forall_mem_cons, List.forall_mem_cons]
    exact ⟨.inl digit, .inr rfl, inductionHypothesis⟩

/-- Digits start with a digit. -/
theorem digit_part_first {text : List Char} (digits : DigitPart text) :
    ∃ c rest, text = c :: rest ∧ c.isDigit = true := by
  cases digits with
  | last c digit => exact ⟨c, [], rfl, digit⟩
  | next c rest digit => exact ⟨c, rest, rfl, digit⟩
  | underscore c rest digit => exact ⟨c, '_' :: rest, rfl, digit⟩

/-- One digit or more are digits. -/
theorem digit_part_of_digits {text : List Char} (nonempty : text ≠ [])
    (digits : ∀ c ∈ text, c.isDigit = true) : DigitPart text := by
  induction text with
  | nil => exact absurd rfl nonempty
  | cons c rest inductionHypothesis =>
    rw [List.forall_mem_cons] at digits
    by_cases single : rest = []
    · rw [single]
      exact .last c digits.1
    · exact .next c rest digits.1 (inductionHypothesis single digits.2)

/-- A text is of ASCII if a look at each of its characters finds so. -/
theorem ascii_of_all {text : List Char} (all : (text.all fun c => c.toNat < 0x80) = true) :
    ∀ c ∈ text, c.toNat < 0x80 :=
  fun c member => of_decide_eq_true (List.all_eq_true.mp all c member)

/-- A digit is a character of ASCII. -/
theorem ascii_of_digit {c : Char} (digit : c.isDigit = true) : c.toNat < 0x80 := by
  simp only [Char.isDigit, Bool.and_eq_true, decide_eq_true_eq, UInt32.le_iff_toNat_le] at digit
  have below : c.toNat ≤ 57 := digit.2
  omega

/-- Digits are of ASCII. -/
theorem digit_part_ascii {text : List Char} (digits : DigitPart text) :
    ∀ c ∈ text, c.toNat < 0x80 := by
  intro c member
  rcases digit_part_chars digits c member with digit | rfl
  · exact ascii_of_digit digit
  · decide

/-- Digits with a point are of ASCII. -/
theorem point_float_ascii {text : List Char} (float : PointFloat text) :
    ∀ c ∈ text, c.toNat < 0x80 := by
  have point : ('.' : Char).toNat < 0x80 := by decide
  cases float with
  | whole digits before =>
    rw [List.forall_mem_append, List.forall_mem_singleton]
    exact ⟨digit_part_ascii before, point⟩
  | fraction digits behind =>
    rw [List.forall_mem_cons]
    exact ⟨point, digit_part_ascii behind⟩
  | both digits decimals before behind =>
    rw [List.forall_mem_append, List.forall_mem_cons]
    exact ⟨digit_part_ascii before, point, digit_part_ascii behind⟩

/-- An exponent is of ASCII. -/
theorem exponent_ascii {text : List Char} (raised : Exponent text) :
    ∀ c ∈ text, c.toNat < 0x80 := by
  obtain ⟨letter, sign, digits, isLetter, signed, part, rfl⟩ := raised
  rw [List.forall_mem_cons, List.forall_mem_append]
  refine ⟨?_, ?_, digit_part_ascii part⟩
  · rcases isLetter with rfl | rfl <;> decide
  · rcases signed with rfl | rfl | rfl <;> exact ascii_of_all rfl

variable {release : Release}

/-- A number is of ASCII. -/
theorem number_ascii {text : List Char} (number : IsNumber release text) :
    ∀ c ∈ text, c.toNat < 0x80 := by
  obtain ⟨sign, number, signed, decimal, rfl⟩ := number
  rw [List.forall_mem_append]
  refine ⟨?_, ?_⟩
  · rcases signed with rfl | rfl <;> exact ascii_of_all rfl
  cases decimal with
  | integer digits => exact digit_part_ascii digits.1
  | point float => exact point_float_ascii float
  | exponent scaled raised =>
    rw [List.forall_mem_append]
    exact ⟨scaled.elim digit_part_ascii point_float_ascii, exponent_ascii raised⟩

/-! ## Strings -/

/-- A character of a line of a program. A carriage return ends a line as a line feed does, and no
program holds the character zero. -/
def LineCharacter (c : Char) : Prop := c ≠ '\n' ∧ c ≠ '\r' ∧ c ≠ '\x00'

instance (c : Char) : Decidable (LineCharacter c) := inferInstanceAs (Decidable (_ ∧ _))

/-- The text of an escape behind its backslash: a letter or mark that stands for a character, an
octal number of three digits at most, a hexadecimal number of as many digits as its letter says, or
the name of a character. -/
inductive IsEscape (release : Release) : List Char → Prop where
  | letter (c : Char) (known : (letterEscapes.lookup c).isSome = true) : IsEscape release [c]
  | octal (digits : List Char) (nonempty : digits ≠ []) (short : digits.length ≤ 3)
      (octal : ∀ c ∈ digits, (Decimal.digitIn? 8 c).isSome = true) : IsEscape release digits
  | number (letter : Char) (digits : List Char) (known : (letter, digits.length) ∈ numberEscapes)
      (hexadecimal : ∀ c ∈ digits, (Decimal.digitIn? 16 c).isSome = true)
      (within : Decimal.ofDigits 16 (digits.filterMap (Decimal.digitIn? 16)) ≤ 0x10FFFF) :
      IsEscape release (letter :: digits)
  | name (name : List Char) (known : release.Named name) :
      IsEscape release ('N' :: '\x7b' :: (name ++ ['\x7d']))

/-- What a backslash is read with: an escape, or a character that opens none. The backslash then
stands for itself, of which the language warns. -/
inductive IsTolerated (release : Release) : List Char → Prop where
  | escape (text : List Char) (valid : IsEscape release text) : IsTolerated release text
  | itself (c : Char) (opens : c ∉ ['x', 'u', 'U', 'N']) : IsTolerated release [c]

/-- What stands between the quotes of a string of one line, with the given escapes. -/
inductive StringBody (escape : List Char → Prop) (mark : Char) : List Char → Prop where
  | nothing : StringBody escape mark []
  | plain (c : Char) (rest : List Char) (other : c ≠ mark) (bare : c ≠ '\\')
      (inside : LineCharacter c) (tail : StringBody escape mark rest) :
      StringBody escape mark (c :: rest)
  | escaped (text rest : List Char) (known : escape text) (inside : ∀ c ∈ text, LineCharacter c)
      (tail : StringBody escape mark rest) : StringBody escape mark ('\\' :: (text ++ rest))

/-- A string of one line, without letters before its quotes and in single ones. -/
def IsString (escape : List Char → Prop) (text : List Char) : Prop :=
  ∃ mark body, (mark = '"' ∨ mark = '\'') ∧ StringBody escape mark body ∧
    text = mark :: (body ++ [mark])

/-- A character that ends no string and opens no escape. -/
def Bare (c : Char) : Prop := c ≠ '"' ∧ c ≠ '\'' ∧ c ≠ '\\'

instance (c : Char) : Decidable (Bare c) := inferInstanceAs (Decidable (_ ∧ _))

/-- The escapes are not empty, and behind their first character they are bare. -/
def Tame (escape : List Char → Prop) : Prop :=
  ∀ text, escape text → ∃ c rest, text = c :: rest ∧ ∀ d ∈ rest, Bare d

/-- A digit of a base is bare. -/
theorem bare_of_digit {base : Nat} {c : Char} (digit : (Decimal.digitIn? base c).isSome = true) :
    Bare c := by
  have other (mark : Char) (none : Decimal.baseValue? mark = none) : c ≠ mark := by
    rintro rfl
    rw [Decimal.digitIn?, none] at digit
    cases digit
  exact ⟨other '"' (by decide), other '\'' (by decide), other '\\' (by decide)⟩

/-- A character of a name is bare. -/
theorem bare_of_named {c : Char} (named : c.isAlphanum = true ∨ c = ' ' ∨ c = '-') : Bare c := by
  have other (mark : Char) (unnamed : ¬(mark.isAlphanum = true ∨ mark = ' ' ∨ mark = '-')) :
      c ≠ mark := by
    rintro rfl
    exact unnamed named
  exact ⟨other '"' (by decide), other '\'' (by decide), other '\\' (by decide)⟩

/-- Behind their first character, escapes hold no quote and no backslash. -/
theorem escape_tame (release : Release) : Tame (IsEscape release) := by
  intro text valid
  cases valid with
  | letter c known => exact ⟨c, [], rfl, by simp⟩
  | octal digits nonempty short octal =>
    obtain ⟨c, rest, rfl⟩ := List.exists_cons_of_ne_nil nonempty
    exact ⟨c, rest, rfl, fun d member => bare_of_digit (octal d (List.mem_cons_of_mem c member))⟩
  | number letter digits known hexadecimal within =>
    exact ⟨letter, digits, rfl, fun d member => bare_of_digit (hexadecimal d member)⟩
  | name name known =>
    refine ⟨'N', _, rfl, ?_⟩
    rw [List.forall_mem_cons, List.forall_mem_append, List.forall_mem_singleton]
    exact ⟨by decide, fun d member => bare_of_named (release.plain name known d member), by decide⟩

/-- So do escapes with the backslashes that stand for themselves. -/
theorem tolerated_tame (release : Release) : Tame (IsTolerated release) := by
  intro text read
  cases read with
  | escape _ valid => exact escape_tame release text valid
  | itself c opens => exact ⟨c, [], rfl, by simp⟩

end Stencil.Code
