import Stencil.Code.Literal

/-!
# What literals stand for

The generated code is read by its own rules: an integer literal by its decimal
digits, a string literal by the escapes in it. `escape?` has all escapes of a
string literal, also those that are never written: the letters, octal and
hexadecimal numbers, the line end that is left out, and the backslash that
stands for itself before any other character. A number that is no character,
and an escape by a character's name, is not read.

Literals are written so that they are read back: `literal_text` for texts and
`literal_int` for integers.
-/

namespace Stencil.Code

/-- What a literal stands for, as far as generated code compares and returns it. An integer and a
text are never the same. -/
inductive Datum where
  | int (value : Int)
  | text (value : String)
deriving DecidableEq, Repr

/-- The character whose number is written with digits, if it has one. -/
def charOfDigits? (base : Nat) (digits : List Char) : Option Char := do
  let number := Decimal.ofDigits base (← digits.mapM (Decimal.digitIn? base))
  if number.isValidChar then some (Char.ofNat number) else none

/-- The escapes of one character, and what each stands for. -/
def letterEscapes : List (Char × List Char) :=
  [('\n', []), ('\\', ['\\']), ('\'', ['\'']), ('"', ['"']), ('a', [Char.ofNat 0x7]),
    ('b', [Char.ofNat 0x8]), ('f', [Char.ofNat 0xC]), ('n', ['\n']), ('r', ['\r']), ('t', ['\t']),
    ('v', [Char.ofNat 0xB])]

/-- The escapes by a hexadecimal number, and how many digits each has. -/
def numberEscapes : List (Char × Nat) := [('x', 2), ('u', 4), ('U', 8)]

/-- The octal digits that a text starts with, three at most. -/
def octalRun (cs : List Char) : List Char :=
  (cs.take 3).takeWhile fun c => (Decimal.digitIn? 8 c).isSome

/-- The characters that a backslash before a text stands for, and how many characters of the text
belong to the escape. -/
def escape? : List Char → Option (List Char × Nat)
  | [] => none
  | c :: rest =>
    match letterEscapes.lookup c, numberEscapes.lookup c, octalRun (c :: rest) with
    | some chars, _, _ => some (chars, 1)
    | none, some width, _ =>
      if rest.length < width then none
      else (charOfDigits? 16 (rest.take width)).map fun char => ([char], width + 1)
    | none, none, [] => if c = 'N' then none else some (['\\', c], 1)
    | none, none, digits => (charOfDigits? 8 digits).map fun char => ([char], digits.length)

/-- The text of a string literal behind its opening quote. It ends with the closing quote, and no
line ends in it except behind a backslash. -/
def decodeBody? (mark : Char) : List Char → Option (List Char)
  | [] => none
  | c :: rest =>
    if c = mark then if rest = [] then some [] else none
    else if c = '\n' ∨ c = '\r' then none
    else if c = '\\' then
      match escape? rest with
      | none => none
      | some (chars, used) => (decodeBody? mark (rest.drop used)).map (chars ++ ·)
    else (decodeBody? mark rest).map (c :: ·)
termination_by cs => cs.length
decreasing_by
  · rw [List.length_drop, List.length_cons]
    omega
  · exact Nat.lt_succ_self rest.length

/-- The text that a string literal stands for. -/
def stringLiteral? : List Char → Option String
  | [] => none
  | mark :: body =>
    if mark = '"' ∨ mark = '\'' then (decodeBody? mark body).map String.ofList else none

/-- The number that decimal digits write. -/
def decimal? (digits : List Char) : Option Nat :=
  if digits ≠ [] ∧ digits.all Char.isDigit then some (Nat.ofDigitChars 10 digits 0) else none

/-- The integer that an integer literal stands for, with a sign before it or not. -/
def integerLiteral? : List Char → Option Int
  | '-' :: digits => (decimal? digits).map fun number => -(number : Int)
  | digits => (decimal? digits).map fun number => (number : Int)

/-- What the text of a literal stands for: a string if it is quoted, an integer if it is a decimal
number. -/
def literal? (source : String) : Option Datum :=
  match stringLiteral? source.toList, integerLiteral? source.toList with
  | some text, _ => some (.text text)
  | none, some number => some (.int number)
  | none, none => none

/-! ## Texts are read back -/

/-- A backslash with an escape behind it stands for what the escape does. -/
theorem decode_escape {cs chars : List Char} {used : Nat} (read : escape? cs = some (chars, used)) :
    decodeBody? '"' ('\\' :: cs) = (decodeBody? '"' (cs.drop used)).map (chars ++ ·) := by
  rw [decodeBody?]
  simp [read]

/-- A backslash with a letter behind it stands for what the letter does. -/
theorem decode_letter (letter : Char) (chars : List Char)
    (known : letterEscapes.lookup letter = some chars) (rest : List Char) :
    decodeBody? '"' ('\\' :: letter :: rest) = (decodeBody? '"' rest).map (chars ++ ·) := by
  have read : escape? (letter :: rest) = some (chars, 1) := by simp [escape?, known]
  exact decode_escape read

/-- A control character is written by its number. -/
theorem escape_control (n : Nat) (control : n < 0x20) (rest : List Char) :
    escape? ('u' :: (Text.hex 4 n ++ rest)) = some ([Char.ofNat n], 5) := by
  have digits : (Text.hex 4 n).length = 4 := by simp [Text.hex]
  have taken : (Text.hex 4 n ++ rest).take 4 = Text.hex 4 n := List.take_left' digits
  have long : 4 ≤ (Text.hex 4 n).length + rest.length := by omega
  have value : ∀ n < 0x20, charOfDigits? 16 (Text.hex 4 n) = some (Char.ofNat n) := by decide
  have noLetter : letterEscapes.lookup 'u' = none := rfl
  have width : numberEscapes.lookup 'u' = some 4 := rfl
  simp [escape?, noLetter, width, long, taken, value n control]

/-- A character is read back as it is quoted, whatever is behind it. The cases are those of quoting:
a character with a letter of its own, a control character by its number, and every other character
as it is. -/
theorem decode_quote_char (c : Char) (rest : List Char) :
    decodeBody? '"' (Text.quoteChar c ++ rest) = (decodeBody? '"' rest).map (c :: ·) := by
  have same (n : Nat) (number : c.toNat = n) : c = Char.ofNat n := by
    rw [← number, Char.ofNat_toNat]
  unfold Text.quoteChar
  split
  case isTrue quote =>
    subst quote
    exact decode_letter '"' ['"'] rfl rest
  split
  case isTrue backslash =>
    subst backslash
    exact decode_letter '\\' ['\\'] rfl rest
  split
  case isTrue lineEnd =>
    subst lineEnd
    exact decode_letter 'n' ['\n'] rfl rest
  split
  case isTrue carriage =>
    subst carriage
    exact decode_letter 'r' ['\r'] rfl rest
  split
  case isTrue tab =>
    subst tab
    exact decode_letter 't' ['\t'] rfl rest
  split
  case isTrue feed =>
    rw [same 0xC feed]
    exact decode_letter 'f' [Char.ofNat 0xC] rfl rest
  split
  case isTrue back =>
    rw [same 0x8 back]
    exact decode_letter 'b' [Char.ofNat 0x8] rfl rest
  split
  case isTrue control =>
    have cut : (Text.hex 4 c.toNat ++ rest).drop 4 = rest :=
      List.drop_left' (by simp [Text.hex])
    have read := decode_escape (escape_control c.toNat control rest)
    rw [List.drop_succ_cons, cut, Char.ofNat_toNat] at read
    exact read
  case isFalse notQuote notBackslash notEnd notCarriage _ _ _ _ =>
    rw [List.singleton_append, decodeBody?]
    simp [notQuote, notBackslash, notEnd, notCarriage]

/-- A quoted text stands for the text. -/
theorem decode_quote (text : String) :
    stringLiteral? (Text.quote text.toList) = some text := by
  have body (cs : List Char) : decodeBody? '"' (cs.flatMap Text.quoteChar ++ ['"']) = some cs := by
    induction cs with
    | nil => simp [decodeBody?]
    | cons c rest inductionHypothesis =>
      rw [List.flatMap_cons, List.append_assoc, decode_quote_char, inductionHypothesis]
      rfl
  rw [Text.quote, stringLiteral?, if_pos (.inl rfl), body, Option.map_some, String.ofList_toList]

/-! ## Integers are read back -/

/-- The decimal digits of a number write the number. -/
theorem decimal_digits (n : Nat) : decimal? (Nat.toDigits 10 n) = some n := by
  have nonempty : Nat.toDigits 10 n ≠ [] := List.ne_nil_of_length_pos Nat.length_toDigits_pos
  have digits : (Nat.toDigits 10 n).all Char.isDigit = true := by
    rw [List.all_eq_true]
    intro c member
    exact Nat.isDigit_of_mem_toDigits (by decide) (by decide) member
  rw [decimal?, if_pos ⟨nonempty, digits⟩, Nat.ofDigitChars_ten_toDigits]

/-- The digits of a number start with neither a sign nor a quote. -/
theorem digits_start (n : Nat) :
    ∃ first rest, Nat.toDigits 10 n = first :: rest ∧ first ≠ '-' ∧ first ≠ '"' ∧ first ≠ '\'' := by
  have nonempty : 0 < (Nat.toDigits 10 n).length := Nat.length_toDigits_pos
  obtain ⟨first, rest, digits⟩ := List.exists_cons_of_length_pos nonempty
  have digit : first.isDigit = true :=
    Nat.isDigit_of_mem_toDigits (by decide) (by decide) (digits ▸ List.mem_cons_self)
  have other (c : Char) (noDigit : c.isDigit = false) : first ≠ c := by
    rintro rfl
    simp [noDigit] at digit
  exact ⟨first, rest, digits, other '-' (by decide), other '"' (by decide),
    other '\'' (by decide)⟩

/-- A literal of an integer stands for the integer. -/
theorem literal_int (number : Int) : literal? (toString number) = some (.int number) := by
  cases number with
  | ofNat n =>
    obtain ⟨first, rest, digits, notSign, notDouble, notSingle⟩ := digits_start n
    have chars : (toString (Int.ofNat n)).toList = Nat.toDigits 10 n := Nat.toList_repr
    have read := decimal_digits n
    rw [digits] at chars read
    have unquoted : stringLiteral? (first :: rest) = none := by
      rw [stringLiteral?, if_neg (by simp [notDouble, notSingle])]
    have integer : integerLiteral? (first :: rest) = some (Int.ofNat n) := by
      rw [integerLiteral?, read]
      · rfl
      · intro digits same
        cases same
        exact notSign rfl
    rw [literal?, chars, unquoted, integer]
  | negSucc n =>
    have chars : (toString (Int.negSucc n)).toList = '-' :: Nat.toDigits 10 (n + 1) := by
      have written : toString (Int.negSucc n) = "-" ++ (n + 1).repr := rfl
      rw [written, String.toList_append, Nat.toList_repr]
      rfl
    have integer : integerLiteral? ('-' :: Nat.toDigits 10 (n + 1)) = some (Int.negSucc n) := by
      rw [integerLiteral?, decimal_digits]
      rfl
    rw [literal?, chars, integer]
    rfl

/-- A literal of a text stands for the text. -/
theorem literal_text (text : String) :
    literal? (String.ofList (Text.quote text.toList)) = some (.text text) := by
  rw [literal?, String.toList_ofList, decode_quote]

end Stencil.Code
