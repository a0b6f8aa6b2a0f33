import Stencil.Proofs.Run
import Stencil.Template.Token

/-!
# The wording of tokens

What the text of a token looks like, kind by kind, said without the function
that cuts texts: a name is a letter or an underscore with letters, underscores
and digits behind it; a number is digits with a sign before them and a fraction
behind them; a quoted string ends at the first quote that no backslash takes
with it.

`piece?` reads exactly these texts. It gives back a worded token whenever the
text behind it does not go on with a character of the token's class, and every
piece that it gives is worded and stands at the front of the text.
-/

namespace Stencil.Template

/-- The text of a name. -/
def NameText (text : List Char) : Prop :=
  ∃ first rest, text = first :: rest ∧ isNameStart first = true ∧ ∀ c ∈ rest, isNameRest c = true

/-- One digit or more. -/
def Digits (text : List Char) : Prop := text ≠ [] ∧ ∀ c ∈ text, Text.isDigit c = true

/-- A point with digits behind it, or nothing. -/
def FractionText (text : List Char) : Prop :=
  text = [] ∨ ∃ digits, Digits digits ∧ text = '.' :: digits

/-- The text of a number. -/
def NumberText (text : List Char) : Prop :=
  ∃ sign whole fraction, (sign = [] ∨ sign = ['-']) ∧ Digits whole ∧ FractionText fraction ∧
    text = sign ++ whole ++ fraction

/-- What stands between the quotes of a string: characters of the line other than the quote and the
backslash, and backslashes that take a character of the line with them. -/
inductive Quoted (mark : Char) : List Char → Prop where
  | nothing : Quoted mark []
  | plain (c : Char) (rest : List Char) (other : c ≠ mark) (bare : c ≠ '\\') (inside : c ≠ '\n')
      (tail : Quoted mark rest) : Quoted mark (c :: rest)
  | escaped (c : Char) (rest : List Char) (inside : c ≠ '\n') (tail : Quoted mark rest) :
      Quoted mark ('\\' :: c :: rest)

/-- The text of a quoted string. -/
def StringText (text : List Char) : Prop :=
  ∃ mark body, (mark = '"' ∨ mark = '\'') ∧ Quoted mark body ∧ text = mark :: (body ++ [mark])

/-- A character that is no backslash is quoted by itself. -/
theorem quoted_plain_iff {mark c : Char} {rest : List Char} (bare : c ≠ '\\') :
    Quoted mark (c :: rest) ↔ c ≠ mark ∧ c ≠ '\n' ∧ Quoted mark rest := by
  constructor
  · intro quoted
    cases quoted with
    | plain _ _ other _ inside tail => exact ⟨other, inside, tail⟩
    | escaped => exact absurd rfl bare
  · rintro ⟨other, inside, tail⟩
    exact .plain c rest other bare inside tail

/-- Characters that are quoted by themselves may stand in front of a quoted text. -/
theorem quoted_append_iff {mark : Char} {front rest : List Char}
    (plain : ∀ c ∈ front, c ≠ mark ∧ c ≠ '\\' ∧ c ≠ '\n') :
    Quoted mark (front ++ rest) ↔ Quoted mark rest := by
  induction front with
  | nil => rfl
  | cons c front inductionHypothesis =>
    rw [List.forall_mem_cons] at plain
    obtain ⟨⟨other, bare, inside⟩, others⟩ := plain
    rw [List.cons_append, quoted_plain_iff bare, inductionHypothesis others]
    exact ⟨fun quoted => quoted.2.2, fun quoted => ⟨other, inside, quoted⟩⟩

/-- The text of an operator. -/
def OperatorText (text : List Char) : Prop :=
  text = ['=', '='] ∨ ∃ c, isOperator c = true ∧ text = [c]

/-- The text of a raw line: it stays on its line and has no white space around it. -/
def RawText (text : List Char) : Prop :=
  '\n' ∉ text ∧ (∀ c ∈ text.head?, Text.isBlank c = false) ∧
    ∀ c ∈ text.getLast?, Text.isBlank c = false

/-- The texts of each kind of tokens. A raw line may be empty. What the lexer takes for a token is
shown to be of this wording, and what is of it is taken. -/
def Worded : TokenKind → List Char → Prop
  | .name => NameText
  | .number => NumberText
  | .string => StringText
  | .op => OperatorText
  | .raw => RawText

/-! ## Characters that start no token of another kind -/

/-- The decimal digits are the ten of ASCII and characters far behind it. -/
theorem digit_bounds {c : Char} (digit : Text.isDigit c = true) :
    0x30 ≤ c.toNat ∧ c.toNat ≤ 0x39 ∨ 0x660 ≤ c.toNat := by
  obtain ⟨value, read⟩ := Option.isSome_iff_exists.mp digit
  obtain ⟨origin, found, -⟩ := Option.map_eq_some_iff.mp read
  have inside := List.find?_some found
  have member := List.mem_of_find?_eq_some found
  have origins : ∀ origin ∈ Text.digitZeros, origin = 0x30 ∨ 0x660 ≤ origin := by decide
  simp only [Bool.and_eq_true, decide_eq_true_eq] at inside
  rcases origins origin member with rfl | far <;> omega

/-- A name starts with an ASCII letter or an underscore. -/
theorem name_start_bounds {c : Char} (start : isNameStart c = true) :
    0x41 ≤ c.toNat ∧ c.toNat ≤ 0x7A := by
  rw [isNameStart, Bool.or_eq_true, beq_iff_eq] at start
  rcases start with letter | rfl
  · delta Char.isAlpha Char.isUpper Char.isLower at letter
    simp only [Bool.or_eq_true, Bool.and_eq_true, decide_eq_true_eq, UInt32.le_iff_toNat_le,
      ge_iff_le] at letter
    change (65 ≤ c.toNat ∧ c.toNat ≤ 90) ∨ (97 ≤ c.toNat ∧ c.toNat ≤ 122) at letter
    omega
  · decide

/-- The operators of one character, one by one. -/
theorem operator_cases {c : Char} (operator : isOperator c = true) :
    c = '(' ∨ c = ')' ∨ c = '\x7b' ∨ c = '\x7d' ∨ c = ':' ∨ c = ',' ∨ c = '=' ∨ c = '*' ∨
      c = '$' := by
  simpa [isOperator] using operator

/-- A character that opens a name or a number is no blank, no line end and no comment mark. -/
theorem not_blank_of_bounds {c : Char} (far : 0x30 ≤ c.toNat) :
    c ≠ '\n' ∧ isGap c = false ∧ c ≠ '#' := by
  have distinct (other : Char) (near : other.toNat < 0x30) : c ≠ other := by
    rintro rfl
    omega
  refine ⟨distinct '\n' (by decide), ?_, distinct '#' (by decide)⟩
  simp [isGap, distinct ' ' (by decide), distinct '\t' (by decide), distinct '\r' (by decide)]

/-- No digit starts a name. -/
theorem not_name_start_of_digit {c : Char} (digit : Text.isDigit c = true) :
    isNameStart c = false := by
  apply Bool.eq_false_iff.mpr
  intro start
  have letters := name_start_bounds start
  have digits := digit_bounds digit
  omega

/-! ## Reading a worded token -/

/-- A name that stops is read as a whole. -/
theorem piece_name (name rest : List Char) (named : NameText name) (stops : Stops isNameRest rest) :
    piece? (name ++ rest) = some ⟨.token .name, name, rest⟩ := by
  obtain ⟨first, tail, rfl, start, inside⟩ := named
  have far := name_start_bounds start
  obtain ⟨notEnd, notGap, notMark⟩ := not_blank_of_bounds (c := first) (by omega)
  obtain ⟨taken, left⟩ := run_of_stops tail rest inside stops
  simp [piece?, notEnd, notGap, notMark, start, taken, left]

/-- A fraction is read with the digits before it if no digit and no second point follows. -/
theorem number_rest (whole fraction rest : List Char) (digits : ∀ c ∈ whole, Text.isDigit c = true)
    (worded : FractionText fraction)
    (stops : Stops (fun c => Text.isDigit c || c == '.') rest) :
    numberRest (whole ++ fraction ++ rest) = (whole ++ fraction, rest) := by
  have stopsDigit : Stops Text.isDigit rest :=
    fun c first => (Bool.or_eq_false_iff.mp (stops c first)).1
  have point : Text.isDigit '.' = false := by decide
  rcases worded with rfl | ⟨decimals, ⟨nonempty, inside⟩, rfl⟩
  · obtain ⟨taken, left⟩ := run_of_stops whole rest digits stopsDigit
    rw [List.append_nil, numberRest, taken, left]
    -- No point follows, so the fraction's branch is not taken.
    split
    · rename_i d tail
      have := stops '.' rfl
      simp at this
    · rfl
  · obtain ⟨taken, left⟩ := run_of_stops whole ('.' :: (decimals ++ rest)) digits
      ((stops_cons _ _ _).mpr point)
    obtain ⟨first, others, rfl⟩ := List.exists_cons_of_ne_nil nonempty
    have firstDigit : Text.isDigit first = true := inside first List.mem_cons_self
    obtain ⟨takenOthers, leftOthers⟩ := run_of_stops others rest
      (fun c member => inside c (List.mem_cons_of_mem first member)) stopsDigit
    rw [List.append_assoc, List.cons_append, numberRest, taken, left]
    simp [firstDigit, takenOthers, leftOthers]

/-- A number that stops is read as a whole. -/
theorem piece_number (number rest : List Char) (worded : NumberText number)
    (stops : Stops (fun c => Text.isDigit c || c == '.') rest) :
    piece? (number ++ rest) = some ⟨.token .number, number, rest⟩ := by
  obtain ⟨sign, whole, fraction, signed, ⟨nonempty, digits⟩, fractional, rfl⟩ := worded
  obtain ⟨first, others, rfl⟩ := List.exists_cons_of_ne_nil nonempty
  have firstDigit : Text.isDigit first = true := digits first List.mem_cons_self
  have read := number_rest others fraction rest
    (fun c member => digits c (List.mem_cons_of_mem first member)) fractional stops
  rw [List.append_assoc] at read
  have far := digit_bounds firstDigit
  obtain ⟨notEnd, notGap, notMark⟩ := not_blank_of_bounds (c := first) (by omega)
  have notStart : isNameStart first = false := not_name_start_of_digit firstDigit
  rcases signed with rfl | rfl
  · simp [piece?, notEnd, notGap, notMark, notStart, firstDigit, read]
  · have minus : isGap '-' = false ∧ isNameStart '-' = false ∧ Text.isDigit '-' = false := by decide
    simp [piece?, minus, firstDigit, read]

/-- A quoted body is read up to the quote that closes it. -/
theorem string_rest (mark : Char) (body rest : List Char) (bare : mark ≠ '\\')
    (quoted : Quoted mark body) :
    stringRest? mark (body ++ mark :: rest) = some (body ++ [mark], rest) := by
  induction quoted with
  | nothing =>
    cases rest <;> simp [stringRest?, bare]
  | plain c tail other notBackslash inside _ inductionHypothesis =>
    rw [List.cons_append, stringRest?, inductionHypothesis]
    · simp [other, notBackslash, inside]
    · intro d others same
      exact absurd same notBackslash
  | escaped c tail inside _ inductionHypothesis =>
    rw [List.cons_append, List.cons_append, stringRest?, inductionHypothesis]
    simp [inside]

/-- A quoted string is read as a whole, whatever follows it. -/
theorem piece_string (text rest : List Char) (worded : StringText text) :
    piece? (text ++ rest) = some ⟨.token .string, text, rest⟩ := by
  obtain ⟨mark, body, isMark, quoted, rfl⟩ := worded
  have bare : mark ≠ '\\' := by rcases isMark with rfl | rfl <;> decide
  have classes : mark ≠ '\n' ∧ isGap mark = false ∧ mark ≠ '#' ∧ isNameStart mark = false ∧
      Text.isDigit mark = false := by
    rcases isMark with rfl | rfl <;> decide
  simp [piece?, classes, isMark, string_rest mark body rest bare quoted]

/-- Two equals signs are one operator. -/
theorem piece_comparison (rest : List Char) :
    piece? ('=' :: '=' :: rest) = some ⟨.token .op, ['=', '='], rest⟩ := by rfl

/-- A character that is an operator is read alone, an equals sign if no other follows. -/
theorem piece_operator (c : Char) (rest : List Char) (operator : isOperator c = true)
    (single : c = '=' → Stops (· == '=') rest) :
    piece? (c :: rest) = some ⟨.token .op, [c], rest⟩ := by
  rcases operator_cases operator with rfl | rfl | rfl | rfl | rfl | rfl | rfl | rfl | rfl
  case inr.inr.inr.inr.inr.inr.inl =>
    have stops := single rfl
    cases rest with
    | nil => rfl
    | cons d tail =>
      have other : d ≠ '=' := by simpa using stops
      have classes : isGap '=' = false ∧ isNameStart '=' = false ∧ Text.isDigit '=' = false := by
        decide
      simp [piece?, classes, other, operator]
  all_goals rfl

/-! ## What is read is worded -/

/-- What is read of a quoted string up to its end is a quoted body and the closing quote. -/
theorem string_rest_worded {mark : Char} {cs text rest : List Char}
    (read : stringRest? mark cs = some (text, rest)) :
    ∃ body, Quoted mark body ∧ text = body ++ [mark] ∧ cs = text ++ rest := by
  fun_induction stringRest? mark cs generalizing text rest with
  | case1 => simp at read
  | case2 => simp at read
  | case3 c cs inside step =>
    simp only [Option.map_eq_some_iff, Prod.mk.injEq, Prod.exists] at read
    obtain ⟨_, _, inner, rfl, rfl⟩ := read
    obtain ⟨body, quoted, rfl, rfl⟩ := step inner
    exact ⟨'\\' :: c :: body, .escaped c body inside quoted, rfl, rfl⟩
  | case4 =>
    simp only [Option.some.injEq, Prod.mk.injEq] at read
    obtain ⟨rfl, rfl⟩ := read
    exact ⟨[], .nothing, rfl, rfl⟩
  | case5 => simp at read
  | case6 c cs _ other plain step =>
    simp only [Option.map_eq_some_iff, Prod.mk.injEq, Prod.exists] at read
    obtain ⟨_, _, inner, rfl, rfl⟩ := read
    obtain ⟨body, quoted, rfl, rfl⟩ := step inner
    rw [not_or] at plain
    exact ⟨c :: body, .plain c body other plain.1 plain.2 quoted, rfl, rfl⟩

/-- What is read of a number behind its first digit is a run of digits and a fraction. -/
theorem number_rest_worded (cs : List Char) :
    ∃ whole fraction, (∀ c ∈ whole, Text.isDigit c = true) ∧ FractionText fraction ∧
      (numberRest cs).1 = whole ++ fraction ∧ cs = (numberRest cs).1 ++ (numberRest cs).2 := by
  have digits := run_inside Text.isDigit cs
  have split : cs.takeWhile Text.isDigit ++ cs.dropWhile Text.isDigit = cs :=
    List.takeWhile_append_dropWhile
  unfold numberRest
  split
  · rename_i d rest left
    split
    · rename_i digit
      have decimals : Digits (d :: rest.takeWhile Text.isDigit) := by
        refine ⟨List.cons_ne_nil _ _, ?_⟩
        intro c member
        rcases List.mem_cons.mp member with rfl | member
        · exact digit
        · exact run_inside Text.isDigit rest c member
      refine ⟨cs.takeWhile Text.isDigit, '.' :: d :: rest.takeWhile Text.isDigit, digits,
        .inr ⟨_, decimals, rfl⟩, rfl, ?_⟩
      rw [left] at split
      simpa using split.symm
    · refine ⟨cs.takeWhile Text.isDigit, [], digits, .inl rfl, by simp, ?_⟩
      rw [left] at split
      exact split.symm
  · refine ⟨cs.takeWhile Text.isDigit, [], digits, .inl rfl, by simp, ?_⟩
    exact split.symm

/-- A number is a first digit, perhaps with a sign before it, and what is read behind it. -/
theorem number_worded (sign : List Char) (first : Char) (cs : List Char)
    (signed : sign = [] ∨ sign = ['-']) (digit : Text.isDigit first = true) :
    NumberText (sign ++ first :: (numberRest cs).1) := by
  obtain ⟨whole, fraction, digits, fractional, text, -⟩ := number_rest_worded cs
  refine ⟨sign, first :: whole, fraction, signed, ⟨List.cons_ne_nil _ _, ?_⟩, fractional, ?_⟩
  · intro c member
    rcases List.mem_cons.mp member with rfl | member
    · exact digit
    · exact digits c member
  · rw [text]
    simp

/-- A piece stands at the front of its text, and if it is a token it is worded as its kind says. The
cases are those of `piece?`, by the first character. -/
theorem piece_worded {cs : List Char} {piece : Piece} (read : piece? cs = some piece) :
    cs = piece.text ++ piece.rest ∧ ∀ kind, piece.kind = .token kind → Worded kind piece.text := by
  have split (p : Char → Bool) (cs : List Char) : cs = cs.takeWhile p ++ cs.dropWhile p :=
    List.takeWhile_append_dropWhile.symm
  cases cs with
  | nil => simp [piece?] at read
  | cons c rest =>
    simp only [piece?] at read
    split at read
    · cases read
      exact ⟨rfl, by simp⟩
    split at read
    · cases read
      exact ⟨congrArg (c :: ·) (split isGap rest), by simp⟩
    split at read
    · cases read
      exact ⟨congrArg (c :: ·) (split inLine rest), by simp⟩
    split at read
    · rename_i start
      cases read
      refine ⟨congrArg (c :: ·) (split isNameRest rest), ?_⟩
      rintro kind ⟨⟩
      exact ⟨c, _, rfl, start, run_inside isNameRest rest⟩
    split at read
    · rename_i digit
      cases read
      obtain ⟨_, _, _, _, _, whole⟩ := number_rest_worded rest
      refine ⟨congrArg (c :: ·) whole, ?_⟩
      rintro kind ⟨⟩
      exact number_worded [] c rest (.inl rfl) digit
    split at read
    · rename_i isMark
      obtain ⟨⟨text, tail⟩, inner, rfl⟩ := Option.map_eq_some_iff.mp read
      obtain ⟨body, quoted, rfl, whole⟩ := string_rest_worded inner
      refine ⟨congrArg (c :: ·) whole, ?_⟩
      rintro kind ⟨⟩
      exact ⟨c, body, isMark, quoted, rfl⟩
    split at read
    · rename_i d tail _ _ _ _ _ _
      split at read
      · rename_i digit
        cases read
        obtain ⟨_, _, _, _, _, whole⟩ := number_rest_worded tail
        refine ⟨congrArg ('-' :: d :: ·) whole, ?_⟩
        rintro kind ⟨⟩
        exact number_worded ['-'] d tail (.inr rfl) digit
      · simp at read
    · cases read
      refine ⟨rfl, ?_⟩
      rintro kind ⟨⟩
      exact .inl rfl
    · split at read
      · rename_i operator
        cases read
        refine ⟨rfl, ?_⟩
        rintro kind ⟨⟩
        exact .inr ⟨_, operator, rfl⟩
      · simp at read

/-- A piece has at least one character. -/
theorem piece_nonempty {cs : List Char} {piece : Piece} (read : piece? cs = some piece) :
    piece.text ≠ [] := by
  intro empty
  have shorter := length_piece? read
  rw [(piece_worded read).1, empty] at shorter
  exact Nat.lt_irrefl _ shorter

/-- The rest of a line goes no further than the line feed. -/
theorem rest_line (cs : List Char) : '\n' ∉ cs.takeWhile inLine := by
  intro inside
  have other := run_inside inLine cs '\n' inside
  simp [inLine] at other

/-! ## White space around a line -/

/-- Dropping white space at the end leaves a text that ends with none. -/
theorem strip_right_last (cs : List Char) :
    ∀ c ∈ (Text.stripRight cs).getLast?, Text.isBlank c = false := by
  rw [Text.stripRight, List.getLast?_reverse]
  exact stops_drop Text.isBlank cs.reverse

/-- Dropping white space at the end keeps a front of the text. -/
theorem strip_right_prefix (cs : List Char) : Text.stripRight cs <+: cs := by
  have suffix : cs.reverse.dropWhile Text.isBlank <:+ cs.reverse := List.dropWhile_suffix _
  simpa [Text.stripRight] using List.reverse_prefix.mpr suffix

/-- A line without the white space around it is the text of a raw line. -/
theorem strip_raw (cs : List Char) (line : '\n' ∉ cs) : RawText (Text.strip cs) := by
  have front : Text.strip cs <+: cs.dropWhile Text.isBlank := strip_right_prefix _
  refine ⟨?_, ?_, strip_right_last _⟩
  · intro member
    exact line ((List.dropWhile_sublist _).subset (front.subset member))
  · intro c first
    have same : (cs.dropWhile Text.isBlank).head? = some c := by
      obtain ⟨behind, whole⟩ := front
      cases stripped : Text.strip cs with
      | nil => simp [stripped] at first
      | cons d tail =>
        rw [stripped] at first whole
        rw [← whole]
        exact first
    exact stops_drop Text.isBlank cs c same

/-- A text without white space around it is left by stripping as it is. -/
theorem strip_of_raw (text : List Char) (raw : RawText text) : Text.strip text = text := by
  have front : text.dropWhile Text.isBlank = text :=
    (run_of_stops [] text (by simp) raw.2.1).2
  have back : text.reverse.dropWhile Text.isBlank = text.reverse := by
    refine (run_of_stops [] text.reverse (by simp) ?_).2
    intro c last
    exact raw.2.2 c (List.getLast?_eq_head?_reverse.trans last)
  rw [Text.strip, front, Text.stripRight, back, List.reverse_reverse]

end Stencil.Template
