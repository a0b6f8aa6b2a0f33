import Stencil.Proofs.Code.Decoding
import Stencil.Proofs.Template.Meaning
import Stencil.Proofs.Template.Printing
import Stencil.Proofs.Template.Relocation

/-!
# Literals in templates

The literal of a constant is read in two ways: as generated code, where it
stands for the constant again (`constant?`), and as the text of a template, where
it is the value of a statement. The escapes of a quoted text serve both. None of
them leaves a quote or a line end bare, so the text is one string of the
template's language, and each is an escape of generated code.

A template of one `return` with the literal builds just what is built from the
constant itself (`literal_fits`).
-/

namespace Stencil.Template

open Code

/-! ## Quoted texts -/

/-- Characters are no control characters if a look at each of them finds none. -/
theorem visible_of_all {cs : List Char}
    (all : (cs.all fun shown => 0x20 ≤ shown.toNat) = true) : ∀ shown ∈ cs, 0x20 ≤ shown.toNat := by
  intro shown inside
  exact of_decide_eq_true (List.all_eq_true.mp all shown inside)

/-- What a character is quoted as holds no control character. -/
theorem quote_char_visible (c : Char) : ∀ shown ∈ Text.quoteChar c, 0x20 ≤ shown.toNat := by
  apply visible_of_all
  unfold Text.quoteChar
  split
  · decide
  split
  · decide
  split
  · decide
  split
  · decide
  split
  · decide
  split
  · decide
  split
  · decide
  split
  · rename_i control
    have digits : ∀ n < 0x20,
        (('\\' :: 'u' :: Text.hex 4 n).all fun shown => 0x20 ≤ shown.toNat) = true := by decide
    exact digits c.toNat control
  · rename_i visible
    simpa using visible

/-- A quoted text holds no control character. -/
theorem quote_visible (text : List Char) : ∀ shown ∈ Text.quote text, 0x20 ≤ shown.toNat := by
  intro shown member
  rcases List.mem_cons.mp member with rfl | inside
  · decide
  rcases List.mem_append.mp inside with body | last
  · obtain ⟨c, _, among⟩ := List.mem_flatMap.mp body
    exact quote_char_visible c shown among
  · obtain rfl := List.mem_singleton.mp last
    decide

/-- Digits stand between quotes as they are. -/
theorem quoted_digits {digits rest : List Char} (far : ∀ c ∈ digits, 0x30 ≤ c.toNat ∧ c ≠ '\\')
    (tail : Quoted '"' rest) : Quoted '"' (digits ++ rest) := by
  refine (quoted_append_iff fun c member => ?_).mpr tail
  obtain ⟨high, bare⟩ := far c member
  have other (mark : Char) (low : mark.toNat < 0x30) : c ≠ mark := by
    rintro rfl
    omega
  exact ⟨other '"' (by decide), bare, other '\n' (by decide)⟩

/-- A quoted character leaves no quote, no backslash and no line end bare. -/
theorem quoted_char (c : Char) {rest : List Char} (tail : Quoted '"' rest) :
    Quoted '"' (Text.quoteChar c ++ rest) := by
  have escape (letter : Char) (inside : letter ≠ '\n') : Quoted '"' (['\\', letter] ++ rest) :=
    .escaped letter rest inside tail
  unfold Text.quoteChar
  split
  · exact escape '"' (by decide)
  split
  · exact escape '\\' (by decide)
  split
  · exact escape 'n' (by decide)
  split
  · exact escape 'r' (by decide)
  split
  · exact escape 't' (by decide)
  split
  · exact escape 'f' (by decide)
  split
  · exact escape 'b' (by decide)
  split
  · rename_i control
    have digits : ∀ n < 0x20, ((Text.hex 4 n).all fun c => 0x30 ≤ c.toNat ∧ c ≠ '\\') = true := by
      decide
    have far : ∀ digit ∈ Text.hex 4 c.toNat, 0x30 ≤ digit.toNat ∧ digit ≠ '\\' := by
      intro digit inside
      exact of_decide_eq_true (List.all_eq_true.mp (digits c.toNat control) digit inside)
    exact .escaped 'u' _ (by decide) (quoted_digits far tail)
  · rename_i notQuote notBackslash notEnd _ _ _ _ _
    exact .plain c rest notQuote notBackslash notEnd tail

/-- A quoted text is one string of a template. -/
theorem quote_string (text : List Char) : StringText (Text.quote text) := by
  refine ⟨'"', text.flatMap Text.quoteChar, .inl rfl, ?_, rfl⟩
  induction text with
  | nil => exact .nothing
  | cons c rest inductionHypothesis => exact quoted_char c inductionHypothesis

/-! ## Integers -/

/-- An integer within the limit of digits is written. -/
theorem int_written {number : Int}
    (short : (Nat.toDigits 10 number.natAbs).length ≤ Decimal.digitLimit) :
    intSource number = .ok (toString number) := by
  have power (exponent : Nat) : Decimal.tenPow exponent = 10 ^ exponent := rfl
  have small : number.natAbs < Decimal.tenPow Decimal.digitLimit := by
    rewrite [power]
    exact (Nat.length_toDigits_le_iff (by decide) (by decide)).mp short
  exact if_neg (Nat.not_le_of_lt small)

/-- A digit of ASCII is a digit of a template. -/
theorem digit_of_ascii {c : Char} (digit : c.isDigit = true) : Text.isDigit c = true := by
  have all : ∀ n < 0x3A, 0x30 ≤ n → Text.isDigit (Char.ofNat n) = true := by decide
  delta Char.isDigit at digit
  simp only [Bool.and_eq_true, decide_eq_true_eq, ge_iff_le, UInt32.le_iff_toNat_le] at digit
  obtain ⟨low, high⟩ := digit
  rw [← Char.ofNat_toNat c]
  exact all c.toNat (Nat.lt_succ_of_le high) low

/-- The digits of a number are digits of a template. -/
theorem digits_of_number (n : Nat) : Digits (Nat.toDigits 10 n) := by
  constructor
  · exact List.ne_nil_of_length_pos Nat.length_toDigits_pos
  · intro c member
    exact digit_of_ascii (Nat.isDigit_of_mem_toDigits (by decide) (by decide) member)

/-- A written integer is a number of a template. -/
theorem int_number (number : Int) : NumberText (toString number).toList := by
  cases number with
  | ofNat n =>
    have written : (toString (Int.ofNat n)).toList = Nat.toDigits 10 n := Nat.toList_repr
    rw [written]
    exact ⟨[], _, [], .inl rfl, digits_of_number n, .inl rfl, by simp⟩
  | negSucc n =>
    have written : toString (Int.negSucc n) = "-" ++ (n + 1).repr := rfl
    rw [written, String.toList_append, Nat.toList_repr]
    exact ⟨['-'], _, [], .inr rfl, digits_of_number (n + 1), .inl rfl, by simp⟩

/-- A number holds no control character. -/
theorem number_visible {text : List Char} (number : NumberText text) :
    ∀ c ∈ text, 0x20 ≤ c.toNat := by
  obtain ⟨sign, whole, fraction, signed, digits, fractional, rfl⟩ := number
  have visible {digits : List Char} (all : Digits digits) : ∀ c ∈ digits, 0x20 ≤ c.toNat := by
    intro c member
    have bounds := digit_bounds (all.2 c member)
    omega
  intro c member
  rcases List.mem_append.mp member with front | back
  · rcases List.mem_append.mp front with first | inside
    · rcases signed with rfl | rfl
      · cases first
      · obtain rfl := List.mem_singleton.mp first
        decide
    · exact visible digits c inside
  · rcases fractional with rfl | ⟨decimals, all, rfl⟩
    · cases back
    · rcases List.mem_cons.mp back with rfl | inside
      · decide
      · exact visible all c inside

/-! ## Constants -/

/-- The values that have a literal. Doubles are not among them. Each has one literal, which `source`
gives. -/
inductive Constant where
  | none
  | truth (value : Bool)
  | integer (value : Int)
  | text (value : String)
deriving DecidableEq, Repr

namespace Constant

/-- A constant as a value. -/
def value : Constant → Value
  | none => .none
  | truth value => .bool value
  | integer number => .int number
  | text written => .text written

/-- The digits of an integer are within the limit for writing integers. -/
def Writable : Constant → Prop
  | integer number => (Nat.toDigits 10 number.natAbs).length ≤ Decimal.digitLimit
  | _ => True

/-- The text of a constant. -/
def source : Constant → String
  | none => "None"
  | truth true => "True"
  | truth false => "False"
  | integer number => toString number
  | text written => String.ofList (Text.quote written.toList)

end Constant

/-- What a literal without a name of its own stands for, as a constant. -/
def Constant.ofDatum : Datum → Constant
  | .int number => .integer number
  | .text written => .text written

/-- The constant that a literal of generated code stands for. -/
def constant? (source : String) : Option Constant :=
  if source = "None" then some .none
  else if source = "True" then some (.truth true)
  else if source = "False" then some (.truth false)
  else (literal? source).map Constant.ofDatum

/-- Build the statement that returns the literal of a value. -/
def resultOf (value : Value) : Build Value := do
  let literal ← literalOf value
  return .object (.statement (← Build.newStatement (.result literal)))

variable {constant : Constant}

/-- A constant within the limit has a literal. -/
theorem constant_literal (writable : constant.Writable) :
    literalOf constant.value = .ok (.literal (.text constant.source)) := by
  cases constant with
  | none => rfl
  | truth value => cases value <;> rfl
  | integer number =>
    have written : literalSource (.int number) = intSource number := rfl
    rw [Constant.value, literalOf, written, int_written writable]
    rfl
  | text text => rfl

/-- A literal of an integer or a text is none of the names. -/
theorem constant_of_literal {source : String} {datum : Datum} (read : literal? source = some datum) :
    constant? source = some (.ofDatum datum) := by
  have other (name : String) (unread : literal? name = Option.none) : source ≠ name := by
    rintro rfl
    rw [unread] at read
    cases read
  rw [constant?, if_neg (other "None" (by decide)),
    if_neg (other "True" (by decide)), if_neg (other "False" (by decide)), read]
  rfl

/-- A literal stands for its constant. -/
theorem constant_read (constant : Constant) : constant? constant.source = some constant := by
  cases constant with
  | none => rfl
  | truth value => cases value <;> rfl
  | integer number => exact constant_of_literal (literal_int number)
  | text text => exact constant_of_literal (literal_text text)

/-- A literal is one token of a template. -/
theorem constant_token (constant : Constant) : IsLiteral constant.source := by
  cases constant with
  | none => exact .inr (.inr (by decide))
  | truth value => cases value <;> exact .inr (.inr (by decide))
  | integer number => exact .inr (.inl (int_number number))
  | text text =>
    refine .inl ?_
    rw [Constant.source, String.toList_ofList]
    exact quote_string text.toList

/-- A literal holds no control character. -/
theorem constant_visible (constant : Constant) :
    ∀ c ∈ constant.source.toList, 0x20 ≤ c.toNat := by
  cases constant with
  | none => exact visible_of_all (by decide)
  | truth value => cases value <;> exact visible_of_all (by decide)
  | integer number => exact number_visible (int_number number)
  | text text =>
    rw [Constant.source, String.toList_ofList]
    exact quote_visible text.toList

/-! ## Templates of one return -/

/-- A text of one `return` is parsed as one, up to the places where it stands. -/
theorem parse_result {operand : Operand} (sound : operand.Sound) (name : String) :
    ∃ parsed, parse ("return " ++ operand.written) name = .ok parsed ∧
      Form.bareAll parsed = Form.bareAll [.result operand.bare .nowhere] := by
  obtain ⟨value, valued, cutValue⟩ := lexes_operand sound
  have cut := cutValue (some (word "return" .nowhere)) [] [] (by decide) (by simp [Stops])
    fun last _ => lexes_end last
  have cutWord := lexes_keyword none "return" (by decide) (by simp; decide)
    (lexes_space (operand_stops_gap sound _) cut)
  have derived : Derives (word "return" .nowhere :: (value ++ []))
      [.result operand.bare .nowhere] := .result .nowhere valued .nothing
  obtain ⟨tokens, cutText, same⟩ := cutWord (.start name) none rfl
  have alike : Alike tokens.items (word "return" .nowhere :: (value ++ [])) := by
    rw [Alike, ← same, List.map_map]
    rfl
  obtain ⟨parsed, read, bare⟩ := derives_relocated derived alike
  refine ⟨parsed, ?_, bare⟩
  have text : ("return " ++ operand.written).toList =
      "return".toList ++ ' ' :: (operand.written.toList ++ []) := by simp
  rw [parse, tokenize, text, cutText]
  exact parse_of_derives read

/-- A text of one `return` with the text of a literal is parsed as just that. -/
theorem parse_returned {text : String} (literal : IsLiteral text) (name : String) :
    ∃ place location, parse ("return " ++ text) name =
      .ok [.result (.literal text place) location] := by
  have sound : (Operand.literal text .nowhere).Sound := literal
  obtain ⟨parsed, read, bare⟩ := parse_result sound name
  obtain ⟨place, location, rfl⟩ : ∃ place location,
      parsed = [.result (.literal text place) location] := by
    match parsed, bare with
    | [.result (.literal text place) location], bare =>
      cases bare
      exact ⟨place, location, rfl⟩
  exact ⟨place, location, read⟩

/-- Building the result of a constant makes a statement of one line. -/
theorem result_built (writable : constant.Writable) (store : Store) :
    ∃ after ref, (resultOf constant.value).Yields store (.object (.statement ref)) after ∧
      ∀ depth, after.statementLines depth ref =
        .ok [Outline.indent depth ("return " ++ constant.source)] := by
  let statement : Statement := .result (.literal (.text constant.source))
  let after : Store := { store with statements := store.statements.push statement }
  have literal := Build.lift_yields (constant_literal writable) store
  have made := Build.new_statement_yields statement store
  refine ⟨after, ⟨.result, store.statements.size⟩, ?_, ?_⟩
  · exact Build.bind_yields literal (Build.bind_yields made (Build.pure_yields _ after))
  · intro depth
    have written : (Value.literal (.text constant.source)).expressionText? =
        some constant.source := rfl
    exact result_lines depth (by simp [after, statement]) (expression_text _ written after.look).1

/-- What a template of one `return` with a constant's literal is: it is read as that, called as one
statement it does what building the constant's result does, and called as a list it gives statements
of the same line. -/
structure Reproduces (constant : Constant) (name : String) (form : Form) : Prop where
  parsed : parse ("return " ++ constant.source) name = .ok [form]
  returns : ∃ place location, form = .result (.literal constant.source place) location
  compiled : ∀ kind ≠ .functionDefinition,
    Template.compile kind ("return " ++ constant.source) name = .ok ⟨name, kind, [form]⟩
  called : Template.call ⟨name, .statement, [form]⟩ [] = resultOf constant.value
  listed : ∀ store, ∃ after id refs,
    (Template.call ⟨name, .statements, [form]⟩ []).Yields store (.object (.cell id)) after ∧
      after.cell id = refs.map StatementRef.value ∧
      ∀ depth, after.linesOf depth refs =
        .ok [Outline.indent depth ("return " ++ constant.source)]

/-- A template of one `return` with the literal of a constant reproduces the constant's result. -/
theorem literal_reproduces (writable : constant.Writable) (name : String) :
    ∃ form, Reproduces constant name form := by
  obtain ⟨place, location, parsed⟩ := parse_returned (constant_token constant) name
  have compiled (kind : Kind) (other : kind ≠ .functionDefinition) :
      Template.compile kind ("return " ++ constant.source) name =
        .ok ⟨name, kind, [.result (.literal constant.source place) location]⟩ := by
    rw [Template.compile, ok_bind parsed]
    cases kind with
    | functionDefinition => exact absurd rfl other
    | _ => rfl
  refine ⟨_, parsed, ⟨place, location, rfl⟩, compiled, ?_, ?_⟩
  · rw [resultOf, constant_literal writable]
    rfl
  · intro store
    obtain ⟨_, after, id, refs, called, given, lines, _⟩ :=
      call_renders_meaning _ name _ (compiled .statements (by decide)) store [] (fun _ => Iff.rfl)
        (by simp) ⟨⟨_, _, rfl, rfl⟩, trivial⟩
    exact ⟨after, id, refs, called, given, lines⟩

/-- The literal of a constant stands for the constant, on one line, and is a value of templates. It
puts the readings side by side: by the language, by the lexer and parser of templates, and by a
call. -/
structure Fits (constant : Constant) : Prop where
  literal : literalOf constant.value = .ok (.literal (.text constant.source))
  denoted : constant? constant.source = some constant
  inline : '\n' ∉ constant.source.toList ∧ '\r' ∉ constant.source.toList
  reproduced : ∀ name, ∃ form, Reproduces constant name form
  rendered : ∀ store, ∃ after ref,
    (resultOf constant.value).Yields store (.object (.statement ref)) after ∧
      ∀ depth, after.statementLines depth ref =
        .ok [Outline.indent depth ("return " ++ constant.source)]

/-- Every constant has a literal that stands for it, on one line, in generated code and in
templates, integers up to the limit of digits.

Proof: an integer is written by its digits and a text by its characters and their escapes, each of
which is read back as what it was written for (`constant_read`). Nothing in a literal is a control
character, so it stays on its line, and the lexer takes it for one token of a `return`
(`literal_reproduces`). -/
theorem literal_fits (constant : Constant) (writable : constant.Writable) : Fits constant := by
  have absent (c : Char) (control : c.toNat < 0x20) : c ∉ constant.source.toList := by
    intro member
    have visible := constant_visible constant c member
    omega
  exact ⟨constant_literal writable, constant_read constant,
    ⟨absent '\n' (by decide), absent '\r' (by decide)⟩, literal_reproduces writable,
    result_built writable⟩

/-- Quotes, backslashes, control characters, what separates lines elsewhere, and what a template
reads as a point. -/
def awkward : String := "\x00\"\\\"\n\r\t\x0C\x08\x1F\x7F\u2028é\u0085😀'$(x) # \x7d"

/-- The literals of an awkward text and of a great negative integer. -/
theorem awkward_fits :
    (Constant.text awkward).source =
        "\"\\u0000\\\"\\\\\\\"\\n\\r\\t\\f\\b\\u001f\x7F\u2028é\u0085😀'$(x) # \x7d\"" ∧
      Fits (.text awkward) ∧ Fits (.integer (-1208925819614629174706176)) := by
  refine ⟨by decide, literal_fits _ trivial, literal_fits _ ?_⟩
  rw [Constant.Writable]
  decide

end Stencil.Template
