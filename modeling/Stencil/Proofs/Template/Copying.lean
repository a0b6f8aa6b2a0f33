import Stencil.Proofs.Code.Expression
import Stencil.Proofs.Code.Lexicon
import Stencil.Proofs.Template.Exactness
import Stencil.Proofs.Template.Literals
import Stencil.Proofs.Template.RoundTrip
import Stencil.Proofs.Template.Scanning

/-!
# Literals as they are copied

A number or a string of a template is copied into generated code as it is written.
What a template reads as a number or a string is not always one of the language,
and here the two are compared, text by text.

A number token is a number of the language if its digits are of ASCII and it has
a point, is zero, or starts with another digit than zero (`number_iff`). A string
token is a string of the language if it holds no carriage return and no character
zero, and each backslash that no other takes with it has an escape behind it
(`string_iff`). For the second, the two readings of a body are put side by side:
behind a backslash one takes a character, the other an escape, but what they take
holds no further quote or backslash, and so they part the body at the same places.
-/

namespace Stencil.Template

open Code

/-! ## Numbers -/

/-- The digits of a text, of any script. -/
def digitsOf (text : List Char) : List Char := text.filter Text.isDigit

/-- The digits of a number are all zeros, or they do not start with one and are not too many. -/
def PlainInteger (release : Release) (text : List Char) : Prop :=
  (∀ c ∈ digitsOf text, c = '0') ∨
    (digitsOf text).head? ≠ some '0' ∧ (digitsOf text).length ≤ release.integerDigits

variable {release : Release}

/-- A sign is no digit. -/
theorem digits_of_signed {sign : List Char} (signed : sign = [] ∨ sign = ['-'])
    (number : List Char) : digitsOf (sign ++ number) = digitsOf number := by
  rcases signed with rfl | rfl
  · rfl
  · exact List.filter_cons_of_neg (by decide)

/-- A digit of ASCII is one of the ten. -/
theorem digit_of_near {c : Char} (digit : Text.isDigit c = true) (ascii : c.toNat < 0x80) :
    c.isDigit = true := by
  have bounds := digit_bounds digit
  have near : 48 ≤ c.toNat ∧ c.toNat ≤ 57 := by omega
  simp only [Char.isDigit, Bool.and_eq_true, decide_eq_true_eq, UInt32.le_iff_toNat_le]
  exact near

/-- An integer of the language has plain digits. -/
theorem plain_of_integer {text : List Char} (integer : DecimalInteger release text) :
    PlainInteger release text := by
  obtain ⟨digits, plain⟩ := integer
  have same : digitsOf text = text.filter Char.isDigit := by
    refine List.filter_congr fun c member => ?_
    rcases digit_part_chars digits c member with digit | rfl
    · rw [digit, digit_of_ascii digit]
    · decide
  rcases plain with zeros | ⟨nonzero, short⟩
  · left
    intro c member
    obtain ⟨inside, digit⟩ := List.mem_filter.mp member
    rcases zeros c inside with rfl | rfl
    · rfl
    · exact absurd digit (by decide)
  · right
    refine ⟨?_, ?_⟩
    · obtain ⟨c, rest, rfl, digit⟩ := digit_part_first digits
      rw [digitsOf, List.filter_cons_of_pos (digit_of_ascii digit)]
      exact nonzero
    · rw [same]
      exact short

/-- Plain digits of ASCII are an integer of the language. -/
theorem integer_of_plain {digits : List Char} (nonempty : digits ≠ [])
    (decimal : ∀ c ∈ digits, c.isDigit = true) (plain : PlainInteger release digits) :
    DecimalInteger release digits := by
  have ofAny : digitsOf digits = digits :=
    List.filter_eq_self.mpr fun c member => digit_of_ascii (decimal c member)
  have ofAscii : digits.filter Char.isDigit = digits := List.filter_eq_self.mpr decimal
  rw [PlainInteger, ofAny] at plain
  refine ⟨digit_part_of_digits nonempty decimal, ?_⟩
  rw [ofAscii]
  exact plain.imp_left fun zeros c member => .inl (zeros c member)

/-- The text of a number of a template has a sign, a point and digits in it and nothing else. -/
theorem number_characters {text : List Char} (worded : NumberText text) {c : Char}
    (member : c ∈ text) : c = '-' ∨ c = '.' ∨ Text.isDigit c = true := by
  obtain ⟨sign, whole, fraction, signed, digits, fractional, rfl⟩ := worded
  rcases List.mem_append.mp member with front | back
  · rcases List.mem_append.mp front with first | inside
    · rcases signed with rfl | rfl
      · cases first
      · exact .inl (List.mem_singleton.mp first)
    · exact .inr (.inr (digits.2 c inside))
  · rcases fractional with rfl | ⟨decimals, behind, rfl⟩
    · cases back
    · exact .inr ((List.mem_cons.mp back).imp_right (behind.2 c))

/-- A float of the language has a point. -/
theorem point_of_float {text : List Char} (float : PointFloat text) : '.' ∈ text := by
  cases float <;> simp

/-- A number of a template is a number of the language if its digits are of ASCII and it has a point
or plain digits, and only then. -/
theorem number_iff {text : List Char} (worded : NumberText text) :
    IsNumber release text ↔
      (∀ c ∈ text, c.toNat < 0x80) ∧ ('.' ∈ text ∨ PlainInteger release text) := by
  constructor
  · intro number
    refine ⟨number_ascii number, ?_⟩
    obtain ⟨sign, number, signed, decimal, rfl⟩ := number
    cases decimal with
    | integer integer =>
      right
      rw [PlainInteger, digits_of_signed signed]
      exact plain_of_integer integer
    | point float => exact .inl (List.mem_append_right sign (point_of_float float))
    | exponent scaled raised =>
      obtain ⟨letter, _, _, isLetter, _, _, rfl⟩ := raised
      -- No number of a template has the letter of an exponent.
      have known := number_characters worded (c := letter) (by simp)
      rcases isLetter with rfl | rfl <;> exact absurd known (by decide)
  · rintro ⟨ascii, plain⟩
    obtain ⟨sign, whole, fraction, signed, digits, fractional, rfl⟩ := worded
    rw [List.forall_mem_append, List.forall_mem_append] at ascii
    have decimal : ∀ c ∈ whole, c.isDigit = true := fun c member =>
      digit_of_near (digits.2 c member) (ascii.1.2 c member)
    rw [List.append_assoc]
    refine ⟨sign, whole ++ fraction, signed, ?_, rfl⟩
    rcases fractional with rfl | ⟨decimals, behind, rfl⟩
    · rw [List.append_nil] at plain ⊢
      refine .integer (integer_of_plain digits.1 decimal ?_)
      rw [PlainInteger, digits_of_signed signed] at plain
      refine plain.resolve_left fun point => ?_
      rcases List.mem_append.mp point with inside | inside
      · rcases signed with rfl | rfl <;> simp at inside
      · exact absurd (decimal '.' inside) (by decide)
    · have near : ∀ c ∈ decimals, c.isDigit = true := fun c member =>
        digit_of_near (behind.2 c member) (ascii.2 c (List.mem_cons_of_mem '.' member))
      exact .point (.both whole decimals (digit_part_of_digits digits.1 decimal)
        (digit_part_of_digits behind.1 near))

/-! ## Strings -/

section Strings

variable {escape : List Char → Prop} {mark : Char} {body : List Char}

/-- Each backslash that no other takes with it has an escape behind it. -/
def EveryEscape (escape : List Char → Prop) (mark : Char) (body : List Char) : Prop :=
  ∀ front rest, body = front ++ '\\' :: rest → Quoted mark front →
    ∃ text, escape text ∧ text <+: rest

/-- Bare characters of a line may stand in front of a quoted text. -/
theorem quoted_bare_iff (isMark : mark = '"' ∨ mark = '\'') {front rest : List Char}
    (bare : ∀ c ∈ front, Bare c ∧ c ≠ '\n') : Quoted mark (front ++ rest) ↔ Quoted mark rest := by
  refine quoted_append_iff fun c member => ?_
  obtain ⟨⟨notDouble, notSingle, notBackslash⟩, inside⟩ := bare c member
  have other : c ≠ mark := by rcases isMark with rfl | rfl <;> assumption
  exact ⟨other, notBackslash, inside⟩

/-- A string's body is on one line. -/
theorem line_of_body (strung : StringBody escape mark body) : ∀ c ∈ body, LineCharacter c := by
  induction strung with
  | nothing => simp
  | plain c rest other bare inside _ inductionHypothesis =>
    rw [List.forall_mem_cons]
    exact ⟨inside, inductionHypothesis⟩
  | escaped text rest known inside _ inductionHypothesis =>
    rw [List.forall_mem_cons, List.forall_mem_append]
    exact ⟨by decide, inside, inductionHypothesis⟩

/-- What an escape takes off a text is bare behind its first character. -/
theorem escape_bare (tame : Tame escape) {c : Char} {rest : List Char} (known : escape (c :: rest))
    (inside : ∀ d ∈ c :: rest, LineCharacter d) : ∀ d ∈ rest, Bare d ∧ d ≠ '\n' := by
  obtain ⟨_, _, same, bare⟩ := tame _ known
  cases same
  exact fun d member => ⟨bare d member, (inside d (List.mem_cons_of_mem c member)).1⟩

/-- A bare text in front of a backslash ends before it. -/
theorem bare_before {front more before behind : List Char} (bare : ∀ c ∈ front, Bare c ∧ c ≠ '\n')
    (same : front ++ more = before ++ '\\' :: behind) :
    ∃ between, before = front ++ between ∧ more = between ++ '\\' :: behind := by
  rcases List.append_eq_append_iff.mp same with ⟨between, split, rest⟩ | ⟨inner, split, rest⟩
  · exact ⟨between, split, rest⟩
  · cases inner with
    | nil => exact ⟨[], by simpa using split.symm, by simpa using rest.symm⟩
    | cons c inner =>
      cases rest
      exact absurd rfl (bare '\\' (by simp [split])).1.2.2

/-- Each backslash of a string's body has an escape behind it. -/
theorem every_escape_of_body (isMark : mark = '"' ∨ mark = '\'') (tame : Tame escape)
    (strung : StringBody escape mark body) : EveryEscape escape mark body := by
  induction strung with
  | nothing =>
    intro front rest same
    simp at same
  | plain c tail other bare inside _ inductionHypothesis =>
    intro front rest same quoted
    cases quoted with
    | nothing => cases same; exact absurd rfl bare
    | plain _ front _ _ _ quoted =>
      cases same
      exact inductionHypothesis front rest rfl quoted
    | escaped => cases same; exact absurd rfl bare
  | escaped text tail known inside _ inductionHypothesis =>
    intro front rest same quoted
    cases quoted with
    | nothing =>
      cases same
      exact ⟨text, known, List.prefix_append text tail⟩
    | plain c _ _ bare => exact absurd (List.cons.inj same).1.symm bare
    | escaped c front _ quoted =>
      obtain ⟨_, others, rfl, _⟩ := tame text known
      obtain ⟨rfl, behind⟩ := List.cons.inj (List.cons.inj same).2
      have bare := escape_bare tame known inside
      obtain ⟨between, rfl, rfl⟩ := bare_before bare behind
      exact inductionHypothesis between rest rfl ((quoted_bare_iff isMark bare).mp quoted)

/-- A quoted text on one line is a string's body if each of its backslashes has an escape behind it.

Proof: recursion on the text. Behind a backslash a whole escape is taken off. What is left is
quoted, since all that was taken behind its first character is bare. -/
theorem body_of_every_escape (isMark : mark = '"' ∨ mark = '\'') (tame : Tame escape)
    (body : List Char) (quoted : Quoted mark body) (line : ∀ c ∈ body, LineCharacter c)
    (every : EveryEscape escape mark body) : StringBody escape mark body := by
  cases quoted with
  | nothing => exact .nothing
  | plain c rest other bare inside quoted =>
    rw [List.forall_mem_cons] at line
    refine .plain c rest other bare line.1 ?_
    refine body_of_every_escape isMark tame rest quoted line.2 ?_
    intro front behind same before
    exact every (c :: front) behind (by rw [same]; rfl) (.plain c front other bare inside before)
  | escaped c rest inside quoted =>
    obtain ⟨text, known, left, whole⟩ := every [] (c :: rest) rfl .nothing
    obtain ⟨first, others, rfl, _⟩ := tame text known
    obtain ⟨rfl, rfl⟩ : first = c ∧ others ++ left = rest := List.cons.inj whole
    have lineTaken : ∀ d ∈ first :: others, LineCharacter d := fun d member =>
      line d (List.mem_cons_of_mem '\\' (List.mem_append_left left member))
    have lineLeft : ∀ d ∈ left, LineCharacter d := fun d member =>
      line d (List.mem_cons_of_mem '\\' (List.mem_append_right (first :: others) member))
    have bare := escape_bare tame known lineTaken
    refine .escaped (first :: others) left known lineTaken ?_
    refine body_of_every_escape isMark tame left ((quoted_bare_iff isMark bare).mp quoted)
      lineLeft ?_
    intro front behind same before
    refine every ('\\' :: first :: (others ++ front)) behind (by simp [same]) ?_
    exact .escaped first _ inside ((quoted_bare_iff isMark bare).mpr before)
termination_by body.length

/-- A body with no backslash behind its first character, which is one, has an escape there. -/
theorem every_escape_single {rest : List Char} (lone : '\\' ∉ rest) :
    EveryEscape escape mark ('\\' :: rest) ↔ ∃ text, escape text ∧ text <+: rest := by
  constructor
  · intro every
    exact every [] rest rfl .nothing
  · intro known front behind same _
    cases front with
    | nil =>
      cases same
      exact known
    | cons c front =>
      have inside : '\\' ∈ rest := by simp [(List.cons.inj same).2]
      exact absurd inside lone

/-- A string of a template is a string of the language if there is no carriage return and no
character zero in it, and each of its backslashes has an escape behind it, and only then. -/
theorem string_iff (isMark : mark = '"' ∨ mark = '\'') (tame : Tame escape)
    (quoted : Quoted mark body) :
    IsString escape (mark :: (body ++ [mark])) ↔
      '\r' ∉ body ∧ '\x00' ∉ body ∧ EveryEscape escape mark body := by
  constructor
  · rintro ⟨_, inner, _, strung, same⟩
    obtain ⟨rfl, behind⟩ := List.cons.inj same
    obtain rfl : body = inner := List.append_cancel_right behind
    have line := line_of_body strung
    exact ⟨fun back => (line _ back).2.1 rfl, fun zero => (line _ zero).2.2 rfl,
      every_escape_of_body isMark tame strung⟩
  · rintro ⟨noReturn, noZero, every⟩
    refine ⟨mark, body, isMark, body_of_every_escape isMark tame body quoted ?_ every, rfl⟩
    intro c member
    refine ⟨?_, ?_, ?_⟩
    · rintro rfl
      exact quoted_line quoted member
    · rintro rfl
      exact noReturn member
    · rintro rfl
      exact noZero member

end Strings

/-! ## Literals of templates -/

/-- What a token that is copied as a literal is in the language, by its kind. A string is compared
twice, once with the escapes alone and once with backslashes that stand for themselves. -/
def Copied (release : Release) : TokenKind → String → Prop
  | .number, text =>
    IsNumber release text.toList ↔
      (∀ c ∈ text.toList, c.toNat < 0x80) ∧ ('.' ∈ text.toList ∨ PlainInteger release text.toList)
  | .string, text =>
    ∃ mark body, (mark = '"' ∨ mark = '\'') ∧ Quoted mark body ∧
      text.toList = mark :: (body ++ [mark]) ∧
      ∀ escape ∈ [IsEscape release, IsTolerated release],
        (IsString escape text.toList ↔
          '\r' ∉ body ∧ '\x00' ∉ body ∧ EveryEscape escape mark body)
  | .name, text => text ∈ literalNames
  | _, _ => False

/-- A number token is copied as a number. -/
theorem copied_number {text : String} (worded : NumberText text.toList) :
    Copied release .number text := number_iff worded

/-- A string token is copied as a string. -/
theorem copied_string {text : String} (worded : StringText text.toList) :
    Copied release .string text := by
  obtain ⟨mark, body, isMark, quoted, written⟩ := worded
  refine ⟨mark, body, isMark, quoted, written, ?_⟩
  rw [written, List.forall_mem_cons, List.forall_mem_singleton]
  exact ⟨string_iff isMark (escape_tame release) quoted,
    string_iff isMark (tolerated_tame release) quoted⟩

/-- Every literal of a template is a token of its text and is copied as it is written, and this says
which of them are literals of the language. A number is one if its digits are of ASCII and it has a
point, is zero, or starts with another digit than zero and has no more digits than are converted. A
string is one if it has no carriage return and no character zero in it, and each backslash that no
other takes with it has an escape behind it. A name is one.

Proof: a literal among the forms is spelled by a token of the text, which is found by following the
derivation down to it (`spelled_operand`). The lexer's wording for tokens of its kind
(`tokenize_worded`) is then compared with the grammar of the language, for numbers (`copied_number`)
and for strings (`copied_string`). -/
theorem literals_copied {kind : Kind} {source name : String} {template : Template}
    (compiled : Template.compile kind source name = .ok template) {form : Form}
    (among : form.Among template.forms) {text : String} {location : Location}
    (given : form.operand? = some (.literal text location)) (release : Release) :
    (∀ bindings, Operand.fill bindings (.literal text location) = pure (.literal (.text text))) ∧
      (∀ look, (Value.literal (.text text)).sourceBy look = .ok text) ∧
      ∃ tokens kind, tokenize source name = .ok tokens ∧ ⟨kind, text, location⟩ ∈ tokens.items ∧
        Copied release kind text := by
  refine ⟨fun _ => rfl, fun look => (expression_text _ rfl look).2, ?_⟩
  obtain ⟨forms, read, fits⟩ := bind_ok compiled
  obtain rfl : template.forms = forms := by
    split at fits
    · cases fits
    · cases fits
      rfl
  obtain ⟨tokens, cut, taken⟩ := bind_ok read
  have spelled := spelled_operand (forms_spelled (derives_of_parse taken) among) given
  obtain ⟨before, own, after, whole, valued, _⟩ := spelled
  have worded := tokenize_worded cut
  cases valued with
  | string =>
    have member : ⟨.string, text, location⟩ ∈ tokens.items := by simp [whole]
    exact ⟨tokens, .string, cut, member, copied_string (worded _ member)⟩
  | number =>
    have member : ⟨.number, text, location⟩ ∈ tokens.items := by simp [whole]
    exact ⟨tokens, .number, cut, member, copied_number (worded _ member)⟩
  | constant _ _ known =>
    have member : ⟨.name, text, location⟩ ∈ tokens.items := by simp [whole]
    exact ⟨tokens, .name, cut, member, known⟩

/-- A conditional with a number in its condition and a string in its body. -/
def compared : String := "if x == -0.50: \x7b return \"\\x41\" \x7d"

/-- The tokens of the conditional. -/
def comparedTokens : Tokens :=
  let place (column : Nat) : Location := ⟨"t", 1, column⟩
  ⟨[word "if" (place 1), word "x" (place 4), mark "==" (place 6), ⟨.number, "-0.50", place 9⟩,
    mark ":" (place 14), mark "\x7b" (place 16), word "return" (place 18),
    ⟨.string, "\"\\x41\"", place 25⟩, mark "\x7d" (place 32)], place 33⟩

/-- The result in the conditional's body. -/
def comparedResult : Form := .result (.literal "\"\\x41\"" ⟨"t", 1, 25⟩) ⟨"t", 1, 18⟩

/-- The conditional. -/
def comparedForm : Form :=
  .conditional "x" (.literal "-0.50" ⟨"t", 1, 9⟩) [comparedResult] [] ⟨"t", 1, 1⟩

/-- The number has a point, and the string's backslash has an escape behind it: both are literals of
the language. -/
theorem compared_copied :
    Template.compile .statement compared "t" = .ok ⟨"t", .statement, [comparedForm]⟩ ∧
      IsNumber default "-0.50".toList ∧ IsString (IsEscape default) "\"\\x41\"".toList := by
  have cut : (tokenize compared "t").toOption = some comparedTokens := by decide +kernel
  have cutText : tokenize compared "t" = .ok comparedTokens := ok_of_some cut
  have read : parse compared "t" = .ok [comparedForm] := parse_of_tokens cut rfl
  have compiled : Template.compile .statement compared "t" =
      .ok ⟨"t", .statement, [comparedForm]⟩ := by
    rw [Template.compile, ok_bind read]
    rfl
  refine ⟨compiled, ?_, ?_⟩
  · obtain ⟨_, _, tokens, kind, again, member, copied⟩ :=
      literals_copied compiled (.here []) rfl default
    obtain rfl : comparedTokens = tokens := Except.ok.inj (cutText.symm.trans again)
    obtain rfl : kind = .number := by simpa [comparedTokens] using member
    exact copied.mpr ⟨ascii_of_all rfl, .inl (by decide)⟩
  · obtain ⟨_, _, tokens, kind, again, member, copied⟩ :=
      literals_copied compiled (.thenBody _ _ _ _ _ _ (.here [])) rfl default
    obtain rfl : comparedTokens = tokens := Except.ok.inj (cutText.symm.trans again)
    obtain rfl : kind = .string := by simpa [comparedTokens] using member
    obtain ⟨quote, body, _, _, written, valid⟩ := copied
    obtain ⟨rfl, behind⟩ : '"' = quote ∧ ['\\', 'x', '4', '1', '"'] = body ++ [quote] :=
      List.cons.inj written
    have split : ['\\', 'x', '4', '1'] ++ ['"'] = body ++ ['"'] := behind
    obtain rfl := List.append_cancel_right split
    refine (valid _ List.mem_cons_self).mpr ⟨by decide, by decide, ?_⟩
    rw [every_escape_single (by decide)]
    have valid : IsEscape default ['x', '4', '1'] :=
      .number 'x' ['4', '1'] (by decide) (List.all_eq_true.mp rfl) (by decide)
    exact ⟨_, valid, List.prefix_rfl⟩

/-- A template of one `return` with the text is the text as a literal. -/
def ReturnsLiteral (text : String) : Prop :=
  ∃ place location, Template.compile .statement ("return " ++ text) "t" =
    .ok ⟨"t", .statement, [.result (.literal text place) location]⟩

/-- Whatever reads as a number or a string in a template is copied from one `return`. -/
theorem returns_literal {text : String} (literal : IsLiteral text) : ReturnsLiteral text := by
  obtain ⟨place, location, read⟩ := parse_returned literal "t"
  refine ⟨place, location, ?_⟩
  rw [Template.compile, ok_bind read]
  rfl

/-- An `x` alone is no escape, and no character that a backslash may stand before. -/
theorem lone_x_intolerable : ¬∃ text, IsTolerated release text ∧ text <+: ['x'] := by
  rintro ⟨text, tolerated, start⟩
  obtain ⟨c, rest, rfl, _⟩ := tolerated_tame release text tolerated
  obtain ⟨rfl, shorter⟩ := List.cons_prefix_cons.mp start
  obtain rfl := List.prefix_nil.mp shorter
  cases tolerated with
  | itself _ opens => exact opens (by decide)
  | escape _ valid =>
    cases valid with
    | letter _ known => exact absurd known (by decide)
    | octal _ _ _ octal => exact absurd (octal 'x' List.mem_cons_self) (by decide)
    | number _ _ known => exact absurd known (by decide)

/-- Literals of templates that are none of the language, whatever its release: a number with zeros
in front, a digit of another script, a string with an escape that is not finished, and one with a
carriage return in it. -/
theorem literals_unread :
    (∀ text ∈ ["007", "٣"],
      ReturnsLiteral text ∧ ∀ release, ¬IsNumber release text.toList) ∧
    ∀ text ∈ ["\"\\x\"", "'\r'"],
      ReturnsLiteral text ∧ ∀ release, ¬IsString (IsTolerated release) text.toList := by
  have zeros : NumberText "007".toList :=
    ⟨[], "007".toList, [], .inl rfl, ⟨by decide, List.all_eq_true.mp rfl⟩, .inl rfl, rfl⟩
  have foreign : NumberText "٣".toList :=
    ⟨[], "٣".toList, [], .inl rfl, ⟨by decide, List.all_eq_true.mp rfl⟩, .inl rfl, rfl⟩
  have unfinished : Quoted '"' ['\\', 'x'] := .escaped 'x' [] (by decide) .nothing
  have returned : Quoted '\'' ['\r'] :=
    .plain '\r' [] (by decide) (by decide) (by decide) .nothing
  rw [List.forall_mem_cons, List.forall_mem_singleton, List.forall_mem_cons,
    List.forall_mem_singleton]
  refine ⟨⟨⟨?_, ?_⟩, ?_, ?_⟩, ⟨?_, ?_⟩, ?_, ?_⟩
  · exact returns_literal (.inr (.inl zeros))
  · intro release number
    obtain point | zeros | ⟨nonzero, _⟩ := ((number_iff zeros).mp number).2
    · exact absurd point (by decide)
    · exact absurd (zeros '7' (by decide)) (by decide)
    · exact absurd nonzero (by decide)
  · exact returns_literal (.inr (.inl foreign))
  · intro release number
    exact absurd (number_ascii number '٣' (by decide)) (by decide)
  · exact returns_literal (.inl ⟨'"', _, .inl rfl, unfinished, rfl⟩)
  · intro release string
    have every := ((string_iff (.inl rfl) (tolerated_tame release) unfinished).mp string).2.2
    exact lone_x_intolerable ((every_escape_single (by decide)).mp every)
  · exact returns_literal (.inl ⟨'\'', _, .inr rfl, returned, rfl⟩)
  · intro release string
    have line := ((string_iff (.inr rfl) (tolerated_tame release) returned).mp string).1
    exact absurd List.mem_cons_self line

end Stencil.Template
