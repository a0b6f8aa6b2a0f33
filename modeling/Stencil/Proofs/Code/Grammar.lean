import Stencil.Code.Outline
import Stencil.Decimal.Power
import Stencil.Proofs.Code.Globals

/-!
# The grammar of modules

Which lines are a module of assignments and functions (`Language.IsModule`). An
assignment gives an integer literal to a name. A function has one parameter, and
a body that ends with a result and has conditionals before it. When such a
module is imported, integer literals are all that is evaluated, so it can be
imported if its text is that of such lines (`Language.IsText`).

Which texts beyond ASCII are names is left open, and so is which texts are
expressions, but for what is known of both (`WordSpelling`, `Language`).
-/

namespace Stencil.Code

/-! ## Words -/

/-- A character that stands in words. -/
def isWordChar (c : Char) : Bool := c.isAlphanum || c == '_'

/-- How texts are read as names, of which the characters of ASCII are letters, digits and
underscores. -/
structure WordSpelling extends Spelling where
  word : ∀ text name, name? text = some name → ∀ c ∈ text.toList, c.toNat < 0x80 → isWordChar c = true

/-- The characters of a name in ASCII are letters, digits and underscores. -/
theorem name_chars {text : String} (named : isName text = true) :
    ∀ c ∈ text.toList, isWordChar c = true := by
  unfold isName at named
  split at named
  · cases named
  · rename_i first rest chars
    rw [Bool.and_eq_true, Bool.and_eq_true] at named
    rw [chars, List.forall_mem_cons]
    refine ⟨?_, List.all_eq_true.mp named.1.2⟩
    have start := named.1.1
    rw [Bool.or_eq_true] at start
    rw [isWordChar, Bool.or_eq_true, Char.isAlphanum, Bool.or_eq_true]
    rcases start with letter | underscore
    · exact .inl (.inl letter)
    · exact .inr underscore

/-- The spelling that has no names beyond ASCII has such names. -/
def WordSpelling.plain : WordSpelling where
  toSpelling := Spelling.plain
  word := by
    intro text name named c member _
    have plain : (if isAscii text && isName text then some text else none) = some name := named
    by_cases known : (isAscii text && isName text) = true
    · exact name_chars (Bool.and_eq_true_iff.mp known).2 c member
    · rw [if_neg known] at plain
      cases plain

/-- A name holds no character of ASCII but those of words. -/
theorem name_apart (spelling : WordSpelling) {text name : String} {c : Char}
    (named : spelling.name? text = some name) (ascii : c.toNat < 0x80)
    (other : isWordChar c = false) : c ∉ text.toList := by
  intro member
  rw [spelling.word text name named c member ascii] at other
  cases other

/-- A line without a line end in it. -/
def OneLine (line : String) : Prop := '\n' ∉ line.toList ∧ '\r' ∉ line.toList

instance (line : String) : Decidable (OneLine line) := inferInstanceAs (Decidable (_ ∧ _))

/-- Texts without line ends are put together without line ends. -/
theorem one_line_append {front behind : String} (one : OneLine front) (other : OneLine behind) :
    OneLine (front ++ behind) := by
  unfold OneLine
  rw [String.toList_append, List.mem_append, List.mem_append, not_or, not_or]
  exact ⟨⟨one.1, other.1⟩, one.2, other.2⟩

/-- A text without control characters has no line ends. -/
theorem one_line_of_visible {line : String} (visible : ∀ c ∈ line.toList, 0x20 ≤ c.toNat) :
    OneLine line :=
  ⟨fun feed => absurd (visible _ feed) (by decide), fun back => absurd (visible _ back) (by decide)⟩

/-- A text is the decimal literal of an integer: digits, without a needless zero in front, and not
more of them than are read. -/
structure IsDecimal (text : String) (number : Int) : Prop where
  denotes : (decimal? text.toList).map Int.ofNat = some number
  plain : text.toList.head? = some '0' → text = "0"
  short : text.length ≤ Decimal.digitLimit

/-! ## Lines -/

/-- How code is read: which texts are names, and which are expressions. Decimal literals are
expressions, and so are string literals without control characters, and comparisons of a name with a
decimal literal. -/
structure Language extends WordSpelling where
  IsExpression : String → Prop
  decimal : ∀ text number, IsDecimal text number → IsExpression text
  string : ∀ text datum, stringLiteral? text.toList = some datum →
    (∀ c ∈ text.toList, 0x20 ≤ c.toNat) → IsExpression text
  comparison : ∀ target text number, (name? target).isSome → IsDecimal text number →
    IsExpression (target ++ " == " ++ text)

namespace Language

/-- A line assigns an integer to a name. -/
def Assigns (language : Language) (line : String) (number : Int) : Prop :=
  ∃ target literal, line = target ++ " = " ++ literal ∧ (language.target? target).isSome ∧
    IsDecimal literal number

/-- The lines of a body at a depth: conditionals, with bodies that are one deeper, and a result
behind them. -/
inductive IsBody (language : Language) : Int → List String → Prop where
  | result {depth : Int} {expression : String} (valid : language.IsExpression expression) :
      IsBody language depth [Outline.indent depth ("return " ++ expression)]
  | conditional {depth : Int} {condition : String} {inner rest : List String}
      (valid : language.IsExpression condition) (below : IsBody language (depth + 1) inner)
      (behind : IsBody language depth rest) :
      IsBody language depth (Outline.indent depth ("if " ++ condition ++ ":") :: (inner ++ rest))

/-- The lines of a module: assignments and functions of one parameter. The rules say which lines may
follow one another and at which indentation. They do not mention how the lines come about. -/
inductive IsModule (language : Language) : List String → Prop where
  | nothing : IsModule language []
  | assignment {line : String} {lines : List String} {number : Int}
      (assigns : language.Assigns line number) (behind : IsModule language lines) :
      IsModule language (line :: lines)
  | function {name parameter : String} {body lines : List String}
      (named : (language.target? name).isSome) (passed : (language.target? parameter).isSome)
      (within : IsBody language 1 body) (behind : IsModule language lines) :
      IsModule language (("def " ++ name ++ "(" ++ parameter ++ "):") :: (body ++ lines))

/-- The text of a module, with a line end behind every line. -/
def IsText (language : Language) (text : String) : Prop :=
  ∃ lines, text = Outline.fileText lines ∧ (∀ line ∈ lines, OneLine line) ∧
    language.IsModule lines

end Language

/-- The expressions that every language has. Which other texts are expressions is left open. -/
inductive PlainExpression : String → Prop where
  | decimal {text : String} {number : Int} (decimal : IsDecimal text number) : PlainExpression text
  | string {text datum : String} (read : stringLiteral? text.toList = some datum) :
      PlainExpression text
  | name {text : String} (named : (Spelling.plain.name? text).isSome) : PlainExpression text
  | comparison {target text : String} {number : Int} (named : (Spelling.plain.name? target).isSome)
      (decimal : IsDecimal text number) : PlainExpression (target ++ " == " ++ text)

/-- The language of these expressions, and of names in ASCII. -/
def Language.plain : Language where
  toWordSpelling := WordSpelling.plain
  IsExpression := PlainExpression
  decimal _ _ := .decimal
  string _ _ read _ := .string read
  comparison _ _ _ := .comparison

instance : Inhabited Language := ⟨.plain⟩

/-! ## Decimal literals -/

variable {text : String} {number : Int}

/-- A number that is not zero is not written with a zero in front. The induction is on the number,
which loses its last digit. -/
theorem digits_plain {n : Nat} (positive : 0 < n) : (Nat.toDigits 10 n).head? ≠ some '0' := by
  induction n using Nat.strongRecOn with
  | ind n inductionHypothesis =>
    by_cases small : n < 10
    · have each : ∀ n < 10, 0 < n → [Nat.digitChar n].head? ≠ some '0' := by decide
      rw [Nat.toDigits_of_lt_base small]
      exact each n small positive
    · have large : 10 ≤ n := Nat.le_of_not_lt small
      have shorter := inductionHypothesis (n / 10) (Nat.div_lt_self positive (by decide))
        (Nat.div_pos large (by decide))
      obtain ⟨first, rest, digits⟩ :=
        List.exists_cons_of_ne_nil (Nat.toDigits_ne_nil : Nat.toDigits 10 (n / 10) ≠ [])
      rw [Nat.toDigits_of_base_le (by decide) large, digits]
      rwa [digits] at shorter

/-- An integer that is not negative and within the limit of digits is written as a decimal
literal. -/
theorem decimal_of_natural (natural : 0 ≤ number)
    (short : (Nat.toDigits 10 number.natAbs).length ≤ Decimal.digitLimit) :
    IsDecimal (toString number) number := by
  obtain ⟨n, rfl⟩ := Int.eq_ofNat_of_zero_le natural
  have chars : (toString (n : Int)).toList = Nat.toDigits 10 n := Nat.toList_repr
  refine ⟨?_, ?_, ?_⟩
  · rw [chars, decimal_digits]
    rfl
  · intro zero
    rw [chars] at zero
    by_cases positive : 0 < n
    · exact absurd zero (digits_plain positive)
    · obtain rfl := Nat.eq_zero_of_not_pos positive
      rfl
  · rw [← String.length_toList, chars]
    exact short

/-- A decimal literal is made of digits. -/
theorem decimal_chars (decimal : IsDecimal text number) :
    ∀ c ∈ text.toList, c.isDigit = true := by
  have read := decimal.denotes
  unfold decimal? at read
  split at read
  · rename_i digits
    exact List.all_eq_true.mp digits.2
  · cases read

/-- A decimal literal holds no character but digits. -/
theorem decimal_apart {c : Char} (decimal : IsDecimal text number) (other : c.isDigit = false) :
    c ∉ text.toList := by
  intro member
  rw [decimal_chars decimal c member] at other
  cases other

/-- A decimal literal has no line ends. -/
theorem decimal_one_line (decimal : IsDecimal text number) : OneLine text :=
  ⟨decimal_apart decimal rfl, decimal_apart decimal rfl⟩

namespace Language

variable {language : Language}

/-- An assignment is one line. -/
theorem assigns_one_line {line : String} (assigns : language.Assigns line number) :
    OneLine line := by
  obtain ⟨target, literal, rfl, bound, decimal⟩ := assigns
  obtain ⟨name, named⟩ := Option.isSome_iff_exists.mp bound
  have apart {c : Char} := @name_apart language.toWordSpelling target name c
    (Spelling.target_named named)
  have name : OneLine target := ⟨apart (by decide) (by decide), apart (by decide) (by decide)⟩
  exact one_line_append (one_line_append name (by decide)) (decimal_one_line decimal)

end Language

end Stencil.Code
