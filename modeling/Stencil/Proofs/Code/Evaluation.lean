import Stencil.Proofs.Code.Expression
import Stencil.Proofs.Code.Sourcing

/-!
# What the source text of an expression stands for

An expression made of names, literals and comparisons has a value in two ways:
from its own structure (`Expression.meaning`), and from its source text, which
is read as a comparison of its operands in order (`Meanings.evaluate?`). The
text has no parentheses, so all comparisons in an expression are one comparison
of all its operands, which holds where each operand is the same as the next.

The two values are the same for an operand and for a comparison of two operands.
A comparison of comparisons keeps its value where its sides are the same exactly
if all operands are. With three or more names in it, all different, it does not
keep it for all that the names can stand for: over truth values a comparison of
comparisons counts the operands that are false (`meaning_parity`), and two false
operands before a true one are even in number but not all the same.
-/

namespace Stencil.Code

open Comparison

/-- A text as it is read from source code, with every line end a line feed. -/
def uniform (text : String) : String := String.ofList (Text.universalNewlines text.toList)

/-- An expression of names, literals and comparisons. These are the trees; what the program renders
is the value that is built from one. -/
inductive Expression where
  | name (text : String) (whole : (Atom.name text).Whole)
  | literal (text : String) (whole : (Atom.literal (uniform text)).Whole)
  | equals (lhs rhs : Expression)

/-- What names and literals stand for, when two values are the same, and the values that stand for
true and false. -/
structure Meanings (V : Type) where
  name : String → V
  literal : String → V
  same : V → V → Bool
  truth : Bool → V

namespace Meanings

variable {V : Type} (meanings : Meanings V)

/-- The value of an operand. -/
def atom : Atom → V
  | .name text => meanings.name text
  | .literal text => meanings.literal text

/-- Whether each value is the same as the next. -/
def allSame : V → List V → Bool
  | _, [] => true
  | value, next :: rest => meanings.same value next && allSame next rest

/-- The value of a comparison: that of its operand if there is only one, else whether each is the
same as the next. -/
def comparison (first : Atom) : List Atom → V
  | [] => meanings.atom first
  | others => meanings.truth (meanings.allSame (meanings.atom first) (others.map meanings.atom))

/-- The value of a source text. It is the text that is read here, by the rule that comparisons in a
row hold together; the tree it came from is not seen. -/
def evaluate? (text : String) : Option V :=
  (readComparison? text).map fun read => meanings.comparison read.1 read.2

/-- Names that stand for truth values. -/
def ofTruths (bound : String → Bool) : Meanings Bool where
  name := bound
  literal := fun _ => true
  same := (· == ·)
  truth := id

end Meanings

namespace Expression

/-- An expression as a value of the program. -/
def value : Expression → Value
  | name text _ => .reference (.text text)
  | literal text _ => .literal (.text text)
  | equals lhs rhs => .equals lhs.value rhs.value

/-- The source text of an expression. -/
def source : Expression → String
  | name text _ | literal text _ => text
  | equals lhs rhs => lhs.source ++ " == " ++ rhs.source

/-- The first operand. -/
def first : Expression → Atom
  | name text _ => .name text
  | literal text _ => .literal (uniform text)
  | equals lhs _ => lhs.first

/-- The operands behind the first. -/
def others : Expression → List Atom
  | name .. | literal .. => []
  | equals lhs rhs => lhs.others ++ rhs.first :: rhs.others

/-- The operands from left to right. -/
def operands (expression : Expression) : List Atom := expression.first :: expression.others

/-- The value of an expression by its structure. It follows the tree, with a truth value for each
comparison in it. -/
def meaning {V : Type} (meanings : Meanings V) : Expression → V
  | name text _ => meanings.name text
  | literal text _ => meanings.literal (uniform text)
  | equals lhs rhs => meanings.truth (meanings.same (lhs.meaning meanings) (rhs.meaning meanings))

/-- An expression that is no comparison. -/
def isOperand : Expression → Bool
  | equals .. => false
  | _ => true

/-- An expression in which no comparison is compared. -/
def isFlat : Expression → Bool
  | equals lhs rhs => lhs.isOperand && rhs.isOperand
  | _ => true

/-- An expression is written as its source text. -/
theorem value_written (expression : Expression) :
    expression.value.expressionText? = some expression.source := by
  induction expression with
  | name text whole => rfl
  | literal text whole => rfl
  | equals lhs rhs left right =>
    rw [value, Value.expressionText?, left, right]
    rfl

/-! ## The source text is read as one comparison -/

/-- A name holds no carriage return. -/
theorem name_uniform {text : String} (whole : (Atom.name text).Whole) :
    Text.universalNewlines text.toList = text.toList := by
  apply Text.newlines_same
  intro inside
  exact absurd ((word_apart whole).2.1 '\r' inside) (by decide)

/-- The lexemes of an operand's text. -/
theorem lexemes_operand {atom : Atom} (whole : atom.Whole) {rest : List Char}
    (stops : Stops goesOn rest) :
    lexemes? (atom.written.toList ++ rest) = (lexemes? rest).map (spread atom [] ++ ·) :=
  lexemes_first (lexeme_atom whole stops)

/-- The lexemes of an expression's source text are its operands with the sign between them, whatever
stops the text. The induction is over the expression; the left side of a comparison is stopped by
the blank before the sign. -/
theorem lexemes_source (expression : Expression) {rest : List Char} (stops : Stops goesOn rest) :
    lexemes? (Text.universalNewlines expression.source.toList ++ rest) =
      (lexemes? rest).map (spread expression.first expression.others ++ ·) := by
  induction expression generalizing rest with
  | name text whole =>
    rw [source, name_uniform whole]
    exact lexemes_operand whole stops
  | literal text whole =>
    have read := lexemes_operand whole stops
    rw [Atom.written, uniform, String.toList_ofList] at read
    exact read
  | equals lhs rhs left right =>
    have apart : Text.universalNewlines (equals lhs rhs).source.toList ++ rest =
        Text.universalNewlines lhs.source.toList ++
          (' ' :: '=' :: '=' :: ' ' :: (Text.universalNewlines rhs.source.toList ++ rest)) := by
      have sign : ∀ behind : List Char, Text.universalNewlines (" == ".toList ++ behind) =
          ' ' :: '=' :: '=' :: ' ' :: Text.universalNewlines behind := fun _ => rfl
      have noFeed : ∀ c ∈ (" == ".toList ++ rhs.source.toList).head?, c ≠ '\n' := by
        rintro c ⟨⟩
        decide
      rw [source, String.toList_append, String.toList_append, List.append_assoc,
        Text.newlines_append _ noFeed, sign, List.append_assoc]
      rfl
    have signed : lexeme? ('=' :: '=' :: ' ' ::
        (Text.universalNewlines rhs.source.toList ++ rest)) =
        some (.equals, ' ' :: (Text.universalNewlines rhs.source.toList ++ rest)) := rfl
    have blank : isGap ' ' = true := by decide
    rw [apart, left ((stops_cons _ _ _).mpr (by decide)), lexemes_gap blank, lexemes_first signed,
      lexemes_gap blank, right stops]
    cases lexemes? rest with
    | none => rfl
    | some more =>
      simp only [Option.map_some, Option.some.injEq, first, others]
      rw [← spread_append, List.append_assoc, List.cons_append]

/-- The source text of an expression is read as the comparison of its operands. -/
theorem source_read (expression : Expression) :
    readComparison? expression.source = some (expression.first, expression.others) := by
  have read := lexemes_source expression (stops_nil goesOn)
  rw [List.append_nil, lexemes?, Option.map_some, List.append_nil] at read
  rw [readComparison?, read, Option.bind_some, chain_spread]

/-- The value of an expression's source text is that of the comparison of its operands. -/
theorem source_evaluated (expression : Expression) {V : Type} (meanings : Meanings V) :
    meanings.evaluate? expression.source =
      some (meanings.comparison expression.first expression.others) := by
  rw [Meanings.evaluate?, source_read, Option.map_some]

/-! ## Where the two values are the same -/

/-- An operand has one value. -/
theorem operand_kept {V : Type} (meanings : Meanings V) {expression : Expression}
    (operand : expression.isOperand = true) :
    expression.others = [] ∧ meanings.atom expression.first = expression.meaning meanings := by
  cases expression with
  | name text whole => exact ⟨rfl, rfl⟩
  | literal text whole => exact ⟨rfl, rfl⟩
  | equals lhs rhs => cases operand

/-- An expression in which no comparison is compared has one value. -/
theorem flat_kept {V : Type} (meanings : Meanings V) {expression : Expression}
    (flat : expression.isFlat = true) :
    meanings.comparison expression.first expression.others = expression.meaning meanings := by
  cases expression with
  | name text whole => rfl
  | literal text whole => rfl
  | equals lhs rhs =>
    rw [isFlat, Bool.and_eq_true] at flat
    obtain ⟨leftOnly, left⟩ := operand_kept meanings flat.1
    obtain ⟨rightOnly, right⟩ := operand_kept meanings flat.2
    rw [first, others, leftOnly, rightOnly, meaning, ← left, ← right]
    simp [Meanings.comparison, Meanings.allSame]

/-! ## Comparisons of comparisons -/

/-- A comparison has an operand behind the first. -/
theorem others_nonempty {expression : Expression} (compares : expression.isOperand = false) :
    expression.others ≠ [] := by
  cases expression with
  | name text whole => cases compares
  | literal text whole => cases compares
  | equals lhs rhs => simp [others]

/-- A comparison of comparisons has at least three operands. -/
theorem three_operands {expression : Expression} (nested : expression.isFlat = false) :
    ∃ second third rest, expression.others = second :: third :: rest := by
  cases expression with
  | name text whole => cases nested
  | literal text whole => cases nested
  | equals lhs rhs =>
    rw [others]
    cases behind : lhs.others with
    | nil =>
      have right : rhs.isOperand = false := by
        cases compares : lhs.isOperand with
        | false => exact absurd behind (others_nonempty compares)
        | true =>
          rw [isFlat, compares, Bool.true_and] at nested
          exact nested
      obtain ⟨third, rest, more⟩ := List.exists_cons_of_ne_nil (others_nonempty right)
      exact ⟨rhs.first, third, rest, by rw [more, List.nil_append]⟩
    | cons second more =>
      cases more with
      | nil => exact ⟨second, rhs.first, rhs.others, rfl⟩
      | cons third more => exact ⟨second, third, more ++ rhs.first :: rhs.others, rfl⟩

/-- Whether the false ones among truth values are even in number. -/
def evenFalse (truths : List Bool) : Bool := truths.foldr (· == ·) true

/-- The false ones of two lists are even in number together if those of both are or of neither. -/
theorem even_append (front rest : List Bool) :
    evenFalse (front ++ rest) = (evenFalse front == evenFalse rest) := by
  induction front with
  | nil => exact (Bool.true_beq _).symm
  | cons head front inductionHypothesis =>
    have regroup : ∀ a b c : Bool, (a == (b == c)) = ((a == b) == c) := by decide
    rw [List.cons_append, evenFalse, List.foldr_cons, ← evenFalse, inductionHypothesis, regroup]
    rfl

/-- None is an even number of false ones. -/
theorem even_none {truths : List Bool} (none : ∀ truth ∈ truths, truth = true) :
    evenFalse truths = true := by
  induction truths with
  | nil => rfl
  | cons truth truths inductionHypothesis =>
    rw [List.forall_mem_cons] at none
    rw [evenFalse, List.foldr_cons, ← evenFalse, inductionHypothesis none.2, none.1]
    rfl

/-- Over truth values an expression counts the operands that are false. The induction is on the
expression: a comparison of truth values is true exactly if both sides have as many false operands,
up to an even number. -/
theorem meaning_parity (bound : String → Bool) (expression : Expression) :
    expression.meaning (.ofTruths bound) =
      evenFalse (expression.operands.map (Meanings.ofTruths bound).atom) := by
  induction expression with
  | name text whole => exact (beq_true _).symm
  | literal text whole => rfl
  | equals lhs rhs left right =>
    have split : (equals lhs rhs).operands = lhs.operands ++ rhs.operands := rfl
    rw [split, List.map_append, even_append, ← left, ← right]
    rfl

/-- Two names stand for false and all others for true. -/
def twoFalse (one two : String) (name : String) : Bool := name != one && name != two

/-- Both names stand for false. -/
theorem both_false (one two : String) :
    (Meanings.ofTruths (twoFalse one two)).atom (.name one) = false ∧
      (Meanings.ofTruths (twoFalse one two)).atom (.name two) = false := by
  simp [twoFalse, Meanings.atom, Meanings.ofTruths]

/-- Names that are neither stand for true. -/
theorem others_true {one two : String} {atoms : List Atom}
    (names : ∀ atom ∈ atoms, ∃ text, atom = .name text) (notOne : .name one ∉ atoms)
    (notTwo : .name two ∉ atoms) :
    ∀ atom ∈ atoms, (Meanings.ofTruths (twoFalse one two)).atom atom = true := by
  intro atom inside
  obtain ⟨text, rfl⟩ := names atom inside
  have apartOne : text ≠ one := by
    rintro rfl
    exact notOne inside
  have apartTwo : text ≠ two := by
    rintro rfl
    exact notTwo inside
  simp [twoFalse, Meanings.atom, Meanings.ofTruths, apartOne, apartTwo]

/-- With different names in it, a comparison of comparisons does not keep its value if the first two
names stand for false and all others for true. -/
theorem nested_lost {expression : Expression} (nested : expression.isFlat = false)
    (names : ∀ atom ∈ expression.operands, ∃ text, atom = .name text)
    (different : expression.operands.Nodup) :
    ∃ bound, (Meanings.ofTruths bound).comparison expression.first expression.others = false ∧
      expression.meaning (.ofTruths bound) = true := by
  obtain ⟨second, third, rest, behind⟩ := three_operands nested
  have all : expression.operands = expression.first :: second :: third :: rest := by
    rw [operands, behind]
  rw [all] at names different
  rw [List.forall_mem_cons, List.forall_mem_cons] at names
  obtain ⟨⟨one, isOne⟩, ⟨two, isTwo⟩, names⟩ := names
  rw [isOne, isTwo] at all different
  rw [List.nodup_cons, List.nodup_cons, List.mem_cons, not_or] at different
  have low := both_false one two
  have high := others_true names different.1.2 different.2.1
  refine ⟨twoFalse one two, ?_, ?_⟩
  · rw [behind, isOne, isTwo, Meanings.comparison, List.map_cons, List.map_cons, low.1, low.2,
      high third List.mem_cons_self]
    · rfl
    · exact List.cons_ne_nil _ _
  · have even : evenFalse ((third :: rest).map (Meanings.ofTruths (twoFalse one two)).atom) =
        true := by
      apply even_none
      intro truth inside
      obtain ⟨atom, member, rfl⟩ := List.mem_map.mp inside
      exact high atom member
    rw [evenFalse] at even
    rw [meaning_parity, all, List.map_cons, List.map_cons, low.1, low.2, evenFalse,
      List.foldr_cons, List.foldr_cons, even]
    rfl

/-! ## Rendering an expression -/

/-- An expression is rendered as a text that is read as one comparison of its operands from left to
right. Without a comparison that is compared, the text has the value of the expression, whatever the
names stand for. With one, and with a different name for each operand, there are truth values for
the names with which it has another.

Proof: the text has the operands in order with signs between them and no parentheses, so it is read
as one comparison (`source_read`). Of a flat expression that is the whole structure. Otherwise let
the first two names be false and all others true: the expression counts the false ones, which are
two, while the text asks whether all are the same (`nested_lost`). -/
theorem rendered_evaluated (expression : Expression) (store : Store) :
    store.text expression.value = .ok expression.source ∧
    readComparison? expression.source = some (expression.first, expression.others) ∧
    (∀ {V : Type} (meanings : Meanings V), meanings.evaluate? expression.source =
      some (meanings.comparison expression.first expression.others)) ∧
    (expression.isFlat = true → ∀ {V : Type} (meanings : Meanings V),
      meanings.evaluate? expression.source = some (expression.meaning meanings)) ∧
    (expression.isFlat = false → (∀ atom ∈ expression.operands, ∃ text, atom = .name text) →
      expression.operands.Nodup → ∃ bound, (Meanings.ofTruths bound).evaluate? expression.source ≠
        some (expression.meaning (.ofTruths bound))) := by
  refine ⟨(expression_text _ expression.value_written store.look).1, expression.source_read,
    expression.source_evaluated, ?_, ?_⟩
  · intro flat V meanings
    rw [source_evaluated, flat_kept meanings flat]
  · intro nested names different
    obtain ⟨bound, text, tree⟩ := nested_lost nested names different
    refine ⟨bound, ?_⟩
    rw [source_evaluated, text, tree]
    decide

/-- Two names compared, and the result with a third. -/
def comparedTwice : Expression :=
  .equals (.equals (.name "x" (by decide)) (.name "y" (by decide))) (.name "z" (by decide))

/-- Three different names, two of them compared first. -/
theorem nested_rendered : comparedTwice.isFlat = false ∧ comparedTwice.operands.Nodup ∧
    ∃ bound, (Meanings.ofTruths bound).evaluate? comparedTwice.source ≠
      some (comparedTwice.meaning (.ofTruths bound)) := by
  have different : comparedTwice.operands.Nodup := by decide
  have names : ∀ atom ∈ comparedTwice.operands, ∃ text, atom = .name text := by
    simp [comparedTwice, operands, first, others]
  have lost := (rendered_evaluated comparedTwice Store.empty).2.2.2.2
  exact ⟨rfl, different, lost rfl names different⟩

/-- True compared with false is false, and that is the same as false; but the text asks whether all
three are the same. -/
theorem comparison_lost :
    Store.empty.text comparedTwice.value = .ok "x == y == z" ∧
      (Meanings.ofTruths (· == "x")).evaluate? "x == y == z" = some false ∧
      comparedTwice.meaning (.ofTruths (· == "x")) = true := by
  have written : comparedTwice.source = "x == y == z" := rfl
  have rendered := (expression_text _ comparedTwice.value_written Store.empty.look).1
  have evaluated := comparedTwice.source_evaluated (.ofTruths (· == "x"))
  rw [written] at rendered evaluated
  exact ⟨rendered, evaluated, rfl⟩

end Expression

end Stencil.Code
