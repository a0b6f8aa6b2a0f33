import Stencil.Code.Render

/-!
# The source text of expressions

An expression is a literal, a variable, or a comparison of two expressions, and
its parts are texts. Its source text does not depend on what is stored, and is
the same wherever the expression is written.
-/

namespace Stencil.Code

/-- The source text of an expression; none for other values. -/
def Value.expressionText? : Value → Option String
  | .literal inner | .reference inner => match inner.plain with
    | .text written => some written
    | _ => .none
  | .equals lhs rhs => do
    let left ← lhs.expressionText?
    let right ← rhs.expressionText?
    return left ++ " == " ++ right
  | _ => .none

/-- A text of a declared kind is written as the text. -/
theorem plain_text {inner : Value} {written : String} (plain : inner.plain = .text written)
    (look : Look) : inner.textBy look = .ok written := by
  induction inner using Value.plain.induct with
  | case1 kind inner inductionHypothesis => exact inductionHypothesis plain
  | case2 value other =>
    have same : value.plain = value := by
      unfold Value.plain
      split
      · rename_i kind inner
        exact absurd rfl (other kind inner)
      · rfl
    rw [same] at plain
    subst plain
    rfl

/-- The text of a literal or a variable is the text in it. -/
theorem atom_text {inner : Value} {text : String}
    (written : (match inner.plain with
      | .text written => some written
      | _ => none) = some text) : inner.plain = .text text := by
  split at written
  · rename_i source plain
    cases written
    exact plain
  · cases written

/-- An expression is written as its source text, alone and as an operand. The recursion follows the
operands of comparisons. -/
theorem expression_text (value : Value) {text : String}
    (written : value.expressionText? = some text) (look : Look) :
    value.textBy look = .ok text ∧ value.sourceBy look = .ok text := by
  cases value with
  | literal inner =>
    have plain := atom_text written
    refine ⟨?_, plain_text plain look⟩
    rw [Value.textBy, plain]
  | reference inner =>
    have plain := atom_text written
    refine ⟨?_, plain_text plain look⟩
    rw [Value.textBy, plain]
  | equals lhs rhs =>
    simp only [Value.expressionText?, Option.pure_def, Option.bind_eq_bind,
      Option.bind_eq_some_iff, Option.some.injEq] at written
    obtain ⟨left, leftWritten, right, rightWritten, rfl⟩ := written
    have leftText := (expression_text lhs leftWritten look).2
    have rightText := (expression_text rhs rightWritten look).2
    rw [Value.textBy, Value.sourceBy, leftText, rightText]
    exact ⟨rfl, rfl⟩
  | _ => cases written

end Stencil.Code
