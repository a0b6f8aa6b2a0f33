import Stencil.Proofs.Template.Grammar
import Stencil.Proofs.Template.Lexing

/-!
# Forms up to their locations

A *bare* form stands nowhere, as a bare token does. Which forms a list of tokens
derives depends on the tokens' locations only in the locations of the forms:
tokens that are spelled alike derive forms that are alike when bare
(`derives_relocated`).
-/

namespace Stencil.Template

/-- Lists of forms are built from the empty list by putting a statement before others. The bodies
of the statement are lists of forms as well. -/
@[elab_as_elim]
theorem forms_induction {motive : List Form → Prop} (nothing : motive [])
    (function : ∀ name args body location rest, motive body → motive rest →
      motive (.function name args body location :: rest))
    (conditional : ∀ lhs rhs thenBody elseBody location rest, motive thenBody → motive elseBody →
      motive rest → motive (.conditional lhs rhs thenBody elseBody location :: rest))
    (result : ∀ value location rest, motive rest → motive (.result value location :: rest))
    (assign : ∀ target value location rest, motive rest →
      motive (.assign target value location :: rest))
    (raw : ∀ text location rest, motive rest → motive (.raw text location :: rest))
    (splice : ∀ name many location rest, motive rest →
      motive (.splice name many location :: rest)) : ∀ forms, motive forms
  | [] => nothing
  | form :: rest => by
    have go (forms : List Form) (smaller : sizeOf forms < sizeOf (form :: rest)) : motive forms :=
      forms_induction nothing function conditional result assign raw splice forms
    have behind : motive rest := go rest (by rw [List.cons.sizeOf_spec]; omega)
    cases form with
    | function name args body location =>
      have inner : motive body :=
        go body (by rw [List.cons.sizeOf_spec, Form.function.sizeOf_spec]; omega)
      exact function name args body location rest inner behind
    | conditional lhs rhs thenBody elseBody location =>
      have inner : motive thenBody :=
        go thenBody (by rw [List.cons.sizeOf_spec, Form.conditional.sizeOf_spec]; omega)
      have other : motive elseBody :=
        go elseBody (by rw [List.cons.sizeOf_spec, Form.conditional.sizeOf_spec]; omega)
      exact conditional lhs rhs thenBody elseBody location rest inner other behind
    | result value location => exact result value location rest behind
    | assign target value location => exact assign target value location rest behind
    | raw text location => exact raw text location rest behind
    | splice name many location => exact splice name many location rest behind
termination_by forms => sizeOf forms

/-- A value that stands nowhere. -/
def Operand.bare : Operand → Operand
  | .literal text _ => .literal text .nowhere
  | .reference name _ => .reference name .nowhere
  | .point name _ => .point name .nowhere

mutual

/-- A statement that stands nowhere. -/
def Form.bare : Form → Form
  | .function name args body _ => .function name args (bareAll body) .nowhere
  | .conditional lhs rhs thenBody elseBody _ =>
    .conditional lhs rhs.bare (bareAll thenBody) (bareAll elseBody) .nowhere
  | .result value _ => .result value.bare .nowhere
  | .assign target value _ => .assign target value.bare .nowhere
  | .raw text _ => .raw text .nowhere
  | .splice name many _ => .splice name many .nowhere

/-- Statements that stand nowhere. -/
def Form.bareAll : List Form → List Form
  | [] => []
  | form :: rest => form.bare :: bareAll rest

end

/-- Tokens of the same spelling, wherever they stand. -/
def Alike (tokens others : List Token) : Prop := tokens.map Token.bare = others.map Token.bare

/-- What is alike starts alike. -/
theorem alike_cons {tokens others : List Token} {kind : TokenKind} {text : String}
    {location : Location} (alike : Alike tokens (⟨kind, text, location⟩ :: others)) :
    ∃ place rest, tokens = ⟨kind, text, place⟩ :: rest ∧ Alike rest others := by
  obtain ⟨token, rest, rfl, same, behind⟩ := List.map_eq_cons_iff.mp alike
  obtain ⟨kind', text', place⟩ := token
  cases same
  exact ⟨place, rest, rfl, behind⟩

/-- What is alike is alike part by part. -/
theorem alike_append {tokens first second : List Token} (alike : Alike tokens (first ++ second)) :
    ∃ front back, tokens = front ++ back ∧ Alike front first ∧ Alike back second := by
  rw [Alike, List.map_append] at alike
  obtain ⟨front, back, rfl, before, behind⟩ := List.map_eq_append_iff.mp alike
  exact ⟨front, back, rfl, before, behind⟩

/-- Only nothing is alike to nothing. -/
theorem alike_nil {tokens : List Token} (alike : Alike tokens []) : tokens = [] :=
  List.map_eq_nil_iff.mp alike

/-- The last token of what is alike. -/
theorem alike_singleton {tokens : List Token} {kind : TokenKind} {text : String}
    {location : Location} (alike : Alike tokens [⟨kind, text, location⟩]) :
    ∃ place, tokens = [⟨kind, text, place⟩] := by
  obtain ⟨place, rest, rfl, behind⟩ := alike_cons alike
  exact ⟨place, by rw [alike_nil behind]⟩

/-- A point is written alike everywhere. -/
theorem alike_point {tokens more : List Token} {name : String}
    {marker opening place closing : Location}
    (alike : Alike tokens (pointTokens name marker opening place closing ++ more)) :
    ∃ marker' opening' place' closing' rest,
      tokens = pointTokens name marker' opening' place' closing' ++ rest ∧ Alike rest more := by
  obtain ⟨marker', _, rfl, behind₁⟩ := alike_cons alike
  obtain ⟨opening', _, rfl, behind₂⟩ := alike_cons behind₁
  obtain ⟨place', _, rfl, behind₃⟩ := alike_cons behind₂
  obtain ⟨closing', rest, rfl, behind₄⟩ := alike_cons behind₃
  exact ⟨marker', opening', place', closing', rest, rfl, behind₄⟩

/-- Values that are spelled alike are alike when bare. -/
theorem operand_relocated {tokens others : List Token} {operand : Operand}
    (valued : OperandTokens others operand) (alike : Alike tokens others) :
    ∃ read, OperandTokens tokens read ∧ read.bare = operand.bare := by
  cases valued with
  | string text location =>
    obtain ⟨place, rfl⟩ := alike_singleton alike
    exact ⟨_, .string text place, rfl⟩
  | number text location =>
    obtain ⟨place, rfl⟩ := alike_singleton alike
    exact ⟨_, .number text place, rfl⟩
  | constant text location known =>
    obtain ⟨place, rfl⟩ := alike_singleton alike
    exact ⟨_, .constant text place known, rfl⟩
  | reference text location named other =>
    obtain ⟨place, rfl⟩ := alike_singleton alike
    exact ⟨_, .reference text place named other, rfl⟩
  | point name marker opening place closing named =>
    rw [← List.append_nil (pointTokens ..)] at alike
    obtain ⟨marker', opening', place', closing', rest, rfl, behind⟩ := alike_point alike
    rw [alike_nil behind, List.append_nil]
    exact ⟨_, .point name marker' opening' place' closing' named, rfl⟩

/-- Parameters that are spelled alike are the same. -/
theorem parameters_relocated {tokens others : List Token} {names : List String}
    (listed : Parameters others names) (alike : Alike tokens others) :
    Parameters tokens names := by
  induction listed generalizing tokens with
  | nothing =>
    rw [alike_nil alike]
    exact .nothing
  | last name place named =>
    obtain ⟨place', rfl⟩ := alike_singleton alike
    exact .last name place' named
  | more name place comma _ names named _ inductionHypothesis =>
    obtain ⟨place', _, rfl, behind₁⟩ := alike_cons alike
    obtain ⟨comma', rest, rfl, behind₂⟩ := alike_cons behind₁
    exact .more name place' comma' rest names named (inductionHypothesis behind₂)

/-- Heads of functions that are spelled alike are the same but for their location. -/
theorem function_head_relocated {tokens others : List Token} {location : Location}
    {name : String} {args : List String} (headed : FunctionHead others location name args)
    (alike : Alike tokens others) : ∃ location', FunctionHead tokens location' name args := by
  obtain ⟨place, opening, parameters, closing, colon, named, listed, rfl⟩ := headed
  obtain ⟨location', _, rfl, behind₁⟩ := alike_cons alike
  obtain ⟨place', _, rfl, behind₂⟩ := alike_cons behind₁
  obtain ⟨opening', _, rfl, behind₃⟩ := alike_cons behind₂
  obtain ⟨parameters', _, rfl, alikeParameters, behind₄⟩ := alike_append behind₃
  obtain ⟨closing', _, rfl, behind₅⟩ := alike_cons behind₄
  obtain ⟨colon', rfl⟩ := alike_singleton behind₅
  exact ⟨location', place', opening', parameters', closing', colon', named,
    parameters_relocated listed alikeParameters, rfl⟩

/-- Heads of conditionals that are spelled alike are alike when bare. -/
theorem condition_head_relocated {tokens others : List Token} {location : Location}
    {lhs : String} {rhs : Operand} (headed : ConditionHead others location lhs rhs)
    (alike : Alike tokens others) :
    ∃ location' read, ConditionHead tokens location' lhs read ∧ read.bare = rhs.bare := by
  obtain ⟨place, comparison, value, colon, named, valued, rfl⟩ := headed
  obtain ⟨location', _, rfl, behind₁⟩ := alike_cons alike
  obtain ⟨place', _, rfl, behind₂⟩ := alike_cons behind₁
  obtain ⟨comparison', _, rfl, behind₃⟩ := alike_cons behind₂
  obtain ⟨value', _, rfl, alikeValue, behind₄⟩ := alike_append behind₃
  obtain ⟨colon', rfl⟩ := alike_singleton behind₄
  obtain ⟨read, valued', same⟩ := operand_relocated valued alikeValue
  exact ⟨location', read, ⟨place', comparison', value', colon', named, valued', rfl⟩, same⟩

/-- Bodies that are spelled alike hold what is spelled alike. -/
theorem body_relocated {tokens body more : List Token} {opening closing : Location}
    (alike : Alike tokens (bodyTokens opening body closing ++ more)) :
    ∃ opening' body' closing' rest, tokens = bodyTokens opening' body' closing' ++ rest ∧
      Alike body' body ∧ Alike rest more := by
  rw [bodyTokens, List.cons_append, List.append_assoc] at alike
  obtain ⟨opening', _, rfl, behind₁⟩ := alike_cons alike
  obtain ⟨body', _, rfl, alikeBody, behind₂⟩ := alike_append behind₁
  obtain ⟨closing', rest, rfl, behind₃⟩ := alike_cons behind₂
  exact ⟨opening', body', closing', rest, by simp [bodyTokens], alikeBody, behind₃⟩

/-- Tokens that are spelled alike derive forms that are alike when bare. The induction is on the
derivation. Each rule asks for tokens by their kinds and texts only, so the others are cut in the
same way. -/
theorem derives_relocated {tokens others : List Token} {forms : List Form}
    (derived : Derives others forms) (alike : Alike tokens others) :
    ∃ read, Derives tokens read ∧ Form.bareAll read = Form.bareAll forms := by
  induction derived generalizing tokens with
  | nothing =>
    rw [alike_nil alike]
    exact ⟨[], .nothing, rfl⟩
  | function opening closing headed _ _ inner behind =>
    rw [List.append_assoc] at alike
    obtain ⟨head', _, rfl, alikeHead, behind₁⟩ := alike_append alike
    obtain ⟨opening', body', closing', rest, rfl, alikeBody, behind₂⟩ := body_relocated behind₁
    obtain ⟨location', headed'⟩ := function_head_relocated headed alikeHead
    obtain ⟨read, inner', sameBody⟩ := inner alikeBody
    obtain ⟨readBehind, behind', same⟩ := behind behind₂
    rw [← List.append_assoc]
    exact ⟨_, .function opening' closing' headed' inner' behind',
      by simp [Form.bareAll, Form.bare, sameBody, same]⟩
  | conditional opening closing headed _ _ inner behind =>
    rw [List.append_assoc] at alike
    obtain ⟨head', _, rfl, alikeHead, behind₁⟩ := alike_append alike
    obtain ⟨opening', body', closing', rest, rfl, alikeBody, behind₂⟩ := body_relocated behind₁
    obtain ⟨location', rhs', headed', sameValue⟩ := condition_head_relocated headed alikeHead
    obtain ⟨read, inner', sameBody⟩ := inner alikeBody
    obtain ⟨readBehind, behind', same⟩ := behind behind₂
    rw [← List.append_assoc]
    exact ⟨_, .conditional opening' closing' headed' inner' behind',
      by simp [Form.bareAll, Form.bare, sameValue, sameBody, same]⟩
  | alternative opening closing divider colon opening' closing' headed _ _ _ inner elseInner
      behind =>
    rw [List.append_assoc, List.append_assoc] at alike
    obtain ⟨head', _, rfl, alikeHead, behind₁⟩ := alike_append alike
    obtain ⟨opened, body', closed, _, rfl, alikeBody, behind₂⟩ := body_relocated behind₁
    obtain ⟨divider', _, rfl, behind₃⟩ := alike_cons behind₂
    obtain ⟨colon', _, rfl, behind₄⟩ := alike_cons behind₃
    obtain ⟨opened', otherwise, closed', rest, rfl, alikeElse, behind₅⟩ := body_relocated behind₄
    obtain ⟨location', rhs', headed', sameValue⟩ := condition_head_relocated headed alikeHead
    obtain ⟨read, inner', sameBody⟩ := inner alikeBody
    obtain ⟨readElse, elseInner', sameElse⟩ := elseInner alikeElse
    obtain ⟨readBehind, behind', same⟩ := behind behind₅
    have arranged : head' ++ (bodyTokens opened body' closed ++ word "else" divider' ::
          mark ":" colon' :: (bodyTokens opened' otherwise closed' ++ rest)) =
        head' ++ bodyTokens opened body' closed ++ word "else" divider' ::
          mark ":" colon' :: bodyTokens opened' otherwise closed' ++ rest := by
      simp
    rw [arranged]
    exact ⟨_, .alternative opened closed divider' colon' opened' closed' headed' inner' elseInner'
      behind', by simp [Form.bareAll, Form.bare, sameValue, sameBody, sameElse, same]⟩
  | result location valued _ behind =>
    rw [List.cons_append] at alike
    obtain ⟨location', _, rfl, behind₁⟩ := alike_cons alike
    obtain ⟨value', rest, rfl, alikeValue, behind₂⟩ := alike_append behind₁
    obtain ⟨read, valued', sameValue⟩ := operand_relocated valued alikeValue
    obtain ⟨readBehind, behind', same⟩ := behind behind₂
    exact ⟨_, .result location' valued' behind',
      by simp [Form.bareAll, Form.bare, sameValue, same]⟩
  | assign target location sign named valued _ behind =>
    rw [List.cons_append, List.cons_append] at alike
    obtain ⟨location', _, rfl, behind₁⟩ := alike_cons alike
    obtain ⟨sign', _, rfl, behind₂⟩ := alike_cons behind₁
    obtain ⟨value', rest, rfl, alikeValue, behind₃⟩ := alike_append behind₂
    obtain ⟨read, valued', sameValue⟩ := operand_relocated valued alikeValue
    obtain ⟨readBehind, behind', same⟩ := behind behind₃
    exact ⟨_, .assign target location' sign' named valued' behind',
      by simp [Form.bareAll, Form.bare, sameValue, same]⟩
  | raw text location nonempty _ behind =>
    obtain ⟨location', rest, rfl, behind₁⟩ := alike_cons alike
    obtain ⟨readBehind, behind', same⟩ := behind behind₁
    exact ⟨_, .raw text location' nonempty behind', by simp [Form.bareAll, Form.bare, same]⟩
  | splice name marker opening place closing named _ behind =>
    obtain ⟨marker', opening', place', closing', rest, rfl, behind₁⟩ := alike_point alike
    obtain ⟨readBehind, behind', same⟩ := behind behind₁
    exact ⟨_, .splice name marker' opening' place' closing' named behind',
      by simp [Form.bareAll, Form.bare, same]⟩
  | sequence name marker opening place closing star named _ behind =>
    obtain ⟨marker', opening', place', closing', _, rfl, behind₁⟩ := alike_point alike
    obtain ⟨star', rest, rfl, behind₂⟩ := alike_cons behind₁
    obtain ⟨readBehind, behind', same⟩ := behind behind₂
    exact ⟨_, .sequence name marker' opening' place' closing' star' named behind',
      by simp [Form.bareAll, Form.bare, same]⟩

end Stencil.Template
