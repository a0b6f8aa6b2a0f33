import Stencil.Proofs.Outcome
import Stencil.Proofs.Template.Grammar

/-!
# Derived tokens are accepted

The reading machine takes tokens that derive forms from any place between two
statements to the place behind them, whatever it has read before and whichever
bodies are open (`derives_run`). At the end of the text nothing is open, so the
forms are what is read (`parse_of_derives`).

Two phases are settled by the token behind them. A state is *between* two
statements if settling makes it ready; the grammar never has an `else` or a star
where a statement starts, so such a state behaves as the settled one.
-/

namespace Stencil.Template

/-- Take tokens one after the other. -/
def State.run (state : State) (tokens : List Token) : Except SyntaxError State :=
  tokens.foldlM (fun state token => state.step (.token token)) state

/-- Without tokens nothing changes. -/
@[simp] theorem State.run_nil (state : State) : state.run [] = .ok state := rfl

/-- A token that is taken leaves the others. -/
theorem State.run_cons {state next : State} {token : Token} (tokens : List Token)
    (taken : state.step (.token token) = .ok next) :
    state.run (token :: tokens) = next.run tokens := by
  rw [State.run, List.foldlM_cons, taken]
  rfl

/-- Tokens are taken front first. -/
theorem State.run_append {state next : State} {tokens : List Token} (more : List Token)
    (taken : state.run tokens = .ok next) : state.run (tokens ++ more) = next.run more := by
  rw [State.run, List.foldlM_append]
  rw [State.run] at taken
  rw [taken]
  rfl

/-- The machine stands between two statements: the next token starts one or closes the body. -/
def State.Between (state : State) : Prop := state.settle.phase = .ready

/-- Statements are complete. -/
def State.append (state : State) (forms : List Form) : State :=
  { state with forms := state.forms ++ forms }

/-- The token goes on with a statement that could end before it. -/
def Token.continues (token : Token) : Bool := token.isName "else" || token.isOp "*"

/-- Between two statements a token that does not go on with the one before starts the next. -/
theorem step_between {state : State} (between : state.Between) (token : Token)
    (fresh : token.continues = false) :
    state.step (.token token) = state.settle.begin (.token token) := by
  obtain ⟨forms, levels, phase⟩ := state
  obtain ⟨kind, text, location⟩ := token
  simp only [Token.continues, Bool.or_eq_false_iff] at fresh
  cases phase with
  | ready => rfl
  | afterThen place lhs rhs thenForms =>
    simp only [State.step]
    split
    · rename_i same
      cases same
      simp [Token.isName] at fresh
    · rfl
  | afterSplice place name =>
    simp only [State.step, Sight.isOp, fresh.2]
    rfl
  | _ => cases between

/-- Supplying a value does not depend on the phase. -/
@[simp] theorem State.supply_expect (state : State) (phase : Phase) (operand : Operand)
    (slot : Slot) : (state.expect phase).supply operand slot = state.supply operand slot := by
  cases slot <;> rfl

/-- Any name is taken where one is required. -/
theorem require_name_ok (context name : String) (place : Location) (next : String → State)
    (named : name ∉ keywords) :
    requireName context (.token (word name place)) next = .ok (next name) := by
  simp [requireName, Sight.name?, named]

/-- A word is no operator. -/
@[simp] theorem is_op_word (name text : String) (place : Location) :
    (Sight.token (word name place)).isOp text = false := rfl

/-- An operator is the one that it is written as. -/
@[simp] theorem is_op_mark (text other : String) (place : Location) :
    (Sight.token (mark text place)).isOp other = (text == other) := rfl

/-- Parameters are read up to the parenthesis that closes them. -/
theorem run_parameters {tokens : List Token} {names : List String}
    (listed : Parameters tokens names) (state : State) (location : Location) (name : String)
    (opening closing : Location) (args : List String) :
    (state.expect (.parameter location name opening args)).run (tokens ++ [mark ")" closing]) =
      .ok (state.expect (.functionColon location name (args ++ names))) := by
  have taken (arg : String) (place : Location) (args : List String) (named : arg ∉ keywords) :
      (state.expect (.parameter location name opening args)).step (.token (word arg place)) =
        .ok (state.expect (.afterParameter location name opening (args ++ [arg]))) := by
    simp [State.step, State.expect, require_name_ok, named]
  induction listed generalizing args with
  | nothing => simp [State.run, State.step, State.expect]
  | last arg place named =>
    rw [List.singleton_append, State.run_cons _ (taken arg place args named)]
    simp [State.run, State.step, State.expect]
  | more arg place comma tokens names named _ inductionHypothesis =>
    rw [List.cons_append, List.cons_append, State.run_cons _ (taken arg place args named)]
    have separated : (state.expect (.afterParameter location name opening (args ++ [arg]))).step
        (.token (mark "," comma)) =
          .ok (state.expect (.parameter location name opening (args ++ [arg]))) := by
      simp [State.step, State.expect]
    rw [State.run_cons _ separated, inductionHypothesis]
    simp

/-- What a point is read as at its place. -/
def State.point (state : State) (name : String) (marker : Location) : Place → State
  | .statement => state.expect (.afterSplice marker name)
  | .value slot => state.supply (.point name marker) slot

/-- A point is read behind its dollar sign. -/
theorem run_point (state : State) (name : String) (marker opening place closing : Location)
    (position : Place) (named : name ∉ keywords) :
    (state.expect (.pointOpen marker position)).run
        [mark "(" opening, word name place, mark ")" closing] =
      .ok (state.point name marker position) := by
  have opened : (state.expect (.pointOpen marker position)).step (.token (mark "(" opening)) =
      .ok (state.expect (.pointName marker position)) := rfl
  have filled : (state.expect (.pointName marker position)).step (.token (word name place)) =
      .ok (state.expect (.pointClose marker position name)) := by
    simp [State.step, State.expect, Sight.name?, named]
  have closed : (state.expect (.pointClose marker position name)).step
      (.token (mark ")" closing)) = .ok (state.point name marker position) := by
    cases position with
    | statement => rfl
    | value slot => exact congrArg Except.ok (State.supply_expect state _ _ slot)
  rw [State.run_cons _ opened, State.run_cons _ filled, State.run_cons _ closed, State.run_nil]

/-- A value is read where one is expected. -/
theorem run_operand {tokens : List Token} {operand : Operand}
    (valued : OperandTokens tokens operand) (state : State) (slot : Slot) :
    (state.expect (.value slot)).run tokens = .ok (state.supply operand slot) := by
  cases valued with
  | string text location => rfl
  | number text location => rfl
  | constant text location known =>
    have taken : (state.expect (.value slot)).step (.token (word text location)) =
        .ok ((state.expect (.value slot)).supply (.literal text location) slot) := by
      simp [State.step, State.expect, State.readValue, Token.isOp, known]
    rw [State.run_cons _ taken, State.run_nil, State.supply_expect]
  | reference text location named other =>
    have taken : (state.expect (.value slot)).step (.token (word text location)) =
        .ok ((state.expect (.value slot)).supply (.reference text location) slot) := by
      simp [State.step, State.expect, State.readValue, Token.isOp, named, other]
    rw [State.run_cons _ taken, State.run_nil, State.supply_expect]
  | point name marker opening place closing named =>
    have marked : (state.expect (.value slot)).step (.token (mark "$" marker)) =
        .ok (state.expect (.pointOpen marker (.value slot))) := rfl
    rw [pointTokens, State.run_cons _ marked, run_point state name marker _ _ _ _ named]
    rfl

/-- The head of a function and the brace behind it open its body. -/
theorem run_function_head {head : List Token} {location : Location} {name : String}
    {args : List String} (headed : FunctionHead head location name args) (opening : Location)
    {state : State} (between : state.Between) :
    state.run (head ++ [mark "\x7b" opening]) =
      .ok (state.settle.openBody (.function location name args) opening) := by
  obtain ⟨place, parenthesis, parameters, closing, colon, named, listed, rfl⟩ := headed
  have started : state.step (.token (word "def" location)) =
      .ok (state.settle.expect (.functionName location)) := by
    rw [step_between between _ rfl]
    rfl
  have titled : (state.settle.expect (.functionName location)).step (.token (word name place)) =
      .ok (state.settle.expect (.functionOpen location name)) := by
    simp [State.step, State.expect, require_name_ok, named]
  have opened : (state.settle.expect (.functionOpen location name)).step
      (.token (mark "(" parenthesis)) =
        .ok (state.settle.expect (.parameter location name parenthesis [])) := rfl
  have coloned : (state.settle.expect (.functionColon location name args)).step
      (.token (mark ":" colon)) =
        .ok (state.settle.expect (.functionBody location name args)) := rfl
  have braced : (state.settle.expect (.functionBody location name args)).step
      (.token (mark "\x7b" opening)) =
        .ok (state.settle.openBody (.function location name args) opening) := rfl
  have arranged : parameters ++ [mark ")" closing, mark ":" colon] ++ [mark "\x7b" opening] =
      (parameters ++ [mark ")" closing]) ++ [mark ":" colon, mark "\x7b" opening] := by simp
  rw [List.cons_append, List.cons_append, List.cons_append, arranged, State.run_cons _ started,
    State.run_cons _ titled, State.run_cons _ opened,
    State.run_append _ (run_parameters listed state.settle location name parenthesis closing []),
    List.nil_append, State.run_cons _ coloned, State.run_cons _ braced, State.run_nil]

/-- The head of a conditional and the brace behind it open its first body. -/
theorem run_condition_head {head : List Token} {location : Location} {lhs : String}
    {rhs : Operand} (headed : ConditionHead head location lhs rhs) (opening : Location)
    {state : State} (between : state.Between) :
    state.run (head ++ [mark "\x7b" opening]) =
      .ok (state.settle.openBody (.thenBranch location lhs rhs) opening) := by
  obtain ⟨place, comparison, value, colon, named, valued, rfl⟩ := headed
  have started : state.step (.token (word "if" location)) =
      .ok (state.settle.expect (.conditionLeft location)) := by
    rw [step_between between _ rfl]
    rfl
  have left : (state.settle.expect (.conditionLeft location)).step (.token (word lhs place)) =
      .ok (state.settle.expect (.conditionOperator location lhs)) := by
    simp [State.step, State.expect, require_name_ok, named]
  have compared : (state.settle.expect (.conditionOperator location lhs)).step
      (.token (mark "==" comparison)) =
        .ok (state.settle.expect (.value (.compared lhs location))) := rfl
  have coloned : (state.settle.supply rhs (.compared lhs location)).step
      (.token (mark ":" colon)) = .ok (state.settle.expect (.thenBody location lhs rhs)) := rfl
  have braced : (state.settle.expect (.thenBody location lhs rhs)).step
      (.token (mark "\x7b" opening)) =
        .ok (state.settle.openBody (.thenBranch location lhs rhs) opening) := rfl
  rw [List.cons_append, List.cons_append, List.cons_append, List.append_assoc,
    State.run_cons _ started, State.run_cons _ left, State.run_cons _ compared,
    State.run_append _ (run_operand valued state.settle (.compared lhs location)),
    List.singleton_append, State.run_cons _ coloned, State.run_cons _ braced, State.run_nil]

/-- What a closing brace makes of the statements of a body, on the level around it. -/
def State.closeBody (outer : State) (forms : List Form) : Header → State
  | .function location name args => outer.complete (.function name args forms location)
  | .thenBranch location lhs rhs => outer.expect (.afterThen location lhs rhs forms)
  | .elseBranch location lhs rhs thenForms =>
    outer.complete (.conditional lhs rhs thenForms forms location)

/-- Behind the statements of a body the closing brace leads back to the level around it. -/
theorem run_body_close {outer inner : State} {header : Header} {opening : Location}
    {forms : List Form} (settled : inner.settle = (outer.openBody header opening).append forms)
    (ready : outer.phase = .ready) (closing : Location) :
    inner.step (.token (mark "\x7d" closing)) = .ok (outer.closeBody forms header) := by
  have between : inner.Between := by
    rw [State.Between, settled]
    rfl
  rw [step_between between _ rfl, settled]
  obtain ⟨read, levels, phase⟩ := outer
  cases ready
  cases header <;> rfl

/-! ## Statements -/

/-- Tokens are taken as statements: they lead from one place between two statements to another, and
the statements are read then. -/
def State.Takes (state : State) (tokens : List Token) (forms : List Form) : Prop :=
  ∃ final, state.run tokens = .ok final ∧ final.settle = state.settle.append forms

/-- A complete statement is the first of those read then. -/
theorem complete_append {state : State} (ready : state.phase = .ready) (form : Form)
    (others : List Form) : (state.complete form).append others = state.append (form :: others) := by
  obtain ⟨read, levels, phase⟩ := state
  cases ready
  simp [State.complete, State.append]

/-- Tokens that complete a statement are taken before those of other statements. -/
theorem takes_before {state next : State} {tokens more : List Token} {form : Form}
    {others : List Form} (between : state.Between) (ran : state.run tokens = .ok next)
    (settled : next.settle = state.settle.complete form) (behind : next.Takes more others) :
    state.Takes (tokens ++ more) (form :: others) := by
  obtain ⟨final, ranBehind, done⟩ := behind
  refine ⟨final, ?_, ?_⟩
  · rw [State.run_append _ ran, ranBehind]
  · rw [done, settled, complete_append between]

/-- A body is taken from behind its brace up to the brace that closes it. -/
theorem run_body {outer : State} {body : List Token} {forms : List Form} (header : Header)
    (opening closing : Location) (ready : outer.phase = .ready)
    (inner : (outer.openBody header opening).Takes body forms) :
    (outer.openBody header opening).run (body ++ [mark "\x7d" closing]) =
      .ok (outer.closeBody forms header) := by
  obtain ⟨inside, ran, settled⟩ := inner
  have closed := run_body_close settled ready closing
  rw [State.run_append _ ran, State.run_cons _ closed, State.run_nil]

section

variable {state : State} {head body value : List Token} {location : Location} {lhs : String}
  {rhs operand : Operand} {forms : List Form}

/-- A function is taken if its body is. -/
theorem run_function {name : String} {args : List String}
    (headed : FunctionHead head location name args) (opening closing : Location)
    (inner : ∀ state : State, state.Between → state.Takes body forms) (between : state.Between) :
    state.run (head ++ bodyTokens opening body closing) =
      .ok (state.settle.complete (.function name args forms location)) := by
  have opened := run_function_head headed opening between
  have taken := run_body (.function location name args) opening closing between (inner _ rfl)
  have arranged : head ++ bodyTokens opening body closing =
      head ++ [mark "\x7b" opening] ++ (body ++ [mark "\x7d" closing]) := by
    simp [bodyTokens]
  rw [arranged, State.run_append _ opened, taken]
  rfl

/-- A conditional is taken if its first body is. A second body may still follow. -/
theorem run_conditional (headed : ConditionHead head location lhs rhs)
    (opening closing : Location)
    (inner : ∀ state : State, state.Between → state.Takes body forms) (between : state.Between) :
    state.run (head ++ bodyTokens opening body closing) =
      .ok (state.settle.expect (.afterThen location lhs rhs forms)) := by
  have opened := run_condition_head headed opening between
  have taken := run_body (.thenBranch location lhs rhs) opening closing between (inner _ rfl)
  have arranged : head ++ bodyTokens opening body closing =
      head ++ [mark "\x7b" opening] ++ (body ++ [mark "\x7d" closing]) := by
    simp [bodyTokens]
  rw [arranged, State.run_append _ opened, taken]
  rfl

/-- A conditional with a second body is taken if both bodies are. -/
theorem run_alternative {otherwise : List Token} {elseForms : List Form}
    (headed : ConditionHead head location lhs rhs)
    (opening closing divider colon opening' closing' : Location)
    (inner : ∀ state : State, state.Between → state.Takes body forms)
    (elseInner : ∀ state : State, state.Between → state.Takes otherwise elseForms)
    (between : state.Between) :
    state.run (head ++ bodyTokens opening body closing ++
        word "else" divider :: mark ":" colon :: bodyTokens opening' otherwise closing') =
      .ok (state.settle.complete (.conditional lhs rhs forms elseForms location)) := by
  have first := run_conditional headed opening closing inner between
  have divided : (state.settle.expect (.afterThen location lhs rhs forms)).step
      (.token (word "else" divider)) =
        .ok (state.settle.expect (.elseColon location lhs rhs forms)) := rfl
  have coloned : (state.settle.expect (.elseColon location lhs rhs forms)).step
      (.token (mark ":" colon)) =
        .ok (state.settle.expect (.elseBody location lhs rhs forms)) := rfl
  have opened : (state.settle.expect (.elseBody location lhs rhs forms)).step
      (.token (mark "\x7b" opening')) =
        .ok (state.settle.openBody (.elseBranch location lhs rhs forms) opening') := rfl
  have taken := run_body (.elseBranch location lhs rhs forms) opening' closing' between
    (elseInner _ rfl)
  rw [State.run_append _ first, State.run_cons _ divided, State.run_cons _ coloned, bodyTokens,
    State.run_cons _ opened, taken]
  rfl

/-- A `return` is taken with its value. -/
theorem run_result (location : Location) (valued : OperandTokens value operand)
    (between : state.Between) :
    state.run (word "return" location :: value) =
      .ok (state.settle.complete (.result operand location)) := by
  have started : state.step (.token (word "return" location)) =
      .ok (state.settle.expect (.value (.result location))) := by
    rw [step_between between _ rfl]
    rfl
  rw [State.run_cons _ started]
  exact run_operand valued state.settle (.result location)

/-- A name that is no keyword starts an assignment. -/
theorem step_target {target : String} (location : Location) (named : target ∉ keywords)
    (between : state.Between) :
    state.step (.token (word target location)) =
      .ok (state.settle.expect (.assignment location target)) := by
  have fresh : (word target location).continues = false := by
    have other : target ≠ "else" := fun same => named (by simp [same, keywords])
    simp [Token.continues, Token.isName, Token.isOp, other]
  have others : target ≠ "def" ∧ target ≠ "if" ∧ target ≠ "return" := by
    simp only [keywords, List.mem_cons, not_or] at named
    exact ⟨named.1, named.2.1, named.2.2.2.1⟩
  rw [step_between between _ fresh]
  simp [State.begin, Token.isOp, others, named]

/-- An assignment is taken with its value. -/
theorem run_assign {target : String} (location sign : Location) (named : target ∉ keywords)
    (valued : OperandTokens value operand) (between : state.Between) :
    state.run (word target location :: mark "=" sign :: value) =
      .ok (state.settle.complete (.assign target operand location)) := by
  have signed : (state.settle.expect (.assignment location target)).step
      (.token (mark "=" sign)) =
        .ok (state.settle.expect (.value (.assigned target location))) := rfl
  rw [State.run_cons _ (step_target location named between), State.run_cons _ signed]
  exact run_operand valued state.settle (.assigned target location)

/-- A raw line is taken. -/
theorem run_raw {text : String} (location : Location) (nonempty : text ≠ "")
    (between : state.Between) :
    state.run [⟨.raw, text, location⟩] = .ok (state.settle.complete (.raw text location)) := by
  have started : state.step (.token ⟨.raw, text, location⟩) =
      .ok (state.settle.complete (.raw text location)) := by
    rw [step_between between _ rfl]
    simp [State.begin, Token.isOp, nonempty]
  rw [State.run_cons _ started, State.run_nil]

/-- A splice is taken. A star may still follow. -/
theorem run_splice {name : String} (marker opening place closing : Location)
    (named : name ∉ keywords) (between : state.Between) :
    state.run (pointTokens name marker opening place closing) =
      .ok (state.settle.expect (.afterSplice marker name)) := by
  have started : state.step (.token (mark "$" marker)) =
      .ok (state.settle.expect (.pointOpen marker .statement)) := by
    rw [step_between between _ rfl]
    rfl
  rw [pointTokens, State.run_cons _ started]
  exact run_point state.settle name marker opening place closing .statement named

/-- A splice of a sequence is taken. -/
theorem run_sequence {name : String} (marker opening place closing star : Location)
    (named : name ∉ keywords) (between : state.Between) :
    state.run (pointTokens name marker opening place closing ++ [mark "*" star]) =
      .ok (state.settle.complete (.splice name true marker)) := by
  have starred : (state.settle.expect (.afterSplice marker name)).step (.token (mark "*" star)) =
      .ok (state.settle.complete (.splice name true marker)) := rfl
  rw [State.run_append _ (run_splice marker opening place closing named between),
    State.run_cons _ starred, State.run_nil]

end

/-- Statements that derive take the machine from any place between two statements to the place
behind them, whatever was read before and whichever bodies are open.

Proof: induction on the derivation. The induction for a body takes the statements in it, and the
induction for the statements behind goes on from where the first statement is complete. -/
theorem derives_run {tokens : List Token} {forms : List Form} (derived : Derives tokens forms)
    (state : State) (between : state.Between) : state.Takes tokens forms := by
  induction derived generalizing state with
  | nothing => exact ⟨state, rfl, by simp [State.append]⟩
  | function opening closing headed _ _ inner behind =>
    have ran := run_function headed opening closing inner between
    exact takes_before between ran rfl (behind _ rfl)
  | conditional opening closing headed _ _ inner behind =>
    have ran := run_conditional headed opening closing inner between
    exact takes_before between ran rfl (behind _ rfl)
  | alternative opening closing divider colon opening' closing' headed _ _ _ inner elseInner
      behind =>
    have ran := run_alternative headed opening closing divider colon opening' closing' inner
      elseInner between
    exact takes_before between ran rfl (behind _ rfl)
  | result location valued _ behind =>
    exact takes_before between (run_result location valued between) rfl (behind _ rfl)
  | assign target location sign named valued _ behind =>
    have ran := run_assign location sign named valued between
    exact takes_before between ran rfl (behind _ rfl)
  | raw text location nonempty _ behind =>
    exact takes_before between (run_raw location nonempty between) rfl (behind _ rfl)
  | splice name marker opening place closing named _ behind =>
    have ran := run_splice marker opening place closing named between
    exact takes_before between ran rfl (behind _ rfl)
  | sequence name marker opening place closing star named _ behind =>
    have ran := run_sequence marker opening place closing star named between
    rw [List.append_cons]
    exact takes_before between ran rfl (behind _ rfl)

/-- Between two statements the end of the text is taken as the end of the body. -/
theorem step_stop {state : State} (between : state.Between) (stop : Location) :
    state.step (.stop stop) = state.settle.begin (.stop stop) := by
  obtain ⟨forms, levels, phase⟩ := state
  cases phase with
  | ready | afterThen | afterSplice => rfl
  | _ => cases between

/-- A text whose tokens derive forms is read as these forms. -/
theorem parse_of_derives {tokens : Tokens} {forms : List Form}
    (derived : Derives tokens.items forms) : parseTokens tokens = .ok forms := by
  obtain ⟨final, ran, settled⟩ := derives_run derived .start rfl
  have between : final.Between := by
    rw [State.Between, settled]
    rfl
  have stopped : final.step (.stop tokens.stop) = .ok (State.start.append forms) := by
    rw [step_stop between, settled]
    rfl
  rw [State.run] at ran
  rw [parseTokens, ran]
  change (do
    let state ← final.step (.stop tokens.stop)
    return state.forms : Except SyntaxError (List Form)) = .ok forms
  rw [stopped]
  rfl

/-- A text that is cut into tokens is parsed as its tokens are. -/
theorem parse_of_tokens {text source : String} {tokens : Tokens} {forms : List Form}
    (cut : (tokenize text source).toOption = some tokens)
    (parsed : parseTokens tokens = .ok forms) : parse text source = .ok forms := by
  rw [parse, ok_of_some cut]
  exact parsed

end Stencil.Template
