import Stencil.Proofs.Template.Acceptance

/-!
# Reading forms by descent

The same language read the other way round: instead of one machine with a stack,
one step for each kind of statement, which calls the others. A step stands at an
index of the tokens, looks at the token there or at the next, and goes one
further only where a token is; at the end it stays. Bodies, parameters and the
template itself are read by loops. Nothing in a loop bounds it but the number of
turns that it is given, and a loop that is not through by then has no outcome.

Reading by descent does what the machine does (`template_follows`): with more
turns than there are tokens every loop is through, whatever the tokens are, the
outcome is that of `parseTokens`, and the index is never behind the end. A step
is related to the machine by `Follows`: from the index where the step stands the
machine, in a state that belongs to the step, reads what it reads from the state
and the index behind the step.
-/

namespace Stencil.Template

/-- What is in sight at an index of the tokens; behind the last of them it is the end. -/
def Tokens.sight (tokens : Tokens) (index : Nat) : Sight :=
  match tokens.items[index]? with
  | some token => .token token
  | none => .stop tokens.stop

/-- Where an operator in sight stands. -/
def Sight.op? (sight : Sight) (text : String) : Option Location :=
  if sight.isOp text then some sight.location else none

/-- The value that a single token in sight is. -/
def Sight.operand? : Sight → Option Operand
  | .token ⟨.string, text, location⟩ => some (.literal text location)
  | .token ⟨.number, text, location⟩ => some (.literal text location)
  | .token ⟨.name, text, location⟩ =>
    if literalNames.contains text then some (.literal text location)
    else if keywords.contains text then none
    else some (.reference text location)
  | _ => none

/-- Steps that read tokens. A step changes the index where it stands, also when it fails, and has no
outcome if a loop in it is not through. -/
abbrev Descent (α : Type) := ExceptT SyntaxError (StateT Nat Option) α

namespace Descent

variable {α β : Type}

/-- A loop is not through. -/
def unfinished : Descent α := ExceptT.lift (StateT.lift none)

section

variable (tokens : Tokens)

/-- Look at the token where the step stands, or at one further on. -/
def peek (ahead : Nat) : Descent Sight := do return tokens.sight ((← get) + ahead)

/-- Go one token further. At the end there is nowhere to go. -/
def advance : Descent Sight := do
  let sight ← peek tokens 0
  match sight with
  | .token _ =>
    modify (· + 1)
    return sight
  | .stop _ => return sight

/-- Go on behind what is accepted, and refuse all else. -/
def require (accepts : Sight → Option α) (refusal : Sight → SyntaxError) : Descent α := do
  let sight ← peek tokens 0
  match accepts sight with
  | some value =>
    let _ ← advance tokens
    return value
  | none => throw (refusal sight)

/-- Go on behind an operator. -/
def expectOp (text context : String) : Descent Location :=
  require tokens (·.op? text) fun sight =>
    ⟨.expectedOperator text context sight.described, sight.location⟩

/-- Go on behind a name. -/
def expectName (context : String) : Descent String :=
  require tokens Sight.name? fun sight => ⟨.expectedName context sight.described, sight.location⟩

/-- Read a point: its name, and where its marker stands. -/
def point : Descent (String × Location) := do
  let marker ← advance tokens
  let _ ← require tokens (·.op? "(") fun _ => ⟨.pointWithoutParenthesis, marker.location⟩
  let name ← require tokens Sight.name? fun _ => ⟨.pointWithoutName, marker.location⟩
  let _ ← require tokens (·.op? ")") fun _ => ⟨.pointUnclosed, marker.location⟩
  return (name, marker.location)

/-- Read a value. -/
def value : Descent Operand := do
  let sight ← peek tokens 0
  if sight.isOp "$" then
    let (name, marker) ← point tokens
    return .point name marker
  else
    require tokens Sight.operand? fun sight => ⟨.expectedValue sight.described, sight.location⟩

/-- Read what stands between parameters. The closing parenthesis is left to the loop. -/
def separator (opening : Location) : Descent Unit := do
  let sight ← peek tokens 0
  if sight.isOp "," then
    let _ ← advance tokens
  else match sight with
    | .token ⟨.name, _, _⟩ =>
      let _ ← expectOp tokens "," "between parameters"
    | _ =>
      if sight.isOp ")" then return ()
      else throw ⟨.unmatchedParenthesis, opening⟩

/-- Read parameters up to the closing parenthesis. -/
def parameters (opening : Location) : (turns : Nat) → List String → Descent (List String)
  | 0, _ => unfinished
  | turns + 1, args => do
    let sight ← peek tokens 0
    if sight.isOp ")" then
      let _ ← advance tokens
      return args
    else if sight.isOp "\x7b" || (sight matches .stop _) then
      throw ⟨.unmatchedParenthesis, opening⟩
    else
      let arg ← expectName tokens "in parameter list"
      separator tokens opening
      parameters opening turns (args ++ [arg])

/-- Read statements up to the closing brace. -/
def statements (statement : Descent Form) (opening : Location) :
    (turns : Nat) → List Form → Descent (List Form)
  | 0, _ => unfinished
  | turns + 1, forms => do
    let sight ← peek tokens 0
    if sight.isOp "\x7d" then
      let _ ← advance tokens
      return forms
    else match sight with
      | .stop _ => throw ⟨.unmatchedOpeningBrace, opening⟩
      | .token _ =>
        let form ← statement
        statements statement opening turns (forms ++ [form])

/-- Read statements between braces. -/
def body (statement : Descent Form) (context : String) (turns : Nat) : Descent (List Form) := do
  let opening ← expectOp tokens "\x7b" context
  statements tokens statement opening turns []

/-- Read a function. -/
def function (statement : Descent Form) (turns : Nat) : Descent Form := do
  let marker ← advance tokens
  let name ← expectName tokens "after 'def'"
  let opening ← expectOp tokens "(" "after function name"
  let args ← parameters tokens opening turns []
  let _ ← expectOp tokens ":" "after parameter list"
  let forms ← body tokens statement "to open function body" turns
  return .function name args forms marker.location

/-- Read the second body of a conditional, if it has one. -/
def otherwise (statement : Descent Form) (turns : Nat) : Descent (List Form) := do
  let sight ← peek tokens 0
  match sight with
  | .token ⟨.name, "else", _⟩ =>
    let _ ← advance tokens
    let _ ← expectOp tokens ":" "after 'else'"
    body tokens statement "to open else body" turns
  | _ => return []

/-- Read a conditional. -/
def conditional (statement : Descent Form) (turns : Nat) : Descent Form := do
  let marker ← advance tokens
  let lhs ← expectName tokens "in condition"
  let _ ← expectOp tokens "==" "in condition"
  let rhs ← value tokens
  let _ ← expectOp tokens ":" "after condition"
  let thenForms ← body tokens statement "to open if body" turns
  let elseForms ← otherwise tokens statement turns
  return .conditional lhs rhs thenForms elseForms marker.location

/-- Read a `return`. -/
def result : Descent Form := do
  let marker ← advance tokens
  let operand ← value tokens
  return .result operand marker.location

/-- Read an assignment to a name. -/
def assignment (target : String) : Descent Form := do
  let start ← advance tokens
  let _ ← advance tokens
  let operand ← value tokens
  return .assign target operand start.location

/-- Read a raw line. -/
def raw (text : String) : Descent Form := do
  let marker ← advance tokens
  if text.isEmpty then throw ⟨.emptyRaw, marker.location⟩
  else return .raw text marker.location

/-- Read a splice. -/
def splice : Descent Form := do
  let (name, marker) ← point tokens
  let sight ← peek tokens 0
  if sight.isOp "*" then
    let _ ← advance tokens
    return .splice name true marker
  else return .splice name false marker

/-- Read a statement that starts with a word. -/
def named (statement : Descent Form) (turns : Nat) (text : String) (location : Location) :
    Descent Form :=
  if text = "def" then function tokens statement turns
  else if text = "if" then conditional tokens statement turns
  else if text = "return" then result tokens
  else do
    let next ← peek tokens 1
    if !keywords.contains text && next.isOp "=" then assignment tokens text
    else throw ⟨.unknownStatement text, location⟩

/-- Read a statement. The turns bound the loops in it, and the statements in its bodies. -/
def statement : (turns : Nat) → Descent Form
  | 0 => unfinished
  | turns + 1 => do
    let sight ← peek tokens 0
    if sight.isOp "$" then splice tokens
    else match sight with
      | .token ⟨.raw, text, _⟩ => raw tokens text
      | .token ⟨.name, text, location⟩ => named tokens (statement turns) turns text location
      | _ => throw ⟨.expectedStatement sight.described, sight.location⟩

/-- Read a template up to its end. -/
def template : (turns : Nat) → List Form → Descent (List Form)
  | 0, _ => unfinished
  | turns + 1, forms => do
    let sight ← peek tokens 0
    match sight with
    | .stop _ => return forms
    | .token _ =>
      if sight.isOp "\x7d" then throw ⟨.unmatchedClosingBrace, sight.location⟩
      else do
        let form ← statement tokens turns
        template turns (forms ++ [form])

end

end Descent

/-! ## What the machine reads from an index on -/

variable {α β : Type} {tokens : Tokens}

/-- What the machine reads from a state and an index on. -/
def Tokens.readOn (tokens : Tokens) (state : State) (index : Nat) :
    Except SyntaxError (List Form) := do
  let state ← state.run (tokens.items.drop index)
  let state ← state.step (.stop tokens.stop)
  return state.forms

/-- A token in sight is the first of those from there on. -/
theorem drop_of_sight {index : Nat} {token : Token} (here : tokens.sight index = .token token) :
    index < tokens.items.length ∧
      tokens.items.drop index = token :: tokens.items.drop (index + 1) := by
  unfold Tokens.sight at here
  split at here
  · rename_i found there
    cases here
    obtain ⟨inside, is⟩ := List.getElem?_eq_some_iff.mp there
    exact ⟨inside, by rw [List.drop_eq_getElem_cons inside, is]⟩
  · cases here

/-- Where the end is in sight no token is left. -/
theorem drop_of_stop {index : Nat} {stop : Location} (here : tokens.sight index = .stop stop) :
    tokens.items.length ≤ index ∧ stop = tokens.stop ∧ tokens.items.drop index = [] := by
  unfold Tokens.sight at here
  split at here
  · cases here
  · rename_i none
    cases here
    have behind := List.getElem?_eq_none_iff.mp none
    exact ⟨behind, rfl, List.drop_eq_nil_of_le behind⟩

/-- The machine goes on from the sight that it has. -/
theorem read_on_eq (tokens : Tokens) (state : State) (index : Nat) :
    tokens.readOn state index = (do
      let next ← state.step (tokens.sight index)
      match tokens.sight index with
      | .token _ => tokens.readOn next (index + 1)
      | .stop _ => return next.forms) := by
  unfold Tokens.readOn
  cases here : tokens.sight index with
  | token token =>
    rw [(drop_of_sight here).2, State.run, List.foldlM_cons, bind_assoc]
    rfl
  | stop stop =>
    obtain ⟨_, rfl, none⟩ := drop_of_stop here
    rw [none]
    rfl

/-- A token that is taken is behind. -/
theorem read_on_token {state next : State} {index : Nat} {token : Token}
    (here : tokens.sight index = .token token) (taken : state.step (.token token) = .ok next) :
    tokens.readOn state index = tokens.readOn next (index + 1) := by
  rw [read_on_eq, here, taken]
  rfl

/-- A sight that is refused ends the reading. -/
theorem read_on_error {state : State} {index : Nat} {fault : SyntaxError}
    (refused : state.step (tokens.sight index) = .error fault) :
    tokens.readOn state index = .error fault := by
  rw [read_on_eq, refused]
  rfl

/-- States that do the same with the sight read the same. -/
theorem read_on_congr {state other : State} {index : Nat}
    (same : state.step (tokens.sight index) = other.step (tokens.sight index)) :
    tokens.readOn state index = tokens.readOn other index := by
  rw [read_on_eq, same, ← read_on_eq]

/-- A token that is looked at where a statement may start starts one or closes the body. -/
theorem step_ready {state : State} (ready : state.phase = .ready) (sight : Sight) :
    state.step sight = state.begin sight := by
  obtain ⟨forms, levels, phase⟩ := state
  cases ready
  rfl

variable {token : Token}

/-! ## Steps that do what the machine does -/

namespace Descent

/-- A chain goes on with the outcome of its first step, from where that step stands. -/
theorem bind_run (step : Descent α) (next : α → Descent β) (index : Nat) :
    (step >>= next).run.run index =
      match step.run.run index with
      | none => none
      | some (.ok value, behind) => (next value).run.run behind
      | some (.error fault, behind) => some (.error fault, behind) := by
  rw [ExceptT.run_bind, StateT.run_bind]
  rcases step.run.run index with _ | ⟨_ | _, _⟩ <;> rfl

/-- Looking at a token moves nothing. -/
theorem peek_run (ahead : Nat) (next : Sight → Descent β) (index : Nat) :
    (peek tokens ahead >>= next).run.run index =
      (next (tokens.sight (index + ahead))).run.run index := rfl

/-- Where a token is the step goes one further. -/
theorem advance_run {index : Nat} {token : Token} (here : tokens.sight index = .token token) :
    (advance tokens).run.run index = some (.ok (.token token), index + 1) := by
  rw [advance, peek_run, Nat.add_zero, here]
  rfl

/-- From an index on, a step does what the machine does from a state. If the step succeeds it has
gone on by some tokens at least, and the machine reads what it reads from the index and the state
that belong to the outcome; if it fails so does the machine. The index stays inside. -/
inductive Follows (tokens : Tokens) (least : Nat) (step : Descent α) (index : Nat)
    (before : State) (after : α → State) : Prop where
  | goes (value : α) (next : Nat) (ran : step.run.run index = some (.ok value, next))
      (moved : index + least ≤ next) (inside : next ≤ tokens.items.length)
      (same : tokens.readOn before index = tokens.readOn (after value) next)
  | fails (fault : SyntaxError) (next : Nat) (ran : step.run.run index = some (.error fault, next))
      (inside : next ≤ tokens.items.length) (same : tokens.readOn before index = .error fault)

variable {least more index turns : Nat} {state : State} {step : Descent α} {after : α → State}

/-- A chain does what the machine does if its steps do, and goes on by what its first step does. -/
theorem follows_bind {next : α → Descent β} {final : β → State}
    (first : Follows tokens least step index state after)
    (second : ∀ value behind, index + least ≤ behind → behind ≤ tokens.items.length →
      Follows tokens 0 (next value) behind (after value) final) :
    Follows tokens least (step >>= next) index state final := by
  cases first with
  | goes value behind ran moved inside same =>
    cases second value behind moved inside with
    | goes outcome last again further within alike =>
      refine .goes outcome last ?_ (by omega) within (same.trans alike)
      rw [bind_run, ran]
      exact again
    | fails fault last again within alike =>
      refine .fails fault last ?_ within (same.trans alike)
      rw [bind_run, ran]
      exact again
  | fails fault last ran inside same =>
    refine .fails fault last ?_ inside same
    rw [bind_run, ran]

/-- A step that goes on by more tokens goes on by less. -/
theorem follows_less (follows : Follows tokens more step index state after) (less : least ≤ more) :
    Follows tokens least step index state after := by
  cases follows with
  | goes value next ran moved inside same => exact .goes value next ran (by omega) inside same
  | fails fault next ran inside same => exact .fails fault next ran inside same

/-- A chain does what the machine does if its steps do. -/
theorem follows_then {next : α → Descent β} {final : β → State}
    (first : Follows tokens least step index state after)
    (second : ∀ value behind, index + least ≤ behind → behind ≤ tokens.items.length →
      Follows tokens 0 (next value) behind (after value) final) :
    Follows tokens 0 (step >>= next) index state final :=
  follows_less (follows_bind first second) (Nat.zero_le least)

/-- A step that follows from a state does so from any that does the same with the sight. -/
theorem follows_congr {other : State}
    (same : other.step (tokens.sight index) = state.step (tokens.sight index))
    (follows : Follows tokens least step index state after) :
    Follows tokens least step index other after := by
  have alike := read_on_congr same
  cases follows with
  | goes value next ran moved inside behind =>
    exact .goes value next ran moved inside (alike.trans behind)
  | fails fault next ran inside behind => exact .fails fault next ran inside (alike.trans behind)

/-- An outcome that is given leaves the machine where it is. -/
theorem follows_pure {value : α} (inside : index ≤ tokens.items.length)
    (is : after value = state) : Follows tokens 0 (pure value) index state after :=
  .goes value index rfl (Nat.le_refl _) inside (by rw [is])

/-- A fault is one of the machine's. -/
theorem follows_throw {fault : SyntaxError} (inside : index ≤ tokens.items.length)
    (refused : state.step (tokens.sight index) = .error fault) :
    Follows tokens least (throw fault : Descent α) index state after :=
  .fails fault index rfl inside (read_on_error refused)

/-- What a step does with the sight is what it does. -/
theorem follows_peek {ahead : Nat} {next : Sight → Descent α}
    (follows : Follows tokens least (next (tokens.sight (index + ahead))) index state after) :
    Follows tokens least (peek tokens ahead >>= next) index state after := by
  cases follows with
  | goes value last ran moved inside same =>
    exact .goes value last (by rw [peek_run, ran]) moved inside same
  | fails fault last ran inside same =>
    exact .fails fault last (by rw [peek_run, ran]) inside same

/-- A chain that starts with going one token further does what the machine does if the machine takes
the token. -/
theorem follows_advance {token : Token} {taken : State} {next : Sight → Descent α}
    (here : tokens.sight index = .token token) (takes : state.step (.token token) = .ok taken)
    (behind : Follows tokens 0 (next (.token token)) (index + 1) taken after) :
    Follows tokens 1 (advance tokens >>= next) index state after := by
  have run := bind_run (advance tokens) next index
  rw [advance_run here] at run
  have same := read_on_token here takes
  cases behind with
  | goes value last ran moved inside alike =>
    exact .goes value last (run.trans ran) moved inside (same.trans alike)
  | fails fault last ran inside alike =>
    exact .fails fault last (run.trans ran) inside (same.trans alike)

/-- Going on behind what is accepted does what the machine does if the machine accepts the same, and
the end of the text is not accepted. -/
theorem follows_require {accepts : Sight → Option α} {refusal : Sight → SyntaxError}
    (after : α → State) (inside : index ≤ tokens.items.length)
    (ends : ∀ stop, accepts (.stop stop) = none)
    (taken : ∀ value, accepts (tokens.sight index) = some value →
      state.step (tokens.sight index) = .ok (after value))
    (refused : accepts (tokens.sight index) = none →
      state.step (tokens.sight index) = .error (refusal (tokens.sight index))) :
    Follows tokens 1 (require tokens accepts refusal) index state after := by
  refine follows_peek ?_
  rw [Nat.add_zero]
  cases accepted : accepts (tokens.sight index) with
  | none => exact follows_throw inside (refused accepted)
  | some value =>
    have taken := taken value accepted
    cases here : tokens.sight index with
    | stop stop =>
      rw [here, ends] at accepted
      cases accepted
    | token token =>
      rw [here] at taken
      exact follows_advance here taken (follows_pure (drop_of_sight here).1 rfl)

/-- An operator in sight stands where it is seen. -/
theorem op_some {sight : Sight} {text : String} {location : Location}
    (found : sight.op? text = some location) :
    sight.isOp text = true ∧ location = sight.location := by
  unfold Sight.op? at found
  split at found
  · rename_i isOp
    exact ⟨isOp, (Option.some.inj found).symm⟩
  · cases found

/-- Any other sight is not the operator. -/
theorem op_none {sight : Sight} {text : String} (found : sight.op? text = none) :
    ¬sight.isOp text = true := by
  unfold Sight.op? at found
  split at found
  · cases found
  · assumption

/-- An operator that is expected is required by the machine, and stands where it is. -/
theorem follows_op {text context : String} (after : Location → State)
    (inside : index ≤ tokens.items.length)
    (taken : state.step (tokens.sight index) =
      requireOp text context (tokens.sight index) (after (tokens.sight index).location)) :
    Follows tokens 1 (expectOp tokens text context) index state after := by
  refine follows_require after inside (fun _ => rfl) ?_ ?_
  · intro location found
    obtain ⟨isOp, rfl⟩ := op_some found
    rw [taken, requireOp, if_pos isOp]
  · intro found
    rw [taken, requireOp, if_neg (op_none found)]

/-- A name that is expected is required by the machine. -/
theorem follows_name {context : String} (after : String → State)
    (inside : index ≤ tokens.items.length)
    (taken : state.step (tokens.sight index) =
      requireName context (tokens.sight index) after) :
    Follows tokens 1 (expectName tokens context) index state after := by
  refine follows_require after inside (fun _ => rfl) ?_ ?_
  · intro name found
    rw [taken, requireName, found]
  · intro found
    rw [taken, requireName, found]

/-! ## Points and values -/

/-- A point is read as the machine reads it behind its marker. -/
theorem follows_point {token : Token} {place : Place} (here : tokens.sight index = .token token)
    (taken : state.step (.token token) = .ok (state.expect (.pointOpen token.location place))) :
    Follows tokens 1 (point tokens) index state fun read => state.point read.1 read.2 place := by
  have inside := (drop_of_sight here).1
  refine follows_advance here taken ?_
  refine follows_then (follows_require (fun _ => state.expect (.pointName token.location place))
    inside (fun _ => rfl) ?_ ?_) fun _ _ _ within => ?_
  · exact fun _ found => if_pos (op_some found).1
  · exact fun found => if_neg (op_none found)
  refine follows_then (follows_require
    (fun name => state.expect (.pointClose token.location place name)) within (fun _ => rfl)
    ?_ ?_) fun name _ _ within => ?_
  · intro name found
    simp only [State.step, State.expect, found]
  · intro found
    simp only [State.step, State.expect, found]
    rfl
  refine follows_then (follows_require (fun _ => state.point name token.location place) within
    (fun _ => rfl) ?_ ?_) fun _ _ _ within => follows_pure within rfl
  · intro _ found
    refine (if_pos (op_some found).1).trans ?_
    cases place with
    | statement => rfl
    | value slot => exact congrArg Except.ok (State.supply_expect state _ _ slot)
  · exact fun found => if_neg (op_none found)

/-- A value that is no point is a single token. -/
theorem step_value (state : State) (slot : Slot) {sight : Sight} (plain : ¬sight.isOp "$" = true) :
    (state.expect (.value slot)).step sight =
      match sight.operand? with
      | some operand => .ok (state.supply operand slot)
      | none => .error ⟨.expectedValue sight.described, sight.location⟩ := by
  change State.readValue _ slot sight = _
  cases sight with
  | stop stop => rfl
  | token token =>
    obtain ⟨kind, text, location⟩ := token
    rw [State.readValue, if_neg (show ¬Token.isOp _ "$" = true from plain)]
    cases kind with
    | string | number => exact congrArg Except.ok (State.supply_expect state _ _ slot)
    | name =>
      simp only [Sight.operand?, State.supply_expect]
      split
      · rfl
      · split <;> rfl
    | raw | op => rfl

/-- A value is read as the machine reads it. -/
theorem follows_value (slot : Slot) (inside : index ≤ tokens.items.length) :
    Follows tokens 1 (value tokens) index (state.expect (.value slot)) fun operand =>
      state.supply operand slot := by
  refine follows_peek ?_
  rw [Nat.add_zero]
  split
  · rename_i isPoint
    cases here : tokens.sight index with
    | stop stop =>
      rw [here] at isPoint
      cases isPoint
    | token token =>
      rw [here] at isPoint
      have taken : (state.expect (.value slot)).step (.token token) =
          .ok ((state.expect (.value slot)).expect (.pointOpen token.location (.value slot))) := by
        change State.readValue _ slot (.token token) = _
        rw [State.readValue, if_pos (show token.isOp "$" = true from isPoint)]
      refine follows_bind (follows_point here taken) fun read _ _ within => follows_pure within ?_
      exact (State.supply_expect state _ _ slot).symm
  · rename_i plain
    refine follows_require _ inside (fun _ => rfl) ?_ ?_
    · intro operand found
      rw [step_value state slot plain, found]
    · intro found
      rw [step_value state slot plain, found]

/-! ## Parameters and bodies -/

section

variable {location opening : Location} {name : String} {args : List String}

/-- What stands between parameters is read as the machine reads it. -/
theorem follows_separator (inside : index ≤ tokens.items.length) :
    Follows tokens 0 (separator tokens opening) index
      (state.expect (.afterParameter location name opening args)) fun _ =>
        state.expect (.parameter location name opening args) := by
  refine follows_peek ?_
  rw [Nat.add_zero]
  cases here : tokens.sight index with
  | stop stop => exact follows_throw inside (by rw [here]; rfl)
  | token token =>
    split
    · rename_i isComma
      have taken : (state.expect (.afterParameter location name opening args)).step
          (.token token) = .ok (state.expect (.parameter location name opening args)) :=
        if_pos isComma
      refine follows_less (follows_advance here taken ?_) (Nat.zero_le 1)
      exact follows_pure (drop_of_sight here).1 rfl
    · rename_i noComma
      have looked : (state.expect (.afterParameter location name opening args)).step
          (.token token) =
            if (Sight.token token).isOp ")" then
              .ok (state.expect (.functionColon location name args))
            else match Sight.token token with
              | .token ⟨.name, _, place⟩ =>
                .error ⟨.expectedOperator "," "between parameters" _, place⟩
              | _ => .error ⟨.unmatchedParenthesis, opening⟩ := if_neg noComma
      obtain ⟨kind, text, place⟩ := token
      cases kind with
      | name =>
        refine follows_then (follows_op (fun _ =>
          state.expect (.parameter location name opening args)) inside ?_)
          fun _ _ _ within => follows_pure within rfl
        rw [here, looked]
        rfl
      | _ =>
        simp only
        split
        · rename_i closes
          refine follows_congr ?_ (follows_pure inside rfl)
          rw [here, looked, if_pos closes]
          exact (if_pos closes).symm
        · rename_i other
          refine follows_throw inside ?_
          rw [here, looked, if_neg other]

/-- Parameters are read as the machine reads them, with more turns than tokens. -/
theorem follows_parameters (inside : index ≤ tokens.items.length)
    (enough : tokens.items.length < index + turns) :
    Follows tokens 0 (parameters tokens opening turns args) index
      (state.expect (.parameter location name opening args)) fun args =>
        state.expect (.functionColon location name args) := by
  induction turns generalizing index args with
  | zero => omega
  | succ turns inductionHypothesis =>
    refine follows_peek ?_
    rw [Nat.add_zero]
    cases here : tokens.sight index with
    | stop stop => exact follows_throw inside (by rw [here]; rfl)
    | token token =>
      split
      · rename_i closes
        have taken : (state.expect (.parameter location name opening args)).step (.token token) =
            .ok (state.expect (.functionColon location name args)) := if_pos closes
        refine follows_less (follows_advance here taken ?_) (Nat.zero_le 1)
        exact follows_pure (drop_of_sight here).1 rfl
      · rename_i goesOn
        have looked : (state.expect (.parameter location name opening args)).step (.token token) =
            if (Sight.token token).isOp "\x7b" || false then
              .error ⟨.unmatchedParenthesis, opening⟩
            else requireName "in parameter list" (.token token) fun arg =>
              state.expect (.afterParameter location name opening (args ++ [arg])) :=
          if_neg goesOn
        simp only
        split
        · rename_i unclosed
          refine follows_throw inside ?_
          rw [here, looked, if_pos unclosed]
        · rename_i another
          refine follows_then (follows_name (fun arg =>
            state.expect (.afterParameter location name opening (args ++ [arg]))) inside ?_)
            fun arg _ moved within => ?_
          · rw [here, looked, if_neg another]
          · refine follows_then (follows_separator within) fun _ _ further within => ?_
            exact inductionHypothesis within (by omega)

end

section

variable {statement : Descent Form}

/-- From any state where a statement may start, a step reads one if it stands behind an index. -/
def ReadsFrom (tokens : Tokens) (least : Nat) (statement : Descent Form) : Prop :=
  ∀ (index : Nat) (state : State) (token : Token), least ≤ index →
    tokens.sight index = .token token → ¬token.isOp "\x7d" = true → state.phase = .ready →
      Follows tokens 1 statement index state state.complete

/-- A step that reads statements behind an index reads those further behind. -/
theorem reads_further (each : ReadsFrom tokens least statement) (less : least ≤ more) :
    ReadsFrom tokens more statement :=
  fun index state token further => each index state token (Nat.le_trans less further)

/-- Statements are read as the machine reads them in an open body, with more turns than tokens. -/
theorem follows_statements (each : ReadsFrom tokens least statement) (outer : State)
    (header : Header) (opening : Location) (forms : List Form) (further : least ≤ index)
    (inside : index ≤ tokens.items.length) (enough : tokens.items.length < index + turns) :
    Follows tokens 0 (statements tokens statement opening turns forms) index
      ⟨forms, ⟨header, opening, outer.forms⟩ :: outer.levels, .ready⟩ fun forms =>
        outer.closeBody forms header := by
  induction turns generalizing index forms with
  | zero => omega
  | succ turns inductionHypothesis =>
    refine follows_peek ?_
    rw [Nat.add_zero]
    cases here : tokens.sight index with
    | stop stop => exact follows_throw inside (by rw [here]; rfl)
    | token token =>
      split
      · rename_i closes
        have taken : State.step ⟨forms, ⟨header, opening, outer.forms⟩ :: outer.levels, .ready⟩
            (.token token) = .ok (outer.closeBody forms header) := by
          refine (if_pos closes).trans ?_
          cases header <;> rfl
        refine follows_less (follows_advance here taken ?_) (Nat.zero_le 1)
        exact follows_pure (drop_of_sight here).1 rfl
      · rename_i another
        refine follows_then (each index _ token further here another rfl)
          fun form _ moved within => ?_
        exact inductionHypothesis (forms ++ [form]) (by omega) within (by omega)

/-- A body is read as the machine reads it. -/
theorem follows_body {context : String} (each : ReadsFrom tokens least statement) (header : Header)
    (further : least ≤ index)
    (inside : index ≤ tokens.items.length) (enough : tokens.items.length < index + turns)
    (opens : ∀ sight, state.step sight =
      requireOp "\x7b" context sight (state.openBody header sight.location)) :
    Follows tokens 0 (body tokens statement context turns) index state fun forms =>
      state.closeBody forms header := by
  refine follows_then (follows_op (fun opening => state.openBody header opening) inside (opens _))
    fun opening _ moved within => ?_
  exact follows_statements each state header opening [] (by omega) within (by omega)

/-- A function is read as the machine reads it. -/
theorem follows_function (each : ReadsFrom tokens (index + 1) statement) {token : Token}
    (here : tokens.sight index = .token token)
    (taken : state.step (.token token) = .ok (state.expect (.functionName token.location)))
    (enough : tokens.items.length ≤ index + turns + 1) :
    Follows tokens 1 (function tokens statement turns) index state state.complete := by
  refine follows_advance here taken ?_
  refine follows_then (follows_name
    (fun name => state.expect (.functionOpen token.location name)) (drop_of_sight here).1 rfl)
    fun name _ _ within => ?_
  refine follows_then (follows_op
    (fun opening => state.expect (.parameter token.location name opening [])) within rfl)
    fun opening _ _ within => ?_
  refine follows_then (follows_parameters within (by omega)) fun args _ _ within => ?_
  refine follows_then (follows_op
    (fun _ => state.expect (.functionBody token.location name args)) within rfl)
    fun _ _ _ within => ?_
  refine follows_then (follows_body each (.function token.location name args) (by omega) within
    (by omega) fun _ => rfl) fun forms _ _ within => ?_
  exact follows_pure within rfl

/-- The second body of a conditional is read as the machine reads it. -/
theorem follows_otherwise (each : ReadsFrom tokens least statement) {location : Location}
    {lhs : String} {rhs : Operand} {thenForms : List Form} (further : least ≤ index)
    (inside : index ≤ tokens.items.length) (enough : tokens.items.length < index + turns) :
    Follows tokens 0 (otherwise tokens statement turns) index
      (state.expect (.afterThen location lhs rhs thenForms)) fun elseForms =>
        state.complete (.conditional lhs rhs thenForms elseForms location) := by
  refine follows_peek ?_
  rw [Nat.add_zero]
  split
  · rename_i here
    refine follows_less (follows_advance here rfl ?_) (Nat.zero_le 1)
    refine follows_then (follows_op
      (fun _ => state.expect (.elseBody location lhs rhs thenForms)) (drop_of_sight here).1 rfl)
      fun _ _ _ within => ?_
    exact follows_body each (.elseBranch location lhs rhs thenForms) (by omega) within (by omega)
      fun _ => rfl
  · rename_i other
    refine follows_congr ?_ (follows_pure inside rfl)
    have settled : (state.complete (.conditional lhs rhs thenForms [] location)).step
        (tokens.sight index) = State.begin _ (tokens.sight index) := step_ready rfl _
    rw [settled]
    simp only [State.step, State.expect]
    rfl

/-- A conditional is read as the machine reads it. -/
theorem follows_conditional (each : ReadsFrom tokens (index + 1) statement) {token : Token}
    (here : tokens.sight index = .token token)
    (taken : state.step (.token token) = .ok (state.expect (.conditionLeft token.location)))
    (enough : tokens.items.length ≤ index + turns + 1) :
    Follows tokens 1 (conditional tokens statement turns) index state state.complete := by
  refine follows_advance here taken ?_
  refine follows_then (follows_name
    (fun lhs => state.expect (.conditionOperator token.location lhs)) (drop_of_sight here).1 rfl)
    fun lhs _ _ within => ?_
  refine follows_then (follows_op
    (fun _ => state.expect (.value (.compared lhs token.location))) within rfl)
    fun _ _ _ within => ?_
  refine follows_then (follows_value (.compared lhs token.location) within)
    fun rhs _ _ within => ?_
  refine follows_then (follows_op
    (fun _ => state.expect (.thenBody token.location lhs rhs)) within rfl)
    fun _ _ _ within => ?_
  refine follows_then (follows_body each (.thenBranch token.location lhs rhs) (by omega) within
    (by omega) fun _ => rfl) fun thenForms _ _ within => ?_
  refine follows_then (follows_otherwise each (by omega) within (by omega))
    fun elseForms _ _ within => ?_
  exact follows_pure within rfl

end

/-! ## Statements -/

section

/-- A `return` is read as the machine reads it. -/
theorem follows_result (here : tokens.sight index = .token token)
    (taken : state.step (.token token) = .ok (state.expect (.value (.result token.location)))) :
    Follows tokens 1 (result tokens) index state state.complete := by
  refine follows_advance here taken ?_
  exact follows_then (follows_value (.result token.location) (drop_of_sight here).1)
    fun operand _ _ within => follows_pure within rfl

/-- An assignment is read as the machine reads it. -/
theorem follows_assignment {target : String} {sign : Token}
    (here : tokens.sight index = .token token) (next : tokens.sight (index + 1) = .token sign)
    (signed : sign.isOp "=" = true)
    (taken : state.step (.token token) = .ok (state.expect (.assignment token.location target))) :
    Follows tokens 1 (assignment tokens target) index state state.complete := by
  have read : (state.expect (.assignment token.location target)).step (.token sign) =
      .ok (state.expect (.value (.assigned target token.location))) := if_pos signed
  refine follows_advance here taken ?_
  refine follows_less (follows_advance next read ?_) (Nat.zero_le 1)
  exact follows_then (follows_value (.assigned target token.location) (drop_of_sight next).1)
    fun operand _ _ within => follows_pure within rfl

/-- A raw line is read as the machine reads it. -/
theorem follows_raw {text : String} {location : Location}
    (here : tokens.sight index = .token ⟨.raw, text, location⟩) (ready : state.phase = .ready) :
    Follows tokens 1 (raw tokens text) index state state.complete := by
  have inside := (drop_of_sight here).1
  have looked : state.step (.token ⟨.raw, text, location⟩) =
      if text.isEmpty then .error ⟨.emptyRaw, location⟩
      else .ok (state.complete (.raw text location)) := by
    rw [step_ready ready]
    rfl
  by_cases empty : text.isEmpty = true
  · refine .fails ⟨.emptyRaw, location⟩ (index + 1) ?_ inside (read_on_error ?_)
    · rw [raw, bind_run, advance_run here]
      simp only [empty, if_true]
      rfl
    · rw [here, looked, if_pos empty]
  · rw [if_neg empty] at looked
    refine follows_advance here looked ?_
    rw [if_neg empty]
    exact follows_pure inside rfl

/-- A splice is read as the machine reads it. -/
theorem follows_splice (here : tokens.sight index = .token token)
    (taken : state.step (.token token) =
      .ok (state.expect (.pointOpen token.location .statement))) :
    Follows tokens 1 (splice tokens) index state state.complete := by
  refine follows_bind (follows_point here taken) fun read behind _ within => follows_peek ?_
  rw [Nat.add_zero]
  split
  · rename_i starred
    cases star : tokens.sight behind with
    | stop stop =>
      rw [star] at starred
      cases starred
    | token token =>
      rw [star] at starred
      have taken : (state.point read.1 read.2 .statement).step (.token token) =
          .ok (state.complete (.splice read.1 true read.2)) := if_pos starred
      refine follows_less (follows_advance star taken ?_) (Nat.zero_le 1)
      exact follows_pure (drop_of_sight star).1 rfl
  · rename_i other
    have settled : (state.point read.1 read.2 .statement).step (tokens.sight behind) =
        (state.complete (.splice read.1 false read.2)).step (tokens.sight behind) :=
      (if_neg other).trans (step_ready rfl _).symm
    exact follows_congr settled (follows_pure within rfl)

/-- A statement that starts with a word is read as the machine reads it. -/
theorem follows_named {statement : Descent Form} (each : ReadsFrom tokens (index + 1) statement)
    {text : String} {location : Location} (enough : tokens.items.length ≤ index + turns + 1)
    (here : tokens.sight index = .token ⟨.name, text, location⟩) (ready : state.phase = .ready) :
    Follows tokens 1 (named tokens statement turns text location) index state state.complete := by
  have begun := step_ready ready (.token ⟨.name, text, location⟩)
  unfold named
  split
  · rename_i isDef
    exact follows_function each here (begun.trans (if_pos isDef)) enough
  · rename_i noDef
    replace begun := begun.trans (if_neg noDef)
    split
    · rename_i isIf
      exact follows_conditional each here (begun.trans (if_pos isIf)) enough
    · rename_i noIf
      replace begun := begun.trans (if_neg noIf)
      split
      · rename_i isReturn
        exact follows_result here (begun.trans (if_pos isReturn))
      · rename_i noReturn
        replace begun := begun.trans (if_neg noReturn)
        refine follows_peek ?_
        have inside := (drop_of_sight here).1
        split
        · rename_i assigned
          obtain ⟨named, signed⟩ := Bool.and_eq_true_iff.mp assigned
          have taken := begun.trans (if_neg (by simpa using named))
          cases next : tokens.sight (index + 1) with
          | stop stop =>
            rw [next] at signed
            cases signed
          | token sign =>
            rw [next] at signed
            exact follows_assignment here next signed taken
        · rename_i unknown
          by_cases reserved : keywords.contains text = true
          · refine follows_throw (Nat.le_of_lt inside) ?_
            rw [here]
            exact begun.trans (if_pos reserved)
          · have taken := begun.trans (if_neg reserved)
            have unsigned : ¬(tokens.sight (index + 1)).isOp "=" = true :=
              fun signed => unknown (by simpa [signed] using reserved)
            refine .fails _ index rfl (Nat.le_of_lt inside) ?_
            rw [read_on_token here taken]
            exact read_on_error (if_neg unsigned)

/-- A statement is read as the machine reads it, with as many turns as tokens. -/
theorem follows_statement (turns : Nat) :
    ReadsFrom tokens (tokens.items.length - turns) (statement tokens turns) := by
  induction turns with
  | zero =>
    intro index state token further here
    have inside := (drop_of_sight here).1
    omega
  | succ turns inductionHypothesis =>
    intro index state token further here another ready
    have inside := Nat.le_of_lt (drop_of_sight here).1
    have begun := step_ready ready (.token token)
    rw [State.begin, if_neg another] at begun
    refine follows_peek ?_
    rw [Nat.add_zero, here]
    split
    · rename_i isPoint
      rw [if_pos (show token.isOp "$" = true from isPoint)] at begun
      exact follows_splice here begun
    · rename_i plain
      rw [if_neg (show ¬token.isOp "$" = true from plain)] at begun
      obtain ⟨kind, text, location⟩ := token
      cases kind with
      | raw => exact follows_raw here ready
      | name =>
        have each := reads_further inductionHypothesis (show _ ≤ index + 1 by omega)
        exact follows_named each (by omega) here ready
      | _ => exact follows_throw inside (by rw [here, begun]; rfl)

/-- A template is read from an index on as the machine reads it, with more turns than tokens. The
machine is at the level of the template, and each turn of the loop takes it over one statement or to
the end. -/
theorem template_run (forms : List Form) (inside : index ≤ tokens.items.length)
    (enough : tokens.items.length < index + turns) :
    ∃ last ≤ tokens.items.length, (template tokens turns forms).run.run index =
      some (tokens.readOn ⟨forms, [], .ready⟩ index, last) := by
  induction turns generalizing index forms with
  | zero => omega
  | succ turns inductionHypothesis =>
    rw [template, peek_run, Nat.add_zero]
    cases here : tokens.sight index with
    | stop stop =>
      refine ⟨index, inside, ?_⟩
      rw [read_on_eq, here]
      rfl
    | token token =>
      simp only
      split
      · rename_i closes
        have refused : State.step ⟨forms, [], .ready⟩ (tokens.sight index) =
            .error ⟨.unmatchedClosingBrace, token.location⟩ := by
          rw [here]
          exact if_pos closes
        rw [read_on_error refused]
        exact ⟨index, inside, rfl⟩
      · rename_i another
        have first :=
          follows_statement turns index ⟨forms, [], .ready⟩ token (by omega) here another rfl
        rw [bind_run]
        cases first with
        | goes form next ran moved within same =>
          rw [ran, same]
          exact inductionHypothesis (forms ++ [form]) within (by omega)
        | fails fault next ran within same =>
          rw [ran, same]
          exact ⟨next, within, rfl⟩

end

/-- Reading by descent does what the reading machine does: with more turns than tokens every loop is
through, the outcome is the machine's, and the index is not behind the end. -/
theorem template_follows (enough : tokens.items.length < turns) :
    ∃ last ≤ tokens.items.length,
      (template tokens turns []).run.run 0 = some (parseTokens tokens, last) :=
  template_run [] (Nat.zero_le _) (by omega)

/-! ## Loops end -/

/-- From an index on a step has an outcome, and the index that it leaves is not behind the end. -/
def Ends (tokens : Tokens) (step : Descent α) (index : Nat) : Prop :=
  ∃ outcome last, step.run.run index = some (outcome, last) ∧ last ≤ tokens.items.length

/-- A step that does what the machine does ends. -/
theorem follows_ends (follows : Follows tokens least step index state after) :
    Ends tokens step index := by
  cases follows with
  | goes value last ran moved inside same => exact ⟨_, last, ran, inside⟩
  | fails fault last ran inside same => exact ⟨_, last, ran, inside⟩

/-- With more turns than there are tokens left every loop ends, wherever it stands. -/
theorem loops_end (inside : index ≤ tokens.items.length)
    (enough : tokens.items.length < index + turns) (opening : Location) :
    (∀ args, Ends tokens (parameters tokens opening turns args) index) ∧
      (∀ forms,
        Ends tokens (statements tokens (statement tokens turns) opening turns forms) index) ∧
      ∀ forms, Ends tokens (template tokens turns forms) index := by
  refine ⟨fun args => ?_, fun forms => ?_, fun forms => ?_⟩
  · have follows : Follows tokens 0 (parameters tokens opening turns args) index
        (State.start.expect (.parameter opening "" opening args)) _ :=
      follows_parameters inside enough
    exact follows_ends follows
  · have follows := follows_statements (follows_statement turns) .start (.function opening "" [])
      opening forms (by omega) inside enough
    exact follows_ends follows
  · obtain ⟨last, within, ran⟩ := template_run forms inside enough
    exact ⟨_, last, ran, within⟩

/-- A statement that is read takes at least one token. There is an outcome wherever one stands, and
a fault where no statement starts. A statement that is read takes a token at least, its first. -/
theorem statement_moves (inside : index ≤ tokens.items.length)
    (enough : tokens.items.length < index + turns) :
    ∃ outcome next, (statement tokens turns).run.run index = some (outcome, next) ∧
      next ≤ tokens.items.length ∧ (outcome.isOk = true → index < next) := by
  obtain ⟨turns, rfl⟩ : ∃ fewer, turns = fewer + 1 := ⟨turns - 1, by omega⟩
  -- The end of the text and a closing brace are refused where they stand.
  have refused (location : Location)
      (plain : tokens.sight index = .stop location ∨
        tokens.sight index = .token (mark "\x7d" location)) :
      ∃ fault, (statement tokens (turns + 1)).run.run index = some (.error fault, index) := by
    rw [statement, peek_run, Nat.add_zero]
    rcases plain with here | here <;> exact ⟨_, by rw [here]; rfl⟩
  cases here : tokens.sight index with
  | stop stop =>
    obtain ⟨fault, ran⟩ := refused stop (.inl here)
    exact ⟨_, index, ran, inside, nofun⟩
  | token token =>
    by_cases closes : token.isOp "\x7d" = true
    · obtain ⟨kind, text, location⟩ := token
      simp only [Token.isOp, Bool.and_eq_true, beq_iff_eq] at closes
      obtain ⟨rfl, rfl⟩ := closes
      obtain ⟨fault, ran⟩ := refused location (.inr here)
      exact ⟨_, index, ran, inside, nofun⟩
    · cases follows_statement (turns + 1) index .start token (by omega) here closes rfl with
      | goes form next ran moved within same => exact ⟨_, next, ran, within, fun _ => moved⟩
      | fails fault next ran within same => exact ⟨_, next, ran, within, nofun⟩

end Descent

end Stencil.Template
