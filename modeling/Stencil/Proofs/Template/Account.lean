import Stencil.Proofs.Outcome
import Stencil.Proofs.Template.Acceptance

/-!
# Accepted tokens derive

Every state that the reading machine reaches accounts for all tokens it has
taken (`State.Reads`): the open bodies with the statements before them, the
statements of the innermost body, and the part of a statement that the phase
stands for. `Phase.Covers` says which tokens that part is. Each step keeps the
account (`reads_step`), so an accepted list of tokens derives what was read
(`derives_of_parse`).
-/

namespace Stencil.Template

/-- Parameters with a comma behind each of them. -/
inductive Separated : List Token → List String → Prop where
  | nothing : Separated [] []
  | more (tokens : List Token) (names : List String) (name : String) (place comma : Location)
      (named : name ∉ keywords) (before : Separated tokens names) :
      Separated (tokens ++ [word name place, mark "," comma]) (names ++ [name])

/-- Parameters can be put behind separated ones. -/
theorem separated_append {tokens more : List Token} {names others : List String}
    (separated : Separated tokens names) (behind : Parameters more others) :
    Parameters (tokens ++ more) (names ++ others) := by
  induction separated generalizing more others with
  | nothing => exact behind
  | more tokens names name place comma named _ inductionHypothesis =>
    simpa using inductionHypothesis (.more name place comma _ _ named behind)

/-- Separated parameters are parameters. -/
theorem separated_parameters {tokens : List Token} {names : List String}
    (separated : Separated tokens names) : Parameters tokens names := by
  simpa using separated_append separated .nothing

/-- The tokens of a statement before its value. -/
def Slot.Covers (tokens : List Token) : Slot → Prop
  | .result location => tokens = [word "return" location]
  | .assigned target location =>
    ∃ sign, target ∉ keywords ∧ tokens = [word target location, mark "=" sign]
  | .compared lhs location => ∃ place comparison, lhs ∉ keywords ∧
      tokens = [word "if" location, word lhs place, mark "==" comparison]

/-- The tokens of a statement before a point. -/
def Place.Covers (tokens : List Token) : Place → Prop
  | .statement => tokens = []
  | .value slot => slot.Covers tokens

/-- The tokens of a statement before the brace of a body. -/
def Header.Covers (tokens : List Token) : Header → Prop
  | .function location name args => FunctionHead tokens location name args
  | .thenBranch location lhs rhs => ConditionHead tokens location lhs rhs
  | .elseBranch location lhs rhs thenForms =>
    ∃ head opening body closing divider colon, ConditionHead head location lhs rhs ∧
      Derives body thenForms ∧
      tokens = head ++ bodyTokens opening body closing ++ [word "else" divider, mark ":" colon]

/-- The tokens of a statement that a phase stands for. -/
def Phase.Covers (tokens : List Token) : Phase → Prop
  | .ready => tokens = []
  | .functionName location => tokens = [word "def" location]
  | .functionOpen location name =>
    ∃ place, name ∉ keywords ∧ tokens = [word "def" location, word name place]
  | .parameter location name opening args => ∃ place parameters, name ∉ keywords ∧
      Separated parameters args ∧
      tokens = [word "def" location, word name place, mark "(" opening] ++ parameters
  | .afterParameter location name opening args =>
    ∃ place parameters names arg position, name ∉ keywords ∧ Separated parameters names ∧
      arg ∉ keywords ∧ args = names ++ [arg] ∧
      tokens = [word "def" location, word name place, mark "(" opening] ++ parameters ++
        [word arg position]
  | .functionColon location name args =>
    ∃ place opening parameters closing, name ∉ keywords ∧ Parameters parameters args ∧
      tokens = [word "def" location, word name place, mark "(" opening] ++ parameters ++
        [mark ")" closing]
  | .functionBody location name args => (Header.function location name args).Covers tokens
  | .conditionLeft location => tokens = [word "if" location]
  | .conditionOperator location lhs =>
    ∃ place, lhs ∉ keywords ∧ tokens = [word "if" location, word lhs place]
  | .conditionColon location lhs rhs =>
    ∃ before value, (Slot.compared lhs location).Covers before ∧ OperandTokens value rhs ∧
      tokens = before ++ value
  | .thenBody location lhs rhs => (Header.thenBranch location lhs rhs).Covers tokens
  | .afterThen location lhs rhs thenForms =>
    ∃ head opening body closing, ConditionHead head location lhs rhs ∧ Derives body thenForms ∧
      tokens = head ++ bodyTokens opening body closing
  | .elseColon location lhs rhs thenForms =>
    ∃ head opening body closing divider, ConditionHead head location lhs rhs ∧
      Derives body thenForms ∧
      tokens = head ++ bodyTokens opening body closing ++ [word "else" divider]
  | .elseBody location lhs rhs thenForms =>
    (Header.elseBranch location lhs rhs thenForms).Covers tokens
  | .assignment location target => target ∉ keywords ∧ tokens = [word target location]
  | .value slot => slot.Covers tokens
  | .pointOpen marker position =>
    ∃ before, position.Covers before ∧ tokens = before ++ [mark "$" marker]
  | .pointName marker position => ∃ before opening, position.Covers before ∧
      tokens = before ++ [mark "$" marker, mark "(" opening]
  | .pointClose marker position name => ∃ before opening place, position.Covers before ∧
      name ∉ keywords ∧ tokens = before ++ [mark "$" marker, mark "(" opening, word name place]
  | .afterSplice marker name => ∃ opening place closing, name ∉ keywords ∧
      tokens = pointTokens name marker opening place closing

/-- The tokens before the innermost body: for each open body the statements before it and its
head, from the outermost on. -/
inductive Spine : List Token → List Level → Prop where
  | outermost : Spine [] []
  | inside (tokens read head : List Token) (level : Level) (levels : List Level)
      (outer : Spine tokens levels) (before : Derives read level.before)
      (headed : level.header.Covers head) :
      Spine (tokens ++ read ++ head ++ [mark "\x7b" level.opening]) (level :: levels)

/-- A state accounts for the tokens taken: the open bodies, the statements of the innermost one,
and the part of a statement that the phase stands for. -/
def State.Reads (tokens : List Token) (state : State) : Prop :=
  ∃ outer read part, Spine outer state.levels ∧ Derives read state.forms ∧
    state.phase.Covers part ∧ tokens = outer ++ read ++ part

/-- A complete statement joins those before it. -/
theorem reads_complete {state : State} {outer read part : List Token} {form : Form}
    (spine : Spine outer state.levels) (before : Derives read state.forms)
    (whole : Derives part [form]) : (state.complete form).Reads (outer ++ read ++ part) :=
  ⟨outer, read ++ part, [], spine, derives_append before whole, rfl, by simp⟩

/-- Closing what only the next token could have continued loses no token. -/
theorem reads_settle {state : State} {tokens : List Token} (reads : state.Reads tokens) :
    state.settle.Reads tokens := by
  obtain ⟨forms, levels, phase⟩ := state
  obtain ⟨outer, read, part, spine, before, covers, rfl⟩ := reads
  cases phase with
  | afterThen location lhs rhs thenForms =>
    obtain ⟨head, opening, body, closing, headed, inner, rfl⟩ := covers
    refine reads_complete spine before ?_
    simpa using Derives.conditional opening closing headed inner .nothing
  | afterSplice marker name =>
    obtain ⟨opening, place, closing, named, rfl⟩ := covers
    refine reads_complete spine before ?_
    simpa using Derives.splice name marker opening place closing named .nothing
  | _ => exact ⟨outer, read, part, spine, before, covers, rfl⟩

/-- The operator that a token is. -/
theorem is_op_eq {token : Token} {text : String} (isOp : token.isOp text = true) :
    ∃ location, token = mark text location := by
  obtain ⟨kind, written, location⟩ := token
  simp only [Token.isOp, Bool.and_eq_true, beq_iff_eq] at isOp
  obtain ⟨rfl, rfl⟩ := isOp
  exact ⟨location, rfl⟩

/-- An operator that is required is the token. -/
theorem require_op_eq {text context : String} {token : Token} {next state : State}
    (taken : requireOp text context (.token token) next = .ok state) :
    (∃ location, token = mark text location) ∧ state = next := by
  rw [requireOp] at taken
  split at taken
  · rename_i isOp
    cases taken
    exact ⟨is_op_eq isOp, rfl⟩
  · cases taken

/-- The name that a token is. -/
theorem name_eq {token : Token} {name : String} (named : (Sight.token token).name? = some name) :
    ∃ location, token = word name location ∧ name ∉ keywords := by
  obtain ⟨kind, written, location⟩ := token
  simp only [Sight.name?] at named
  split at named
  · rename_i isName
    cases named
    obtain ⟨rfl, other⟩ := isName
    exact ⟨location, rfl, by simpa using other⟩
  · cases named

/-- A name that is required is the token. -/
theorem require_name_eq {context : String} {token : Token} {next : String → State} {state : State}
    (taken : requireName context (.token token) next = .ok state) :
    ∃ name location, token = word name location ∧ name ∉ keywords ∧ state = next name := by
  rw [requireName] at taken
  split at taken
  · rename_i name found
    cases taken
    obtain ⟨location, same, named⟩ := name_eq found
    exact ⟨name, location, same, named, rfl⟩
  · cases taken

/-- A value completes its statement, or its condition. -/
theorem reads_supply {state : State} {outer read before value : List Token} {operand : Operand}
    (slot : Slot) (spine : Spine outer state.levels) (derived : Derives read state.forms)
    (covers : slot.Covers before) (valued : OperandTokens value operand) :
    (state.supply operand slot).Reads (outer ++ read ++ (before ++ value)) := by
  cases slot with
  | result location =>
    obtain rfl : before = [word "return" location] := covers
    refine reads_complete spine derived ?_
    simpa using Derives.result location valued .nothing
  | assigned target location =>
    obtain ⟨sign, named, rfl⟩ := covers
    refine reads_complete spine derived ?_
    simpa using Derives.assign target location sign named valued .nothing
  | compared lhs location =>
    exact ⟨outer, read, before ++ value, spine, derived, ⟨before, value, covers, valued, rfl⟩, rfl⟩

/-- A closing brace makes a statement of the innermost body. -/
theorem reads_close {outer read : List Token} {level : Level} {levels : List Level}
    {forms : List Form} (spine : Spine outer (level :: levels)) (inner : Derives read forms)
    (closing : Location) :
    (State.closeBody ⟨level.before, levels, .ready⟩ forms level.header).Reads
      (outer ++ read ++ [mark "\x7d" closing]) := by
  cases spine with
  | inside tokens earlier head _ _ outerSpine before headed =>
    obtain ⟨header, opening, earlierForms⟩ := level
    have arranged : tokens ++ earlier ++ head ++ [mark "\x7b" opening] ++ read ++
        [mark "\x7d" closing] =
          tokens ++ earlier ++ (head ++ bodyTokens opening read closing) := by
      simp [bodyTokens]
    rw [arranged]
    cases header with
    | function location name args =>
      refine reads_complete outerSpine before ?_
      simpa using Derives.function opening closing headed inner .nothing
    | thenBranch location lhs rhs =>
      exact ⟨tokens, earlier, _, outerSpine, before,
        ⟨head, opening, read, closing, headed, inner, rfl⟩, rfl⟩
    | elseBranch location lhs rhs thenForms =>
      obtain ⟨first, opening', body, closing', divider, colon, conditioned, thenInner, rfl⟩ :=
        headed
      refine reads_complete outerSpine before ?_
      simpa using Derives.alternative opening' closing' divider colon opening closing conditioned
        thenInner inner .nothing

/-- The token that starts a statement, or closes the innermost body, is accounted for. By the token:
a closing brace ends the body that is open, a point or a name starts a statement, and nothing else
may stand here. -/
theorem reads_begin {state next : State} {tokens : List Token} (reads : state.Reads tokens)
    (ready : state.phase = .ready) (token : Token)
    (started : state.begin (.token token) = .ok next) : next.Reads (tokens ++ [token]) := by
  obtain ⟨forms, levels, phase⟩ := state
  obtain ⟨outer, read, part, spine, derived, covers, rfl⟩ := reads
  cases ready
  obtain rfl : part = [] := covers
  rw [List.append_nil]
  simp only [State.begin] at started
  split at started
  · rename_i isClose
    obtain ⟨closing, rfl⟩ := is_op_eq isClose
    cases levels with
    | nil => cases started
    | cons level levels =>
      have closed := reads_close spine derived closing
      cases header : level.header <;>
        (simp only [header] at started closed; cases started; exact closed)
  split at started
  · rename_i isPoint
    obtain ⟨marker, rfl⟩ := is_op_eq isPoint
    cases started
    exact ⟨outer, read, _, spine, derived, ⟨[], rfl, rfl⟩, rfl⟩
  obtain ⟨kind, text, location⟩ := token
  cases kind with
  | raw =>
    simp only at started
    split at started
    · cases started
    · rename_i nonempty
      cases started
      exact reads_complete spine derived
        (.raw text location (by simpa using nonempty) .nothing)
  | name =>
    simp only at started
    split at started
    · rename_i same
      cases started
      exact ⟨outer, read, _, spine, derived, by rw [same]; rfl, rfl⟩
    split at started
    · rename_i same
      cases started
      exact ⟨outer, read, _, spine, derived, by rw [same]; rfl, rfl⟩
    split at started
    · rename_i same
      cases started
      exact ⟨outer, read, _, spine, derived, by rw [same]; rfl, rfl⟩
    split at started
    · cases started
    · rename_i other
      cases started
      exact ⟨outer, read, _, spine, derived, ⟨by simpa using other, rfl⟩, rfl⟩
  | _ => cases started

/-- A token that is taken where a value is expected is a value, or the marker of a point. -/
theorem reads_value {state next : State} {outer read before : List Token} {slot : Slot}
    (spine : Spine outer state.levels) (derived : Derives read state.forms)
    (covers : slot.Covers before) (token : Token)
    (taken : state.readValue slot (.token token) = .ok next) :
    next.Reads (outer ++ read ++ (before ++ [token])) := by
  simp only [State.readValue] at taken
  split at taken
  · rename_i isPoint
    obtain ⟨marker, rfl⟩ := is_op_eq isPoint
    cases taken
    exact ⟨outer, read, _, spine, derived, ⟨before, covers, rfl⟩, rfl⟩
  obtain ⟨kind, text, location⟩ := token
  cases kind with
  | string =>
    cases taken
    exact reads_supply slot spine derived covers (.string text location)
  | number =>
    cases taken
    exact reads_supply slot spine derived covers (.number text location)
  | name =>
    simp only at taken
    split at taken
    · rename_i known
      cases taken
      exact reads_supply slot spine derived covers
        (.constant text location (List.contains_iff_mem.mp known))
    split at taken
    · cases taken
    · rename_i other named
      cases taken
      exact reads_supply slot spine derived covers
        (.reference text location (by simpa using named) (by simpa using other))
  | _ => cases taken

section

variable {forms : List Form} {levels : List Level} {next : State} {outer read part : List Token}

/-- A statement that is not complete goes on with one more token. -/
theorem reads_on {phase : Phase} {token : Token} (spine : Spine outer levels)
    (derived : Derives read forms) (covers : phase.Covers (part ++ [token])) :
    State.Reads (outer ++ read ++ part ++ [token]) ⟨forms, levels, phase⟩ :=
  ⟨outer, read, part ++ [token], spine, derived, covers, List.append_assoc _ _ _⟩

/-- A brace behind a header opens a body with nothing in it. -/
theorem reads_open (header : Header) (spine : Spine outer levels) (derived : Derives read forms)
    (covers : header.Covers part) (opening : Location) (phase : Phase) :
    (State.openBody ⟨forms, levels, phase⟩ header opening).Reads
      (outer ++ read ++ part ++ [mark "\x7b" opening]) :=
  ⟨_, [], [], .inside outer read part ⟨header, opening, forms⟩ levels spine derived covers,
    .nothing, rfl, by simp⟩

/-- Behind a comma, or behind the parenthesis, a parameter is taken or the closing parenthesis. -/
theorem reads_parameter {location opening : Location} {name : String} {args : List String}
    (spine : Spine outer levels) (derived : Derives read forms)
    (covers : (Phase.parameter location name opening args).Covers part) (token : Token)
    (taken : State.step ⟨forms, levels, .parameter location name opening args⟩ (.token token) =
      .ok next) : next.Reads (outer ++ read ++ part ++ [token]) := by
  obtain ⟨place, parameters, named, separated, rfl⟩ := covers
  simp only [State.step] at taken
  split at taken
  · rename_i isClose
    obtain ⟨closing, rfl⟩ := is_op_eq isClose
    cases taken
    have listed := separated_parameters separated
    exact reads_on spine derived ⟨place, opening, parameters, closing, named, listed, rfl⟩
  split at taken
  · cases taken
  · obtain ⟨arg, position, rfl, argNamed, rfl⟩ := require_name_eq taken
    exact reads_on spine derived
      ⟨place, parameters, args, arg, position, named, separated, argNamed, rfl, rfl⟩

/-- Behind a parameter a comma is taken or the closing parenthesis. -/
theorem reads_after_parameter {location opening : Location} {name : String} {args : List String}
    (spine : Spine outer levels) (derived : Derives read forms)
    (covers : (Phase.afterParameter location name opening args).Covers part) (token : Token)
    (taken : State.step ⟨forms, levels, .afterParameter location name opening args⟩
      (.token token) = .ok next) : next.Reads (outer ++ read ++ part ++ [token]) := by
  obtain ⟨place, parameters, names, arg, position, named, separated, argNamed, rfl, rfl⟩ := covers
  simp only [State.step] at taken
  split at taken
  · rename_i isComma
    obtain ⟨comma, rfl⟩ := is_op_eq isComma
    cases taken
    have longer := Separated.more parameters names arg position comma argNamed separated
    exact reads_on spine derived ⟨place, _, named, longer, by simp⟩
  split at taken
  · rename_i isClose
    obtain ⟨closing, rfl⟩ := is_op_eq isClose
    cases taken
    have listed := separated_append separated (.last arg position argNamed)
    exact reads_on spine derived ⟨place, opening, _, closing, named, listed, by simp⟩
  · split at taken <;> cases taken

/-- The parenthesis behind the name of a point completes the point. -/
theorem reads_point_close {marker : Location} {position : Place} {name : String}
    (spine : Spine outer levels) (derived : Derives read forms)
    (covers : (Phase.pointClose marker position name).Covers part) (token : Token)
    (taken : State.step ⟨forms, levels, .pointClose marker position name⟩ (.token token) =
      .ok next) : next.Reads (outer ++ read ++ part ++ [token]) := by
  obtain ⟨before, opening, place, covered, named, rfl⟩ := covers
  simp only [State.step] at taken
  split at taken
  · rename_i isClose
    obtain ⟨closing, rfl⟩ := is_op_eq isClose
    have arranged : outer ++ read ++ (before ++ [mark "$" marker, mark "(" opening,
        word name place]) ++ [mark ")" closing] =
          outer ++ read ++ (before ++ pointTokens name marker opening place closing) := by
      simp [pointTokens]
    rw [arranged]
    cases position with
    | statement =>
      cases taken
      obtain rfl : before = [] := covered
      exact ⟨outer, read, _, spine, derived, ⟨opening, place, closing, named, rfl⟩, rfl⟩
    | value slot =>
      cases taken
      exact reads_supply slot spine derived covered
        (.point name marker opening place closing named)
  · cases taken

end

/-- Every token that is taken is accounted for. Between two statements the token goes on with the
statement before it or starts the next; inside a statement each phase takes the tokens that the
grammar has there and leads to the phase that covers one token more. -/
theorem reads_step {state next : State} {tokens : List Token} (reads : state.Reads tokens)
    (token : Token) (taken : state.step (.token token) = .ok next) :
    next.Reads (tokens ++ [token]) := by
  have settled := reads_settle reads
  obtain ⟨forms, levels, phase⟩ := state
  obtain ⟨outer, read, part, spine, derived, covers, rfl⟩ := reads
  cases phase with
  | ready => exact reads_begin settled rfl token taken
  | functionName location =>
    obtain ⟨name, place, rfl, named, rfl⟩ := require_name_eq taken
    obtain rfl : part = _ := covers
    exact reads_on spine derived ⟨place, named, rfl⟩
  | functionOpen location name =>
    obtain ⟨⟨opening, rfl⟩, rfl⟩ := require_op_eq taken
    obtain ⟨place, named, rfl⟩ := covers
    exact reads_on spine derived ⟨place, [], named, .nothing, rfl⟩
  | parameter location name opening args => exact reads_parameter spine derived covers token taken
  | afterParameter location name opening args =>
    exact reads_after_parameter spine derived covers token taken
  | functionColon location name args =>
    obtain ⟨⟨colon, rfl⟩, rfl⟩ := require_op_eq taken
    obtain ⟨place, opening, parameters, closing, named, listed, rfl⟩ := covers
    exact reads_on spine derived
      ⟨place, opening, parameters, closing, colon, named, listed, by simp⟩
  | functionBody location name args =>
    obtain ⟨⟨opening, rfl⟩, rfl⟩ := require_op_eq taken
    exact reads_open (.function location name args) spine derived covers opening _
  | conditionLeft location =>
    obtain ⟨lhs, place, rfl, named, rfl⟩ := require_name_eq taken
    obtain rfl : part = _ := covers
    exact reads_on spine derived ⟨place, named, rfl⟩
  | conditionOperator location lhs =>
    obtain ⟨⟨comparison, rfl⟩, rfl⟩ := require_op_eq taken
    obtain ⟨place, named, rfl⟩ := covers
    exact reads_on spine derived ⟨place, comparison, named, rfl⟩
  | conditionColon location lhs rhs =>
    obtain ⟨⟨colon, rfl⟩, rfl⟩ := require_op_eq taken
    obtain ⟨before, value, ⟨place, comparison, named, rfl⟩, valued, rfl⟩ := covers
    exact reads_on spine derived ⟨place, comparison, value, colon, named, valued, by simp⟩
  | thenBody location lhs rhs =>
    obtain ⟨⟨opening, rfl⟩, rfl⟩ := require_op_eq taken
    exact reads_open (.thenBranch location lhs rhs) spine derived covers opening _
  | afterThen location lhs rhs thenForms =>
    simp only [State.step] at taken
    split at taken
    · rename_i divider same
      cases same
      cases taken
      obtain ⟨head, opening, body, closing, headed, inner, rfl⟩ := covers
      exact reads_on spine derived ⟨head, opening, body, closing, divider, headed, inner, rfl⟩
    · exact reads_begin settled rfl token taken
  | elseColon location lhs rhs thenForms =>
    obtain ⟨⟨colon, rfl⟩, rfl⟩ := require_op_eq taken
    obtain ⟨head, opening, body, closing, divider, headed, inner, rfl⟩ := covers
    exact reads_on spine derived
      ⟨head, opening, body, closing, divider, colon, headed, inner, by simp⟩
  | elseBody location lhs rhs thenForms =>
    obtain ⟨⟨opening, rfl⟩, rfl⟩ := require_op_eq taken
    exact reads_open (.elseBranch location lhs rhs thenForms) spine derived covers opening _
  | assignment location target =>
    simp only [State.step] at taken
    split at taken
    · rename_i isSign
      obtain ⟨sign, rfl⟩ := is_op_eq isSign
      cases taken
      obtain ⟨named, rfl⟩ := covers
      exact reads_on spine derived ⟨sign, named, rfl⟩
    · cases taken
  | value slot =>
    rw [List.append_assoc]
    exact reads_value spine derived covers token taken
  | pointOpen marker position =>
    simp only [State.step] at taken
    split at taken
    · rename_i isOpen
      obtain ⟨opening, rfl⟩ := is_op_eq isOpen
      cases taken
      obtain ⟨before, covered, rfl⟩ := covers
      exact reads_on spine derived ⟨before, opening, covered, by simp⟩
    · cases taken
  | pointName marker position =>
    simp only [State.step] at taken
    split at taken
    · rename_i name found
      obtain ⟨place, rfl, named⟩ := name_eq found
      cases taken
      obtain ⟨before, opening, covered, rfl⟩ := covers
      exact reads_on spine derived ⟨before, opening, place, covered, named, by simp⟩
    · cases taken
  | pointClose marker position name => exact reads_point_close spine derived covers token taken
  | afterSplice marker name =>
    simp only [State.step] at taken
    split at taken
    · rename_i isStar
      obtain ⟨star, rfl⟩ := is_op_eq isStar
      cases taken
      obtain ⟨opening, place, closing, named, rfl⟩ := covers
      rw [List.append_assoc]
      refine reads_complete spine derived ?_
      simpa using Derives.sequence name marker opening place closing star named .nothing
    · exact reads_begin settled rfl token taken

/-- All tokens of a run are accounted for. -/
theorem reads_run {state next : State} {tokens : List Token} (reads : state.Reads tokens)
    (more : List Token) (ran : state.run more = .ok next) : next.Reads (tokens ++ more) := by
  induction more generalizing state tokens with
  | nil =>
    cases ran
    simpa using reads
  | cons token rest inductionHypothesis =>
    rw [State.run, List.foldlM_cons] at ran
    obtain ⟨middle, taken, ranBehind⟩ := bind_ok ran
    simpa using inductionHypothesis (reads_step reads token taken) ranBehind

/-- The text may end only between two statements that stand in no open body. -/
theorem stop_ok {state next : State} {stop : Location}
    (stopped : state.step (.stop stop) = .ok next) :
    state.Between ∧ state.settle.levels = [] ∧ next = state.settle := by
  have ends (state : State) (ended : state.begin (.stop stop) = .ok next) :
      state.levels = [] ∧ next = state := by
    obtain ⟨forms, levels, phase⟩ := state
    cases levels with
    | nil =>
      cases ended
      exact ⟨rfl, rfl⟩
    | cons level levels => cases ended
  obtain ⟨forms, levels, phase⟩ := state
  cases phase with
  | ready | afterThen | afterSplice => exact ⟨rfl, ends _ stopped⟩
  | _ => cases stopped

/-- The tokens of an accepted text derive the forms that are read from it. -/
theorem derives_of_parse {tokens : Tokens} {forms : List Form}
    (parsed : parseTokens tokens = .ok forms) : Derives tokens.items forms := by
  obtain ⟨state, ran, rest⟩ := bind_ok parsed
  obtain ⟨last, stopped, done⟩ := bind_ok rest
  obtain ⟨between, closed, rfl⟩ := stop_ok stopped
  cases done
  have empty : State.start.Reads [] := ⟨[], [], [], .outermost, .nothing, rfl, rfl⟩
  obtain ⟨outer, read, part, spine, derived, covers, whole⟩ :=
    reads_settle (reads_run empty tokens.items ran)
  rw [between] at covers
  rw [closed] at spine
  obtain rfl : part = [] := covers
  cases spine
  simp only [List.nil_append, List.append_nil] at whole
  exact whole ▸ derived

end Stencil.Template
