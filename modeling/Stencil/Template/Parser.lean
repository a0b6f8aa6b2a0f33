import Stencil.Template.Token
import Stencil.Template.Form

/-!
# Reading forms from tokens

The grammar of templates is read by a machine that takes one token at a time
and never goes back:

* a *phase* says what may come next inside the statement being read;
* a *level* is an open body with the statements read in it so far, and the
  levels around it wait on a stack.

Two phases are settled by the token behind them: after the first body of a
conditional an `else` may follow, and after a splice a star. `State.settle`
closes them, and that token then starts the next statement.

`parse` runs the machine over the tokens and closes it at the end of the text.
Since a state depends on the tokens read and on nothing else, a fault is found
at the first token that no accepted template could have there.
-/

namespace Stencil.Template

/-- What the machine looks at: a token, or the end of the text. -/
inductive Sight where
  | token (token : Token)
  | stop (location : Location)
deriving DecidableEq, Repr

namespace Sight

/-- Where the machine looks. -/
def location : Sight → Location
  | token t => t.location
  | stop location => location

/-- Whether the given operator is in sight. -/
def isOp (sight : Sight) (text : String) : Bool :=
  match sight with
  | token t => t.isOp text
  | stop _ => false

/-- What is in sight, for messages. -/
def described : Sight → String
  | token t => "'" ++ t.text ++ "'"
  | stop _ => "end of template"

end Sight

/-- The words that start or divide statements and are no names. -/
def keywords : List String := ["def", "if", "else", "return"]

/-- The names that stand for a value of their own. -/
def literalNames : List String := ["True", "False", "None"]

/-- The name that a token is, keywords excluded. -/
def Sight.name? : Sight → Option String
  | token t => if t.kind = .name ∧ !keywords.contains t.text then some t.text else none
  | stop _ => none

/-- The statement that waits for a value. -/
inductive Slot where
  | result (location : Location)
  | assigned (target : String) (location : Location)
  | compared (lhs : String) (location : Location)
deriving DecidableEq, Repr

/-- The place of a point: a statement of its own, or the value of a statement. -/
inductive Place where
  | statement
  | value (slot : Slot)
deriving DecidableEq, Repr

/-- What comes next inside a statement. The first location is where the statement starts. -/
inductive Phase where
  /-- A statement may start. -/
  | ready
  /-- The name of a function. -/
  | functionName (location : Location)
  /-- The parenthesis before the parameters. -/
  | functionOpen (location : Location) (name : String)
  /-- A parameter or the closing parenthesis. -/
  | parameter (location : Location) (name : String) (opening : Location) (args : List String)
  /-- A comma or the closing parenthesis. -/
  | afterParameter (location : Location) (name : String) (opening : Location)
      (args : List String)
  /-- The colon behind the parameters. -/
  | functionColon (location : Location) (name : String) (args : List String)
  /-- The brace before a function's body. -/
  | functionBody (location : Location) (name : String) (args : List String)
  /-- The left side of a condition. -/
  | conditionLeft (location : Location)
  /-- The comparison of a condition. -/
  | conditionOperator (location : Location) (lhs : String)
  /-- The colon behind a condition. -/
  | conditionColon (location : Location) (lhs : String) (rhs : Operand)
  /-- The brace before a conditional's first body. -/
  | thenBody (location : Location) (lhs : String) (rhs : Operand)
  /-- The first body is closed; `else` may follow. -/
  | afterThen (location : Location) (lhs : String) (rhs : Operand) (thenForms : List Form)
  /-- The colon behind `else`. -/
  | elseColon (location : Location) (lhs : String) (rhs : Operand) (thenForms : List Form)
  /-- The brace before a conditional's second body. -/
  | elseBody (location : Location) (lhs : String) (rhs : Operand) (thenForms : List Form)
  /-- The equals sign behind a name that starts a statement. -/
  | assignment (location : Location) (target : String)
  /-- A value. -/
  | value (slot : Slot)
  /-- The parenthesis behind a dollar sign. -/
  | pointOpen (marker : Location) (place : Place)
  /-- The name inside a point. -/
  | pointName (marker : Location) (place : Place)
  /-- The parenthesis that closes a point. -/
  | pointClose (marker : Location) (place : Place) (name : String)
  /-- A splice is read; a star may follow. -/
  | afterSplice (location : Location) (name : String)
deriving Repr

/-- The statement that a body belongs to. -/
inductive Header where
  | function (location : Location) (name : String) (args : List String)
  | thenBranch (location : Location) (lhs : String) (rhs : Operand)
  | elseBranch (location : Location) (lhs : String) (rhs : Operand) (thenForms : List Form)
deriving Repr

/-- An open body: its statement, its opening brace, and the statements before it on the level
around it. -/
structure Level where
  header : Header
  opening : Location
  before : List Form
deriving Repr

/-- The machine's state: the statements read on the innermost level, the open bodies from the
innermost to the outermost, and the phase. -/
structure State where
  forms : List Form
  levels : List Level
  phase : Phase
deriving Repr

namespace State

/-- Nothing is read yet. -/
def start : State := ⟨[], [], .ready⟩

/-- Go on with a phase. -/
def expect (state : State) (phase : Phase) : State := { state with phase }

/-- A statement is complete. -/
def complete (state : State) (form : Form) : State :=
  { state with forms := state.forms ++ [form], phase := .ready }

/-- A body opens. -/
def openBody (state : State) (header : Header) (opening : Location) : State :=
  { forms := [], levels := ⟨header, opening, state.forms⟩ :: state.levels, phase := .ready }

/-- A value is complete. -/
def supply (state : State) (operand : Operand) : Slot → State
  | .result location => state.complete (.result operand location)
  | .assigned target location => state.complete (.assign target operand location)
  | .compared lhs location => state.expect (.conditionColon location lhs operand)

/-- Close what only the next token could have continued. -/
def settle (state : State) : State :=
  match state.phase with
  | .afterThen location lhs rhs thenForms =>
    state.complete (.conditional lhs rhs thenForms [] location)
  | .afterSplice location name => state.complete (.splice name false location)
  | _ => state

end State

/-- Require an operator. -/
def requireOp (text context : String) (sight : Sight) (next : State) :
    Except SyntaxError State :=
  if sight.isOp text then .ok next
  else .error ⟨.expectedOperator text context sight.described, sight.location⟩

/-- Require a name. -/
def requireName (context : String) (sight : Sight) (next : String → State) :
    Except SyntaxError State :=
  match sight.name? with
  | some name => .ok (next name)
  | none => .error ⟨.expectedName context sight.described, sight.location⟩

/-- Start a statement with the token in sight, or close the innermost body. -/
def State.begin (state : State) (sight : Sight) : Except SyntaxError State :=
  match sight with
  | .stop _ => match state.levels with
    | [] => .ok state
    | level :: _ => .error ⟨.unmatchedOpeningBrace, level.opening⟩
  | .token token =>
    if token.isOp "\x7d" then
      match state.levels with
      | [] => .error ⟨.unmatchedClosingBrace, token.location⟩
      | level :: outer =>
        let around : State := ⟨level.before, outer, .ready⟩
        match level.header with
        | .function location name args =>
          .ok (around.complete (.function name args state.forms location))
        | .thenBranch location lhs rhs =>
          .ok (around.expect (.afterThen location lhs rhs state.forms))
        | .elseBranch location lhs rhs thenForms =>
          .ok (around.complete (.conditional lhs rhs thenForms state.forms location))
    else if token.isOp "$" then .ok (state.expect (.pointOpen token.location .statement))
    else match token.kind with
      | .raw =>
        if token.text.isEmpty then .error ⟨.emptyRaw, token.location⟩
        else .ok (state.complete (.raw token.text token.location))
      | .name =>
        if token.text = "def" then .ok (state.expect (.functionName token.location))
        else if token.text = "if" then .ok (state.expect (.conditionLeft token.location))
        else if token.text = "return" then .ok (state.expect (.value (.result token.location)))
        else if keywords.contains token.text then
          .error ⟨.unknownStatement token.text, token.location⟩
        else .ok (state.expect (.assignment token.location token.text))
      | _ => .error ⟨.expectedStatement sight.described, token.location⟩

/-- Read a value, or the marker of a point. -/
def State.readValue (state : State) (slot : Slot) (sight : Sight) : Except SyntaxError State :=
  let refused : Except SyntaxError State :=
    .error ⟨.expectedValue sight.described, sight.location⟩
  match sight with
  | .stop _ => refused
  | .token token =>
    if token.isOp "$" then .ok (state.expect (.pointOpen token.location (.value slot)))
    else match token.kind with
      | .string | .number => .ok (state.supply (.literal token.text token.location) slot)
      | .name =>
        if literalNames.contains token.text then
          .ok (state.supply (.literal token.text token.location) slot)
        else if keywords.contains token.text then refused
        else .ok (state.supply (.reference token.text token.location) slot)
      | _ => refused

/-- Take one token. -/
def State.step (state : State) (sight : Sight) : Except SyntaxError State :=
  match state.phase with
  | .ready => state.begin sight
  | .functionName location =>
    requireName "after 'def'" sight fun name => state.expect (.functionOpen location name)
  | .functionOpen location name =>
    requireOp "(" "after function name" sight
      (state.expect (.parameter location name sight.location []))
  | .parameter location name opening args =>
    if sight.isOp ")" then .ok (state.expect (.functionColon location name args))
    else if sight.isOp "\x7b" || (sight matches .stop _) then
      .error ⟨.unmatchedParenthesis, opening⟩
    else requireName "in parameter list" sight fun arg =>
      state.expect (.afterParameter location name opening (args ++ [arg]))
  | .afterParameter location name opening args =>
    if sight.isOp "," then .ok (state.expect (.parameter location name opening args))
    else if sight.isOp ")" then .ok (state.expect (.functionColon location name args))
    else match sight with
      | .token ⟨.name, _, place⟩ =>
        .error ⟨.expectedOperator "," "between parameters" sight.described, place⟩
      | _ => .error ⟨.unmatchedParenthesis, opening⟩
  | .functionColon location name args =>
    requireOp ":" "after parameter list" sight (state.expect (.functionBody location name args))
  | .functionBody location name args =>
    requireOp "\x7b" "to open function body" sight
      (state.openBody (.function location name args) sight.location)
  | .conditionLeft location =>
    requireName "in condition" sight fun lhs => state.expect (.conditionOperator location lhs)
  | .conditionOperator location lhs =>
    requireOp "==" "in condition" sight (state.expect (.value (.compared lhs location)))
  | .conditionColon location lhs rhs =>
    requireOp ":" "after condition" sight (state.expect (.thenBody location lhs rhs))
  | .thenBody location lhs rhs =>
    requireOp "\x7b" "to open if body" sight
      (state.openBody (.thenBranch location lhs rhs) sight.location)
  | .afterThen location lhs rhs thenForms =>
    match sight with
    | .token ⟨.name, "else", _⟩ => .ok (state.expect (.elseColon location lhs rhs thenForms))
    | _ => state.settle.begin sight
  | .elseColon location lhs rhs thenForms =>
    requireOp ":" "after 'else'" sight (state.expect (.elseBody location lhs rhs thenForms))
  | .elseBody location lhs rhs thenForms =>
    requireOp "\x7b" "to open else body" sight
      (state.openBody (.elseBranch location lhs rhs thenForms) sight.location)
  | .assignment location target =>
    if sight.isOp "=" then .ok (state.expect (.value (.assigned target location)))
    else .error ⟨.unknownStatement target, location⟩
  | .value slot => state.readValue slot sight
  | .pointOpen marker place =>
    if sight.isOp "(" then .ok (state.expect (.pointName marker place))
    else .error ⟨.pointWithoutParenthesis, marker⟩
  | .pointName marker place =>
    match sight.name? with
    | some name => .ok (state.expect (.pointClose marker place name))
    | none => .error ⟨.pointWithoutName, marker⟩
  | .pointClose marker place name =>
    if sight.isOp ")" then
      match place with
      | .statement => .ok (state.expect (.afterSplice marker name))
      | .value slot => .ok (state.supply (.point name marker) slot)
    else .error ⟨.pointUnclosed, marker⟩
  | .afterSplice location name =>
    if sight.isOp "*" then .ok (state.complete (.splice name true location))
    else state.settle.begin sight

/-- Read the statements of a whole template. -/
def parseTokens (tokens : Tokens) : Except SyntaxError (List Form) := do
  let state ← tokens.items.foldlM (fun state token => state.step (.token token)) State.start
  let state ← state.step (.stop tokens.stop)
  return state.forms

/-- Read a template's text. The source names it in locations. -/
def parse (text source : String) : Except SyntaxError (List Form) := do
  parseTokens (← tokenize text source)

end Stencil.Template
