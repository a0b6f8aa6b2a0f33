import Stencil.Proofs.Template.Descent
import Stencil.Proofs.Template.Exactness
import Stencil.Proofs.Template.Scanning
import Stencil.Template.Template

/-!
# Compiling a template ends

Reading a template is two loops, one over its characters and one over its tokens,
and then a look at its statements. Every turn takes a character or a token, so
both loops are through after at most one turn more than there are characters
(`compile_ends`).

A fault stands at a position of the text, whichever step finds it. The lexer's do
by their place in the text. The reading machine blames what is in sight, or
something it has read and keeps for the purpose: an opening brace or parenthesis,
the marker of a point, the target of an assignment (`State.Blames`). And what is
said about the statements is said where one of them starts, or at the start of
the text if there is none.
-/

namespace Stencil.Template

/-! ## What the machine blames -/

section

variable {good : Location → Prop}

/-- The locations that a phase keeps to blame are good. -/
def Phase.Blames (good : Location → Prop) : Phase → Prop
  | .parameter _ _ opening _ | .afterParameter _ _ opening _ => good opening
  | .assignment location _ => good location
  | .pointOpen marker _ | .pointName marker _ | .pointClose marker _ _ => good marker
  | _ => True

/-- The locations that a state keeps to blame are good. -/
structure State.Blames (good : Location → Prop) (state : State) : Prop where
  phase : state.phase.Blames good
  levels : ∀ level ∈ state.levels, good level.opening

/-- A step leads to a state that keeps good locations, or blames one. -/
def Answers (good : Location → Prop) : Except SyntaxError State → Prop
  | .ok next => next.Blames good
  | .error fault => good fault.location

variable {state next : State} {sight : Sight}

/-- A phase that keeps good locations can follow. -/
theorem blames_expect {phase : Phase} (blames : state.Blames good) (keeps : phase.Blames good) :
    (state.expect phase).Blames good := ⟨keeps, blames.levels⟩

/-- A complete statement leaves nothing to blame. -/
theorem blames_complete (blames : state.Blames good) (form : Form) :
    (state.complete form).Blames good := ⟨trivial, blames.levels⟩

/-- A complete value leaves nothing to blame. -/
theorem blames_supply (blames : state.Blames good) (operand : Operand) (slot : Slot) :
    (state.supply operand slot).Blames good := by
  cases slot <;> exact ⟨trivial, blames.levels⟩

/-- Settling leaves nothing to blame. -/
theorem blames_settle (blames : state.Blames good) : state.settle.Blames good := by
  obtain ⟨forms, levels, phase⟩ := state
  cases phase with
  | afterThen | afterSplice => exact ⟨trivial, blames.levels⟩
  | _ => exact blames

/-- An open body is blamed for its brace. -/
theorem blames_open (blames : state.Blames good) (header : Header) {opening : Location}
    (here : good opening) : (state.openBody header opening).Blames good := by
  refine ⟨trivial, fun level member => ?_⟩
  rcases List.mem_cons.mp member with rfl | member
  · exact here
  · exact blames.levels level member

/-- A choice answers as its sides do. -/
theorem answers_if {condition : Prop} [Decidable condition] {first second : Except SyntaxError State}
    (one : Answers good first) (other : Answers good second) :
    Answers good (if condition then first else second) := by
  split
  · exact one
  · exact other

/-- A missing operator is blamed on what is in sight. -/
theorem answers_op {text context : String} (here : good sight.location)
    (blames : next.Blames good) : Answers good (requireOp text context sight next) :=
  answers_if blames here

/-- A missing name is blamed on what is in sight. -/
theorem answers_name {context : String} {next : String → State} (here : good sight.location)
    (blames : ∀ name, (next name).Blames good) :
    Answers good (requireName context sight next) := by
  unfold requireName
  split
  · exact blames _
  · exact here

/-- A closing brace is blamed if no body is open. -/
theorem answers_close (here : good sight.location) (blames : state.Blames good) :
    Answers good (match state.levels with
      | [] => .error ⟨.unmatchedClosingBrace, sight.location⟩
      | level :: outer =>
        let around : State := ⟨level.before, outer, .ready⟩
        match level.header with
        | .function location name args =>
          .ok (around.complete (.function name args state.forms location))
        | .thenBranch location lhs rhs =>
          .ok (around.expect (.afterThen location lhs rhs state.forms))
        | .elseBranch location lhs rhs thenForms =>
          .ok (around.complete (.conditional lhs rhs thenForms state.forms location))) := by
  obtain ⟨forms, levels, phase⟩ := state
  cases levels with
  | nil => exact here
  | cons level outer =>
    have others : ∀ level ∈ outer, good level.opening :=
      fun level member => blames.levels level (List.mem_cons_of_mem _ member)
    cases header : level.header <;> simp only [header] <;> exact ⟨trivial, others⟩

/-- Where a statement may start, what is in sight is blamed, or the brace of the innermost body. -/
theorem answers_begin (here : good sight.location) (blames : state.Blames good) :
    Answers good (state.begin sight) := by
  cases sight with
  | stop stop =>
    obtain ⟨forms, levels, phase⟩ := state
    cases levels with
    | nil => exact blames
    | cons level outer => exact blames.levels level List.mem_cons_self
  | token token =>
    refine answers_if (answers_close here blames) ?_
    refine answers_if (blames_expect blames here) ?_
    cases kind : token.kind with
    | raw => exact answers_if here (blames_complete blames _)
    | name =>
      refine answers_if (blames_expect blames trivial) ?_
      refine answers_if (blames_expect blames trivial) ?_
      refine answers_if (blames_expect blames trivial) ?_
      exact answers_if here (blames_expect blames here)
    | number | string | op => exact here

/-- A missing value is blamed on what is in sight. -/
theorem answers_value (slot : Slot) (here : good sight.location) (blames : state.Blames good) :
    Answers good (state.readValue slot sight) := by
  cases sight with
  | stop stop => exact here
  | token token =>
    refine answers_if (blames_expect blames here) ?_
    cases kind : token.kind with
    | string | number => exact blames_supply blames _ slot
    | name =>
      refine answers_if (blames_supply blames _ slot) ?_
      exact answers_if here (blames_supply blames _ slot)
    | raw | op => exact here

/-- What a step blames is in sight, or it was kept for that. By the phase: what is refused is blamed
on the token in sight, or on one that the phase has kept. -/
theorem answers_step (here : good sight.location) (blames : state.Blames good) :
    Answers good (state.step sight) := by
  have keeps := blames.phase
  obtain ⟨forms, levels, phase⟩ := state
  cases phase with
  | ready => exact answers_begin here blames
  | functionName => exact answers_name here fun _ => blames_expect blames trivial
  | functionOpen => exact answers_op here (blames_expect blames here)
  | parameter =>
    refine answers_if (blames_expect blames trivial) ?_
    exact answers_if keeps (answers_name here fun _ => blames_expect blames keeps)
  | afterParameter =>
    refine answers_if (blames_expect blames keeps) ?_
    refine answers_if (blames_expect blames trivial) ?_
    split
    · exact here
    · exact keeps
  | functionColon => exact answers_op here (blames_expect blames trivial)
  | functionBody => exact answers_op here (blames_open blames _ here)
  | conditionLeft => exact answers_name here fun _ => blames_expect blames trivial
  | conditionOperator => exact answers_op here (blames_expect blames trivial)
  | conditionColon => exact answers_op here (blames_expect blames trivial)
  | thenBody => exact answers_op here (blames_open blames _ here)
  | afterThen =>
    simp only [State.step]
    split
    · exact blames_expect blames trivial
    · exact answers_begin here (blames_settle blames)
  | elseColon => exact answers_op here (blames_expect blames trivial)
  | elseBody => exact answers_op here (blames_open blames _ here)
  | assignment => exact answers_if (blames_expect blames trivial) keeps
  | value slot => exact answers_value slot here blames
  | pointOpen => exact answers_if (blames_expect blames keeps) keeps
  | pointName =>
    simp only [State.step]
    split
    · exact blames_expect blames keeps
    · exact keeps
  | pointClose marker place =>
    refine answers_if ?_ keeps
    cases place with
    | statement => exact blames_expect blames trivial
    | value slot => exact blames_supply blames _ slot
  | afterSplice =>
    exact answers_if (blames_complete blames _) (answers_begin here (blames_settle blames))

/-- What a run blames is one of its tokens, or it was kept for that. -/
theorem answers_run {tokens : List Token} (here : ∀ token ∈ tokens, good token.location)
    (blames : state.Blames good) : Answers good (state.run tokens) := by
  induction tokens generalizing state with
  | nil => exact blames
  | cons token tokens inductionHypothesis =>
    have first : Answers good (state.step (.token token)) :=
      answers_step (here token List.mem_cons_self) blames
    rw [State.run, List.foldlM_cons]
    cases step : state.step (.token token) with
    | error fault =>
      rw [step] at first
      exact first
    | ok next =>
      rw [step] at first
      exact inductionHypothesis (fun token member => here token (List.mem_cons_of_mem _ member))
        first

/-- A reader that refuses tokens blames one of them or the end. -/
theorem parse_blames {tokens : Tokens} {fault : SyntaxError}
    (here : ∀ token ∈ tokens.items, good token.location) (stop : good tokens.stop)
    (refused : parseTokens tokens = .error fault) : good fault.location := by
  have ran : Answers good (State.start.run tokens.items) := answers_run here ⟨trivial, nofun⟩
  change (do
    let state ← State.start.run tokens.items
    let state ← state.step (.stop tokens.stop)
    return state.forms : Except SyntaxError (List Form)) = _ at refused
  cases run : State.start.run tokens.items with
  | error first =>
    rw [run] at ran refused
    cases refused
    exact ran
  | ok final =>
    rw [run] at ran refused
    have last : Answers good (final.step (.stop tokens.stop)) := answers_step stop ran
    change (do
      let state ← final.step (.stop tokens.stop)
      return state.forms : Except SyntaxError (List Form)) = _ at refused
    cases step : final.step (.stop tokens.stop) with
    | error first =>
      rw [step] at last refused
      cases refused
      exact last
    | ok closed =>
      rw [step] at refused
      cases refused

end

namespace Template

variable {kind : Kind} {name : String} {text : List Char} {tokens : Tokens} {forms : List Form}
  {fault : SyntaxError}

/-- A statement of a template starts at one of its tokens. -/
theorem form_reached {form : Form} (derived : Derives tokens.items forms)
    (here : ∀ token ∈ tokens.items, Reached name text token.location) (among : form.Among forms) :
    Reached name text form.location := by
  obtain ⟨before, own, after, whole, _, first⟩ := forms_spelled derived among
  obtain ⟨token, head, is⟩ := Option.map_eq_some_iff.mp first
  rw [← is]
  apply here
  rw [whole]
  simp [List.mem_of_mem_head? head]

/-- Statements that do not fit are blamed where one starts, or at the start of the text. -/
theorem misfit_reached (derived : Derives tokens.items forms)
    (here : ∀ token ∈ tokens.items, Reached name text token.location)
    (misfit : misfit? kind name forms = some fault) : Reached name text fault.location := by
  have first : Reached name text (.start name) := ⟨[], text, rfl, rfl⟩
  unfold misfit? at misfit
  split at misfit
  · cases misfit
  · cases misfit
    exact first
  · cases misfit
    exact form_reached derived here (.behind _ _ (.here _))
  · cases misfit
    exact form_reached derived here (.here _)
  · cases misfit
  · cases misfit
  · cases misfit
    exact form_reached derived here (.here _)

/-- What a template of a kind is made of statements. -/
def fit (kind : Kind) (name : String) (forms : List Form) : Except SyntaxError Template :=
  match misfit? kind name forms with
  | some fault => throw fault
  | none => return ⟨name, kind, forms⟩

/-- Compile a template by two loops, one over the characters and one over the tokens. There is no
outcome if one of them is not through. -/
def compileWithin (turns : Nat) (kind : Kind) (text name : String) :
    Option (Except SyntaxError Template) :=
  match (Scan.start text name).loop turns with
  | none => none
  | some (.error fault) => some (.error fault)
  | some (.ok tokens) =>
    ((Descent.template tokens turns []).run.run 0).map fun read => read.1 >>= fit kind name

/-- With more turns than characters both loops are through, and they compile the template. -/
theorem compile_within {turns : Nat} {text : String} (enough : text.toList.length < turns)
    (kind : Kind) (name : String) :
    compileWithin turns kind text name = some (compile kind text name) := by
  have reached := tokenize_reached text name
  rw [compileWithin, tokenize_follows enough]
  cases cut : tokenize text name with
  | error fault =>
    rw [compile, parse, cut]
    rfl
  | ok tokens =>
    rw [cut] at reached
    obtain ⟨last, _, ran⟩ := Descent.template_follows (Nat.lt_of_le_of_lt reached.1 enough)
    rw [compile, parse, cut]
    simp only [ran]
    rfl

/-- A fault of a template stands at a location of the text. -/
theorem compile_reached {text : String} (refused : compile kind text name = .error fault) :
    Reached name text.toList fault.location := by
  have reached := tokenize_reached text name
  cases cut : tokenize text name with
  | error first =>
    rw [cut] at reached
    rw [compile, parse, cut] at refused
    cases refused
    exact reached
  | ok tokens =>
    rw [cut] at reached
    obtain ⟨_, stop, here⟩ := reached
    rw [compile, parse, cut] at refused
    change parseTokens tokens >>= fit kind name = _ at refused
    cases parsed : parseTokens tokens with
    | error first =>
      rw [parsed] at refused
      cases refused
      exact parse_blames here stop parsed
    | ok forms =>
      rw [parsed] at refused
      change fit kind name forms = _ at refused
      unfold fit at refused
      split at refused
      · rename_i first misfit
        cases refused
        exact misfit_reached (derives_of_parse parsed) here misfit
      · cases refused

/-- A template that is compiled has its name and kind. -/
theorem compile_names {text : String} {template : Template}
    (compiled : compile kind text name = .ok template) :
    template.name = name ∧ template.kind = kind := by
  obtain ⟨forms, _, done⟩ := bind_ok compiled
  split at done
  · cases done
  · cases done
    exact ⟨rfl, rfl⟩

end Template

/-- Compiling ends, and only in two ways. Each turn of the lexer's loop takes a character, and with
more turns than characters both loops are through. A statement that is read takes a token; every
other loop of the parser ends as well, at an index that is not behind the end. What comes out is a
template of the name and kind, or a fault at a position of the text.

Proof: what is left of the text gets shorter in every turn of the lexer, and what is left of the
tokens in every statement, so enough turns are through, and then the loops have read what the
functions without turns read. Each step reports its faults at a location that is counted from the
start of the text (`compile_reached`), and such a one is a position of it (`reached_inside`). -/
theorem compile_ends (kind : Kind) (text name : String) :
    (∀ scan next : Scan, scan.rest ≠ [] → scan.turn = .ok next →
        next.rest.length < scan.rest.length) ∧
      (∀ (tokens : Tokens) (index turns : Nat), index ≤ tokens.items.length →
        tokens.items.length < index + turns →
          (∃ outcome next, (Descent.statement tokens turns).run.run index = some (outcome, next) ∧
            next ≤ tokens.items.length ∧ (outcome.isOk = true → index < next)) ∧
          ∀ opening,
            (∀ args, Descent.Ends tokens (.parameters tokens opening turns args) index) ∧
            (∀ forms, Descent.Ends tokens
              (.statements tokens (.statement tokens turns) opening turns forms) index) ∧
            ∀ forms, Descent.Ends tokens (.template tokens turns forms) index) ∧
      (∀ turns, text.toList.length < turns →
        Template.compileWithin turns kind text name = some (Template.compile kind text name)) ∧
      match Template.compile kind text name with
      | .ok template => template.name = name ∧ template.kind = kind
      | .error fault => fault.location.Inside name text.toList := by
  refine ⟨?_, ?_, ?_, ?_⟩
  · intro scan next left turned
    obtain ⟨taken, takes⟩ := Scan.turn_takes left turned
    exact Scan.takes_shorter takes
  · intro tokens index turns inside enough
    exact ⟨Descent.statement_moves inside enough, Descent.loops_end inside enough⟩
  · exact fun turns enough => Template.compile_within enough kind name
  · cases outcome : Template.compile kind text name with
    | ok template => exact Template.compile_names outcome
    | error fault => exact reached_inside (Template.compile_reached outcome)

/-- A point that is cut off on the second line is blamed on its marker. -/
theorem cut_off_point_ends :
    Template.compile .statements "x = 1\ny = $(" "cut" =
        .error ⟨.pointWithoutName, ⟨"cut", 2, 5⟩⟩ ∧
      Location.Inside "cut" "x = 1\ny = $(".toList ⟨"cut", 2, 5⟩ := by
  obtain ⟨_, _, within, outcome⟩ := compile_ends .statements "x = 1\ny = $(" "cut"
  have refused := within 13 (by decide)
  have ran : Template.compileWithin 13 .statements "x = 1\ny = $(" "cut" =
      some (.error ⟨.pointWithoutName, ⟨"cut", 2, 5⟩⟩) := by rfl
  rw [ran] at refused
  have is := (Option.some.inj refused).symm
  rw [is] at outcome
  exact ⟨is, outcome⟩

end Stencil.Template
