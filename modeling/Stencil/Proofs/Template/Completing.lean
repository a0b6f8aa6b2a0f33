import Stencil.Proofs.Template.Account

/-!
# Whatever was read can be completed

No state of the reading machine is a dead end. From every phase a few tokens end
the statement that is being read (`Phase.completion`), and then a brace for each
open body ends the template (`run_completion`). Tokens that the machine has taken
are therefore the front of accepted ones.

The names and locations of these tokens do not matter, so the words are `x` and
stand nowhere.
-/

namespace Stencil.Template

/-- An operator that stands nowhere. -/
abbrev loose (text : String) : Token := mark text (.start "")

/-- A name that stands nowhere. -/
abbrev anyName : Token := word "x" (.start "")

/-- A body without statements. -/
def emptyBody : List Token := [loose "\x7b", loose "\x7d"]

/-- Tokens that end the statement behind its value. -/
def Slot.completion : Slot → List Token
  | .result _ | .assigned _ _ => []
  | .compared _ _ => loose ":" :: emptyBody

/-- Tokens that end the statement behind a point. -/
def Place.completion : Place → List Token
  | .statement => []
  | .value slot => slot.completion

/-- Tokens that end the statement that is being read. -/
def Phase.completion : Phase → List Token
  | .ready | .afterThen .. | .afterSplice .. => []
  | .functionName _ => [anyName, loose "(", loose ")", loose ":"] ++ emptyBody
  | .functionOpen _ _ => [loose "(", loose ")", loose ":"] ++ emptyBody
  | .parameter .. | .afterParameter .. => [loose ")", loose ":"] ++ emptyBody
  | .functionColon .. | .conditionColon .. | .elseColon .. => loose ":" :: emptyBody
  | .functionBody .. | .thenBody .. | .elseBody .. => emptyBody
  | .conditionLeft _ => [anyName, loose "==", anyName, loose ":"] ++ emptyBody
  | .conditionOperator .. => [loose "==", anyName, loose ":"] ++ emptyBody
  | .assignment .. => [loose "=", anyName]
  | .value slot => anyName :: slot.completion
  | .pointOpen _ place => [loose "(", anyName, loose ")"] ++ place.completion
  | .pointName _ place => [anyName, loose ")"] ++ place.completion
  | .pointClose _ place _ => loose ")" :: place.completion

/-- A brace for each open body. -/
def closings (levels : List Level) : List Token := levels.map fun _ => loose "\x7d"

/-- Tokens that end the template. -/
def State.completion (state : State) : List Token :=
  state.phase.completion ++ closings state.levels

/-- The statement behind a value is ended. -/
theorem run_slot_completion (state : State) (operand : Operand) (slot : Slot) :
    ∃ final, (state.supply operand slot).run slot.completion = .ok final ∧ final.Between ∧
      final.levels = state.levels := by
  cases slot with
  | result location => exact ⟨_, rfl, rfl, rfl⟩
  | assigned target location => exact ⟨_, rfl, rfl, rfl⟩
  | compared lhs location => exact ⟨_, rfl, rfl, rfl⟩

/-- The statement behind a point is ended. -/
theorem run_place_completion (state : State) (name : String) (marker : Location) (place : Place) :
    ∃ final, (state.point name marker place).run place.completion = .ok final ∧ final.Between ∧
      final.levels = state.levels := by
  cases place with
  | statement => exact ⟨_, rfl, rfl, rfl⟩
  | value slot => exact run_slot_completion state (.point name marker) slot

/-- The parenthesis that closes a point leads behind the point. -/
theorem step_point_close (forms : List Form) (levels : List Level) (name : String)
    (marker : Location) (place : Place) :
    State.step ⟨forms, levels, .pointClose marker place name⟩ (.token (loose ")")) =
      .ok (State.point ⟨forms, levels, .ready⟩ name marker place) := by
  cases place with
  | statement => rfl
  | value slot => cases slot <;> rfl

/-- The statement that is being read is ended. A value and a point are read by lemmas of their own,
since what is behind them depends on the statement they stand in. -/
theorem run_phase_completion (state : State) :
    ∃ final, state.run state.phase.completion = .ok final ∧ final.Between ∧
      final.levels = state.levels := by
  obtain ⟨forms, levels, phase⟩ := state
  have point (name : String) (marker : Location) (place : Place) :
      ∃ final, State.run ⟨forms, levels, .pointClose marker place name⟩
          (loose ")" :: place.completion) = .ok final ∧ final.Between ∧ final.levels = levels := by
    rw [State.run_cons _ (step_point_close forms levels name marker place)]
    exact run_place_completion ⟨forms, levels, .ready⟩ name marker place
  cases phase with
  | value slot =>
    have read := run_operand (.reference "x" (.start "") (by decide) (by decide))
      ⟨forms, levels, .ready⟩ slot
    obtain ⟨final, ran, between, kept⟩ :=
      run_slot_completion ⟨forms, levels, .ready⟩ (.reference "x" (.start "")) slot
    exact ⟨final, (State.run_append slot.completion read).trans ran, between, kept⟩
  | pointOpen marker place => exact point "x" marker place
  | pointName marker place => exact point "x" marker place
  | pointClose marker place name => exact point name marker place
  | _ => exact ⟨_, rfl, rfl, rfl⟩

/-- Braces close the open bodies one after the other. The induction is on the bodies: behind each of
them a statement is read, and the next brace closes the body around it. -/
theorem run_closings {state : State} (between : state.Between) :
    ∃ final, state.run (closings state.levels) = .ok final ∧ final.Between ∧
      final.levels = [] := by
  obtain ⟨levels, is⟩ : ∃ levels, state.levels = levels := ⟨_, rfl⟩
  rw [is]
  induction levels generalizing state with
  | nil => exact ⟨state, rfl, between, is⟩
  | cons level outer inductionHypothesis =>
    have settled : state.settle.levels = level :: outer := by
      obtain ⟨forms, levels, phase⟩ := state
      cases phase <;> exact is
    have closed : ∃ next, state.step (.token (loose "\x7d")) = .ok next ∧ next.Between ∧
        next.levels = outer := by
      have closes : (loose "\x7d").isOp "\x7d" = true := rfl
      rw [step_between between _ rfl, State.begin, if_pos closes, settled]
      cases header : level.header <;> simp only [header] <;> exact ⟨_, rfl, rfl, rfl⟩
    obtain ⟨next, taken, ready, less⟩ := closed
    obtain ⟨final, ran, done, none⟩ := inductionHypothesis ready less
    refine ⟨final, ?_, done, none⟩
    rw [closings, List.map_cons, State.run_cons _ taken]
    exact ran

/-- From every state the machine comes to an end of the text that it accepts. -/
theorem run_completion (state : State) (stop : Location) :
    ∃ final last, state.run state.completion = .ok final ∧ final.step (.stop stop) = .ok last := by
  obtain ⟨ended, ran, between, kept⟩ := run_phase_completion state
  obtain ⟨final, closed, ready, none⟩ := run_closings between
  rw [kept] at closed
  have settled : final.settle.levels = [] := by
    obtain ⟨forms, levels, phase⟩ := final
    cases phase <;> exact none
  refine ⟨final, final.settle, (State.run_append _ ran).trans closed, ?_⟩
  rw [step_stop ready, State.begin, settled]

/-- Tokens that the machine has taken are the front of accepted ones. -/
theorem taken_completes {tokens : List Token} {state : State}
    (taken : State.start.run tokens = .ok state) (stop : Location) :
    ∃ forms, parseTokens ⟨tokens ++ state.completion, stop⟩ = .ok forms := by
  obtain ⟨final, last, ran, stopped⟩ := run_completion state stop
  have whole : State.start.run (tokens ++ state.completion) = .ok final :=
    (State.run_append _ taken).trans ran
  refine ⟨last.forms, ?_⟩
  rw [State.run] at whole
  rw [parseTokens, ok_bind whole, ok_bind stopped]
  rfl

end Stencil.Template
