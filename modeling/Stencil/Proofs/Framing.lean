import Stencil.Fault

/-!
# Frames

What steps leave alone. A frame relates the state before a step to the state
after it, for states where something holds; since it is transitive and ends
where it can start again, it covers a chain of steps if it covers each of them
(`covers_bind`). A step is covered whether or not it succeeds.
-/

namespace Stencil

section Chains

variable {σ α β : Type}

/-- A chain goes on with the outcome of its first step. -/
theorem chain_ok {step : ExceptT Fault (StateM σ) α} (next : α → ExceptT Fault (StateM σ) β)
    {state after : σ} {value : α} (ran : step.run.run state = (.ok value, after)) :
    (step >>= next).run.run state = (next value).run.run after := by
  rw [ExceptT.run_bind, StateT.run_bind, ran]
  rfl

/-- A chain ends where its first step fails. -/
theorem chain_error {step : ExceptT Fault (StateM σ) α} (next : α → ExceptT Fault (StateM σ) β)
    {state after : σ} {fault : Fault} (ran : step.run.run state = (.error fault, after)) :
    (step >>= next).run.run state = (.error fault, after) := by
  rw [ExceptT.run_bind, StateT.run_bind, ran]
  rfl

/-- A step with a way out gives what it yields. -/
theorem catch_ok {step : ExceptT Fault (StateM σ) α} (rescue : Fault → ExceptT Fault (StateM σ) α)
    {state after : σ} {value : α} (ran : step.run.run state = (.ok value, after)) :
    (tryCatch step rescue).run.run state = (.ok value, after) := by
  change StateT.run step state = _ at ran
  simp only [tryCatch, tryCatchThe, MonadExceptOf.tryCatch, ExceptT.tryCatch, ExceptT.run_mk,
    StateT.run_bind]
  rw [ran]
  rfl

/-- A step with a way out that fails takes it. -/
theorem catch_error {step : ExceptT Fault (StateM σ) α}
    (rescue : Fault → ExceptT Fault (StateM σ) α) {state after : σ} {fault : Fault}
    (ran : step.run.run state = (.error fault, after)) :
    (tryCatch step rescue).run.run state = (rescue fault).run.run after := by
  change StateT.run step state = _ at ran
  simp only [tryCatch, tryCatchThe, MonadExceptOf.tryCatch, ExceptT.tryCatch, ExceptT.run_mk,
    StateT.run_bind]
  rw [ran]
  rfl

end Chains

/-- What is left alone by steps that start where something holds. -/
structure Frame (σ : Type) where
  holds : σ → Prop
  leads : σ → σ → Prop
  refl : ∀ state, holds state → leads state state
  trans : ∀ before middle after, leads before middle → leads middle after → leads before after
  ends : ∀ before after, leads before after → holds after

namespace Frame

variable {σ α β : Type} {frame : Frame σ} {good : α → Prop} {last : β → Prop}

/-- A step stays within a frame, whether or not it succeeds, and what it yields is good. -/
def Covers (frame : Frame σ) (step : ExceptT Fault (StateM σ) α) (good : α → Prop) : Prop :=
  ∀ state, frame.holds state →
    frame.leads state (step.run.run state).2 ∧
      ∀ value, (step.run.run state).1 = .ok value → good value

/-- A step that is known to succeed. -/
theorem covers_of_run {step : ExceptT Fault (StateM σ) α}
    (known : ∀ state, frame.holds state → ∃ value after,
      step.run.run state = (.ok value, after) ∧ frame.leads state after ∧ good value) :
    frame.Covers step good := by
  intro state holds
  obtain ⟨value, after, run, leads, reached⟩ := known state holds
  rw [run]
  refine ⟨leads, fun other is => ?_⟩
  cases is
  exact reached

/-- The frame of an invariant: it holds, and goes on holding. -/
def keeping (holds : σ → Prop) : Frame σ where
  holds := holds
  leads _ after := holds after
  refl _ holds := holds
  trans _ _ _ _ second := second
  ends _ _ holds := holds

/-- A value that is given as it is. -/
theorem covers_pure {value : α} (reached : good value) : frame.Covers (pure value) good :=
  covers_of_run fun state holds => ⟨value, state, rfl, frame.refl state holds, reached⟩

/-- A fault. -/
theorem covers_throw (fault : Fault) : frame.Covers (throw fault) good := by
  intro state holds
  refine ⟨frame.refl state holds, fun value is => ?_⟩
  cases is

/-- An outcome that needs no state. -/
theorem covers_lift {outcome : Except Fault α}
    (reached : ∀ value, outcome = .ok value → good value) :
    frame.Covers (liftM outcome) good := by
  cases is : outcome with
  | ok value => exact covers_pure (reached value is)
  | error fault => exact covers_throw fault

/-- Looking at the state. -/
theorem covers_get : frame.Covers get frame.holds :=
  covers_of_run fun state holds => ⟨state, state, rfl, frame.refl state holds, holds⟩

/-- A change of the state. -/
theorem covers_modify {change : σ → σ}
    (leads : ∀ state, frame.holds state → frame.leads state (change state)) :
    frame.Covers (modify change) fun _ => True :=
  covers_of_run fun state holds => ⟨(), change state, rfl, leads state holds, trivial⟩

/-- A step that is covered and succeeds. -/
theorem covers_yields {step : ExceptT Fault (StateM σ) α} (covers : frame.Covers step good)
    {state after : σ} {value : α} (holds : frame.holds state)
    (ran : step.run.run state = (.ok value, after)) : frame.leads state after ∧ good value := by
  obtain ⟨leads, reached⟩ := covers state holds
  rw [ran] at leads reached
  exact ⟨leads, reached value rfl⟩

/-- What is yielded is good for more than was asked. -/
theorem covers_weaken {step : ExceptT Fault (StateM σ) α} {other : α → Prop}
    (covers : frame.Covers step good) (weaker : ∀ value, good value → other value) :
    frame.Covers step other :=
  fun state holds =>
    (covers state holds).imp_right fun known value is => weaker value (known value is)

/-- Nothing has to be known of what is yielded. -/
theorem covers_forget {step : ExceptT Fault (StateM σ) α} (covers : frame.Covers step good) :
    frame.Covers step fun _ => True :=
  covers_weaken covers fun _ _ => trivial

/-- A chain of two steps. -/
theorem covers_bind {step : ExceptT Fault (StateM σ) α}
    {next : α → ExceptT Fault (StateM σ) β} (first : frame.Covers step good)
    (behind : ∀ value, good value → frame.Covers (next value) last) :
    frame.Covers (step >>= next) last := by
  intro state holds
  obtain ⟨leads, reached⟩ := first state holds
  rcases ran : step.run.run state with ⟨outcome, middle⟩
  rw [ran] at leads reached
  cases outcome with
  | error fault =>
    rw [chain_error next ran]
    refine ⟨leads, fun value is => ?_⟩
    cases is
  | ok value =>
    obtain ⟨onward, final⟩ := behind value (reached value rfl) middle (frame.ends _ _ leads)
    rw [chain_ok next ran]
    exact ⟨frame.trans _ _ _ leads onward, final⟩

/-- A chain whose second step needs to know nothing of the first. -/
theorem covers_then {step : ExceptT Fault (StateM σ) α}
    {next : α → ExceptT Fault (StateM σ) β} (first : frame.Covers step fun _ => True)
    (behind : ∀ value, frame.Covers (next value) last) : frame.Covers (step >>= next) last :=
  covers_bind first fun value _ => behind value

/-- A chain that ends in its first step. -/
theorem covers_ended (fault : Fault) (next : α → ExceptT Fault (StateM σ) β) :
    frame.Covers (throw fault >>= next) last :=
  covers_throw fault

/-- A step for each item of a list. -/
theorem covers_each {step : α → ExceptT Fault (StateM σ) β} {items : List α}
    (each : ∀ item ∈ items, frame.Covers (step item) last) :
    frame.Covers (items.mapM step) fun outcomes => ∀ outcome ∈ outcomes, last outcome := by
  induction items with
  | nil => exact covers_pure (List.forall_mem_nil _)
  | cons item rest inductionHypothesis =>
    rw [List.mapM_cons]
    refine covers_bind (each item List.mem_cons_self) fun first reached => ?_
    refine covers_bind (inductionHypothesis fun other member => each other (.tail _ member)) ?_
    intro others behind
    exact covers_pure (List.forall_mem_cons.mpr ⟨reached, behind⟩)

/-- A step with a way out. -/
theorem covers_catch {step : ExceptT Fault (StateM σ) α}
    {rescue : Fault → ExceptT Fault (StateM σ) α} (first : frame.Covers step good)
    (behind : ∀ fault, frame.Covers (rescue fault) good) :
    frame.Covers (tryCatch step rescue) good := by
  intro state holds
  obtain ⟨leads, reached⟩ := first state holds
  rcases ran : step.run.run state with ⟨outcome, middle⟩
  rw [ran] at leads reached
  cases outcome with
  | ok value =>
    rw [catch_ok rescue ran]
    exact ⟨leads, reached⟩
  | error fault =>
    obtain ⟨onward, final⟩ := behind fault middle (frame.ends _ _ leads)
    rw [catch_error rescue ran]
    exact ⟨frame.trans _ _ _ leads onward, final⟩

end Frame

end Stencil
