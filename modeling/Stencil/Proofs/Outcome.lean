/-!
# Steps that succeed

Taking a chain of steps apart: a chain has succeeded when its first step gave an
outcome and the rest of the chain succeeded from there. A fold that fails does so
at one of its items.
-/

namespace Stencil

/-- A step that succeeds and goes on to succeed has an outcome to go on from. -/
theorem bind_ok {ε α β : Type} {step : Except ε α} {next : α → Except ε β} {outcome : β}
    (done : step >>= next = .ok outcome) :
    ∃ value, step = .ok value ∧ next value = .ok outcome := by
  cases step with
  | error fault => cases done
  | ok value => exact ⟨value, rfl, done⟩

/-- A step that has an outcome goes on from it. -/
theorem ok_bind {ε α β : Type} {step : Except ε α} {value : α} (done : step = .ok value)
    (next : α → Except ε β) : step >>= next = next value := by
  subst done
  rfl

/-- An outcome that is there is the outcome of a step that succeeds. -/
theorem ok_of_some {ε α : Type} {step : Except ε α} {value : α}
    (given : step.toOption = some value) : step = .ok value := by
  cases step with
  | error fault => cases given
  | ok other =>
    cases given
    rfl

/-- A step that goes on and fails did so itself, or where it went on. -/
theorem bind_error {ε α β : Type} {step : Except ε α} {next : α → Except ε β} {fault : ε}
    (refused : step >>= next = .error fault) :
    step = .error fault ∨ ∃ value, step = .ok value ∧ next value = .error fault := by
  cases step with
  | error other =>
    cases refused
    exact .inl rfl
  | ok value => exact .inr ⟨value, rfl, refused⟩

/-- An outcome that is worked on fails where it does. -/
theorem map_error {ε α β : Type} {step : Except ε α} {finish : α → β} {fault : ε}
    (refused : step.map finish = .error fault) : step = .error fault := by
  cases step with
  | error other =>
    cases refused
    rfl
  | ok value => cases refused

/-- A fold of steps fails at an item, on what the items before it gave. -/
theorem fold_error {ε α β : Type} {step : α → β → Except ε α} {items : List β} {start : α}
    {fault : ε} (refused : items.foldlM step start = .error fault) :
    ∃ before item behind middle, items = before ++ item :: behind ∧
      before.foldlM step start = .ok middle ∧ step middle item = .error fault := by
  induction items generalizing start with
  | nil => cases refused
  | cons item rest inductionHypothesis =>
    rcases bind_error refused with here | ⟨middle, first, later⟩
    · exact ⟨[], item, rest, start, rfl, rfl, here⟩
    · obtain ⟨before, next, behind, last, rfl, done, failed⟩ := inductionHypothesis later
      refine ⟨item :: before, next, behind, last, rfl, ?_, failed⟩
      rw [List.foldlM_cons, first]
      exact done

/-- Steps that all succeed give each of their outcomes at an item. -/
theorem each_ok {ε α β : Type} {step : α → Except ε β} {items : List α} {outcomes : List β}
    (done : items.mapM step = .ok outcomes) {outcome : β} (member : outcome ∈ outcomes) :
    ∃ item ∈ items, step item = .ok outcome := by
  induction items generalizing outcomes with
  | nil =>
    cases done
    cases member
  | cons item rest inductionHypothesis =>
    rw [List.mapM_cons] at done
    obtain ⟨first, here, behind⟩ := bind_ok done
    obtain ⟨others, later, is⟩ := bind_ok behind
    cases is
    rcases List.mem_cons.mp member with rfl | far
    · exact ⟨item, List.mem_cons_self, here⟩
    · obtain ⟨other, among, gives⟩ := inductionHypothesis later far
      exact ⟨other, List.mem_cons_of_mem _ among, gives⟩

/-- Steps that do not all succeed fail at an item. -/
theorem each_error {ε α β : Type} {step : α → Except ε β} {items : List α} {fault : ε}
    (refused : items.mapM step = .error fault) : ∃ item ∈ items, step item = .error fault := by
  induction items with
  | nil => cases refused
  | cons item rest inductionHypothesis =>
    rw [List.mapM_cons] at refused
    rcases bind_error refused with here | ⟨_, _, behind⟩
    · exact ⟨item, List.mem_cons_self, here⟩
    · rcases bind_error behind with later | ⟨_, _, ended⟩
      · obtain ⟨other, among, failed⟩ := inductionHypothesis later
        exact ⟨other, List.mem_cons_of_mem _ among, failed⟩
      · cases ended

/-- Steps that do the same with each item do the same with all. -/
theorem same_of_each {ε α β : Type} {items : List α} {first second : α → Except ε β}
    (each : ∀ item ∈ items, first item = second item) :
    items.mapM first = items.mapM second := by
  induction items with
  | nil => rfl
  | cons item rest inductionHypothesis =>
    rw [List.mapM_cons, List.mapM_cons, each item (by simp),
      inductionHypothesis fun other member => each other (.tail _ member)]

end Stencil
