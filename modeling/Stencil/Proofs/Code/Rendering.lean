import Stencil.Code.Render

/-!
# Outlines without a bound

The outline of a statement is found by a recursion whose bound is the number of
stored statements. Here the bound disappears: more of it changes nothing, so
the outline of a statement is given by the outlines of the statements in its
bodies (`outline_function`, `outline_conditional` and their like).

The argument counts the statements that a bound leaves without an outline for
lack of depth. A larger bound settles some of them and unsettles none
(`outline_grows`). When one step settles no further statement the next one does
not either, and as many steps as there are statements cannot each settle one.
-/

namespace Stencil.Code

/-- An outcome is kept by another, unless it is only that the bound was too small. -/
def Settles {α : Type} (first second : Except Fault α) : Prop :=
  first = .error .tooDeep ∨ first = second

/-- An outcome is kept by itself. -/
theorem settles_refl {α : Type} (outcome : Except Fault α) : Settles outcome outcome := .inr rfl

/-- A chain keeps its outcome if each of its steps does. -/
theorem settles_bind {α β : Type} {first second : Except Fault α} {next other : α → Except Fault β}
    (start : Settles first second) (goesOn : ∀ value, Settles (next value) (other value)) :
    Settles (first >>= next) (second >>= other) := by
  rcases start with rfl | rfl
  · exact .inl rfl
  · cases first with
    | error fault => exact .inr rfl
    | ok value => exact goesOn value

/-- A list of outcomes is kept if each of them is. -/
theorem settles_list {α β : Type} {first second : α → Except Fault β}
    (kept : ∀ item, Settles (first item) (second item)) (items : List α) :
    Settles (items.mapM first) (items.mapM second) := by
  induction items with
  | nil => exact settles_refl _
  | cons item rest inductionHypothesis =>
    rw [List.mapM_cons, List.mapM_cons]
    refine settles_bind (kept item) fun value => ?_
    exact settles_bind inductionHypothesis fun values => settles_refl _

mutual

/-- The text of a value is kept if the source texts of stored objects are. -/
theorem text_settles (name : Ref → String) {first second : Ref → Except Fault String}
    (kept : ∀ ref, Settles (first ref) (second ref)) (value : Value) :
    Settles (value.textBy ⟨name, first⟩) (value.textBy ⟨name, second⟩) := by
  cases value with
  | equals lhs rhs =>
    refine settles_bind (source_settles name kept lhs) fun left => ?_
    exact settles_bind (source_settles name kept rhs) fun right => settles_refl _
  | declared kind inner => exact text_settles name kept inner
  | _ => exact settles_refl _

/-- The source text of an operand is kept if the source texts of stored objects are. -/
theorem source_settles (name : Ref → String) {first second : Ref → Except Fault String}
    (kept : ∀ ref, Settles (first ref) (second ref)) (value : Value) :
    Settles (value.sourceBy ⟨name, first⟩) (value.sourceBy ⟨name, second⟩) := by
  cases value with
  | literal inner => exact text_settles name kept inner
  | reference inner => exact text_settles name kept inner
  | equals lhs rhs =>
    refine settles_bind (source_settles name kept lhs) fun left => ?_
    exact settles_bind (source_settles name kept rhs) fun right => settles_refl _
  | object ref => exact kept ref
  | _ => exact settles_refl _

end

variable (store : Store)

/-- The source text of a stored object is kept if the outlines are. -/
theorem source_with_settles {first second : StatementRef → Except Fault Outline}
    (kept : ∀ ref, Settles (first ref) (second ref)) (ref : Ref) :
    Settles (store.sourceWith first ref) (store.sourceWith second ref) := by
  cases ref with
  | module id =>
    simp only [Store.sourceWith]
    split
    · exact settles_bind (settles_list kept _) fun outlines => settles_refl _
    · exact settles_refl _
  | _ => exact settles_refl _

/-- The first body of a conditional is kept if the outlines are. -/
theorem body_with_settles {first second : StatementRef → Except Fault Outline}
    (kept : ∀ ref, Settles (first ref) (second ref)) (body : Value) :
    Settles (store.bodyWith first body) (store.bodyWith second body) := by
  unfold Store.bodyWith
  split
  · exact settles_list kept _
  · exact settles_bind (kept _) fun outline => settles_refl _
  · exact settles_refl _
  · exact settles_refl _
  · exact settles_refl _
  · exact settles_refl _
  · exact settles_refl _

/-- The second body of a conditional is kept if the outlines are. -/
theorem else_with_settles {first second : StatementRef → Except Fault Outline}
    (kept : ∀ ref, Settles (first ref) (second ref)) (body : Value) :
    Settles (store.elseWith first body) (store.elseWith second body) := by
  unfold Store.elseWith
  split
  · exact settles_list kept _
  · exact settles_refl _

/-- A larger bound keeps every outline that a smaller one found. The induction is on the bound; the
cases are the statements. -/
theorem outline_grows (bound : Nat) (ref : StatementRef) :
    Settles (store.outlineOf bound ref) (store.outlineOf (bound + 1) ref) := by
  induction bound generalizing ref with
  | zero => exact .inl rfl
  | succ bound inductionHypothesis =>
    have text (value : Value) := text_settles store.name
      (source_with_settles store inductionHypothesis) value
    rw [Store.outlineOf, Store.outlineOf]
    split
    · exact settles_refl _
    · refine settles_bind (text _) fun target => ?_
      exact settles_bind (text _) fun value => settles_refl _
    · exact settles_bind (text _) fun expression => settles_refl _
    · exact settles_refl _
    · exact settles_bind (settles_list inductionHypothesis _) fun outlines => settles_refl _
    · refine settles_bind (text _) fun head => ?_
      refine settles_bind (body_with_settles store inductionHypothesis _) fun thenOutlines => ?_
      exact settles_bind (else_with_settles store inductionHypothesis _) fun _ => settles_refl _

/-- If a step of the bound changes no outline, neither does the next. -/
theorem outline_stays {bound : Nat} (same : store.outlineOf bound = store.outlineOf (bound + 1)) :
    store.outlineOf (bound + 1) = store.outlineOf (bound + 1 + 1) := by
  funext ref
  rw [Store.outlineOf, same]
  rfl

/-! ## Counting the statements without an outline -/

/-- Whether a bound is too small for a statement. -/
def Store.deep (bound id : Nat) : Bool :=
  match store.outlineOf bound ⟨.raw, id⟩ with
  | .error .tooDeep => true
  | _ => false

/-- How many statements a bound is too small for. -/
def Store.unsettled (bound : Nat) : Nat :=
  (List.range store.statements.size).countP (store.deep bound)

/-- A bound is too small if that is the fault. -/
theorem deep_iff (bound id : Nat) :
    store.deep bound id = true ↔ store.outlineOf bound ⟨.raw, id⟩ = .error .tooDeep := by
  unfold Store.deep
  split
  · rename_i tooDeep
    simp [tooDeep]
  · rename_i other
    constructor
    · intro impossible
      cases impossible
    · intro tooDeep
      exact absurd tooDeep other

/-- The outline of a statement depends on its number alone. -/
theorem outline_of_id (bound : Nat) (ref : StatementRef) :
    store.outlineOf bound ref = store.outlineOf bound ⟨.raw, ref.id⟩ := by
  cases bound <;> rfl

/-- No outline is found where no statement is stored. -/
theorem outline_absent (bound : Nat) (ref : StatementRef)
    (absent : store.statements.size ≤ ref.id) : store.outlineOf bound ref = .error .tooDeep := by
  cases bound with
  | zero => rfl
  | succ bound =>
    rw [Store.outlineOf]
    simp [Array.getElem?_eq_none absent]

/-- What a larger bound is too small for, a smaller one is too small for. -/
theorem deep_shrinks {bound id : Nat} (deep : store.deep (bound + 1) id = true) :
    store.deep bound id = true := by
  rw [deep_iff] at deep ⊢
  rcases outline_grows store bound ⟨.raw, id⟩ with tooDeep | same
  · exact tooDeep
  · exact same.trans deep

/-- Members of a list that have a stronger property are all that have a weaker one, if they are no
fewer. -/
theorem count_same {α : Type} {weaker stronger : α → Bool} {items : List α}
    (implies : ∀ item, stronger item = true → weaker item = true)
    (noFewer : items.countP weaker ≤ items.countP stronger) :
    ∀ item ∈ items, weaker item = true → stronger item = true := by
  have again : (items.filter weaker).filter stronger = items.filter stronger := by
    rw [List.filter_filter]
    congr 1
    funext item
    cases strong : stronger item with
    | false => rfl
    | true => simp [implies item strong]
  have all : (items.filter weaker).filter stronger = items.filter weaker := by
    refine List.filter_sublist.eq_of_length_le ?_
    rw [again, ← List.countP_eq_length_filter, ← List.countP_eq_length_filter]
    exact noFewer
  intro item member weak
  have kept : item ∈ (items.filter weaker).filter stronger := by
    rw [all]
    exact List.mem_filter.mpr ⟨member, weak⟩
  exact (List.mem_filter.mp kept).2

/-- A step of the bound that leaves as many statements without an outline changes no outline. -/
theorem outline_same {bound : Nat} (same : store.unsettled bound ≤ store.unsettled (bound + 1)) :
    store.outlineOf bound = store.outlineOf (bound + 1) := by
  funext ref
  rcases outline_grows store bound ref with tooDeep | unchanged
  · rw [tooDeep]
    by_cases stored : ref.id < store.statements.size
    · have deep : store.deep bound ref.id = true := by
        rw [deep_iff, ← outline_of_id]
        exact tooDeep
      have still : store.deep (bound + 1) ref.id = true :=
        count_same (fun _ => deep_shrinks store) same ref.id (List.mem_range.mpr stored) deep
      rw [outline_of_id, (deep_iff store _ _).mp still]
    · exact (outline_absent store _ ref (Nat.le_of_not_lt stored)).symm
  · exact unchanged

/-- A bound either changes no outline any more, or it has settled at least as many statements as it
is large. -/
theorem outline_progress (bound : Nat) :
    store.outlineOf bound = store.outlineOf (bound + 1) ∨
      store.unsettled (bound + 1) + (bound + 1) ≤ store.statements.size := by
  induction bound with
  | zero =>
    by_cases same : store.unsettled 0 ≤ store.unsettled (0 + 1)
    · exact .inl (outline_same store same)
    · have all : store.unsettled 0 ≤ store.statements.size := by
        simpa [Store.unsettled] using
          List.countP_le_length (p := store.deep 0) (l := List.range store.statements.size)
      right
      omega
  | succ bound inductionHypothesis =>
    rcases inductionHypothesis with stable | settled
    · exact .inl (outline_stays store stable)
    · by_cases same : store.unsettled (bound + 1) ≤ store.unsettled (bound + 1 + 1)
      · exact .inl (outline_same store same)
      · right
        omega

/-- The outlines are found under the bound in use: one more changes nothing. -/
theorem outline_stable : store.outlineOf (store.statements.size + 2) = store.outline := by
  rcases outline_progress store store.statements.size with stable | settled
  · exact (outline_stays store stable).symm
  · omega

/-! ## The outlines of statements, from those of the statements in them -/

variable {store} {ref : StatementRef}

/-- The outline of an assignment is one line. -/
theorem outline_assignment {target value : Value}
    (stored : store.statements[ref.id]? = some (.assignment target value)) :
    store.outline ref = (do
      return .line ((← store.text target) ++ " = " ++ (← store.text value))) := by
  rw [← congrFun (outline_stable store) ref, Store.outlineOf, stored]
  rfl

/-- The outline of a result is one line. -/
theorem outline_result {expression : Value}
    (stored : store.statements[ref.id]? = some (.result expression)) :
    store.outline ref = (do return .line ("return " ++ (← store.text expression))) := by
  rw [← congrFun (outline_stable store) ref, Store.outlineOf, stored]
  rfl

/-- The outline of a raw line is that line. -/
theorem outline_raw {line : String} (stored : store.statements[ref.id]? = some (.raw line)) :
    store.outline ref = .ok (.line line) := by
  rw [← congrFun (outline_stable store) ref, Store.outlineOf, stored]

/-- The outline of a function has the outlines of its body below its head. -/
theorem outline_function {name : String} {args : List String} {body : Nat}
    (stored : store.statements[ref.id]? = some (.function name args body)) :
    store.outline ref = (do
      return .headed ("def " ++ name ++ "(" ++ ", ".intercalate args ++ "):")
        (← (store.block body).mapM store.outline)) := by
  rw [← congrFun (outline_stable store) ref, Store.outlineOf, stored]
  rfl

/-- The outline of a conditional has the outlines of both its bodies below its condition. -/
theorem outline_conditional {condition : Value} {thenBody elseBody : Nat}
    (stored : store.statements[ref.id]? =
      some (.conditional condition (.object (.block thenBody)) (.object (.block elseBody)))) :
    store.outline ref = (do
      let head ← store.text condition
      let thenOutlines ← (store.block thenBody).mapM store.outline
      let elseOutlines ← (store.block elseBody).mapM store.outline
      return .branch ("if " ++ head ++ ":") thenOutlines elseOutlines) := by
  rw [← congrFun (outline_stable store) ref, Store.outlineOf, stored]
  rfl

/-! ## The lines of statements, from those of the statements in them -/

/-- The lines of statements one after the other. -/
def Store.linesOf (store : Store) (depth : Int) (refs : List StatementRef) :
    Except Fault (List String) :=
  (refs.mapM (store.statementLines depth)).map List.flatten

/-- The lines of a body, or `pass` where it has none. -/
def orPass (depth : Int) : List String → List String
  | [] => [Outline.indent depth "pass"]
  | first :: rest => first :: rest

/-- The lines of a second body below a line of their own, or none where it has none. -/
def withElse (depth : Int) : List String → List String
  | [] => []
  | first :: rest => Outline.indent depth "else:" :: first :: rest

/-- No statement has no lines. -/
@[simp] theorem lines_of_nil (depth : Int) : store.linesOf depth [] = .ok [] := rfl

/-- The lines of statements are those of the first and those of the others. -/
theorem lines_of_cons (depth : Int) (ref : StatementRef) (refs : List StatementRef) :
    store.linesOf depth (ref :: refs) = (do
      let first ← store.statementLines depth ref
      let others ← store.linesOf depth refs
      return first ++ others) := by
  rw [Store.linesOf, Store.linesOf, List.mapM_cons]
  cases store.statementLines depth ref with
  | error fault => rfl
  | ok first => cases refs.mapM (store.statementLines depth) <;> rfl

/-- The lines of statements behind statements. -/
theorem lines_of_append (depth : Int) (refs others : List StatementRef) :
    store.linesOf depth (refs ++ others) = (do
      let first ← store.linesOf depth refs
      let behind ← store.linesOf depth others
      return first ++ behind) := by
  induction refs with
  | nil => cases lines : store.linesOf depth others <;> simp [lines] <;> rfl
  | cons ref rest inductionHypothesis =>
    rw [List.cons_append, lines_of_cons, lines_of_cons, inductionHypothesis]
    cases store.statementLines depth ref with
    | error fault => rfl
    | ok first =>
      cases store.linesOf depth rest with
      | error fault => rfl
      | ok middle =>
        cases store.linesOf depth others with
        | error fault => rfl
        | ok last => exact congrArg Except.ok (List.append_assoc first middle last).symm

/-- The lines of statements are those of their outlines. -/
theorem lines_of_outlines (depth : Int) (refs : List StatementRef) :
    store.linesOf depth refs = (refs.mapM store.outline).map (Outline.linesOf depth) := by
  induction refs with
  | nil => rfl
  | cons ref rest inductionHypothesis =>
    rw [lines_of_cons, inductionHypothesis, List.mapM_cons, Store.statementLines]
    cases store.outline ref with
    | error fault => rfl
    | ok outline => cases rest.mapM store.outline <;> rfl

/-- Every outline has a line. -/
theorem lines_nonempty (depth : Int) (outline : Outline) :
    ∃ first rest, outline.lines depth = first :: rest := by
  cases outline with
  | line text => exact ⟨_, _, rfl⟩
  | headed head body => exact ⟨_, _, rfl⟩
  | branch head thenBody elseBody => cases elseBody <;> exact ⟨_, _, rfl⟩

/-- The lines of a body are those of its statements, or `pass`. -/
theorem body_lines (depth : Int) (outlines : List Outline) :
    Outline.bodyLines depth outlines = orPass depth (Outline.linesOf depth outlines) := by
  cases outlines with
  | nil => rfl
  | cons outline rest =>
    obtain ⟨first, others, lines⟩ := lines_nonempty depth outline
    simp [Outline.bodyLines, Outline.linesOf, lines, orPass]

/-- The lines of a branch are its head, its first body and what there is of its second. -/
theorem branch_lines (depth : Int) (head : String) (thenBody elseBody : List Outline) :
    (Outline.branch head thenBody elseBody).lines depth =
      Outline.indent depth head :: (orPass (depth + 1) (Outline.linesOf (depth + 1) thenBody) ++
        withElse depth (Outline.linesOf (depth + 1) elseBody)) := by
  cases elseBody with
  | nil => simp [Outline.lines, Outline.linesOf, withElse, body_lines]
  | cons outline rest =>
    obtain ⟨first, others, lines⟩ := lines_nonempty (depth + 1) outline
    simp [Outline.lines, Outline.linesOf, withElse, body_lines, lines]

variable (depth : Int)

/-- An assignment has one line. -/
theorem assignment_lines {target value : Value} {left right : String}
    (stored : store.statements[ref.id]? = some (.assignment target value))
    (named : store.text target = .ok left) (valued : store.text value = .ok right) :
    store.statementLines depth ref = .ok [Outline.indent depth (left ++ " = " ++ right)] := by
  rw [Store.statementLines, outline_assignment stored, named, valued]
  rfl

/-- A result has one line. -/
theorem result_lines {expression : Value} {text : String}
    (stored : store.statements[ref.id]? = some (.result expression))
    (valued : store.text expression = .ok text) :
    store.statementLines depth ref = .ok [Outline.indent depth ("return " ++ text)] := by
  rw [Store.statementLines, outline_result stored, valued]
  rfl

/-- A raw line is one line. -/
theorem raw_lines {line : String} (stored : store.statements[ref.id]? = some (.raw line)) :
    store.statementLines depth ref = .ok [Outline.indent depth line] := by
  rw [Store.statementLines, outline_raw stored]
  rfl

/-- A function has its head with the lines of its body one level deeper. -/
theorem function_lines {name : String} {args : List String} {body : Nat}
    (stored : store.statements[ref.id]? = some (.function name args body)) :
    store.statementLines depth ref = (do
      let inner ← store.linesOf (depth + 1) (store.block body)
      return Outline.indent depth ("def " ++ name ++ "(" ++ ", ".intercalate args ++ "):") ::
        orPass (depth + 1) inner) := by
  rw [Store.statementLines, outline_function stored, lines_of_outlines]
  cases (store.block body).mapM store.outline with
  | error fault => rfl
  | ok outlines => exact congrArg (Except.ok ∘ List.cons _) (body_lines (depth + 1) outlines)

/-- A conditional has its condition, the lines of its first body, and a second part if there are
lines of its second body. -/
theorem conditional_lines {condition : Value} {thenBody elseBody : Nat} {text : String}
    (stored : store.statements[ref.id]? =
      some (.conditional condition (.object (.block thenBody)) (.object (.block elseBody))))
    (valued : store.text condition = .ok text) :
    store.statementLines depth ref = (do
      let inner ← store.linesOf (depth + 1) (store.block thenBody)
      let other ← store.linesOf (depth + 1) (store.block elseBody)
      return Outline.indent depth ("if " ++ text ++ ":") ::
        (orPass (depth + 1) inner ++ withElse depth other)) := by
  rw [Store.statementLines, outline_conditional stored, valued, lines_of_outlines,
    lines_of_outlines]
  cases (store.block thenBody).mapM store.outline with
  | error fault => rfl
  | ok thenOutlines =>
    cases (store.block elseBody).mapM store.outline with
    | error fault => rfl
    | ok elseOutlines =>
      exact congrArg Except.ok (branch_lines depth _ thenOutlines elseOutlines)

end Stencil.Code
