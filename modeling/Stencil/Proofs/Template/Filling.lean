import Stencil.Proofs.Code.Building
import Stencil.Proofs.Code.Expression
import Stencil.Proofs.Template.Relocation
import Stencil.Template.Call

/-!
# What filling a template builds

Filled forms become stored statements. `Realizes` says of listed statements
that they are what forms say: each form is a statement of its shape with the
given values in it, a spliced form is the statements that were given for it, and
the bodies of statements are new ones that hold what the inner forms say.

Filling well-suited forms into a body succeeds, puts statements that realize the
forms at the end of the body, and leaves everything else as it was
(`fills_suited`). The bodies of the new statements have numbers from a bound
on, so growing an older body does not touch them.
-/

namespace Stencil.Template

open Code

/-- The items of a list, plain or growing. -/
def listed? (store : Store) : Value → Option (List Value)
  | .list items => some items
  | .object (.cell id) => some (store.cell id)
  | _ => none

/-- The statements that are given for a splice: one statement, or those of a list. -/
def spliced? (store : Store) (bindings : Bindings) (name : String) (many : Bool) :
    Option (List StatementRef) := do
  let value ← bindings.lookup name
  if many then (← listed? store value).mapM Value.statement?
  else return [← value.statement?]

/-- The value of an operand, if one is given. -/
def Operand.value? (bindings : Bindings) : Operand → Option Value
  | .literal text _ => some (.literal (.text text))
  | .reference name _ => some (.reference (.text name))
  | .point name _ => bindings.lookup name

/-- An operand stands for an expression with a source text. -/
def Operand.Means (bindings : Bindings) (operand : Operand) (value : Value)
    (text : String) : Prop :=
  operand.value? bindings = some value ∧ value.expressionText? = some text

/-- An expression is given for an operand. -/
def Operand.Given (bindings : Bindings) (operand : Operand) : Prop :=
  ∃ value text, operand.Means bindings value text

mutual

/-- Expressions are given where a form needs values, and statements where it splices. -/
def Form.Suited (store : Store) (bindings : Bindings) : Form → Prop
  | .function _ _ body _ => SuitedAll store bindings body
  | .conditional _ rhs thenBody elseBody _ =>
    rhs.Given bindings ∧ SuitedAll store bindings thenBody ∧ SuitedAll store bindings elseBody
  | .result value _ => value.Given bindings
  | .assign _ value _ => value.Given bindings
  | .raw _ _ => True
  | .splice name many _ => ∃ refs, spliced? store bindings name many = some refs

/-- Expressions and statements are given for all forms. Nothing is asked of names that the forms do
not mention. -/
def Form.SuitedAll (store : Store) (bindings : Bindings) : List Form → Prop
  | [] => True
  | form :: rest => form.Suited store bindings ∧ SuitedAll store bindings rest

end

/-- Stored statements are what forms say, with the values and statements given for their points.
The bodies of the statements have numbers from a bound on. -/
inductive Realizes (store : Store) (bindings : Bindings) (low : Nat) (after : Store) :
    List Form → List StatementRef → Prop where
  | nothing : Realizes store bindings low after [] []
  | function {name : String} {args : List String} {body forms : List Form} {location : Location}
      {id block : Nat} {inner refs : List StatementRef}
      (stored : after.statements[id]? = some (.function name args block)) (fresh : low ≤ block)
      (held : after.blocks[block]? = some inner)
      (below : Realizes store bindings low after body inner)
      (behind : Realizes store bindings low after forms refs) :
      Realizes store bindings low after (.function name args body location :: forms)
        (⟨.function, id⟩ :: refs)
  | conditional {lhs : String} {rhs : Operand} {thenForms elseForms forms : List Form}
      {location : Location} {id thenBlock elseBlock : Nat} {inner other refs : List StatementRef}
      {value : Value} {text : String} (filled : rhs.Means bindings value text)
      (stored : after.statements[id]? = some (.conditional (.equals (.reference (.text lhs)) value)
        (.object (.block thenBlock)) (.object (.block elseBlock))))
      (thenFresh : low ≤ thenBlock) (thenHeld : after.blocks[thenBlock]? = some inner)
      (elseFresh : low ≤ elseBlock) (elseHeld : after.blocks[elseBlock]? = some other)
      (below : Realizes store bindings low after thenForms inner)
      (beside : Realizes store bindings low after elseForms other)
      (behind : Realizes store bindings low after forms refs) :
      Realizes store bindings low after
        (.conditional lhs rhs thenForms elseForms location :: forms) (⟨.conditional, id⟩ :: refs)
  | result {operand : Operand} {forms : List Form} {location : Location} {id : Nat}
      {refs : List StatementRef} {value : Value} {text : String}
      (filled : operand.Means bindings value text)
      (stored : after.statements[id]? = some (.result value))
      (behind : Realizes store bindings low after forms refs) :
      Realizes store bindings low after (.result operand location :: forms) (⟨.result, id⟩ :: refs)
  | assign {target : String} {operand : Operand} {forms : List Form} {location : Location}
      {id : Nat} {refs : List StatementRef} {value : Value} {text : String}
      (filled : operand.Means bindings value text)
      (stored : after.statements[id]? = some (.assignment (.text target) value))
      (behind : Realizes store bindings low after forms refs) :
      Realizes store bindings low after (.assign target operand location :: forms)
        (⟨.assignment, id⟩ :: refs)
  | raw {text : String} {forms : List Form} {location : Location} {id : Nat}
      {refs : List StatementRef} (stored : after.statements[id]? = some (.raw text))
      (behind : Realizes store bindings low after forms refs) :
      Realizes store bindings low after (.raw text location :: forms) (⟨.raw, id⟩ :: refs)
  | splice {name : String} {many : Bool} {forms : List Form} {location : Location}
      {items refs : List StatementRef} (given : spliced? store bindings name many = some items)
      (behind : Realizes store bindings low after forms refs) :
      Realizes store bindings low after (.splice name many location :: forms) (items ++ refs)

variable {store before middle after : Store} {bindings : Bindings}

/-- Statements go on realizing forms while older bodies grow and new objects are stored. -/
theorem realizes_kept {target low lower : Nat} {forms : List Form} {refs : List StatementRef}
    (realized : Realizes store bindings low middle forms refs)
    (extended : middle.Keeps target after) (older : target < low) (wider : lower ≤ low) :
    Realizes store bindings lower after forms refs := by
  have kept (id : Nat) (body : List StatementRef) (fresh : low ≤ id)
      (held : middle.blocks[id]? = some body) : after.blocks[id]? = some body :=
    extended.blocks id body (by omega) held
  induction realized with
  | nothing => exact .nothing
  | function stored fresh held _ _ inner inductionHypothesis =>
    exact .function (extended.statements _ _ stored) (by omega) (kept _ _ fresh held) inner
      inductionHypothesis
  | conditional filled stored thenFresh thenHeld elseFresh elseHeld _ _ _ inner other
      inductionHypothesis =>
    exact .conditional filled (extended.statements _ _ stored) (by omega)
      (kept _ _ thenFresh thenHeld) (by omega) (kept _ _ elseFresh elseHeld) inner other
      inductionHypothesis
  | result filled stored _ inductionHypothesis =>
    exact .result filled (extended.statements _ _ stored) inductionHypothesis
  | assign filled stored _ inductionHypothesis =>
    exact .assign filled (extended.statements _ _ stored) inductionHypothesis
  | raw stored _ inductionHypothesis =>
    exact .raw (extended.statements _ _ stored) inductionHypothesis
  | splice given _ inductionHypothesis => exact .splice given inductionHypothesis

/-- The value of an operand is yielded if it is given. -/
theorem operand_yields {operand : Operand} {value : Value} {text : String}
    (filled : operand.Means bindings value text) (store : Store) :
    (operand.fill bindings.read.values).Yields store value store := by
  rw [read_values]
  have found : operand.value? bindings = some value := filled.1
  cases operand with
  | literal written location =>
    cases found
    exact Build.pure_yields _ store
  | reference name location =>
    cases found
    exact Build.pure_yields _ store
  | point name location =>
    rw [Operand.value?] at found
    rw [Operand.fill, Bindings.get, found]
    exact Build.pure_yields _ store

/-- A binding is yielded if there is one. -/
theorem get_yields {name : String} {value : Value} (found : bindings.lookup name = some value)
    (store : Store) : (Bindings.get bindings.read.values name).Yields store value store := by
  rw [read_values, Bindings.get, found]
  exact Build.pure_yields value store

/-- A body is extended by the statements of a list. -/
theorem extend_yields {value : Value} {items : List Value} {refs : List StatementRef} (block : Nat)
    (list : listed? store value = some items) (same : items.mapM Value.statement? = some refs) :
    (Build.extend block value).Yields store () (store.appended block refs) := by
  have pushed := Build.push_all_yields block refs store
  rw [← statements_eq same] at pushed
  unfold listed? at list
  split at list
  · cases list
    exact pushed
  · cases list
    exact pushed
  · cases list

/-- Statements behind statements realize forms behind forms. -/
theorem realizes_append {low : Nat} {forms others : List Form} {refs refs' : List StatementRef}
    (realized : Realizes store bindings low after forms refs)
    (behind : Realizes store bindings low after others refs') :
    Realizes store bindings low after (forms ++ others) (refs ++ refs') := by
  induction realized with
  | nothing => exact behind
  | function stored fresh held below _ _ inductionHypothesis =>
    exact .function stored fresh held below inductionHypothesis
  | conditional filled stored thenFresh thenHeld elseFresh elseHeld below beside _ _ _
      inductionHypothesis =>
    exact .conditional filled stored thenFresh thenHeld elseFresh elseHeld below beside
      inductionHypothesis
  | result filled stored _ inductionHypothesis => exact .result filled stored inductionHypothesis
  | assign filled stored _ inductionHypothesis => exact .assign filled stored inductionHypothesis
  | raw stored _ inductionHypothesis => exact .raw stored inductionHypothesis
  | splice given _ inductionHypothesis =>
    rw [List.append_assoc]
    exact .splice given inductionHypothesis

/-! ## Filling forms -/

/-- Filling forms into any body succeeds: statements that realize the forms are put at its end, and
everything else is left as it was. The lists that are spliced are those of a given store. -/
def Fills (store : Store) (bindings : Bindings) (forms : List Form) : Prop :=
  ∀ (before : Store) (block : Nat) (held : List StatementRef), before.cells = store.cells →
    before.blocks[block]? = some held →
    ∃ after refs, (Form.fillInto bindings.read block forms).Yields before () after ∧
      before.Extends block after ∧ after.blocks[block]? = some (held ++ refs) ∧
      Realizes store bindings before.blocks.size after forms refs

/-- Filling a form that stands alone succeeds with one statement that realizes it, and everything
that was stored is left as it was. -/
def FillsOne (store : Store) (bindings : Bindings) (form : Form) : Prop :=
  ∀ before : Store, before.cells = store.cells →
    ∃ after ref, (form.fill bindings.read).Yields before ref.value after ∧
      (∀ target, before.Extends target after) ∧
      Realizes store bindings before.blocks.size after [form] [ref]

/-- The forms of a body are filled into a new one. -/
theorem fills_fresh (before : Store) (fresh : Nat) {forms : List Form}
    (fills : Fills store bindings forms) (same : before.cells = store.cells)
    (empty : before.blocks[fresh]? = some []) :
    ∃ after refs, (Form.fillInto bindings.read fresh forms).Yields before () after ∧
      before.Extends fresh after ∧ after.blocks[fresh]? = some refs ∧
      Realizes store bindings before.blocks.size after forms refs := by
  simpa using fills before fresh [] same empty

/-- A function is filled if its body is. -/
theorem fills_function {body : List Form} (fills : Fills store bindings body) (name : String)
    (args : List String) (location : Location) :
    FillsOne store bindings (.function name args body location) := by
  intro before same
  let block := before.blocks.size
  let opened : Store := { before with blocks := before.blocks.push [] }
  let named : Store :=
    { opened with statements := opened.statements.push (.function name args block) }
  obtain ⟨after, refs, filled, extended, held, realized⟩ :=
    fills_fresh named block fills same (by simp [named, opened, block])
  have size : named.blocks.size = block + 1 := by simp [named, opened, block]
  refine ⟨after, ⟨.function, opened.statements.size⟩, ?_, ?_, ?_⟩
  · refine Build.bind_yields (Build.new_block_yields before) ?_
    refine Build.bind_yields (Build.new_statement_yields _ opened) ?_
    exact Build.bind_yields filled (Build.pure_yields _ after)
  · intro target
    have opening : before.Extends target named := Store.extends_trans
      (Build.new_block_extends target before) (Build.new_statement_extends target _ opened)
    exact Store.extends_fresh opening (Nat.le_refl _) extended
  · have stored := extended.statements opened.statements.size (.function name args block)
      (by simp [named])
    refine .function stored (Nat.le_refl _) held ?_ .nothing
    exact realizes_kept realized (Store.extends_refl block after).toKeeps (by omega) (by omega)

/-- A conditional is filled if both its bodies are. The second body is opened before the first is
filled, and is still empty then. -/
theorem fills_conditional {thenForms elseForms : List Form} {rhs : Operand}
    (given : rhs.Given bindings) (fills : Fills store bindings thenForms)
    (elseFills : Fills store bindings elseForms) (lhs : String) (location : Location) :
    FillsOne store bindings (.conditional lhs rhs thenForms elseForms location) := by
  intro before same
  obtain ⟨value, text, filled⟩ := given
  let block := before.blocks.size
  let first : Store := { before with blocks := before.blocks.push [] }
  let second : Store := { first with blocks := first.blocks.push [] }
  have other : first.blocks.size = block + 1 := by simp [first, block]
  let statement : Statement := .conditional (.equals (.reference (.text lhs)) value)
    (.object (.block block)) (.object (.block first.blocks.size))
  let named : Store := { second with statements := second.statements.push statement }
  have size : named.blocks.size = block + 2 := by simp [named, second, first, block]
  have empty : named.blocks[block]? = some [] := by
    have opened : first.blocks[block]? = some [] := by simp [first, block]
    exact (Build.new_block_extends first.blocks.size first).blocks block [] (by omega) opened
  obtain ⟨middle, inner, thenFilled, extended, thenHeld, below⟩ :=
    fills_fresh named block fills same empty
  have stillEmpty : middle.blocks[first.blocks.size]? = some [] :=
    extended.blocks _ [] (by omega) (by simp [named, second])
  obtain ⟨after, others, elseFilled, elseExtended, elseHeld, beside⟩ :=
    fills_fresh middle first.blocks.size elseFills ((Store.extends_cells extended).trans same)
      stillEmpty
  have grown : named.blocks.size ≤ middle.blocks.size := extended.grows
  refine ⟨after, ⟨.conditional, second.statements.size⟩, ?_, ?_, ?_⟩
  · refine Build.bind_yields (operand_yields filled before) ?_
    refine Build.bind_yields (Build.new_block_yields before) ?_
    refine Build.bind_yields (Build.new_block_yields first) ?_
    refine Build.bind_yields (Build.new_statement_yields statement second) ?_
    refine Build.bind_yields thenFilled ?_
    exact Build.bind_yields elseFilled (Build.pure_yields _ after)
  · intro target
    have opening : before.Extends target named := Store.extends_trans
      (Build.new_block_extends target before) (Store.extends_trans
        (Build.new_block_extends target first)
        (Build.new_statement_extends target statement second))
    have thenKept := Store.extends_fresh opening (Nat.le_refl block) extended
    exact Store.extends_fresh thenKept (by omega) elseExtended
  · have stored := elseExtended.statements second.statements.size statement
      (extended.statements _ _ (by simp [named]))
    have thenKept := elseExtended.blocks block inner (by omega) thenHeld
    refine .conditional filled stored (Nat.le_refl _) thenKept (by omega) elseHeld ?_ ?_ .nothing
    · exact realizes_kept below elseExtended.toKeeps (by omega) (by omega)
    · exact realizes_kept beside (Store.extends_refl _ after).toKeeps
        (show first.blocks.size < middle.blocks.size by omega) (by omega)

/-- A statement without bodies is filled if its parts are given. -/
theorem fills_statement {form : Form} (statement : Statement)
    (filled : ∀ before, (form.fill bindings.read).Yields before
      (StatementRef.value ⟨statement.shape, before.statements.size⟩)
      { before with statements := before.statements.push statement })
    (realized : ∀ (low id : Nat) (after : Store), after.statements[id]? = some statement →
      Realizes store bindings low after [form] [⟨statement.shape, id⟩]) :
    FillsOne store bindings form := by
  intro before same
  refine ⟨_, _, filled before, ?_, ?_⟩
  · exact fun target => Build.new_statement_extends target statement before
  · exact realized _ _ _ (by simp)

/-- A splice of one statement is filled by the statement. -/
theorem fills_splice {name : String} {refs : List StatementRef}
    (given : spliced? store bindings name false = some refs) (location : Location) :
    FillsOne store bindings (.splice name false location) := by
  intro before same
  have found := given
  simp only [spliced?, Option.bind_eq_bind, Option.bind_eq_some_iff, Bool.false_eq_true, if_false,
    Option.pure_def, Option.some.injEq] at found
  obtain ⟨value, bound, ref, isStatement, rfl⟩ := found
  obtain rfl := statement_eq isStatement
  refine ⟨before, ref, get_yields bound before, fun target => Store.extends_refl target before, ?_⟩
  exact .splice given .nothing

/-- A form that stands alone is put before forms. -/
theorem fills_cons {form : Form} {rest : List Form} (fills : FillsOne store bindings form)
    (behind : Fills store bindings rest)
    (single : ∀ name location, form ≠ .splice name true location) :
    Fills store bindings (form :: rest) := by
  intro before block held same open'
  have inside : block < before.blocks.size := (Array.getElem?_eq_some_iff.mp open').1
  obtain ⟨middle, ref, filled, kept, realized⟩ := fills before same
  let pushed : Store := middle.appended block [ref]
  have extended : before.Extends block pushed :=
    Store.extends_trans (kept block) (Build.appended_extends block [ref] middle)
  have stillOpen : middle.blocks[block]? = some held :=
    (kept before.blocks.size).blocks block held (by omega) open'
  obtain ⟨after, refs, behindFilled, behindExtended, behindHeld, behindRealized⟩ :=
    behind pushed block (held ++ [ref]) ((Store.extends_cells extended).trans same)
      (Store.appended_block stillOpen [ref])
  have unfolded : Form.fillInto bindings.read block (form :: rest) = (do
      Build.push block (← form.fill bindings.read)
      Form.fillInto bindings.read block rest) := by
    cases form with
    | splice name many location =>
      cases many with
      | false => rfl
      | true => exact absurd rfl (single name location)
    | _ => rfl
  refine ⟨after, ref :: refs, ?_, Store.extends_trans extended behindExtended, ?_, ?_⟩
  · rw [unfolded]
    refine Build.bind_yields filled ?_
    exact Build.bind_yields (Build.push_yields block ref middle) behindFilled
  · simpa using behindHeld
  · have pushedExtended : middle.Extends block after :=
      Store.extends_trans (Build.appended_extends block [ref] middle) behindExtended
    have one := realizes_kept realized pushedExtended.toKeeps inside (Nat.le_refl _)
    have wider := realizes_kept behindRealized (Store.extends_refl block after).toKeeps
      (Nat.lt_of_lt_of_le inside extended.grows) extended.grows
    exact realizes_append one wider

/-- Lists depend on the growing lists alone. -/
theorem listed_same (same : before.cells = store.cells) (value : Value) :
    listed? before value = listed? store value := by
  unfold listed?
  split
  · rfl
  · rw [Store.cell, Store.cell, same]
  · rfl

/-- A splice of a list is put before forms, its statements one by one. -/
theorem fills_sequence {name : String} {items : List StatementRef} {rest : List Form}
    (given : spliced? store bindings name true = some items) (behind : Fills store bindings rest)
    (location : Location) : Fills store bindings (.splice name true location :: rest) := by
  intro before block held same open'
  have inside : block < before.blocks.size := (Array.getElem?_eq_some_iff.mp open').1
  have found := given
  simp only [spliced?, Option.bind_eq_bind, Option.bind_eq_some_iff, if_true] at found
  obtain ⟨value, bound, list, isList, statements⟩ := found
  rw [← listed_same same] at isList
  have extended := Build.appended_extends block items before
  obtain ⟨after, refs, behindFilled, behindExtended, behindHeld, behindRealized⟩ :=
    behind (before.appended block items) block (held ++ items) same
      (Store.appended_block open' items)
  refine ⟨after, items ++ refs, ?_, Store.extends_trans extended behindExtended, ?_, ?_⟩
  · refine Build.bind_yields (get_yields bound before) ?_
    refine Build.bind_yields (extend_yields block isList statements) ?_
    -- nothing comes behind a value that is given as it is
    rw [read_finish]
    exact Build.bind_yields (Build.pure_yields () _) behindFilled
  · simpa using behindHeld
  · have wider := realizes_kept behindRealized (Store.extends_refl block after).toKeeps
      (Nat.lt_of_lt_of_le inside extended.grows) extended.grows
    exact .splice given wider

/-- Suited forms are filled. The induction follows the nesting of the forms. -/
theorem fills_suited (forms : List Form) (suited : Form.SuitedAll store bindings forms) :
    Fills store bindings forms := by
  induction forms using forms_induction with
  | nothing =>
    intro before block held _ open'
    exact ⟨before, [], Build.pure_yields () before, Store.extends_refl block before,
      by simpa using open', .nothing⟩
  | function name args body location rest inner behind =>
    refine fills_cons (fills_function (inner suited.1) name args location) (behind suited.2) ?_
    simp
  | conditional lhs rhs thenBody elseBody location rest inner elseInner behind =>
    obtain ⟨⟨given, suitedThen, suitedElse⟩, suitedRest⟩ := suited
    refine fills_cons (fills_conditional given (inner suitedThen) (elseInner suitedElse) lhs
      location) (behind suitedRest) ?_
    simp
  | result operand location rest behind =>
    obtain ⟨⟨value, text, filled⟩, suitedRest⟩ := suited
    refine fills_cons (fills_statement (.result value) ?_ ?_) (behind suitedRest) ?_
    · intro before
      refine Build.bind_yields (operand_yields filled before) ?_
      exact Build.bind_yields (Build.new_statement_yields _ before) (Build.pure_yields _ _)
    · intro low id after stored
      exact .result filled stored .nothing
    · simp
  | assign target operand location rest behind =>
    obtain ⟨⟨value, text, filled⟩, suitedRest⟩ := suited
    refine fills_cons (fills_statement (.assignment (.text target) value) ?_ ?_)
      (behind suitedRest) ?_
    · intro before
      refine Build.bind_yields (operand_yields filled before) ?_
      exact Build.bind_yields (Build.new_statement_yields _ before) (Build.pure_yields _ _)
    · intro low id after stored
      exact .assign filled stored .nothing
    · simp
  | raw text location rest behind =>
    refine fills_cons (fills_statement (.raw text) ?_ ?_) (behind suited.2) ?_
    · intro before
      exact Build.bind_yields (Build.new_statement_yields _ before) (Build.pure_yields _ _)
    · intro low id after stored
      exact .raw stored .nothing
    · simp
  | splice name many location rest behind =>
    obtain ⟨⟨refs, given⟩, suitedRest⟩ := suited
    cases many with
    | false =>
      refine fills_cons (fills_splice given location) (behind suitedRest) ?_
      simp
    | true => exact fills_sequence given (behind suitedRest) location

end Stencil.Template
