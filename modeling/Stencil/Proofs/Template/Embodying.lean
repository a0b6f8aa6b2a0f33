import Stencil.Proofs.Template.Meaning
import Stencil.Proofs.Template.Sparing

/-!
# What a call returns

A call that returns gives new statements that are what the forms say. `Embodies` says
this of listed statements with any values at all: operands are the given values
themselves, a spliced form is the statement given for it or the statements that the given
value supplies, and the bodies of the other statements are new and hold what the inner
forms say. An iterator supplies what it has left, so a second splice of it gives nothing;
`Embodies` follows what iterators have left in the order in which forms are filled.

Filling forms into a new body puts statements there that embody the forms, if it succeeds
(`fill_into_embodies`), and so a call does (`call_embodies`).
-/

namespace Stencil.Template

open Code

/-- What iterators have left. -/
abbrev Leftovers := Nat → List Value

/-- What is supplied, in a store with iterators that have something left. -/
def gives (store : Store) (left : Leftovers) : Build.Supply → List Value
  | .items items => items
  | .cell id => store.cell id
  | .block id => store.remaining (.block id 0)
  | .walk id => left id

/-- What iterators have left when a supply has been taken. -/
def Leftovers.behind (left : Leftovers) : Build.Supply → Leftovers
  | .walk id => fun other => if other = id then [] else left other
  | _ => left

/-- Stored statements are what forms say, with exactly the values and statements that were given for
their points. All others are new, and the bodies of these have numbers from a bound on. -/
inductive Embodies (ground : Store) (bindings : Bindings) (low : Nat) (after : Store) :
    Leftovers → List Form → List StatementRef → Leftovers → Prop where
  | nothing {left : Leftovers} : Embodies ground bindings low after left [] [] left
  | function {left middle last : Leftovers} {name : String} {args : List String}
      {body forms : List Form} {location : Location} {id block : Nat}
      {inner refs : List StatementRef}
      (stored : after.statements[id]? = some (.function name args block))
      (new : ground.statements.size ≤ id) (fresh : low ≤ block)
      (held : after.blocks[block]? = some inner)
      (below : Embodies ground bindings low after left body inner middle)
      (behind : Embodies ground bindings low after middle forms refs last) :
      Embodies ground bindings low after left (.function name args body location :: forms)
        (⟨.function, id⟩ :: refs) last
  | conditional {left middle next last : Leftovers} {lhs : String} {rhs : Operand}
      {thenForms elseForms forms : List Form} {location : Location} {id thenBlock elseBlock : Nat}
      {inner other refs : List StatementRef} {value : Value}
      (filled : rhs.value? bindings = some value)
      (stored : after.statements[id]? = some (.conditional (.equals (.reference (.text lhs)) value)
        (.object (.block thenBlock)) (.object (.block elseBlock))))
      (new : ground.statements.size ≤ id)
      (thenFresh : low ≤ thenBlock) (thenHeld : after.blocks[thenBlock]? = some inner)
      (elseFresh : low ≤ elseBlock) (elseHeld : after.blocks[elseBlock]? = some other)
      (apart : thenBlock ≠ elseBlock)
      (below : Embodies ground bindings low after left thenForms inner middle)
      (beside : Embodies ground bindings low after middle elseForms other next)
      (behind : Embodies ground bindings low after next forms refs last) :
      Embodies ground bindings low after left
        (.conditional lhs rhs thenForms elseForms location :: forms) (⟨.conditional, id⟩ :: refs)
        last
  | result {left last : Leftovers} {operand : Operand} {forms : List Form} {location : Location}
      {id : Nat} {refs : List StatementRef} {value : Value}
      (filled : operand.value? bindings = some value)
      (stored : after.statements[id]? = some (.result value)) (new : ground.statements.size ≤ id)
      (behind : Embodies ground bindings low after left forms refs last) :
      Embodies ground bindings low after left (.result operand location :: forms)
        (⟨.result, id⟩ :: refs) last
  | assign {left last : Leftovers} {target : String} {operand : Operand} {forms : List Form}
      {location : Location} {id : Nat} {refs : List StatementRef} {value : Value}
      (filled : operand.value? bindings = some value)
      (stored : after.statements[id]? = some (.assignment (.text target) value))
      (new : ground.statements.size ≤ id)
      (behind : Embodies ground bindings low after left forms refs last) :
      Embodies ground bindings low after left (.assign target operand location :: forms)
        (⟨.assignment, id⟩ :: refs) last
  | raw {left last : Leftovers} {text : String} {forms : List Form} {location : Location}
      {id : Nat} {refs : List StatementRef} (stored : after.statements[id]? = some (.raw text))
      (new : ground.statements.size ≤ id)
      (behind : Embodies ground bindings low after left forms refs last) :
      Embodies ground bindings low after left (.raw text location :: forms) (⟨.raw, id⟩ :: refs)
        last
  | one {left last : Leftovers} {name : String} {forms : List Form} {location : Location}
      {ref : StatementRef} {refs : List StatementRef}
      (given : bindings.lookup name = some ref.value)
      (behind : Embodies ground bindings low after left forms refs last) :
      Embodies ground bindings low after left (.splice name false location :: forms) (ref :: refs)
        last
  | many {left last : Leftovers} {name : String} {forms : List Form} {location : Location}
      {value : Value} {supply : Build.Supply} {items refs : List StatementRef}
      (given : bindings.lookup name = some value) (supplied : Build.supply value = .ok supply)
      (all : gives ground left supply = items.map StatementRef.value)
      (behind : Embodies ground bindings low after (left.behind supply) forms refs last) :
      Embodies ground bindings low after left (.splice name true location :: forms) (items ++ refs)
        last

variable {readings : Readings} {bindings : Bindings} {ground store before middle after : Store}

/-- Statements go on embodying forms while older bodies grow and new objects are stored. -/
theorem embodies_kept {target low lower : Nat} {forms : List Form} {refs : List StatementRef}
    {left last : Leftovers} (embodied : Embodies ground bindings low middle left forms refs last)
    (keeps : middle.Keeps target after) (older : target < low) (wider : lower ≤ low) :
    Embodies ground bindings lower after left forms refs last := by
  have kept (id : Nat) (body : List StatementRef) (fresh : low ≤ id)
      (held : middle.blocks[id]? = some body) : after.blocks[id]? = some body :=
    keeps.blocks id body (by omega) held
  induction embodied with
  | nothing => exact .nothing
  | function stored new fresh held _ _ inner inductionHypothesis =>
    exact .function (keeps.statements _ _ stored) new (by omega) (kept _ _ fresh held) inner
      inductionHypothesis
  | conditional filled stored new thenFresh thenHeld elseFresh elseHeld apart _ _ _ inner other
      inductionHypothesis =>
    exact .conditional filled (keeps.statements _ _ stored) new (by omega)
      (kept _ _ thenFresh thenHeld) (by omega) (kept _ _ elseFresh elseHeld) apart inner other
      inductionHypothesis
  | result filled stored new _ inductionHypothesis =>
    exact .result filled (keeps.statements _ _ stored) new inductionHypothesis
  | assign filled stored new _ inductionHypothesis =>
    exact .assign filled (keeps.statements _ _ stored) new inductionHypothesis
  | raw stored new _ inductionHypothesis =>
    exact .raw (keeps.statements _ _ stored) new inductionHypothesis
  | one given _ inductionHypothesis => exact .one given inductionHypothesis
  | many given supplied all _ inductionHypothesis =>
    exact .many given supplied all inductionHypothesis

/-- Statements behind statements embody forms behind forms. -/
theorem embodies_append {low : Nat} {forms others : List Form} {refs refs' : List StatementRef}
    {left between last : Leftovers}
    (embodied : Embodies ground bindings low after left forms refs between)
    (behind : Embodies ground bindings low after between others refs' last) :
    Embodies ground bindings low after left (forms ++ others) (refs ++ refs') last := by
  induction embodied with
  | nothing => exact behind
  | function stored new fresh held below _ _ inductionHypothesis =>
    exact .function stored new fresh held below (inductionHypothesis behind)
  | conditional filled stored new thenFresh thenHeld elseFresh elseHeld apart below beside _ _ _
      inductionHypothesis =>
    exact .conditional filled stored new thenFresh thenHeld elseFresh elseHeld apart below beside
      (inductionHypothesis behind)
  | result filled stored new _ inductionHypothesis =>
    exact .result filled stored new (inductionHypothesis behind)
  | assign filled stored new _ inductionHypothesis =>
    exact .assign filled stored new (inductionHypothesis behind)
  | raw stored new _ inductionHypothesis => exact .raw stored new (inductionHypothesis behind)
  | one given _ inductionHypothesis => exact .one given (inductionHypothesis behind)
  | many given supplied all _ inductionHypothesis =>
    rw [List.append_assoc]
    exact .many given supplied all (inductionHypothesis behind)

/-! ## Steps that have succeeded -/

/-- A binding that has been looked up is there. -/
theorem get_found {name : String} {value : Value}
    (done : (bindings.get name).Yields before value after) :
    bindings.lookup name = some value ∧ after = before := by
  unfold Bindings.get at done
  split at done
  · rename_i found
    cases done
    exact ⟨found, rfl⟩
  · cases done

/-- The value of an operand that has been filled is the one given for it. -/
theorem operand_filled {operand : Operand} {value : Value}
    (done : (operand.fill bindings).Yields before value after) :
    operand.value? bindings = some value ∧ after = before := by
  cases operand with
  | literal text location =>
    cases done
    exact ⟨rfl, rfl⟩
  | reference name location =>
    cases done
    exact ⟨rfl, rfl⟩
  | point name location => exact get_found done

/-- A reading that has come to its end leaves the store. -/
theorem finish_done {name : String} (done : (readings.finish name).Yields before () after) :
    after = before := by
  unfold Readings.finish at done
  split at done
  · unfold Reading.finish at done
    split at done
    · cases done
    · cases done
      rfl
  · cases done
    rfl

/-! ## What iterators have left -/

section Leftovers

variable {spent : Nat → Prop} (adds : ground.Adds spent before) (later : ground.Adds spent after)

include adds later

/-- An iterator that stays where it is has as much left. -/
theorem left_same {id : Nat} (same : after.walks[id]? = before.walks[id]?) :
    after.left id = before.left id := by
  rw [Store.left, Store.left, same]
  cases come : before.walks[id]? with
  | none => rfl
  | some walk =>
    have held := (adds.walks id walk come).1
    rw [Option.getD_some, adds_remaining adds held, adds_remaining later held]

/-- Iterators that stay where they are have as much left. -/
theorem leftovers_same (same : after.walks = before.walks) : after.left = before.left := by
  funext id
  exact left_same adds later (by rw [same])

/-- When a body has taken what a value supplies, the iterator that it walked through has nothing
left. -/
theorem leftovers_took {value : Value} {supply : Build.Supply} {block : Nat}
    {refs : List StatementRef} (supplied : Build.supply value = .ok supply)
    (took : before.Took after block (.all value) refs []) :
    after.left = Leftovers.behind before.left supply := by
  funext other
  cases supply with
  | walk id =>
    have walks : (Feed.all value).walk? = some id := by simp only [Feed.walk?, supplied]
    simp only [Leftovers.behind]
    split
    · rename_i here
      rw [here]
      exact took.walked id walks
    · rename_i apart
      refine left_same adds later (took.iterators other fun own => apart ?_)
      exact Option.some.inj (own.symm.trans walks)
  | items | block | cell =>
    have walks : (Feed.all value).walk? = none := by simp only [Feed.walk?, supplied]
    exact left_same adds later (took.iterators other (by simp [walks]))

end Leftovers

/-- What a given value supplies is what it supplied before the call, iterators apart. -/
theorem supplied_given {spent : Nat → Prop} (adds : ground.Adds spent store) {value : Value}
    {supply : Build.Supply} (held : value.Held ground)
    (supplied : Build.supply value = .ok supply) :
    store.supplied supply = gives ground store.left supply := by
  have inside := supply_held held supplied
  cases supply with
  | items items => rfl
  | cell id => exact adds_cell adds inside
  | block id =>
    have old : (Walk.block id 0).Held ground := inside
    exact adds_remaining adds old
  | walk id => rfl

/-! ## Filling -/

/-- A form has been filled: there is one new statement that embodies it, and all statements and
bodies that were there are kept. -/
def Filled (ground : Store) (readings : Readings) (before : Store) (form : Form) (value : Value)
    (after : Store) : Prop :=
  ∃ ref : StatementRef, value = ref.value ∧ (∀ target, before.Keeps target after) ∧
    Embodies ground readings.values before.blocks.size after before.left [form] [ref] after.left

/-- Forms have been filled into a body: statements that embody them are at its end, and all other
statements and bodies are kept. -/
def FilledInto (ground : Store) (readings : Readings) (before : Store) (block : Nat)
    (forms : List Form) (after : Store) : Prop :=
  ∀ held, before.blocks[block]? = some held → ∃ refs, before.Keeps block after ∧
    after.blocks[block]? = some (held ++ refs) ∧
    Embodies ground readings.values before.blocks.size after before.left forms refs after.left

/-- A function has been filled if its body has been. -/
theorem filled_function {name : String} {args : List String} {body : List Form}
    {location : Location} {named : Store}
    (adds : ground.Adds readings.Spends before) (later : ground.Adds readings.Spends named)
    (is : named = { before with
      blocks := before.blocks.push []
      statements := before.statements.push (.function name args before.blocks.size) })
    (filled : FilledInto ground readings named before.blocks.size body after) :
    Filled ground readings before (.function name args body location)
      (.object (.statement ⟨.function, before.statements.size⟩)) after := by
  have size : named.blocks.size = before.blocks.size + 1 := by simp [is]
  have opening (target : Nat) : before.Keeps target named := by
    rw [is]
    exact Store.keeps_trans (Build.new_block_extends target before).toKeeps
      (Build.new_statement_extends target _ _).toKeeps
  obtain ⟨refs, keeps, held, embodied⟩ := filled [] (by simp [is])
  have left : named.left = before.left := leftovers_same adds later (by rw [is])
  have stored := keeps.statements before.statements.size
    (.function name args before.blocks.size) (by simp [is])
  refine ⟨⟨.function, before.statements.size⟩, rfl, fun target => ?_, ?_⟩
  · exact Store.keeps_fresh (opening target) (Nat.le_refl _) keeps
  · refine .function stored (size_of_kept adds.statements) (Nat.le_refl _) held ?_ .nothing
    rw [← left]
    exact embodies_kept embodied (Store.extends_refl before.blocks.size after).toKeeps (by omega)
      (by omega)

/-- A conditional has been filled if both its bodies have been. The second body is opened before the
first is filled, and is still empty then. -/
theorem filled_conditional {lhs : String} {rhs : Operand} {thenForms elseForms : List Form}
    {location : Location} {value : Value} {named : Store}
    (adds : ground.Adds readings.Spends before) (later : ground.Adds readings.Spends named)
    (given : rhs.value? readings.values = some value)
    (is : named = { before with
      blocks := (before.blocks.push []).push []
      statements := before.statements.push (.conditional (.equals (.reference (.text lhs)) value)
        (.object (.block before.blocks.size)) (.object (.block (before.blocks.size + 1)))) })
    (first : FilledInto ground readings named before.blocks.size thenForms middle)
    (second : FilledInto ground readings middle (before.blocks.size + 1) elseForms after) :
    Filled ground readings before (.conditional lhs rhs thenForms elseForms location)
      (.object (.statement ⟨.conditional, before.statements.size⟩)) after := by
  have size : named.blocks.size = before.blocks.size + 2 := by simp [is]
  have opening (target : Nat) : before.Keeps target named := by
    rw [is]
    refine Store.keeps_trans (Build.new_block_extends target before).toKeeps ?_
    exact Store.keeps_trans (Build.new_block_extends target _).toKeeps
      (Build.new_statement_extends target _ _).toKeeps
  have empty : named.blocks[before.blocks.size + 1]? = some [] := by
    rw [is, Array.getElem?_push, if_pos (by simp)]
  have free : named.blocks[before.blocks.size]? = some [] := by
    rw [is, Array.getElem?_push, if_neg (by simp), Array.getElem?_push_size]
  obtain ⟨inner, keeps, thenHeld, below⟩ := first [] free
  have open' := keeps.blocks (before.blocks.size + 1) [] (by omega) empty
  obtain ⟨other, onward, elseHeld, beside⟩ := second [] open'
  have left : named.left = before.left := leftovers_same adds later (by rw [is])
  have stored := onward.statements _ _ (keeps.statements before.statements.size _
    (by rw [is]; exact Array.getElem?_push_size))
  have grows := keeps.grows
  refine ⟨⟨.conditional, before.statements.size⟩, rfl, fun target => ?_, ?_⟩
  · refine Store.keeps_fresh ?_ (Nat.le_succ _) onward
    exact Store.keeps_fresh (opening target) (Nat.le_refl _) keeps
  · have thenBody := onward.blocks before.blocks.size _ (by omega) thenHeld
    have inside : Embodies ground readings.values before.blocks.size after named.left thenForms
        inner middle.left := embodies_kept below onward (by omega) (by omega)
    have behind : Embodies ground readings.values before.blocks.size after middle.left elseForms
        other after.left :=
      embodies_kept beside (Store.extends_refl before.blocks.size after).toKeeps (by omega)
        (by omega)
    rw [← left]
    exact .conditional given stored (size_of_kept adds.statements) (Nat.le_refl _) thenBody
      (Nat.le_succ _) elseHeld (by omega) inside behind .nothing

/-- A statement without bodies has been filled. -/
theorem filled_statement {form : Form} {statement : Statement} {value : Value}
    (adds : ground.Adds readings.Spends before) (later : ground.Adds readings.Spends after)
    (embodies : ∀ store : Store, store.statements[before.statements.size]? = some statement →
      Embodies ground readings.values before.blocks.size store before.left [form]
        [⟨statement.shape, before.statements.size⟩] before.left)
    (done : (do
      return .object (.statement (← Build.newStatement statement)) : Build Value).Yields before
        value after) : Filled ground readings before form value after := by
  obtain ⟨ref, stored, made, ended⟩ := Build.bind_yields_iff.mp done
  cases (Build.new_statement_yields statement before).symm.trans made
  cases ended
  refine ⟨_, rfl, fun target => (Build.new_statement_extends target statement before).toKeeps, ?_⟩
  rw [leftovers_same adds later rfl]
  exact embodies _ (by simp)

/-- No form has been filled. -/
theorem filled_into_nil (store : Store) (block : Nat) :
    FilledInto ground readings store block [] store := by
  intro held open'
  refine ⟨[], (Store.extends_refl block store).toKeeps, ?_, .nothing⟩
  rw [open', List.append_nil]

section Behind

variable {block : Nat} {rest : List Form} {refs : List StatementRef}

/-- Statements that embody forms have been put at the end of a body, and the rest behind them. -/
theorem filled_into_behind {forms : List Form} {pushed : Store}
    (keeps : before.Keeps block pushed)
    (taken : ∀ held, before.blocks[block]? = some held →
      pushed.blocks[block]? = some (held ++ refs))
    (embodied : ∀ store : Store, pushed.Keeps block store →
      block < before.blocks.size → Embodies ground readings.values before.blocks.size store
        before.left forms refs pushed.left)
    (behind : FilledInto ground readings pushed block rest after) :
    FilledInto ground readings before block (forms ++ rest) after := by
  intro held open'
  have inside : block < before.blocks.size := (Array.getElem?_eq_some_iff.mp open').1
  obtain ⟨others, onward, all, last⟩ := behind _ (taken held open')
  refine ⟨refs ++ others, Store.keeps_trans keeps onward, ?_, ?_⟩
  · rw [all, List.append_assoc]
  · refine embodies_append (embodied after onward inside) ?_
    exact embodies_kept last (Store.extends_refl block after).toKeeps
      (Nat.lt_of_lt_of_le inside keeps.grows) keeps.grows

/-- A statement that stands for a form has been put at the end of a body. -/
theorem filled_into_standing {form : Form} {value : Value} {ref : StatementRef}
    (adds : ground.Adds readings.Spends middle)
    (later : ground.Adds readings.Spends (middle.appended block [ref]))
    (filled : Filled ground readings before form value middle) (is : value = ref.value)
    (behind : FilledInto ground readings (middle.appended block [ref]) block rest after) :
    FilledInto ground readings before block (form :: rest) after := by
  obtain ⟨other, same, keeps, embodied⟩ := filled
  cases same.symm.trans is
  have grown := (Build.appended_extends block [ref] middle).toKeeps
  -- The body was there when the form was filled, and is kept by that.
  have taken (held : List StatementRef) (open' : before.blocks[block]? = some held) :
      (middle.appended block [ref]).blocks[block]? = some (held ++ [ref]) := by
    have inside : block < before.blocks.size := (Array.getElem?_eq_some_iff.mp open').1
    have still := (keeps before.blocks.size).blocks block held (Nat.ne_of_lt inside) open'
    exact Store.appended_block still [ref]
  change FilledInto ground readings before block ([form] ++ rest) after
  refine filled_into_behind (Store.keeps_trans (keeps block) grown) taken
    (fun store onward inside => ?_) behind
  rw [leftovers_same adds later rfl]
  exact embodies_kept embodied (Store.keeps_trans grown onward) inside (Nat.le_refl _)

/-- A given statement has been put at the end of a body. -/
theorem filled_into_one {name : String} {location : Location} {ref : StatementRef}
    (adds : ground.Adds readings.Spends before)
    (later : ground.Adds readings.Spends (before.appended block [ref]))
    (given : readings.values.lookup name = some ref.value)
    (behind : FilledInto ground readings (before.appended block [ref]) block rest after) :
    FilledInto ground readings before block (.splice name false location :: rest) after := by
  change FilledInto ground readings before block ([_] ++ rest) after
  refine filled_into_behind (Build.appended_extends block [ref] before).toKeeps
    (fun held open' => Store.appended_block open' [ref]) (fun store onward inside => ?_) behind
  rw [leftovers_same adds later rfl]
  exact .one given .nothing

/-- What a given value supplies has been put at the end of a body. -/
theorem filled_into_many {name : String} {location : Location} {value : Value}
    {supply : Build.Supply} (adds : ground.Adds readings.Spends before)
    (later : ground.Adds readings.Spends middle) (held : value.Held ground)
    (given : readings.values.lookup name = some value)
    (supplied : Build.supply value = .ok supply)
    (all : before.intake (.all value) = refs.map StatementRef.value)
    (took : before.Took middle block (.all value) refs [])
    (behind : FilledInto ground readings middle block rest after) :
    FilledInto ground readings before block (.splice name true location :: rest) after := by
  have taken (held : List StatementRef) (open' : before.blocks[block]? = some held) :
      middle.blocks[block]? = some (held ++ refs) := by
    rw [took.body, open', Option.map_some]
  change FilledInto ground readings before block ([_] ++ rest) after
  refine filled_into_behind (took_keeps took) taken (fun store onward inside => ?_) behind
  rw [leftovers_took adds later supplied took]
  rw [intake_supplied supplied, supplied_given adds held supplied] at all
  have one : Embodies ground readings.values before.blocks.size store before.left
      [.splice name true location] (refs ++ []) _ := .many given supplied all .nothing
  rwa [List.append_nil] at one

end Behind

mutual

/-- A form that is filled is embodied by a new statement, unless it is a splice. The cases are those
of the form. Its statement is new, with bodies of its own, and these embody the forms inside, by
recursion. -/
theorem fill_embodies (sound : ground.Sound) (held : readings.Held ground) (form : Form)
    (standing : ∀ name many location, form ≠ .splice name many location) {before after : Store}
    {value : Value} (invariant : (readings.storing ground).holds before)
    (done : (form.fill readings).Yields before value after) :
    Filled ground readings before form value after := by
  have kept := (Frame.covers_yields (fill_stores sound held form) invariant done).1
  cases form with
  | function name args body location =>
    rw [Form.fill] at done
    obtain ⟨block, opened, made, done⟩ := Build.bind_yields_iff.mp done
    obtain ⟨first, new⟩ := Frame.covers_yields new_block_stores invariant made
    cases (Build.new_block_yields before).symm.trans made
    obtain ⟨ref, named, made, done⟩ := Build.bind_yields_iff.mp done
    have stored := Frame.covers_yields
      (new_statement_stores (List.forall_mem_singleton.mpr (.inl new)) (by simpa [Statement.body?]))
      first made
    cases (Build.new_statement_yields _ _).symm.trans made
    obtain ⟨_, last, into, ended⟩ := Build.bind_yields_iff.mp done
    cases ended
    exact filled_function invariant.1 stored.1.1 rfl
      (fill_into_embodies sound held body _ new stored.1 into)
  | conditional lhs rhs thenBody elseBody location =>
    rw [Form.fill] at done
    obtain ⟨value, same, filled, opening⟩ := Build.bind_yields_iff.mp done
    have made := (Frame.covers_yields (operand_stores rhs) invariant filled).2
    obtain ⟨given, rfl⟩ := operand_filled filled
    obtain ⟨thenBlock, once, thenOpened, further⟩ := Build.bind_yields_iff.mp opening
    obtain ⟨first, thenNew⟩ := Frame.covers_yields new_block_stores invariant thenOpened
    cases (Build.new_block_yields same).symm.trans thenOpened
    obtain ⟨elseBlock, twice, elseOpened, naming⟩ := Build.bind_yields_iff.mp further
    obtain ⟨second, elseNew⟩ := Frame.covers_yields new_block_stores first elseOpened
    cases (Build.new_block_yields _).symm.trans elseOpened
    obtain ⟨ref, named, stored, filling⟩ := Build.bind_yields_iff.mp naming
    have third := (Frame.covers_yields (new_statement_stores (by
      simp only [Statement.mentions, Value.mentions, List.nil_append, List.forall_mem_append,
        List.forall_mem_singleton]
      exact ⟨⟨made, .inl thenNew⟩, .inl elseNew⟩) (by simp [Statement.body?])) second stored).1
    cases (Build.new_statement_yields _ _).symm.trans stored
    obtain ⟨_, middle, thenInto, remaining⟩ := Build.bind_yields_iff.mp filling
    have fourth :=
      (Frame.covers_yields (fill_into_stores sound held thenBody _ thenNew) third thenInto).1
    obtain ⟨_, last, elseInto, ended⟩ := Build.bind_yields_iff.mp remaining
    cases ended
    simp only [Array.size_push] at elseInto elseNew
    exact filled_conditional invariant.1 third.1 given (by simp)
      (fill_into_embodies sound held thenBody _ thenNew third thenInto)
      (fill_into_embodies sound held elseBody _ elseNew fourth elseInto)
  | result value location =>
    simp only [Form.fill] at done
    obtain ⟨value, middle, filled, made⟩ := Build.bind_yields_iff.mp done
    obtain ⟨given, rfl⟩ := operand_filled filled
    exact filled_statement invariant.1 kept.1
      (fun store stored => .result given stored (size_of_kept invariant.1.statements) .nothing) made
  | assign target value location =>
    simp only [Form.fill] at done
    obtain ⟨value, middle, filled, made⟩ := Build.bind_yields_iff.mp done
    obtain ⟨given, rfl⟩ := operand_filled filled
    exact filled_statement invariant.1 kept.1
      (fun store stored => .assign given stored (size_of_kept invariant.1.statements) .nothing) made
  | raw text location =>
    simp only [Form.fill] at done
    exact filled_statement invariant.1 kept.1
      (fun store stored => .raw stored (size_of_kept invariant.1.statements) .nothing) done
  | splice name many location => exact absurd rfl (standing name many location)

/-- Forms that are filled into a new body are embodied by statements at its end. -/
theorem fill_into_embodies (sound : ground.Sound) (held : readings.Held ground) (forms : List Form)
    (block : Nat) (new : ground.blocks.size ≤ block) {before after : Store}
    (invariant : (readings.storing ground).holds before)
    (done : (Form.fillInto readings block forms).Yields before () after) :
    FilledInto ground readings before block forms after := by
  cases forms with
  | nil =>
    rw [Form.fillInto] at done
    cases done
    exact filled_into_nil before block
  | cons form rest =>
    -- A statement that stands for the first form is pushed, and the rest is filled behind it.
    have pushed (standing : ∀ name many location, form ≠ .splice name many location)
        (steps : (do
          Build.push block (← form.fill readings)
          Form.fillInto readings block rest : Build Unit).Yields before () after) :
        FilledInto ground readings before block (form :: rest) after := by
      obtain ⟨value, middle, filled, taking⟩ := Build.bind_yields_iff.mp steps
      obtain ⟨first, made⟩ := Frame.covers_yields (fill_stores sound held form) invariant filled
      obtain ⟨_, taken, put, behind⟩ := Build.bind_yields_iff.mp taking
      have second := (Frame.covers_yields (push_stores sound held new made) first put).1
      obtain ⟨ref, is, rfl⟩ := push_took put
      exact filled_into_standing first.1 second.1
        (fill_embodies sound held form standing invariant filled) is
        (fill_into_embodies sound held rest block new second behind)
    cases form with
    | splice name many location =>
      cases many with
      | true =>
        simp only [Form.fillInto] at done
        obtain ⟨value, same, found, taking⟩ := Build.bind_yields_iff.mp done
        have given := (Frame.covers_yields (get_stores name) invariant found).2
        obtain ⟨bound, rfl⟩ := get_found found
        obtain ⟨_, middle, extended, ending⟩ := Build.bind_yields_iff.mp taking
        have second :=
          (Frame.covers_yields (extend_stores sound held new given) invariant extended).1
        obtain ⟨supply, refs, supplied, all, took⟩ := extend_took extended
        obtain ⟨_, last, finished, behind⟩ := Build.bind_yields_iff.mp ending
        obtain rfl := finish_done finished
        obtain ⟨reading, member, rfl⟩ := given
        exact filled_into_many invariant.1 second.1 (held reading member) bound supplied all took
          (fill_into_embodies sound held rest block new second behind)
      | false =>
        simp only [Form.fillInto, Form.fill] at done
        obtain ⟨value, same, found, taking⟩ := Build.bind_yields_iff.mp done
        have given := (Frame.covers_yields (get_stores name) invariant found).2
        obtain ⟨bound, rfl⟩ := get_found found
        obtain ⟨_, taken, put, behind⟩ := Build.bind_yields_iff.mp taking
        have second :=
          (Frame.covers_yields (push_stores sound held new (given_makes given)) invariant put).1
        obtain ⟨ref, rfl, rfl⟩ := push_took put
        exact filled_into_one invariant.1 second.1 bound
          (fill_into_embodies sound held rest block new second behind)
    | function | conditional | result | assign | raw =>
      exact pushed (by simp) (by simpa only [Form.fillInto] using done)

end

/-! ## Calls -/

/-- A value is what a template says: a new list of statements that embody its forms, or the
statement that embodies its one form. A form that is only a splice is what was given for it. -/
inductive Returns (ground : Store) (bindings : Bindings) (template : Template) (after : Store) :
    Value → Prop where
  | list {id : Nat} {refs : List StatementRef} (kind : template.kind = .statements)
      (new : ground.cells.size ≤ id)
      (items : after.cells[id]? = some (refs.map StatementRef.value))
      (embodied : Embodies ground bindings ground.blocks.size after ground.left template.forms refs
        after.left) : Returns ground bindings template after (.object (.cell id))
  | one {form : Form} {rest : List Form} {ref : StatementRef} (kind : template.kind ≠ .statements)
      (forms : template.forms = form :: rest)
      (embodied : Embodies ground bindings ground.blocks.size after ground.left [form] [ref]
        after.left) : Returns ground bindings template after ref.value
  | given {name : String} {many : Bool} {location : Location} {rest : List Form} {value : Value}
      (kind : template.kind ≠ .statements)
      (forms : template.forms = .splice name many location :: rest)
      (bound : bindings.lookup name = some value) : Returns ground bindings template after value
  | nothing (kind : template.kind ≠ .statements) (forms : template.forms = []) :
      Returns ground bindings template after .none

/-- The forms of a template that gives a list are filled into a new body, which becomes the list. -/
theorem list_returned (sound : ground.Sound) (held : readings.Held ground) {template : Template}
    {value : Value} (kind : template.kind = .statements)
    (later : ground.Adds readings.Spends after)
    (done : (do
      let block ← Build.newBlock
      Form.fillInto readings block template.forms
      let items := (← get).remaining (.block block 0)
      return .object (← Build.newCell items) : Build Value).Yields ground value after) :
    Returns ground readings.values template after value := by
  have start : (readings.storing ground).holds ground := storing_start sound
  obtain ⟨block, opened, made, filling⟩ := Build.bind_yields_iff.mp done
  obtain ⟨first, new⟩ := Frame.covers_yields new_block_stores start made
  cases (Build.new_block_yields ground).symm.trans made
  obtain ⟨_, filled, into, listing⟩ := Build.bind_yields_iff.mp filling
  have second := (Frame.covers_yields (fill_into_stores sound held _ _ new) first into).1
  obtain ⟨refs, keeps, open', embodied⟩ :=
    fill_into_embodies sound held template.forms _ new first into [] (by simp)
  obtain ⟨_, same, looked, storing⟩ := Build.bind_yields_iff.mp listing
  cases looked
  obtain ⟨_, last, stored, ended⟩ := Build.bind_yields_iff.mp storing
  have items : filled.remaining (.block ground.blocks.size 0) = refs.map StatementRef.value := by
    rw [Store.remaining, block_eq open', List.drop_zero]
    rfl
  rw [items] at stored
  cases (Build.new_cell_yields _ filled).symm.trans stored
  cases ended
  have stays : Store.Keeps ground.blocks.size filled
      { filled with cells := filled.cells.push (refs.map StatementRef.value) } :=
    ⟨fun _ _ stored => stored, fun _ _ _ held => held, Nat.le_refl _⟩
  have opening : Store.left { ground with blocks := ground.blocks.push [] } = ground.left :=
    leftovers_same start.1 first.1 rfl
  refine .list kind (size_of_kept second.1.cells) Array.getElem?_push_size ?_
  rw [leftovers_same second.1 later rfl, ← opening]
  exact embodies_kept embodied stays (by simp) (by simp)

/-- A form that stands alone is returned, if it is filled. -/
theorem one_returned (sound : ground.Sound) (held : readings.Held ground) {template : Template}
    {form : Form} {rest : List Form} {value : Value} (kind : template.kind ≠ .statements)
    (forms : template.forms = form :: rest)
    (done : (form.fill readings).Yields ground value after) :
    Returns ground readings.values template after value := by
  have standing (named : ∀ name many location, form ≠ .splice name many location) :
      Returns ground readings.values template after value := by
    obtain ⟨ref, rfl, _, embodied⟩ :=
      fill_embodies sound held form named (storing_start sound) done
    exact .one kind forms embodied
  cases form with
  | splice name many location =>
    simp only [Form.fill] at done
    exact .given kind forms (get_found done).1
  | function | conditional | result | assign | raw => exact standing (by simp)

/-- A call that returns gives what the template says. -/
theorem call_returns (sound : ground.Sound) (held : readings.Held ground) {template : Template}
    {value : Value} (done : (template.callReading readings).Yields ground value after) :
    Returns ground readings.values template after value := by
  have later :=
    (Frame.covers_yields (call_stores sound held template) (storing_start sound) done).1.1
  unfold Template.callReading at done
  split at done
  · cases done
  · unfold Template.buildReading at done
    split at done
    · exact list_returned sound held ‹_› later done
    · exact one_returned sound held ‹_› ‹_› done
    · cases done
      exact .nothing ‹_› ‹_›

end Stencil.Template
