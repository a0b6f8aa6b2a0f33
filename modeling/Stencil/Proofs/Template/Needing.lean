import Stencil.Proofs.Code.Feeding
import Stencil.Proofs.Template.Points
import Stencil.Proofs.Template.Reading

/-!
# What a template needs

Filling a form looks up the names of its points and no others. So what is built
depends on the values of these names alone (`build_agree`), and if they are all
bound, no name is looked up in vain: what building then fails with has to do with
the values themselves (`build_raises`). Both go by the forms as filling does, and the
points of a form are those of its parts.

Since the points of a template are those in the tokens of its text, a template
lists exactly the names that it needs (`points_needed`).
-/

namespace Stencil

open Code

namespace Code

/-! ## What steps fail with -/

/-- A step fails with certain faults only. -/
def Build.Raises {α : Type} (step : Build α) (spoils : Fault → Prop) : Prop :=
  ∀ store fault after, step.Fails store fault after → spoils fault

variable {α β : Type} {spoils : Fault → Prop}

/-- A step that always succeeds. -/
theorem raises_yields {step : Build α}
    (always : ∀ store, ∃ value after, step.Yields store value after) : step.Raises spoils := by
  intro store fault after failed
  obtain ⟨value, other, yielded⟩ := always store
  exact absurd yielded (Build.not_yields_of_fails failed value other)

/-- A value that is given as it is. -/
theorem raises_pure (value : α) : (pure value : Build α).Raises spoils :=
  raises_yields fun store => ⟨value, store, Build.pure_yields value store⟩

/-- A fault. -/
theorem raises_throw {fault : Fault} (spoiled : spoils fault) :
    (throw fault : Build α).Raises spoils := by
  intro store other after failed
  cases failed
  exact spoiled

/-- A chain fails with what one of its steps fails with. -/
theorem raises_bind {step : Build α} {next : α → Build β} (first : step.Raises spoils)
    (behind : ∀ value, (next value).Raises spoils) : (step >>= next).Raises spoils := by
  intro store fault after failed
  rcases Build.bind_fails_iff.mp failed with failed | ⟨value, middle, _, failed⟩
  · exact first store fault after failed
  · exact behind value middle fault after failed

/-- A new statement is stored, whatever it is. -/
theorem new_statement_raises (statement : Statement) :
    (Build.newStatement statement).Raises spoils :=
  raises_yields fun store => ⟨_, _, Build.new_statement_yields statement store⟩

/-- A new body is stored. -/
theorem new_block_raises : Build.newBlock.Raises spoils :=
  raises_yields fun store => ⟨_, _, Build.new_block_yields store⟩

/-- Among values only one that is no statement is refused. -/
theorem accepted_error {values : List Value} {fault : Fault}
    (refused : accepted values = .error fault) : ∃ kind, fault = .notStatement kind := by
  induction values with
  | nil => cases refused
  | cons value rest inductionHypothesis =>
    rw [accepted] at refused
    split at refused
    · exact inductionHypothesis refused
    · cases refused
      exact ⟨value.kind, rfl⟩

/-- A value that supplies nothing is not iterable. -/
theorem supply_error {value : Value} {fault : Fault}
    (refused : Build.supply value = .error fault) : fault = .notIterable value.kind := by
  unfold Build.supply at refused
  split at refused <;> cases refused
  rfl

/-- What feeding a body comes to fail with. -/
theorem feed_raises (notStatement : ∀ kind, spoils (.notStatement kind))
    (notIterable : ∀ kind, spoils (.notIterable kind)) (endless : spoils .endless) (block : Nat)
    (feed : Feed) : (feed.act block).Raises spoils := by
  intro store fault after failed
  rw [Build.Fails] at failed
  rcases feed_outcome store block feed with fed | ⟨_, stuck⟩
  · have refused : store.feeding feed = .error fault := by
      rw [failed] at fed
      exact (congrArg Prod.fst fed).symm
    have values {all : List Value} (refused : accepted all = .error fault) : spoils fault := by
      obtain ⟨kind, rfl⟩ := accepted_error refused
      exact notStatement kind
    cases feed with
    | one value => exact values refused
    | all given =>
      rw [Store.feeding] at refused
      split at refused
      · exact values refused
      · rename_i other unsupplied
        cases refused
        rw [supply_error unsupplied]
        exact notIterable _
  · rw [failed] at stuck
    cases stuck
    exact endless

end Code

namespace Template

variable {readings other : Readings} {form : Form} {forms : List Form}

/-! ## Agreeing values -/

/-- The value of a reading is looked up where the reading is. -/
theorem values_lookup (readings : Readings) (name : String) :
    readings.values.lookup name = (readings.lookup name).map Reading.value := by
  induction readings with
  | nil => rfl
  | cons given rest inductionHypothesis =>
    obtain ⟨known, reading⟩ := given
    rw [Readings.values, List.map_cons, List.lookup_cons, List.lookup_cons]
    cases name == known with
    | true => rfl
    | false => exact inductionHypothesis

/-- Where the readings given for a name are the same, so are the values. -/
theorem get_agree {name : String} (agree : readings.lookup name = other.lookup name) :
    readings.values.get name = other.values.get name := by
  rw [Bindings.get, Bindings.get, values_lookup, values_lookup, agree]

/-- An operand has the same value where its point has. -/
theorem operand_agree {operand : Operand}
    (agree : ∀ name ∈ operand.points, readings.lookup name = other.lookup name) :
    operand.fill readings.values = operand.fill other.values := by
  cases operand with
  | literal | reference => rfl
  | point name location => exact get_agree (agree name (List.mem_singleton_self name))

mutual

/-- A form is filled the same where its points have the same readings. -/
theorem fill_agree (form : Form)
    (agree : ∀ name ∈ form.points, readings.lookup name = other.lookup name) :
    form.fill readings = form.fill other := by
  cases form with
  | function name args body location =>
    rw [Form.points] at agree
    simp only [Form.fill, fill_into_agree _ body agree]
  | conditional lhs rhs thenBody elseBody location =>
    simp only [Form.points, List.forall_mem_append] at agree
    simp only [Form.fill, operand_agree agree.1.1, fill_into_agree _ thenBody agree.1.2,
      fill_into_agree _ elseBody agree.2]
  | result value location =>
    rw [Form.points] at agree
    simp only [Form.fill, operand_agree agree]
  | assign target value location =>
    rw [Form.points] at agree
    simp only [Form.fill, operand_agree agree]
  | raw text location => rfl
  | splice name many location =>
    rw [Form.points] at agree
    simp only [Form.fill, get_agree (agree name (List.mem_singleton_self name))]

/-- A body is filled the same where the points of its forms have the same readings. -/
theorem fill_into_agree (block : Nat) (forms : List Form)
    (agree : ∀ name ∈ Form.pointsOf forms, readings.lookup name = other.lookup name) :
    Form.fillInto readings block forms = Form.fillInto other block forms := by
  cases forms with
  | nil => rw [Form.fillInto, Form.fillInto]
  | cons form rest =>
    simp only [Form.pointsOf, List.forall_mem_append] at agree
    have head := fill_agree form agree.1
    have tail := fill_into_agree block rest agree.2
    cases form with
    | splice name many location =>
      rw [Form.points] at agree
      have own := agree.1 name (List.mem_singleton_self name)
      cases many with
      | true => simp only [Form.fillInto, get_agree own, Readings.finish, own, tail]
      | false => simp only [Form.fillInto, head, tail]
    | function | conditional | result | assign | raw =>
      simp only [Form.fillInto, head, tail]

end

/-- A template is built the same where its points have the same readings. -/
theorem build_agree (template : Template)
    (agree : ∀ name ∈ template.points, readings.lookup name = other.lookup name) :
    template.buildReading readings = template.buildReading other := by
  obtain ⟨owner, kind, forms⟩ := template
  replace agree : ∀ name ∈ Form.pointsOf forms, readings.lookup name = other.lookup name :=
    fun name member => agree name ((mem_distinct name _).mpr member)
  cases kind with
  | statements => simp only [Template.buildReading, fill_into_agree _ forms agree]
  | statement | functionDefinition =>
    cases forms with
    | nil => rfl
    | cons form rest =>
      simp only [Form.pointsOf, List.forall_mem_append] at agree
      exact fill_agree form agree.1

/-! ## Bound names -/

/-- What filling fails with when all names are bound: a value is put where it cannot stand, or it
fails itself while it is read. -/
inductive Readings.Spoils (readings : Readings) : Fault → Prop where
  | notStatement (kind : String) : Spoils readings (.notStatement kind)
  | notIterable (kind : String) : Spoils readings (.notIterable kind)
  | endless : Spoils readings .endless
  | ending {given : String × Reading} {fault : Fault} (member : given ∈ readings)
      (ended : given.2.ending = some fault) : Spoils readings fault

/-- A bound name is looked up. -/
theorem get_raises {spoils : Fault → Prop} {name : String}
    (bound : (readings.lookup name).isSome) : (readings.values.get name).Raises spoils := by
  obtain ⟨reading, found⟩ := Option.isSome_iff_exists.mp bound
  rw [Bindings.get, values_lookup, found]
  exact raises_pure _

/-- An operand has a value if its point is bound. -/
theorem operand_raises {spoils : Fault → Prop} {operand : Operand}
    (bound : ∀ name ∈ operand.points, (readings.lookup name).isSome) :
    (operand.fill readings.values).Raises spoils := by
  cases operand with
  | literal | reference => exact raises_pure _
  | point name location => exact get_raises (bound name (List.mem_singleton_self name))

/-- A reading ends as it does. -/
theorem finish_raises (name : String) : (readings.finish name).Raises readings.Spoils := by
  unfold Readings.finish
  split
  · rename_i reading found
    obtain ⟨before, behind, rfl, _⟩ := List.lookup_eq_some_iff.mp found
    unfold Reading.finish
    split
    · rename_i fault ended
      have member : (name, reading) ∈ before ++ (name, reading) :: behind := by simp
      exact raises_throw (.ending member ended)
    · exact raises_pure _
  · exact raises_pure _

/-- A body is fed with a value. -/
theorem fed_raises (block : Nat) (feed : Feed) : (feed.act block).Raises readings.Spoils :=
  feed_raises .notStatement .notIterable .endless block feed

/-- A new statement is given. -/
theorem statement_raises {spoils : Fault → Prop} (statement : Statement) :
    (do return .object (.statement (← Build.newStatement statement)) : Build Value).Raises
      spoils :=
  raises_bind (new_statement_raises statement) fun _ => raises_pure _

mutual

/-- Filling a form whose points are bound fails because of values only. By recursion on the form:
making objects never fails, reading an operand fails if its value does, and feeding a body fails by
what is fed. -/
theorem fill_raises (form : Form) (bound : ∀ name ∈ form.points, (readings.lookup name).isSome) :
    (form.fill readings).Raises readings.Spoils := by
  cases form with
  | function name args body location =>
    rw [Form.points] at bound
    rw [Form.fill]
    refine raises_bind new_block_raises fun block => ?_
    refine raises_bind (new_statement_raises _) fun ref => ?_
    exact raises_bind (fill_into_raises block body bound) fun _ => raises_pure _
  | conditional lhs rhs thenBody elseBody location =>
    simp only [Form.points, List.forall_mem_append] at bound
    rw [Form.fill]
    refine raises_bind (operand_raises bound.1.1) fun value => ?_
    refine raises_bind new_block_raises fun thenBlock => ?_
    refine raises_bind new_block_raises fun elseBlock => ?_
    refine raises_bind (new_statement_raises _) fun ref => ?_
    refine raises_bind (fill_into_raises thenBlock thenBody bound.1.2) fun _ => ?_
    exact raises_bind (fill_into_raises elseBlock elseBody bound.2) fun _ => raises_pure _
  | result value location =>
    rw [Form.points] at bound
    simp only [Form.fill]
    exact raises_bind (operand_raises bound) fun _ => statement_raises _
  | assign target value location =>
    rw [Form.points] at bound
    simp only [Form.fill]
    exact raises_bind (operand_raises bound) fun _ => statement_raises _
  | raw text location =>
    simp only [Form.fill]
    exact statement_raises _
  | splice name many location =>
    rw [Form.points] at bound
    simp only [Form.fill]
    exact get_raises (bound name (List.mem_singleton_self name))

/-- Filling forms whose points are bound into a body fails because of values only. -/
theorem fill_into_raises (block : Nat) (forms : List Form)
    (bound : ∀ name ∈ Form.pointsOf forms, (readings.lookup name).isSome) :
    (Form.fillInto readings block forms).Raises readings.Spoils := by
  cases forms with
  | nil =>
    rw [Form.fillInto]
    exact raises_pure _
  | cons form rest =>
    simp only [Form.pointsOf, List.forall_mem_append] at bound
    have behind := fill_into_raises block rest bound.2
    have pushed : (do
        Build.push block (← form.fill readings)
        Form.fillInto readings block rest : Build Unit).Raises readings.Spoils :=
      raises_bind (fill_raises form bound.1) fun value =>
        raises_bind (fed_raises block (.one value)) fun _ => behind
    cases form with
    | splice name many location =>
      cases many with
      | true =>
        rw [Form.points] at bound
        rw [Form.fillInto]
        have own := bound.1 name (List.mem_singleton_self name)
        refine raises_bind (get_raises own) fun value => ?_
        refine raises_bind (fed_raises block (.all value)) fun _ => ?_
        exact raises_bind (finish_raises name) fun _ => behind
      | false => simpa only [Form.fillInto] using pushed
    | function | conditional | result | assign | raw =>
      simpa only [Form.fillInto] using pushed

end

/-- Building a template whose points are bound fails because of values only. -/
theorem build_raises (template : Template)
    (bound : ∀ name ∈ template.points, (readings.lookup name).isSome) :
    (template.buildReading readings).Raises readings.Spoils := by
  obtain ⟨owner, kind, forms⟩ := template
  replace bound : ∀ name ∈ Form.pointsOf forms, (readings.lookup name).isSome :=
    fun name member => bound name ((mem_distinct name _).mpr member)
  cases kind with
  | statements =>
    simp only [Template.buildReading]
    refine raises_bind new_block_raises fun block => ?_
    refine raises_bind (fill_into_raises block forms bound) fun _ => ?_
    refine raises_bind (raises_yields fun store => ⟨store, store, Build.get_yields store⟩) ?_
    intro store
    refine raises_bind (raises_yields fun store => ?_) fun _ => raises_pure _
    exact ⟨_, _, Build.new_cell_yields _ store⟩
  | statement | functionDefinition =>
    cases forms with
    | nil => exact raises_pure _
    | cons form rest =>
      simp only [Form.pointsOf, List.forall_mem_append] at bound
      exact fill_raises form bound.1

/-! ## Compiled templates -/

/-- A template lists some names, each once and in the order of their first occurrences; these it
needs, and no others. The values may fail while they are read, and may be bound to more names than
these. -/
structure Needs (template : Template) (names : List String) : Prop where
  listed : ∀ point, point ∈ template.points ↔ point ∈ names
  ordered : template.points.Pairwise fun first second => names.idxOf first < names.idxOf second
  /-- What is built depends on the values of these names alone. -/
  alone : ∀ bindings other : Bindings,
    (∀ point ∈ template.points, bindings.lookup point = other.lookup point) →
    template.build bindings = template.build other
  aloneRead : ∀ readings other : Readings,
    (∀ point ∈ template.points, readings.lookup point = other.lookup point) →
    template.buildReading readings = template.buildReading other
  /-- If these names are bound, no unbound name is looked up. -/
  enough : ∀ bindings : Bindings,
    (∀ point ∈ template.points, (bindings.lookup point).isSome) →
    ∀ store shown after, ¬(template.build bindings).Fails store (.missingKey shown) after
  enoughRead : ∀ readings : Readings,
    (∀ point ∈ template.points, (readings.lookup point).isSome) →
    ∀ store shown after, (template.buildReading readings).Fails store (.missingKey shown) after →
      ∃ given ∈ readings, given.2.ending = some (.missingKey shown)

/-- A template that is compiled from a text needs the names of the points in the tokens of the text:
those that stand in parentheses behind a dollar sign, at any depth.

Proof: the points of the forms are those of the tokens, in the same order, which follows the
derivation (`compiled_points`). Filling looks up the names of points and no others, so it does the
same for values that agree on them (`build_agree`); and where all are bound, a missing key comes
from a value that raised it while it was read (`build_raises`). -/
theorem points_needed {kind : Kind} {text name : String} {template : Template}
    (compiled : Template.compile kind text name = .ok template) :
    ∃ tokens, tokenize text name = .ok tokens ∧ Needs template (pointNames tokens.items) := by
  obtain ⟨tokens, cut, listed, ordered⟩ := compiled_points compiled
  have enoughRead (readings : Readings)
      (bound : ∀ point ∈ template.points, (readings.lookup point).isSome) (store : Store)
      (shown : String) (after : Store)
      (failed : (template.buildReading readings).Fails store (.missingKey shown) after) :
      ∃ given ∈ readings, given.2.ending = some (.missingKey shown) := by
    cases build_raises template bound store _ after failed with
    | ending member ended => exact ⟨_, member, ended⟩
  refine ⟨tokens, cut, listed, ordered, ?_, fun _ _ => build_agree template, ?_, enoughRead⟩
  · intro bindings other agree
    refine build_agree template fun point member => ?_
    rw [read_lookup, read_lookup, agree point member]
  · intro bindings bound store shown after failed
    have boundRead : ∀ point ∈ template.points, (bindings.read.lookup point).isSome := by
      intro point member
      rw [read_lookup, Option.isSome_map]
      exact bound point member
    obtain ⟨given, member, ended⟩ := enoughRead bindings.read boundRead store shown after failed
    obtain ⟨binding, _, rfl⟩ := List.mem_map.mp member
    cases ended

/-- A conditional with a point in its condition and two in its second body, one of them a repeat.
What stands behind `raw`, in a string or in a comment is no point. -/
def nestedPoints : Template :=
  ⟨"t", .statement, [.conditional "a" (.point "x" ⟨"t", 1, 9⟩) [.raw "$(r)" ⟨"t", 1, 16⟩]
    [.assign "y" (.literal "'$(s)'" ⟨"t", 2, 14⟩) ⟨"t", 2, 10⟩, .splice "z" true ⟨"t", 2, 21⟩,
      .splice "x" false ⟨"t", 2, 27⟩] ⟨"t", 1, 1⟩]⟩

/-- The text of the conditional. -/
theorem nested_points_compiled :
    Template.compile .statement
      "if a == $(x): \x7braw $(r)\n\x7d else: \x7by = '$(s)' $(z)* $(x)\x7d # $(c)" "t" =
        .ok nestedPoints := by
  let op (text : String) (line column : Nat) : Token := ⟨.op, text, ⟨"t", line, column⟩⟩
  let name (text : String) (line column : Nat) : Token := ⟨.name, text, ⟨"t", line, column⟩⟩
  have cut : (tokenize
      "if a == $(x): \x7braw $(r)\n\x7d else: \x7by = '$(s)' $(z)* $(x)\x7d # $(c)" "t").toOption =
      some ⟨[name "if" 1 1, name "a" 1 4, op "==" 1 6, op "$" 1 9, op "(" 1 10, name "x" 1 11,
        op ")" 1 12, op ":" 1 13, op "\x7b" 1 15, ⟨.raw, "$(r)", ⟨"t", 1, 16⟩⟩, op "\x7d" 2 1,
        name "else" 2 3, op ":" 2 7, op "\x7b" 2 9, name "y" 2 10, op "=" 2 12,
        ⟨.string, "'$(s)'", ⟨"t", 2, 14⟩⟩, op "$" 2 21, op "(" 2 22, name "z" 2 23, op ")" 2 24,
        op "*" 2 25, op "$" 2 27, op "(" 2 28, name "x" 2 29, op ")" 2 30, op "\x7d" 2 31],
        ⟨"t", 2, 39⟩⟩ := by decide +kernel
  exact compiled_of_tokens cut rfl rfl

/-- The conditional lists two names. What it builds from them is the same whatever is bound to
others. -/
theorem nested_points_needed :
    Template.compile .statement
        "if a == $(x): \x7braw $(r)\n\x7d else: \x7by = '$(s)' $(z)* $(x)\x7d # $(c)" "t" =
          .ok nestedPoints ∧
      nestedPoints.points = ["x", "z"] ∧
      ∀ more : Bindings, nestedPoints.build (("x", .int 1) :: ("z", .list []) :: more) =
        nestedPoints.build [("x", .int 1), ("z", .list [])] := by
  obtain ⟨tokens, _, needs⟩ := points_needed nested_points_compiled
  have two : nestedPoints.points = ["x", "z"] := by decide
  refine ⟨nested_points_compiled, two, fun more => needs.alone _ _ ?_⟩
  rw [two]
  simp [List.lookup_cons]

end Template

end Stencil
