import Stencil.Proofs.Code.Operations
import Stencil.Proofs.Code.Reaching
import Stencil.Proofs.Code.Shifting
import Stencil.Proofs.Template.Embodying
import Stencil.Proofs.Template.Points

/-!
# One statement and a list of one

A text of one statement can be compiled to a template that gives the statement and
to one that gives a list. The first builds the statement, the second builds it into
a new body, which refuses what is no statement, and lists what the body then holds.

Both build the same, one of them beside a store with a body more: form by form they
stay in step (`fill_in_step`). So they fail alike, or the list has the one statement
that the other template gives, with the same rendering. They differ in one case
only: what is given for a text that is a single point, `$(name)`, is returned by the
first as it is, and refused by the second unless it is a statement
(`kinds_agree`).
-/

namespace Stencil.Template

open Code

/-- The values that are read give items of older bodies only. -/
def Readings.Over (ground : Nat) (readings : Readings) : Prop :=
  ∀ given ∈ readings, (Feed.all given.2.value).Over ground

variable {readings : Readings} {store after : Store} {ground : Nat} {extra : List StatementRef}

/-- Values that are held give items of bodies that are there. -/
theorem held_over (held : readings.Held store) : readings.Over store.blocks.size := by
  intro given member
  cases supplied : Build.supply given.2.value with
  | error fault => simp only [Feed.Over, supplied]
  | ok supply =>
    have inside := supply_held (held given member) supplied
    cases supply with
    | block id =>
      simp only [Feed.Over, supplied]
      exact inside
    | items | walk | cell => simp only [Feed.Over, supplied]

/-! ## Filling beside -/

/-- What is given for a name is the same beside. -/
theorem get_in_step (name : String) : Build.InStep (Store.Beside ground extra)
    (readings.values.get name) (readings.values.get name)
    fun value value' => value = value' ∧ ∃ given ∈ readings, given.2.value = value := by
  unfold Bindings.get
  cases found : readings.values.lookup name with
  | none => exact in_step_throw _
  | some value => exact in_step_pure ⟨rfl, given_of_lookup found⟩

/-- The value of an operand is the same beside. -/
theorem operand_in_step (operand : Operand) : Build.InStep (Store.Beside ground extra)
    (operand.fill readings.values) (operand.fill readings.values) Eq := by
  cases operand with
  | literal | reference => exact in_step_pure rfl
  | point name location => exact in_step_weaken (get_in_step name) fun _ _ => And.left

/-- The end of the reading given for a name is the same beside. -/
theorem finish_in_step (name : String) : Build.InStep (Store.Beside ground extra)
    (readings.finish name) (readings.finish name) Eq := by
  unfold Readings.finish
  split
  · unfold Reading.finish
    split
    · exact in_step_throw _
    · exact in_step_pure rfl
  · exact in_step_pure rfl

/-- A new statement is the same value beside. -/
theorem statement_in_step {statement : Statement} (same : statement.shifted ground = statement) :
    Build.InStep (Store.Beside ground extra)
      (do return .object (.statement (← Build.newStatement statement)) : Build Value)
      (do return .object (.statement (← Build.newStatement statement)) : Build Value) Eq := by
  have stored := new_statement_in_step ground extra statement
  rw [same] at stored
  refine in_step_bind stored fun ref ref' is => ?_
  rw [is]
  exact in_step_pure rfl

mutual

/-- A form is filled the same beside. The cases are those of the form. Both make the same objects in
the same order, and bodies that are new have numbers one apart. -/
theorem fill_in_step (givenOver : readings.Over ground) (form : Form) :
    Build.InStep (Store.Beside ground extra) (form.fill readings)
      (form.fill readings) Eq := by
  cases form with
  | function name args body location =>
    rw [Form.fill]
    refine in_step_bind new_block_in_step fun block block' ⟨newer, next⟩ => ?_
    have stored := new_statement_in_step ground extra
      (.function name args block)
    rw [Statement.shifted, shifted_newer newer, ← next] at stored
    refine in_step_bind stored fun ref ref' is => ?_
    rw [is, next]
    exact in_step_bind (fill_into_in_step givenOver newer body) fun _ _ _ => in_step_pure rfl
  | conditional lhs rhs thenBody elseBody location =>
    rw [Form.fill]
    refine in_step_bind (operand_in_step rhs) fun value value' same => ?_
    rw [same]
    refine in_step_bind new_block_in_step fun thenBlock thenBlock' ⟨thenNewer, thenNext⟩ => ?_
    refine in_step_bind new_block_in_step fun elseBlock elseBlock' ⟨elseNewer, elseNext⟩ => ?_
    have stored := new_statement_in_step ground extra
      (.conditional (.equals (.reference (.text lhs)) value') (.object (.block thenBlock))
        (.object (.block elseBlock)))
    simp only [Statement.shifted, Value.shifted, shifted_newer thenNewer, shifted_newer elseNewer,
      ← thenNext, ← elseNext] at stored
    refine in_step_bind stored fun ref ref' is => ?_
    rw [is, thenNext, elseNext]
    refine in_step_bind (fill_into_in_step givenOver thenNewer thenBody) fun _ _ _ => ?_
    refine in_step_bind (fill_into_in_step givenOver elseNewer elseBody) fun _ _ _ => ?_
    exact in_step_pure rfl
  | result value location =>
    simp only [Form.fill]
    refine in_step_bind (operand_in_step value) fun value value' same => ?_
    rw [same]
    exact statement_in_step rfl
  | assign target value location =>
    simp only [Form.fill]
    refine in_step_bind (operand_in_step value) fun value value' same => ?_
    rw [same]
    exact statement_in_step rfl
  | raw text location =>
    simp only [Form.fill]
    exact statement_in_step rfl
  | splice name many location =>
    simp only [Form.fill]
    exact in_step_weaken (get_in_step name) fun _ _ => And.left

/-- Forms are filled the same into a newer body beside. -/
theorem fill_into_in_step (givenOver : readings.Over ground) {block : Nat} (newer : ground ≤ block)
    (forms : List Form) :
    Build.InStep (Store.Beside ground extra) (Form.fillInto readings block forms)
      (Form.fillInto readings (block + 1) forms) Eq := by
  cases forms with
  | nil =>
    rw [Form.fillInto, Form.fillInto]
    exact in_step_pure rfl
  | cons form rest =>
    have behind : Build.InStep (Store.Beside ground extra)
        (Form.fillInto readings block rest)
        (Form.fillInto readings (block + 1) rest) Eq :=
      fill_into_in_step givenOver newer rest
    have pushed : Build.InStep (Store.Beside ground extra)
        (do
          Build.push block (← form.fill readings)
          Form.fillInto readings block rest : Build Unit)
        (do
          Build.push (block + 1) (← form.fill readings)
          Form.fillInto readings (block + 1) rest : Build Unit) Eq := by
      refine in_step_bind (fill_in_step givenOver form) fun value value' same => ?_
      rw [same]
      have beyond : (Feed.one value').Over ground := trivial
      exact in_step_bind (feed_in_step beyond newer) fun _ _ _ => behind
    cases form with
    | splice name many location =>
      cases many with
      | true =>
        simp only [Form.fillInto]
        refine in_step_bind (get_in_step name) fun value value' ⟨same, given, member, is⟩ => ?_
        rw [← same]
        have beyond : (Feed.all value).Over ground := is ▸ givenOver given member
        refine in_step_bind (feed_in_step beyond newer) fun _ _ _ => ?_
        exact in_step_bind (finish_in_step name) fun _ _ _ => behind
      | false => simpa only [Form.fillInto] using pushed
    | function | conditional | result | assign | raw =>
      simpa only [Form.fillInto] using pushed

end

/-! ## The two templates of a text -/

/-- A form that is no splice is filled by a statement. Every other form ends by returning the
statement that it has made. -/
theorem fill_gives_statement {form : Form} {value : Value}
    (single : ∀ name many location, form ≠ .splice name many location)
    (done : (form.fill readings).Yields store value after) :
    ∃ ref : StatementRef, value = ref.value := by
  cases form with
  | function name args body location =>
    rw [Form.fill] at done
    obtain ⟨block, _, _, done⟩ := Build.bind_yields_iff.mp done
    obtain ⟨ref, _, _, done⟩ := Build.bind_yields_iff.mp done
    obtain ⟨_, _, _, done⟩ := Build.bind_yields_iff.mp done
    cases done
    exact ⟨ref, rfl⟩
  | conditional lhs rhs thenBody elseBody location =>
    rw [Form.fill] at done
    obtain ⟨operand, _, _, done⟩ := Build.bind_yields_iff.mp done
    obtain ⟨thenBlock, _, _, done⟩ := Build.bind_yields_iff.mp done
    obtain ⟨elseBlock, _, _, done⟩ := Build.bind_yields_iff.mp done
    obtain ⟨ref, _, _, done⟩ := Build.bind_yields_iff.mp done
    obtain ⟨_, _, _, done⟩ := Build.bind_yields_iff.mp done
    obtain ⟨_, _, _, done⟩ := Build.bind_yields_iff.mp done
    cases done
    exact ⟨ref, rfl⟩
  | result value location =>
    simp only [Form.fill] at done
    obtain ⟨operand, _, _, done⟩ := Build.bind_yields_iff.mp done
    obtain ⟨ref, _, _, done⟩ := Build.bind_yields_iff.mp done
    cases done
    exact ⟨ref, rfl⟩
  | assign target value location =>
    simp only [Form.fill] at done
    obtain ⟨operand, _, _, done⟩ := Build.bind_yields_iff.mp done
    obtain ⟨ref, _, _, done⟩ := Build.bind_yields_iff.mp done
    cases done
    exact ⟨ref, rfl⟩
  | raw text location =>
    simp only [Form.fill] at done
    obtain ⟨ref, _, _, done⟩ := Build.bind_yields_iff.mp done
    cases done
    exact ⟨ref, rfl⟩
  | splice name many location => exact absurd rfl (single name many location)

/-- A form that is filled by something else than a statement is a point, filled by what is given for
it. -/
theorem splice_filled {form : Form} {value : Value}
    (notMany : ∀ point location, form ≠ .splice point true location)
    (filled : (form.fill readings).Yields store value after)
    (other : value.statement? = none) :
    ∃ point location, form = .splice point false location ∧
      readings.values.lookup point = some value ∧ after = store := by
  cases form with
  | splice point many location =>
    cases many with
    | true => exact absurd rfl (notMany point location)
    | false =>
      simp only [Form.fill] at filled
      obtain ⟨given, rfl⟩ := get_found filled
      exact ⟨point, location, rfl, given, rfl⟩
  | function | conditional | result | assign | raw =>
    obtain ⟨ref, rfl⟩ := fill_gives_statement (fun _ _ _ => Form.noConfusion) filled
    cases other

/-- A template of one statement has one form, which is no sequence. -/
theorem single_fits {name : String} {forms : List Form}
    (fits : Template.misfit? .statement name forms = none) :
    ∃ form, forms = [form] ∧ ∀ point location, form ≠ .splice point true location := by
  cases forms with
  | nil => cases fits
  | cons form rest =>
    cases rest with
    | cons => cases fits
    | nil =>
      refine ⟨form, rfl, fun point location same => ?_⟩
      subst same
      cases fits

/-- A call whose names are refused goes no further. -/
theorem call_reading_refused {template : Template} {fault : Fault}
    (misnamed : template.misnamed? (readings.map Prod.fst) = some fault) :
    template.callReading readings = throw fault := by
  rw [Template.callReading, misnamed]

/-- A call whose names are accepted builds. -/
theorem call_reading_reaches {template : Template}
    (named : template.misnamed? (readings.map Prod.fst) = none) :
    template.callReading readings = template.buildReading readings := by
  rw [Template.callReading, named]

/-- Build the list of a form's statement: what the form is filled by is put into a new body, and
what the body holds is listed. -/
def Form.listed (readings : Readings) (form : Form) : Build Value := do
  let block ← Build.newBlock
  Build.push block (← form.fill readings)
  let items := (← get).remaining (.block block 0)
  return .object (← Build.newCell items)

/-- A template of statements that has one form builds its list. -/
theorem build_listed (name : String) {form : Form}
    (single : ∀ point location, form ≠ .splice point true location) :
    Template.buildReading ⟨name, .statements, [form]⟩ readings = form.listed readings := by
  have filled (block : Nat) : Form.fillInto readings block [form] = (do
      Build.push block (← form.fill readings)) := by
    cases form with
    | splice point many location =>
      cases many with
      | true => exact absurd rfl (single point location)
      | false => simp only [Form.fillInto, bind_pure_unit]
    | function | conditional | result | assign | raw =>
      simp only [Form.fillInto, bind_pure_unit]
  simp only [Template.buildReading, filled, bind_assoc, Form.listed]

/-- A statement that is listed from a body of its own is rendered as it is beside. -/
theorem listed_rendered {pushed : Store} (beside : after.Beside ground extra pushed)
    (sound : pushed.Sound) {ref : StatementRef} (held : (Ref.statement ref).Held pushed)
    (items : List Value) (depth : Int) :
    Store.render { pushed with cells := pushed.cells.push items } depth ref.value =
      after.render depth ref.value := by
  have alike : pushed.Alike (Ref.Held pushed)
      { pushed with cells := pushed.cells.push items } := by
    refine ⟨fun _ _ => rfl, fun _ _ => rfl, fun _ _ => rfl, fun _ _ => rfl, fun _ _ => rfl, ?_⟩
    intro id inside
    rw [Array.getElem?_push, if_neg (Nat.ne_of_lt inside)]
  have listed : Store.render { pushed with cells := pushed.cells.push items } depth ref.value =
      pushed.render depth ref.value :=
    render_alike alike (sound_whole sound) (by simp) (Nat.le_refl _) depth
      (List.forall_mem_singleton.mpr held)
  rw [listed, Store.render, Store.render]
  simp only [StatementRef.value, Store.nestingLimit, Store.renderOf, Store.statementLines,
    outline_beside beside]

section Listed

variable {form : Form} {value : Value} (sound : store.Sound) (held : readings.Held store)

include sound held

/-- A form that fails to be filled fails to be listed. -/
theorem listed_fails {fault : Fault}
    (failed : (form.fill readings).Fails store fault after) :
    ∃ after', (form.listed readings).Fails store fault after' := by
  rcases fill_in_step (held_over held) form store _ (beside_opened sound) with
    ⟨other, _, after', first, second, _⟩ | ⟨value, _, other, _, yielded, _⟩
  · obtain rfl : other = fault := by
      rw [Build.Fails, failed] at first
      cases first
      rfl
    exact ⟨after', Build.bind_fails_behind (Build.new_block_yields store)
      (Build.bind_fails _ second)⟩
  · exact absurd yielded (Build.not_yields_of_fails failed value other)

/-- A form that is filled is filled beside by the same value, which is held there. -/
theorem filled_beside (filled : (form.fill readings).Yields store value after) :
    ∃ after', (form.fill readings).Yields { store with blocks := store.blocks.push [] }
        value after' ∧
      after.Beside store.blocks.size [] after' ∧ after'.Sound ∧ value.Held after' := by
  rcases fill_in_step (held_over held) form store _ (beside_opened sound) with
    ⟨fault, other, _, failed, _⟩ | ⟨_, other, _, after', first, second, rfl, beside⟩
  · exact absurd filled (Build.not_yields_of_fails failed value after)
  · rw [Build.Yields, filled] at first
    cases first
    let opened : Store := { store with blocks := store.blocks.push [] }
    have wider : store.Wider opened := (new_block_secures sound).wider
    have soundOpened : opened.Sound := (new_block_secures sound).sound
    have secured := fill_secures form soundOpened (readings_wider held wider)
    refine ⟨after', second, beside, ?_, secured.good value after' second⟩
    have kept := secured.sound
    rw [Build.Yields] at second
    rwa [second] at kept

/-- A form that is filled by something else than a statement is refused where it is listed. -/
theorem listed_refused (filled : (form.fill readings).Yields store value after)
    (other : value.statement? = none) :
    ∃ after', (form.listed readings).Fails store (.notStatement value.kind) after' := by
  obtain ⟨after', filled', _⟩ := filled_beside sound held filled
  refine ⟨after', Build.bind_fails_behind (Build.new_block_yields store) ?_⟩
  exact Build.bind_fails_behind filled' (Build.bind_fails _ (push_refused other _ after'))

/-- A form that is filled by a statement is listed as this statement, and the rendering is the
same. -/
theorem listed_returns {ref : StatementRef}
    (filled : (form.fill readings).Yields store ref.value after) :
    ∃ id after', (form.listed readings).Yields store (.object (.cell id)) after' ∧
      after'.cell id = [ref.value] ∧
      ∀ depth, after'.render depth ref.value = after.render depth ref.value := by
  obtain ⟨middle, filled', beside, soundMiddle, valued⟩ := filled_beside sound held filled
  let ground := store.blocks.size
  let pushed : Store := middle.appended ground [ref]
  have body : pushed.block ground = [ref] := by
    rw [Store.block, Store.appended_block beside.more]
    rfl
  have items : pushed.remaining (.block ground 0) = [ref.value] := by
    rw [Store.remaining, body]
    rfl
  have soundPushed : pushed.Sound := (push_secures soundMiddle ground valued).sound
  have inside : (Ref.statement ref).Held pushed :=
    block_held soundPushed ground ref (body ▸ List.mem_singleton_self ref)
  refine ⟨pushed.cells.size, { pushed with cells := pushed.cells.push [ref.value] }, ?_, ?_,
    listed_rendered (beside_appended beside [ref]) soundPushed inside [ref.value]⟩
  · refine Build.bind_yields (Build.new_block_yields store) ?_
    refine Build.bind_yields filled' ?_
    refine Build.bind_yields (Build.push_yields ground ref middle) ?_
    refine Build.bind_yields (Build.get_yields pushed) ?_
    rw [items]
    exact Build.bind_yields (Build.new_cell_yields _ pushed) (Build.pure_yields _ _)
  · simp [Store.cell]

end Listed

/-- How the template of one statement and that of a list, for the same text, answer the same call.
They fail alike, or the list has the one statement; but a value that is no statement and stands for
the whole text is returned by the one and refused by the other. -/
inductive KindsAgree (one many : Template) (readings : Readings) (store : Store) : Prop where
  | fails (fault : Fault) (after after' : Store)
      (single : (one.callReading readings).Fails store fault after)
      (list : (many.callReading readings).Fails store fault after')
  | returns (ref : StatementRef) (id : Nat) (after after' : Store)
      (single : (one.callReading readings).Yields store ref.value after)
      (list : (many.callReading readings).Yields store (.object (.cell id)) after')
      (items : after'.cell id = [ref.value])
      (same : ∀ depth, after'.render depth ref.value = after.render depth ref.value)
  | passed (point : String) (location : Location) (value : Value) (after : Store)
      (lone : one.forms = [.splice point false location])
      (given : readings.values.lookup point = some value) (other : value.statement? = none)
      (single : (one.callReading readings).Yields store value store)
      (list : (many.callReading readings).Fails store (.notStatement value.kind) after)

/-- A text of one statement says the same to both its templates, whatever is given, but for a value
that stands for the whole text and is no statement.

Proof: the text has one form, which both templates fill, the second into a new body. Filling fails
alike with and without that body (`listed_fails`). If it gives a statement, the body takes it and
the list has it (`listed_returns`); if it gives something else, the body refuses it, and then the
form is a point and the value is the one given for it (`splice_filled`). -/
theorem kinds_agree {text name : String} {one many : Template}
    (compiledOne : Template.compile .statement text name = .ok one)
    (compiledMany : Template.compile .statements text name = .ok many)
    (sound : store.Sound) (held : readings.Held store) : KindsAgree one many readings store := by
  obtain ⟨forms, parsed, fits, rfl⟩ := compiled_parts compiledOne
  obtain ⟨again, parsed', _, rfl⟩ := compiled_parts compiledMany
  obtain rfl := Except.ok.inj (parsed.symm.trans parsed')
  obtain ⟨form, rfl, notMany⟩ := single_fits fits
  have same : Template.misnamed? ⟨name, .statements, [form]⟩ (readings.map Prod.fst) =
      Template.misnamed? ⟨name, .statement, [form]⟩ (readings.map Prod.fst) := rfl
  cases named : Template.misnamed? ⟨name, .statement, [form]⟩ (readings.map Prod.fst) with
  | some fault =>
    have single := call_reading_refused named
    have list := call_reading_refused (same.trans named)
    exact .fails fault store store (by rw [single]; rfl) (by rw [list]; rfl)
  | none =>
    have single : Template.callReading ⟨name, .statement, [form]⟩ readings =
        form.fill readings := call_reading_reaches named
    have list : Template.callReading ⟨name, .statements, [form]⟩ readings =
        form.listed readings :=
      (call_reading_reaches (same.trans named)).trans (build_listed name notMany)
    rcases ran : (form.fill readings).run.run store with ⟨fault | value, after⟩
    · obtain ⟨after', failed⟩ := listed_fails sound held ran
      exact .fails fault after after' (by rw [single]; exact ran) (by rw [list]; exact failed)
    · cases statement : value.statement? with
      | some ref =>
        obtain rfl := statement_eq statement
        obtain ⟨id, after', listed, items, rendered⟩ := listed_returns sound held ran
        exact .returns ref id after after' (by rw [single]; exact ran) (by rw [list]; exact listed)
          items rendered
      | none =>
        obtain ⟨after', refused⟩ := listed_refused sound held ran statement
        obtain ⟨point, location, rfl, given, rfl⟩ := splice_filled notMany ran statement
        exact .passed point location value after' rfl given statement (by rw [single]; exact ran)
          (by rw [list]; exact refused)

/-- A function whose body is a spliced list, as a template of a kind. -/
def splicedFunction (kind : Kind) : Template :=
  ⟨"t", kind, [.function "f" [] [.splice "m" true ⟨"t", 1, 11⟩] ⟨"t", 1, 1⟩]⟩

/-- The text of the function. -/
theorem spliced_function_compiled (kind : Kind) :
    Template.compile kind "def f(): \x7b$(m)*\x7d" "t" = .ok (splicedFunction kind) := by
  have cut : (tokenize "def f(): \x7b$(m)*\x7d" "t").toOption =
      some ⟨[word "def" ⟨"t", 1, 1⟩, word "f" ⟨"t", 1, 5⟩, mark "(" ⟨"t", 1, 6⟩,
        mark ")" ⟨"t", 1, 7⟩, mark ":" ⟨"t", 1, 8⟩, mark "\x7b" ⟨"t", 1, 10⟩,
        mark "$" ⟨"t", 1, 11⟩, mark "(" ⟨"t", 1, 12⟩, word "m" ⟨"t", 1, 13⟩,
        mark ")" ⟨"t", 1, 14⟩, mark "*" ⟨"t", 1, 15⟩, mark "\x7d" ⟨"t", 1, 16⟩],
        ⟨"t", 1, 17⟩⟩ := by decide +kernel
  exact compiled_of_tokens cut rfl (by cases kind <;> rfl)

/-- The list of the function has the function, with the line that is given for its body. -/
theorem spliced_function_listed :
    let store : Store := { Store.empty with statements := #[.raw "first()"] }
    let readings : Readings := [("m", Value.read (.list [StatementRef.value ⟨.raw, 0⟩]))]
    let function : Value := StatementRef.value ⟨.function, 1⟩
    store.Sound ∧ readings.Held store ∧ ∃ id after,
      ((splicedFunction .statements).callReading readings).Yields store (.object (.cell id)) after ∧
      after.cell id = [function] ∧
      after.render 0 function = .ok (.lines ["def f():", "    first()"]) := by
  intro store readings function
  have stored : (Build.newStatement (.raw "first()")).Secures .empty _ :=
    new_statement_secures empty_sound (List.forall_mem_nil _)
  have sound : store.Sound := stored.sound
  have held : readings.Held store := List.forall_mem_singleton.mpr
    (List.forall_mem_singleton.mpr ⟨_, rfl, rfl⟩)
  let filled := (((splicedFunction .statement).callReading readings).run.run store).2
  have ran : ((splicedFunction .statement).callReading readings).Yields store function filled := rfl
  refine ⟨sound, held, ?_⟩
  cases kinds_agree (spliced_function_compiled .statement) (spliced_function_compiled .statements)
    sound held with
  | fails fault after after' single => exact absurd ran (Build.not_yields_of_fails single _ _)
  | returns ref id after after' single list items same =>
    have is : (Except.ok ref.value, after) = (Except.ok function, filled) := single.symm.trans ran
    obtain ⟨value, rfl⟩ := Prod.mk.inj is
    rw [Except.ok.inj value] at items same
    exact ⟨id, after', list, items, (same 0).trans rfl⟩
  | passed point location value after lone => cases lone

/-- A text that is a single point, as a template of a kind. -/
def lonePoint (kind : Kind) : Template := ⟨"t", kind, [.splice "x" false ⟨"t", 1, 1⟩]⟩

/-- A call of the template of one statement that returns what is no statement. The template of a
list refuses it. -/
theorem lone_value_passed :
    Template.compile .statement "$(x)" "t" = .ok (lonePoint .statement) ∧
      Template.compile .statements "$(x)" "t" = .ok (lonePoint .statements) ∧
      ((lonePoint .statement).call [("x", .int 1)]).Yields .empty (.int 1) .empty ∧
      ∃ after, ((lonePoint .statements).call [("x", .int 1)]).Fails .empty (.notStatement "int")
        after := by
  have cut : (tokenize "$(x)" "t").toOption =
      some ⟨[mark "$" ⟨"t", 1, 1⟩, mark "(" ⟨"t", 1, 2⟩, word "x" ⟨"t", 1, 3⟩,
        mark ")" ⟨"t", 1, 4⟩], ⟨"t", 1, 5⟩⟩ := by decide +kernel
  exact ⟨compiled_of_tokens cut rfl rfl, compiled_of_tokens cut rfl rfl, rfl, _, rfl⟩

end Stencil.Template
