import Stencil.Proofs.Code.Working
import Stencil.Proofs.Template.Embodying

/-!
# Calls stand apart

A call of a template leaves what was there, and makes new objects: its own. What it
returns reaches its own objects and what the given values reach (`result_reaches`);
what was there before reaches none of them (`older_reaches`). No two calls share an
object of their own (`new_apart`).

So working on a call's own objects, after it and after any other calls, does not show in
what does not reach them. It shows in the result of a later call only if the later call
was given a value that reaches such an object, as what is given stands in the result
itself (`calls_stand_apart`).
-/

namespace Stencil.Template

open Code

/-- A value is rendered the same however one works on one's own objects. Any run of operations is
meant, with any values, so long as it changes one's own objects only. -/
def Steady (own : Ref → Prop) (store : Store) (value : Value) : Prop :=
  ∀ after, Works own store after → ∀ depth, after.render depth value = store.render depth value

variable {readings : Readings} {before middle after : Store} {template : Template}

/-! ## What is reached -/

/-- An object that was there has no parts that it had not. Iterators may have fewer. -/
theorem parts_adds {spent : Nat → Prop} (adds : before.Adds spent after) {ref : Ref}
    (held : ref.Held before) : after.parts ref ⊆ before.parts ref := by
  cases ref with
  | statement ref =>
    obtain ⟨statement, stored, _⟩ := held
    rw [Store.parts, Store.parts, stored, adds.statements _ _ stored]
    exact List.Subset.refl _
  | block id =>
    rw [Store.parts, Store.parts, adds_block adds held]
    exact List.Subset.refl _
  | module id =>
    rw [Store.parts, Store.parts, adds.others]
    exact List.Subset.refl _
  | package id | template id => exact List.Subset.refl _
  | iterator walked id =>
    intro part mentioned
    obtain ⟨item, member, inside⟩ := mem_mentions_all.mp mentioned
    exact mem_mentions_all.mpr ⟨item, (adds_left adds id).subset member, inside⟩
  | cell id =>
    rw [Store.parts, Store.parts, adds_cell adds held]
    exact List.Subset.refl _

/-- An object with a number that is not given out is not there. -/
theorem not_held_of_beyond {ref : Ref} (beyond : ref.Beyond before) : ¬ref.Held before := by
  intro held
  cases ref with
  | statement ref =>
    obtain ⟨statement, stored, _⟩ := held
    exact absurd (Array.getElem?_eq_some_iff.mp stored).1 (Nat.not_lt.mpr beyond)
  | block id | cell id => exact absurd held (Nat.not_lt.mpr beyond)
  | module | package | template | iterator => exact beyond.elim

section Reached

variable (sound : before.Sound) (adds : before.Adds readings.Spends after)

include sound adds

/-- What was there before a call reaches after it only what was there. -/
theorem older_reaches {value : Value} (old : value.Held before) {ref : Ref}
    (reached : value.Reaches after ref) : ref.Held before := by
  obtain ⟨first, mentioned, onward⟩ := reached
  have whole : after.Whole (Ref.Held before) := fun other there part inside =>
    sound_whole sound other there part (parts_adds adds there inside)
  exact Code.reached_inside whole (old first mentioned) onward

/-- What a call makes reaches new objects and what the given values reach. The induction is on the
way that is gone: new objects mention new ones and what the given values reach, and from there only
what was there is reached. -/
theorem result_reaches (held : readings.Held before)
    (stems : before.Stems (readings.Reaches before) after) {value : Value}
    (made : readings.Makes before value) {ref : Ref} (reached : value.Reaches after ref) :
    ref.From (readings.Reaches before) before := by
  obtain ⟨first, mentioned, onward⟩ := reached
  refine Code.reached_inside (fun other origin part inside => ?_) (made first mentioned) onward
  rcases origin with new | given
  · cases other with
    | statement other =>
      cases stored : after.statements[other.id]? with
      | none => simp [Store.parts, stored] at inside
      | some statement =>
        rw [Store.parts, stored] at inside
        exact stems.statements _ statement new stored part inside
    | block id =>
      obtain ⟨ref, member, rfl⟩ := List.mem_map.mp inside
      cases stored : after.blocks[id]? with
      | none => simp [Store.block, stored] at member
      | some body =>
        rw [Store.block, stored] at member
        exact stems.blocks id body new stored ref member
    | cell id =>
      obtain ⟨item, member, within⟩ := mem_mentions_all.mp inside
      cases stored : after.cells[id]? with
      | none => simp [Store.cell, stored] at member
      | some items =>
        rw [Store.cell, stored] at member
        exact stems.cells id items new stored item member part within
    | module | package | template | iterator => exact new.elim
  · have old := readings_reach_held sound held other given
    exact .inr (readings_whole before readings other given part (parts_adds adds old inside))

end Reached

/-! ## A call's own objects -/

/-- The objects that a call makes are a call's own: functions among them have bodies among them. A
function that is new has a body that was made with it. -/
theorem new_owned (adds : before.Adds readings.Spends after)
    (stems : before.Stems (readings.Reaches before) after) (sound : after.Sound) :
    after.Owns (Ref.New before after) where
  held ref new := new.1
  bodies ref statement body new stored has := by
    have beyond : before.statements.size ≤ ref.id := by
      refine Nat.le_of_not_lt fun old => new.2 ?_
      have there := Array.getElem?_eq_getElem old
      obtain ⟨other, here, shape⟩ := new.1
      cases (adds.statements _ _ there).symm.trans here
      exact ⟨_, there, shape⟩
    have inside : (Ref.block body).Held after := by
      cases statement with
      | function name args inner =>
        cases has
        exact sound.statements ref.id _ stored _ (List.mem_singleton.mpr rfl)
      | assignment | result | raw | conditional => cases has
    exact ⟨inside, Nat.not_lt.mpr (stems.bodies ref.id statement body beyond stored has)⟩
  modules id new := by
    have inside : id < after.modules.size := new.1
    rw [adds.others] at inside
    exact new.2 inside
  packages id new := by
    have inside : id < after.packages.size := new.1
    rw [adds.others] at inside
    exact new.2 inside

/-- An object that a call has made is not made by a later one. -/
theorem new_apart {first second : Store} (wider : first.Wider middle) {ref : Ref}
    (new : ref.New before first) : ¬ref.New middle second :=
  fun again => again.2 (held_wider new.1 wider)

/-- Working on one's own objects does not show in what reaches none of them. -/
theorem steady_of_free {own : Ref → Prop} {store : Store} (sound : store.Sound)
    (owns : store.Owns own) {value : Value} (held : value.Held store)
    (free : ∀ ref, value.Reaches store ref → ¬own ref) : Steady own store value :=
  fun _ run depth => works_render sound owns run held free depth

/-- A call touches nothing that was there, whether or not it returns, apart from iterators that are
given as values. If it returns, its result is what the template says, with the given statements and
values themselves in place.

The objects that two calls make are different ones. Working on the objects of one shows in the
other's result only where that reaches them. When the second call is over, nothing that was there
before it reaches the objects of the second call; and its result reaches those of the first only if
a value that it was given does.

Proof: a call stores new objects, which are made of new ones and of what the given values reach
(`call_stores`). What was there before mentions what was there, so it does not reach the new ones
(`older_reaches`). And a rendering depends on what is reached alone, so working on objects that a
value does not reach cannot show in it (`steady_of_free`). -/
theorem calls_stand_apart (sound : before.Sound) (template : Template) (readings : Readings)
    (held : readings.Held before) :
    let first := (template.callReading readings).run.run before
    before.Adds readings.Spends first.2 ∧ (∀ id, first.2.left id <:+ before.left id) ∧
    (∀ value, first.1 = .ok value →
      value.Held first.2 ∧ Returns before readings.values template first.2 value) ∧
    ∀ middle, Leads first.2 middle → ∀ (other : Template) (others : Readings), others.Held middle →
      let second := (other.callReading others).run.run middle
      (∀ ref : Ref, ref.New before first.2 → ¬ref.New middle second.2) ∧
      (∀ value, value.Held middle → Steady (Ref.New middle second.2) second.2 value) ∧
      (∀ value, second.1 = .ok value →
        (∀ ref, others.Reaches middle ref → ¬ref.New before first.2) →
        Steady (Ref.New before first.2) second.2 value) ∧
      ∀ later, Leads second.2 later → ∀ value, value.Held later →
        ((∀ ref, value.Reaches later ref → ¬ref.New before first.2) →
          Steady (Ref.New before first.2) later value) ∧
        ((∀ ref, value.Reaches later ref → ¬ref.New middle second.2) →
          Steady (Ref.New middle second.2) later value) := by
  intro first
  have secures := call_reading_secures template sound held
  obtain ⟨⟨adds, stems⟩, _⟩ := call_stores sound held template before (storing_start sound)
  have owns : first.2.Owns (Ref.New before first.2) := new_owned adds stems secures.sound
  refine ⟨adds, adds_left adds, fun value returned => ?_, ?_⟩
  · have done : (template.callReading readings).Yields before value first.2 :=
      Prod.ext returned rfl
    exact ⟨secures.good value first.2 done, call_returns sound held done⟩
  intro middle run other others given second
  obtain ⟨inside, wider⟩ := run_secures run secures.sound
  have again := call_reading_secures other inside given
  obtain ⟨⟨more, behind⟩, made⟩ := call_stores inside given other middle (storing_start inside)
  have still : second.2.Owns (Ref.New before first.2) :=
    owns_wider owns (wider_trans wider again.wider)
  have owned : second.2.Owns (Ref.New middle second.2) := new_owned more behind again.sound
  refine ⟨fun ref => new_apart wider, fun value old => ?_, fun value returned apart => ?_, ?_⟩
  · refine steady_of_free again.sound owned (value_wider old again.wider) fun ref reached new => ?_
    exact new.2 (older_reaches inside more old reached)
  · have there := again.good value second.2 (Prod.ext returned rfl)
    refine steady_of_free again.sound still there fun ref reached new => ?_
    -- An object of the first call was there when the second call began.
    rcases result_reaches inside more given behind (made value returned) reached with fresh | known
    · exact not_held_of_beyond fresh (held_wider new.1 wider)
    · exact apart ref known new
  · intro later onward value there
    obtain ⟨last, further⟩ := run_secures onward again.sound
    exact ⟨steady_of_free last (owns_wider still further) there,
      steady_of_free last (owns_wider owned further) there⟩

/-! ## Two functions -/

/-- A function without statements. -/
def plainFunction : Template :=
  ⟨"t", .functionDefinition, [.function "f" [] [] ⟨"t", 1, 1⟩]⟩

/-- A function that holds given statements. -/
def holdingFunction : Template :=
  ⟨"t", .functionDefinition, [.function "g" [] [.splice "x" true ⟨"t", 1, 12⟩] ⟨"t", 1, 1⟩]⟩

/-- The text of the function without statements. -/
theorem plain_function_compiled :
    Template.compile .functionDefinition "def f(): \x7b\x7d" "t" = .ok plainFunction := by
  let op (text : String) (column : Nat) : Token := ⟨.op, text, ⟨"t", 1, column⟩⟩
  let name (text : String) (column : Nat) : Token := ⟨.name, text, ⟨"t", 1, column⟩⟩
  have cut : (tokenize "def f(): \x7b\x7d" "t").toOption =
      some ⟨[name "def" 1, name "f" 5, op "(" 6, op ")" 7, op ":" 8, op "\x7b" 10, op "\x7d" 11],
        ⟨"t", 1, 12⟩⟩ := by decide +kernel
  exact compiled_of_tokens cut rfl rfl

/-- The text of the function that holds given statements. -/
theorem holding_function_compiled :
    Template.compile .functionDefinition "def g(): \x7b $(x)* \x7d" "t" = .ok holdingFunction := by
  let op (text : String) (column : Nat) : Token := ⟨.op, text, ⟨"t", 1, column⟩⟩
  let name (text : String) (column : Nat) : Token := ⟨.name, text, ⟨"t", 1, column⟩⟩
  have cut : (tokenize "def g(): \x7b $(x)* \x7d" "t").toOption =
      some ⟨[name "def" 1, name "g" 5, op "(" 6, op ")" 7, op ":" 8, op "\x7b" 10, op "$" 12,
        op "(" 13, name "x" 14, op ")" 15, op "*" 16, op "\x7d" 18], ⟨"t", 1, 19⟩⟩ := by
    decide +kernel
  exact compiled_of_tokens cut rfl rfl

/-- A call is given the function that an earlier call has returned. A line that is put onto this
function then shows in the result of the later call. -/
theorem given_function_shows :
    Template.compile .functionDefinition "def f(): \x7b\x7d" "t" = .ok plainFunction ∧
    Template.compile .functionDefinition "def g(): \x7b $(x)* \x7d" "t" = .ok holdingFunction ∧
    let first := (plainFunction.callReading []).run.run .empty
    let inner : Value := .object (.statement ⟨.function, 0⟩)
    let second := (holdingFunction.callReading [("x", Value.read (.list [inner]))]).run.run first.2
    let outer : Value := .object (.statement ⟨.function, 1⟩)
    first.1 = .ok inner ∧ second.1 = .ok outer ∧
      second.2.render 0 outer = .ok (.lines ["def g():", "    def f():", "        pass"]) ∧
      ∃ later, Works (Ref.New .empty first.2) second.2 later ∧
        later.render 0 outer = .ok (.lines ["def g():", "    def f():", "        late()"]) := by
  have new : (Ref.statement ⟨.function, 0⟩).New .empty
      ((plainFunction.callReading []).run.run .empty).2 :=
    ⟨⟨_, rfl, rfl⟩, fun ⟨statement, stored, _⟩ => by simp [Store.empty] at stored⟩
  refine ⟨plain_function_compiled, holding_function_compiled, rfl, rfl, rfl, _,
    .act (.act .none (.raw "late()") (List.forall_mem_nil _) trivial)
      (.push (.object (.statement ⟨.function, 0⟩)) (.object (.statement ⟨.raw, 2⟩))) ?_
      ⟨_, rfl, new⟩, rfl⟩
  exact List.forall_mem_cons.mpr ⟨object_held.mpr ⟨_, rfl, rfl⟩,
    List.forall_mem_singleton.mpr (object_held.mpr ⟨_, rfl, rfl⟩)⟩

/-- A function takes the line that an iterator has left. A line that is put onto a later function
does not show in it, and neither does one that is put onto it show in the later one. -/
theorem functions_stand_apart :
    let before : Store := { Store.empty with
      statements := #[.raw "first()"]
      walks := #[.rest [StatementRef.value ⟨.raw, 0⟩]] }
    let readings : Readings := [("x", Value.read (.object (.iterator .list 0)))]
    let first := (holdingFunction.callReading readings).run.run before
    let second := (plainFunction.callReading []).run.run first.2
    let earlier : Value := .object (.statement ⟨.function, 1⟩)
    let later : Value := .object (.statement ⟨.function, 2⟩)
    before.Sound ∧ readings.Held before ∧ first.1 = .ok earlier ∧ second.1 = .ok later ∧
      second.2.render 0 earlier = .ok (.lines ["def g():", "    first()"]) ∧
      Steady (Ref.New first.2 second.2) second.2 earlier ∧
      Steady (Ref.New before first.2) second.2 later := by
  intro before readings first second earlier later
  have run : Leads .empty before :=
    .act (.act .none (.raw "first()") (List.forall_mem_nil _))
      (.iterator (.list [StatementRef.value ⟨.raw, 0⟩]))
      (List.forall_mem_singleton.mpr fun ref mentioned => by
        cases List.mem_singleton.mp mentioned
        exact ⟨_, rfl, rfl⟩)
  obtain ⟨sound, _⟩ := run_secures run empty_sound
  have held : readings.Held before :=
    List.forall_mem_singleton.mpr (object_held.mpr (Nat.zero_lt_one))
  obtain ⟨_, _, _, apart⟩ := calls_stand_apart sound holdingFunction readings held
  obtain ⟨_, older, newer, _⟩ := apart first.2 .none plainFunction [] (List.forall_mem_nil _)
  refine ⟨sound, held, rfl, rfl, rfl, older earlier (object_held.mpr ⟨_, rfl, rfl⟩), ?_⟩
  exact newer later rfl fun ref ⟨given, member, _⟩ => absurd member List.not_mem_nil

end Stencil.Template
