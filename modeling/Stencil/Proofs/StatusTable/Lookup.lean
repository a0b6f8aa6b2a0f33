import Mathlib.Data.List.Forall2
import Stencil.Proofs.Code.Running
import Stencil.Proofs.Template.Meaning
import Stencil.StatusTable.Maker

/-!
# What a lookup function answers

The lookup function of a table is run on a code. It returns the name of the
first entry with that code, and the default for a code that no entry has
(`lookup_answers`).

Every entry is made into a check, which returns the entry's name if the code is
the entry's and is passed if not (`IsCheck`). The checks of a table stand in its
order at the front of the function's body, with the default behind them, and a
run goes through them by induction on the table.

A code with more digits than an integer is written with has no check, so a table
with such a code has no lookup function.
-/

namespace Stencil.StatusTable

open Code Conversion

/-! ## The two templates -/

/-- What the check for one entry says. -/
def checkForm : Template.Form :=
  .conditional "code" (.point "code" ⟨"status_check", 2, 16⟩)
    [.result (.point "name" ⟨"status_check", 3, 16⟩) ⟨"status_check", 3, 9⟩] []
    ⟨"status_check", 2, 5⟩

/-- What the body of the lookup function says. -/
def lookupBody : List Template.Form :=
  [.splice "checks" true ⟨"status_for_code", 3, 9⟩,
    .result (.point "default" ⟨"status_for_code", 4, 16⟩) ⟨"status_for_code", 4, 9⟩]

/-- What the lookup function says. -/
def lookupForm : Template.Form :=
  .function lookupName ["code"] lookupBody ⟨"status_for_code", 2, 5⟩

/-- The text of the check is compiled. -/
theorem check_compiled : checkTemplate = .ok ⟨"status_check", .statement, [checkForm]⟩ := by
  let token (kind : Template.TokenKind) (text : String) (line column : Nat) : Template.Token :=
    ⟨kind, text, ⟨"status_check", line, column⟩⟩
  have cut : (Template.tokenize
      "\n    if code == $(code): \x7b\n        return $(name)\n    \x7d\n    "
      "status_check").toOption =
      some ⟨[token .name "if" 2 5, token .name "code" 2 8, token .op "==" 2 13, token .op "$" 2 16,
        token .op "(" 2 17, token .name "code" 2 18, token .op ")" 2 22, token .op ":" 2 23,
        token .op "\x7b" 2 25, token .name "return" 3 9, token .op "$" 3 16, token .op "(" 3 17,
        token .name "name" 3 18, token .op ")" 3 22, token .op "\x7d" 4 5],
        ⟨"status_check", 5, 5⟩⟩ := by decide +kernel
  exact Template.compiled_of_tokens cut rfl rfl

/-- The text of the lookup function is compiled. -/
theorem lookup_compiled :
    lookupTemplate = .ok ⟨"status_for_code", .functionDefinition, [lookupForm]⟩ := by
  let token (kind : Template.TokenKind) (text : String) (line column : Nat) : Template.Token :=
    ⟨kind, text, ⟨"status_for_code", line, column⟩⟩
  have cut : (Template.tokenize
      ("\n    def status_for_code(code): \x7b\n        $(checks)*\n        return $(default)\n" ++
        "    \x7d\n    ") "status_for_code").toOption =
      some ⟨[token .name "def" 2 5, token .name "status_for_code" 2 9, token .op "(" 2 24,
        token .name "code" 2 25, token .op ")" 2 29, token .op ":" 2 30, token .op "\x7b" 2 32,
        token .op "$" 3 9, token .op "(" 3 10, token .name "checks" 3 11, token .op ")" 3 17,
        token .op "*" 3 18, token .name "return" 4 9, token .op "$" 4 16, token .op "(" 4 17,
        token .name "default" 4 18, token .op ")" 4 25, token .op "\x7d" 5 5],
        ⟨"status_for_code", 6, 5⟩⟩ := by decide +kernel
  exact Template.compiled_of_tokens cut rfl rfl

/-! ## Checks -/

/-- The digits of an entry's code are within the limit for writing integers. -/
def Entry.Writable (entry : Entry) : Prop :=
  (Nat.toDigits 10 entry.code.natAbs).length ≤ Decimal.digitLimit

instance (entry : Entry) : Decidable entry.Writable := inferInstanceAs (Decidable (_ ≤ _))

/-- The literal of an entry's code. -/
def Entry.codeLiteral (entry : Entry) : Value := .literal (.text (toString entry.code))

/-- The literal of an entry's name. -/
def Entry.nameLiteral (entry : Entry) : Value :=
  .literal (.text (String.ofList (Text.quote entry.name.toList)))

/-- An entry as a subject of conversions. -/
def Entry.subject (entry : Entry) : Subject := .item ⟨.int entry.code, .text entry.name⟩

variable {store before after : Store} {entry : Entry} {table : Table} {code : Int}

/-- Codes with more digits than the limit are those from a power of ten on. -/
theorem writable_iff (entry : Entry) :
    entry.Writable ↔ entry.code.natAbs < Decimal.tenPow Decimal.digitLimit := by
  have power (exponent : Nat) : Decimal.tenPow exponent = 10 ^ exponent := rfl
  rewrite [power]
  exact Nat.length_toDigits_le_iff (by decide) (by decide)

/-- A code within the limit has a literal. -/
theorem code_literal (writable : entry.Writable) :
    literalOf (.int entry.code) = .ok entry.codeLiteral := by
  have short : ¬Decimal.tenPow Decimal.digitLimit ≤ entry.code.natAbs :=
    Nat.not_le_of_lt ((writable_iff entry).mp writable)
  have source : literalSource (.int entry.code) = intSource entry.code := rfl
  rw [literalOf, source, intSource, if_neg short]
  rfl

/-- A code beyond the limit has none. -/
theorem code_refused (long : ¬entry.Writable) :
    literalOf (.int entry.code) = .error .tooManyDigitsToWrite := by
  have beyond : Decimal.tenPow Decimal.digitLimit ≤ entry.code.natAbs := by
    rw [writable_iff] at long
    exact Nat.le_of_not_lt long
  have source : literalSource (.int entry.code) = intSource entry.code := rfl
  rw [literalOf, source, intSource, if_pos beyond]
  rfl

/-- A stored statement is the check for an entry: a conditional on the code being the entry's,
whose first body returns the entry's name and whose second body is empty. -/
inductive IsCheck (store : Store) (entry : Entry) : StatementRef → Prop where
  | mk {id thenBlock elseBlock result : Nat}
      (stored : store.statements[id]? = some (.conditional
        (.equals (.reference (.text "code")) entry.codeLiteral) (.object (.block thenBlock))
        (.object (.block elseBlock))))
      (thenHeld : store.blocks[thenBlock]? = some [⟨.result, result⟩])
      (returned : store.statements[result]? = some (.result entry.nameLiteral))
      (elseHeld : store.blocks[elseBlock]? = some []) : IsCheck store entry ⟨.conditional, id⟩

/-- A check stays one while other objects are stored. -/
theorem is_check_kept {ref : StatementRef} (check : IsCheck before entry ref)
    (extended : ∀ target, before.Extends target after) : IsCheck after entry ref := by
  obtain ⟨stored, thenHeld, returned, elseHeld⟩ := check
  have held (block : Nat) (body : List StatementRef) (present : before.blocks[block]? = some body) :
      after.blocks[block]? = some body :=
    (extended (block + 1)).blocks block body (Nat.ne_of_lt (Nat.lt_succ_self block)) present
  have kept := (extended 0).statements
  exact .mk (kept _ _ stored) (held _ _ thenHeld) (kept _ _ returned) (held _ _ elseHeld)

/-- An entry is made into its check, and everything that was stored is left as it was. -/
theorem check_yields (writable : entry.Writable) (before : Store) :
    ∃ after ref, (LookupMaker.check entry.subject).Yields before ref.value after ∧
      (∀ target, before.Extends target after) ∧ IsCheck after entry ref := by
  let bindings : Template.Bindings := [("code", entry.codeLiteral), ("name", entry.nameLiteral)]
  have inner : Template.Fills before bindings
      [.result (.point "name" ⟨"status_check", 3, 16⟩) ⟨"status_check", 3, 9⟩] :=
    Template.fills_suited _ ⟨⟨entry.nameLiteral, _, rfl, rfl⟩, trivial⟩
  have none : Template.Fills before bindings [] := Template.fills_suited [] trivial
  have fills : Template.FillsOne before bindings checkForm :=
    Template.fills_conditional ⟨entry.codeLiteral, _, rfl, rfl⟩ inner none "code" _
  obtain ⟨after, ref, filled, extended, realized⟩ := fills before rfl
  refine ⟨after, ref, ?_, extended, ?_⟩
  · have called : (callRead checkTemplate bindings).Yields before ref.value after := by
      rw [check_compiled]
      have one : Template.Kind.statement ≠ .statements := by decide
      have names : "self" ∉ bindings.map Prod.fst := by simp [bindings]
      exact Template.call_one_yields "status_check" one (fun _ => Iff.rfl) names filled
    refine Build.bind_yields (Build.lift_yields rfl before) ?_
    refine Build.bind_yields (Build.lift_yields (code_literal writable) before) ?_
    refine Build.bind_yields (Build.pure_yields _ before) ?_
    exact Build.bind_yields (Build.lift_yields rfl before) called
  · cases realized with
    | conditional given stored _ thenHeld _ elseHeld below beside _ =>
      cases given.1
      cases beside
      cases below with
      | result named returned behind =>
        cases named.1
        cases behind
        exact .mk stored thenHeld returned elseHeld

/-- An entry whose code is beyond the limit is made into nothing. -/
theorem check_fails (long : ¬entry.Writable) (before : Store) :
    (LookupMaker.check entry.subject).Fails before .tooManyDigitsToWrite before := by
  refine Build.bind_fails_behind (Build.lift_yields rfl before) ?_
  refine Build.bind_fails _ ?_
  change (liftM (literalOf (.int entry.code)) : Build Value).Fails before _ before
  rw [code_refused long]
  rfl

/-- The checks for a table's entries, in order. -/
def checks (table : Table) : Build (List Value) :=
  (table.map fun entry => (⟨.int entry.code, .text entry.name⟩ : Item)).mapM fun item =>
    LookupMaker.check (.item item)

/-- The checks of a longer table start with the first entry's. -/
theorem checks_cons (entry : Entry) (rest : Table) :
    checks (entry :: rest) = (do
      let first ← LookupMaker.check entry.subject
      let others ← checks rest
      return first :: others) := by
  rw [checks, List.map_cons, List.mapM_cons]
  rfl

/-- A table is made into checks one by one, in its order. -/
theorem checks_yield (writable : ∀ entry ∈ table, entry.Writable) (before : Store) :
    ∃ after refs, (checks table).Yields before (refs.map StatementRef.value) after ∧
      (∀ target, before.Extends target after) ∧ List.Forall₂ (IsCheck after) table refs := by
  induction table generalizing before with
  | nil =>
    exact ⟨before, [], Build.pure_yields _ before, fun target => Store.extends_refl target before,
      .nil⟩
  | cons entry rest inductionHypothesis =>
    obtain ⟨middle, ref, made, extended, check⟩ :=
      check_yields (writable entry List.mem_cons_self) before
    have othersWritable : ∀ entry ∈ rest, entry.Writable := by
      intro entry member
      exact writable entry (List.mem_cons_of_mem _ member)
    obtain ⟨after, refs, others, behind, checked⟩ := inductionHypothesis othersWritable middle
    refine ⟨after, ref :: refs, ?_, ?_, .cons (is_check_kept check behind) checked⟩
    · rw [checks_cons]
      refine Build.bind_yields made ?_
      exact Build.bind_yields others (Build.pure_yields _ after)
    · intro target
      exact Store.extends_trans (extended target) (behind target)

/-- A table with a code beyond the limit is not made into checks. -/
theorem checks_fail (long : ∃ entry ∈ table, ¬entry.Writable) (before : Store) :
    ∃ after, (checks table).Fails before .tooManyDigitsToWrite after := by
  induction table generalizing before with
  | nil =>
    obtain ⟨entry, member, _⟩ := long
    cases member
  | cons entry rest inductionHypothesis =>
    rw [checks_cons]
    by_cases writable : entry.Writable
    · obtain ⟨middle, ref, made, _⟩ := check_yields writable before
      have behind : ∃ entry ∈ rest, ¬entry.Writable := by
        obtain ⟨other, member, refused⟩ := long
        cases member with
        | head => exact absurd writable refused
        | tail _ member => exact ⟨other, member, refused⟩
      obtain ⟨after, failed⟩ := inductionHypothesis behind middle
      exact ⟨after, Build.bind_fails_behind made (Build.bind_fails _ failed)⟩
    · exact ⟨before, Build.bind_fails _ (check_fails writable before)⟩

/-! ## The function -/

/-- The function that a lookup maker makes of a table. -/
def lookupFunction (default : Value) (table : Table) : Build Value :=
  (Maker.lookup ⟨default⟩).convert (.ofTable table) (.kind "FunctionDefinition") none

/-- The rule for tables makes the checks and calls the template with them. -/
theorem lookup_rule (default : Value) (table : Table) :
    lookupFunction default table = (do
      let made ← checks table
      callRead lookupTemplate [("checks", .list made), ("default", default)]) := by
  rfl

/-- If the checks are made, the function is: the checks are its body, with the default behind them.
The checks are given as a list and spliced in front of the default. -/
theorem function_yields {default : Value} {text : String}
    (expression : default.expressionText? = some text) (refs : List StatementRef)
    (before : Store) :
    ∃ after id body last,
      (callRead lookupTemplate
        [("checks", .list (refs.map StatementRef.value)), ("default", default)]).Yields before
        (.object (.statement ⟨.function, id⟩)) after ∧
      (∀ target, before.Extends target after) ∧
      after.statements[id]? = some (.function lookupName ["code"] body) ∧
      after.blocks[body]? = some (refs ++ [⟨.result, last⟩]) ∧
      after.statements[last]? = some (.result default) := by
  let bindings : Template.Bindings :=
    [("checks", .list (refs.map StatementRef.value)), ("default", default)]
  have given : Template.spliced? before bindings "checks" true = some refs :=
    statements_value refs
  have suited : Template.Form.SuitedAll before bindings lookupBody :=
    ⟨⟨refs, given⟩, ⟨default, text, rfl, expression⟩, trivial⟩
  have fills : Template.FillsOne before bindings lookupForm :=
    Template.fills_function (Template.fills_suited lookupBody suited) lookupName ["code"] _
  obtain ⟨after, ref, filled, extended, realized⟩ := fills before rfl
  cases realized with
  | @function _ _ _ _ _ id body inner _ stored _ held below _ =>
    cases below with
    | splice spliced below =>
      rw [given] at spliced
      cases spliced
      cases below with
      | @result _ _ _ last _ _ _ named returned behind =>
        cases named.1
        cases behind
        refine ⟨after, id, body, last, ?_, extended, stored, held, returned⟩
        rw [lookup_compiled]
        have one : Template.Kind.functionDefinition ≠ .statements := by decide
        have names : "self" ∉ bindings.map Prod.fst := by simp [bindings]
        exact Template.call_one_yields "status_for_code" one (fun _ => Iff.rfl) names filled

/-! ## Running the function -/

/-- The parameter of the lookup function stands for a code. -/
def argument (code : Int) : Variables :=
  fun name => if name = "code" then some (.int code) else none

/-- The condition of a check holds for the entry's code and for no other. -/
theorem check_decided (entry : Entry) (code : Int) :
    (Value.equals (.reference (.text "code")) entry.codeLiteral).holds? (argument code) =
      some (decide (entry.code = code)) := by
  have left : (Value.reference (.text "code")).datum? (argument code) = some (.int code) := rfl
  have right : entry.codeLiteral.datum? (argument code) = some (.int entry.code) :=
    literal_int entry.code
  rw [Value.holds?, left, right]
  simp [eq_comm]

/-- The check for an entry returns the entry's name if the code is the entry's. -/
theorem check_returns {ref : StatementRef} (check : IsCheck store entry ref)
    (same : entry.code = code) (rest : List StatementRef) :
    Runs store (argument code) (ref :: rest) (some entry.nameLiteral) := by
  obtain ⟨stored, thenHeld, returned, _⟩ := check
  have decided := check_decided entry code
  rw [decide_eq_true same] at decided
  refine .returned stored decided rfl ?_
  rw [Template.block_eq thenHeld]
  exact .result returned

/-- The check for an entry is passed if the code is another. -/
theorem check_passes {ref : StatementRef} (check : IsCheck store entry ref)
    (other : entry.code ≠ code) {rest : List StatementRef} {outcome : Option Value}
    (behind : Runs store (argument code) rest outcome) :
    Runs store (argument code) (ref :: rest) outcome := by
  obtain ⟨stored, _, _, elseHeld⟩ := check
  have decided := check_decided entry code
  rw [decide_eq_false other] at decided
  refine .passed stored decided rfl ?_ behind
  rw [Template.block_eq elseHeld]
  exact .ended

/-- A run through the checks of a table returns the name of the first entry with the code, and goes
on behind them if there is none. The induction is on the table, with one check for each entry. -/
theorem checks_run {refs rest : List StatementRef} {outcome : Option Value}
    (checked : List.Forall₂ (IsCheck store) table refs)
    (behind : Runs store (argument code) rest outcome) :
    Runs store (argument code) (refs ++ rest)
      (((table.find? fun entry => entry.code == code).map Entry.nameLiteral).or outcome) := by
  induction checked with
  | nil => exact behind
  | @cons entry ref _ _ check _ inductionHypothesis =>
    by_cases same : entry.code = code
    · rw [List.find?_cons_of_pos (by simpa using same)]
      exact check_returns check same _
    · rw [List.find?_cons_of_neg (by simpa using same)]
      exact check_passes check same inductionHypothesis

/-- A table with a code beyond the limit has no lookup function. -/
theorem lookup_fails (default : Value) (long : ∃ entry ∈ table, ¬entry.Writable) (store : Store) :
    ∃ after, (lookupFunction default table).Fails store .tooManyDigitsToWrite after := by
  obtain ⟨after, failed⟩ := checks_fail long store
  rw [lookup_rule]
  exact ⟨after, Build.bind_fails _ failed⟩

/-- The lookup function of a table behaves like the table. It is made whenever the codes are within
the limit for writing integers, and then its body has exactly one run on each code: it returns a
literal of the first name that the table has for the code, and the default itself if the table has
none. With a code beyond the limit there is no function, and the fault says so.

Proof: the body holds one check for each entry, in order, and the default behind them. A check of
another code is passed, one of the same code ends the run (`checks_run`); and what runs at all has
one run only (`runs_iff`). A code that is too long has no literal, so making its check fails, and
nothing catches that. -/
theorem lookup_answers (default : Value) (text : String)
    (expression : default.expressionText? = some text) (table : Table) (store : Store) :
    ((∀ entry ∈ table, entry.Writable) → ∃ after id body,
      (lookupFunction default table).Yields store (.object (.statement ⟨.function, id⟩)) after ∧
      after.statements[id]? = some (.function lookupName ["code"] body) ∧
      ∀ code : Int, ∃ returned,
        (∀ outcome, Runs after (argument code) (after.block body) outcome ↔
          outcome = some returned) ∧
        match table.find? fun entry => entry.code == code with
        | some entry => returned.datum? (argument code) = some (.text entry.name)
        | none => returned = default) ∧
    ((∃ entry ∈ table, ¬entry.Writable) → ∃ after,
      (lookupFunction default table).Fails store .tooManyDigitsToWrite after) := by
  constructor
  · intro writable
    obtain ⟨middle, refs, made, _, checked⟩ := checks_yield writable store
    obtain ⟨after, id, body, last, called, extended, stored, held, answer⟩ :=
      function_yields expression refs middle
    refine ⟨after, id, body, ?_, stored, ?_⟩
    · rw [lookup_rule]
      exact Build.bind_yields made called
    · intro code
      have kept : List.Forall₂ (IsCheck after) table refs :=
        checked.imp fun _ _ check => is_check_kept check extended
      have behind : Runs after (argument code) [⟨.result, last⟩] (some default) := .result answer
      have run := checks_run kept behind
      rw [← Template.block_eq held] at run
      cases found : table.find? fun entry => entry.code == code with
      | some entry =>
        rw [found] at run
        exact ⟨entry.nameLiteral, runs_iff run, literal_text entry.name⟩
      | none =>
        rw [found] at run
        exact ⟨default, runs_iff run, rfl⟩
  · intro long
    exact lookup_fails default long store

/-- The first of two names for a code is the one that the lookup function returns. -/
theorem repeated_code_answers :
    ∃ after id body,
      (lookupFunction (.literal (.text "None"))
        [⟨404, "Not Found"⟩, ⟨200, "\"OK\""⟩, ⟨200, "Fine"⟩]).Yields Store.empty
        (.object (.statement ⟨.function, id⟩)) after ∧
      after.statements[id]? = some (.function lookupName ["code"] body) ∧
      ∃ returned, Runs after (argument 200) (after.block body) (some returned) ∧
        returned.datum? (argument 200) = some (.text "\"OK\"") := by
  let table : Table := [⟨404, "Not Found"⟩, ⟨200, "\"OK\""⟩, ⟨200, "Fine"⟩]
  have writable : ∀ entry ∈ table, entry.Writable := by decide
  obtain ⟨after, id, body, made, stored, answers⟩ :=
    (lookup_answers (.literal (.text "None")) "None" rfl table Store.empty).1 writable
  obtain ⟨returned, runs, name⟩ := answers 200
  exact ⟨after, id, body, made, stored, returned, (runs (some returned)).mpr rfl, name⟩

/-- There is no lookup function for a code with one digit more than integers are written with. -/
theorem long_code_refused :
    ¬∃ value after, (lookupFunction (.literal (.text "None"))
      [⟨.ofNat (Decimal.tenPow 4300), "a"⟩]).Yields Store.empty value after := by
  rintro ⟨value, after, made⟩
  have size (exponent : Nat) : (Int.ofNat (Decimal.tenPow exponent)).natAbs =
      Decimal.tenPow exponent := rfl
  have long : ¬Entry.Writable ⟨.ofNat (Decimal.tenPow 4300), "a"⟩ := by
    intro writable
    have below := (writable_iff _).mp writable
    exact absurd below (Nat.not_lt_of_le (Nat.le_of_eq (size Decimal.digitLimit).symm))
  obtain ⟨failed, fails⟩ :=
    lookup_fails (.literal (.text "None")) ⟨_, List.mem_singleton_self _, long⟩ Store.empty
  exact Build.not_yields_of_fails fails value after made

end Stencil.StatusTable
