import Stencil.Proofs.Outcome
import Stencil.Proofs.Code.Rendering
import Stencil.Proofs.Template.Acceptance
import Stencil.Proofs.Template.Filling

/-!
# What a template means

`Form.meaning` renders forms without building anything: each form has the lines
that its words say, with the source texts of the given expressions in place of
its points and the lines of the given statements in place of its splices. A body
without lines is written `pass` and a second body without lines not at all, and
whether there are lines is only known when the splices are in place.

Building a template's statements and rendering what was built gives the same
lines, at every depth (`call_renders_meaning`). Filling gives statements that
realize the forms; statements that realize forms have the lines of their
meaning, by induction on the forms with the bodies of the statements standing
for the inner forms.
-/

namespace Stencil.Template

open Code

/-- The text of an operand, with the source text of the expression that is given for a point. -/
def Operand.meaning (bindings : Bindings) : Operand → String
  | .literal text _ => text
  | .reference name _ => name
  | .point name _ => ((bindings.lookup name).bind Value.expressionText?).getD ""

mutual

/-- The lines that a form says at a depth. The parameter gives the lines of splices. -/
def Form.meaning (bindings : Bindings) (splice : String → Bool → Int → Except Fault (List String))
    (depth : Int) : Form → Except Fault (List String)
  | .function name args body _ => do
    let inner ← meaningAll bindings splice (depth + 1) body
    return Outline.indent depth ("def " ++ name ++ "(" ++ ", ".intercalate args ++ "):") ::
      orPass (depth + 1) inner
  | .conditional lhs rhs thenBody elseBody _ => do
    let inner ← meaningAll bindings splice (depth + 1) thenBody
    let other ← meaningAll bindings splice (depth + 1) elseBody
    return Outline.indent depth ("if " ++ lhs ++ " == " ++ rhs.meaning bindings ++ ":") ::
      (orPass (depth + 1) inner ++ withElse depth other)
  | .result value _ => .ok [Outline.indent depth ("return " ++ value.meaning bindings)]
  | .assign target value _ =>
    .ok [Outline.indent depth (target ++ " = " ++ value.meaning bindings)]
  | .raw text _ => .ok [Outline.indent depth text]
  | .splice name many _ => splice name many depth

/-- The lines that forms say one after the other. This is what a template says, by its text: there
are no stored statements in it but those that are given. -/
def Form.meaningAll (bindings : Bindings)
    (splice : String → Bool → Int → Except Fault (List String)) (depth : Int) :
    List Form → Except Fault (List String)
  | [] => .ok []
  | form :: rest => do
    let first ← form.meaning bindings splice depth
    let others ← meaningAll bindings splice depth rest
    return first ++ others

end

/-- The lines of the statements that a store gives for a splice, as another store renders them. -/
def splicedLines (store : Store) (bindings : Bindings) (after : Store) (name : String) (many : Bool)
    (depth : Int) : Except Fault (List String) :=
  after.linesOf depth ((spliced? store bindings name many).getD [])

variable {store after : Store} {bindings : Bindings}

/-- The meaning of an operand is the source text of the expression that it stands for. -/
theorem means_meaning {operand : Operand} {value : Value} {text : String}
    (filled : operand.Means bindings value text) : operand.meaning bindings = text := by
  obtain ⟨found, written⟩ := filled
  cases operand with
  | literal source location =>
    cases found
    exact Option.some.inj written
  | reference name location =>
    cases found
    exact Option.some.inj written
  | point name location =>
    rw [Operand.value?] at found
    rw [Operand.meaning, found, Option.bind_some, written, Option.getD_some]

/-- A comparison with what an operand stands for is written with the operand's text. -/
theorem comparison_text {lhs text : String} {value : Value}
    (written : value.expressionText? = some text) :
    after.text (.equals (.reference (.text lhs)) value) = .ok (lhs ++ " == " ++ text) := by
  have whole : (Value.equals (.reference (.text lhs)) value).expressionText? =
      some (lhs ++ " == " ++ text) := by
    simp [Value.expressionText?, Value.plain, written]
  exact (expression_text _ whole after.look).1

/-- The head of a conditional, with its condition put together first or not. -/
theorem condition_head (lhs text : String) :
    "if " ++ (lhs ++ " == " ++ text) ++ ":" = "if " ++ lhs ++ " == " ++ text ++ ":" := by
  simp only [String.append_assoc]

/-- A body that is known holds its statements. -/
theorem block_eq {id : Nat} {refs : List StatementRef} (held : after.blocks[id]? = some refs) :
    after.block id = refs := by
  rw [Store.block, held, Option.getD_some]

/-- Statements that realize forms have the lines that the forms say. The induction is on the rules
of realizing. What a body holds has the lines of its inner forms, and it is written `pass` exactly
if these are none. -/
theorem realized_lines {low : Nat} {forms : List Form} {refs : List StatementRef}
    (realized : Realizes store bindings low after forms refs) (depth : Int) :
    after.linesOf depth refs =
      Form.meaningAll bindings (splicedLines store bindings after) depth forms := by
  induction realized generalizing depth with
  | nothing => rfl
  | function stored _ held _ _ inner inductionHypothesis =>
    rw [lines_of_cons, function_lines depth stored, block_eq held, inner, inductionHypothesis]
    rfl
  | conditional filled stored _ thenHeld _ elseHeld _ _ _ inner other inductionHypothesis =>
    rw [lines_of_cons, conditional_lines depth stored (comparison_text filled.2),
      block_eq thenHeld, block_eq elseHeld, inner, other, inductionHypothesis, Form.meaningAll,
      Form.meaning, means_meaning filled, condition_head]
  | result filled stored _ inductionHypothesis =>
    have written := (expression_text _ filled.2 after.look).1
    rw [lines_of_cons, result_lines depth stored written, inductionHypothesis, Form.meaningAll,
      Form.meaning, means_meaning filled]
  | assign filled stored _ inductionHypothesis =>
    have written := (expression_text _ filled.2 after.look).1
    rw [lines_of_cons, assignment_lines depth stored rfl written, inductionHypothesis,
      Form.meaningAll, Form.meaning, means_meaning filled]
  | raw stored _ inductionHypothesis =>
    rw [lines_of_cons, raw_lines depth stored, inductionHypothesis]
    rfl
  | splice given _ inductionHypothesis =>
    rw [lines_of_append, inductionHypothesis, Form.meaningAll, Form.meaning, splicedLines, given]
    rfl

/-! ## Calling a compiled template -/

/-- The names at their first occurrences are all the names. -/
theorem mem_distinct (name : String) (names : List String) :
    name ∈ distinct names ↔ name ∈ names := by
  have step (seen : List String) : name ∈ names.foldl
      (fun seen name => if seen.contains name then seen else seen ++ [name]) seen ↔
        name ∈ seen ∨ name ∈ names := by
    induction names generalizing seen with
    | nil => simp
    | cons first rest inductionHypothesis =>
      rw [List.foldl_cons, inductionHypothesis]
      by_cases known : first ∈ seen
      · simp only [List.contains_eq_mem, known, decide_true, if_true, List.mem_cons]
        constructor
        · rintro (before | behind)
          · exact .inl before
          · exact .inr (.inr behind)
        · rintro (before | rfl | behind)
          · exact .inl before
          · exact .inl known
          · exact .inr behind
      · simp [known, or_assoc]
  rw [distinct, step []]
  simp

/-- Names that are exactly the points of a template are accepted. -/
theorem not_misnamed {template : Template} {names : List String}
    (named : ∀ name, name ∈ names ↔ name ∈ Form.pointsOf template.forms)
    (free : "self" ∉ names) : template.misnamed? names = none := by
  have points (name : String) : name ∈ template.points ↔ name ∈ names := by
    rw [Template.points, mem_distinct, named]
  have missing : template.points.filter (fun name => !names.contains name) = [] := by
    rw [List.filter_eq_nil_iff]
    intro name member
    simp [(points name).mp member]
  have unexpected : names.filter (fun name => !template.points.contains name) = [] := by
    rw [List.filter_eq_nil_iff]
    intro name member
    simp [(points name).mpr member]
  have other : names.contains "self" = false := by simpa using free
  rw [Template.misnamed?]
  simp only [other, missing, unexpected]
  rfl

/-- What is compiled as statements are the forms of the text. -/
theorem compiled_forms {text name : String} {template : Template}
    (compiled : Template.compile .statements text name = .ok template) :
    ∃ forms, parse text name = .ok forms ∧ template = ⟨name, .statements, forms⟩ := by
  obtain ⟨forms, parsed, done⟩ := bind_ok compiled
  cases done
  exact ⟨forms, parsed, rfl⟩

/-- A text that is cut into tokens is compiled if the tokens are read as forms that fit the kind. -/
theorem compiled_of_tokens {kind : Kind} {text name : String} {tokens : Tokens} {forms : List Form}
    (cut : (tokenize text name).toOption = some tokens) (parsed : parseTokens tokens = .ok forms)
    (fit : Template.misfit? kind name forms = none) :
    Template.compile kind text name = .ok ⟨name, kind, forms⟩ := by
  rw [Template.compile, parse_of_tokens cut parsed]
  simp only [bind, Except.bind, fit]
  rfl

/-- Calling a template of one statement builds the statement. -/
theorem call_one_yields (name : String) {kind : Kind} {form : Form} {value : Value}
    (one : kind ≠ .statements)
    (named : ∀ point, point ∈ bindings.map Prod.fst ↔ point ∈ Form.pointsOf [form])
    (free : "self" ∉ bindings.map Prod.fst)
    (filled : (form.fill bindings.read).Yields store value after) :
    (Template.call ⟨name, kind, [form]⟩ bindings).Yields store value after := by
  have accepted : Template.misnamed? ⟨name, kind, [form]⟩ (bindings.map Prod.fst) = none :=
    not_misnamed named free
  rw [call_eq, accepted]
  cases kind with
  | statements => exact absurd rfl one
  | statement => exact filled
  | functionDefinition => exact filled

/-- Calling a compiled template preserves what its text means. The call gives the list of the
statements that it builds. Rendered one after the other, at any depth, these are the lines that the
parsed forms say with the given expressions and statements in place; and everything that was stored
before the call, the given statements among it, is left as it was.

Proof: filling the forms puts statements into a new body that realize the forms, and leaves
everything else (`fills_fresh`). Listing them adds a list and nothing more, so they realize the
forms still; and what realizes forms has the lines that the forms say (`realized_lines`). -/
theorem call_renders_meaning (text name : String) (template : Template)
    (compiled : Template.compile .statements text name = .ok template) (store : Store)
    (bindings : Bindings)
    (named : ∀ point, point ∈ bindings.map Prod.fst ↔ point ∈ Form.pointsOf template.forms)
    (free : "self" ∉ bindings.map Prod.fst)
    (suited : Form.SuitedAll store bindings template.forms) :
    parse text name = .ok template.forms ∧ ∃ after id refs,
      (template.call bindings).Yields store (.object (.cell id)) after ∧
      after.cell id = refs.map StatementRef.value ∧
      (∀ depth : Int, after.linesOf depth refs =
        Form.meaningAll bindings (splicedLines store bindings after) depth template.forms) ∧
      (∀ (id : Nat) (statement : Statement), store.statements[id]? = some statement →
        after.statements[id]? = some statement) ∧
      (∀ (id : Nat) (body : List StatementRef), store.blocks[id]? = some body →
        after.blocks[id]? = some body) := by
  obtain ⟨forms, parsed, rfl⟩ := compiled_forms compiled
  let opened : Store := { store with blocks := store.blocks.push [] }
  let block := store.blocks.size
  obtain ⟨filled, refs, built, extended, held, realized⟩ :=
    fills_fresh opened block (fills_suited forms suited) rfl (by simp [opened, block])
  let items : List Value := refs.map StatementRef.value
  let after : Store := { filled with cells := filled.cells.push items }
  have kept (target : Nat) : store.Extends target filled :=
    Store.extends_fresh (Build.new_block_extends target store) (Nat.le_refl block) extended
  have given : filled.remaining (.block block 0) = items := by
    rw [Store.remaining, block_eq held, List.drop_zero]
    rfl
  have stable : Store.Keeps block filled after :=
    ⟨fun _ _ stored => stored, fun _ _ _ held => held, Nat.le_refl _⟩
  have realizedAfter : Realizes store bindings opened.blocks.size after forms refs :=
    realizes_kept realized stable (by simp [opened, block]) (Nat.le_refl _)
  refine ⟨parsed, after, filled.cells.size, refs, ?_, ?_, ?_, ?_, ?_⟩
  · rw [call_eq, not_misnamed named free]
    refine Build.bind_yields (Build.new_block_yields store) ?_
    refine Build.bind_yields built ?_
    refine Build.bind_yields (Build.get_yields filled) ?_
    rw [given]
    exact Build.bind_yields (Build.new_cell_yields items filled) (Build.pure_yields _ after)
  · simp [after, Store.cell, items]
  · exact realized_lines realizedAfter
  · exact fun id statement stored => (kept block).statements id statement stored
  · intro id body present
    have inside : id < store.blocks.size := (Array.getElem?_eq_some_iff.mp present).1
    exact (kept store.blocks.size).blocks id body (Nat.ne_of_lt inside) present

/-- A function whose body is a list, and a statement behind it. -/
def listFunction : Template :=
  ⟨"t", .statements, [.function "f" [] [.splice "m" true ⟨"t", 1, 11⟩] ⟨"t", 1, 1⟩,
    .splice "s" false ⟨"t", 1, 18⟩]⟩

/-- The text of the function and the statement. -/
theorem list_function_compiled :
    Template.compile .statements "def f(): \x7b$(m)*\x7d $(s)" "t" = .ok listFunction := by
  let op (text : String) (column : Nat) : Token := ⟨.op, text, ⟨"t", 1, column⟩⟩
  let name (text : String) (column : Nat) : Token := ⟨.name, text, ⟨"t", 1, column⟩⟩
  have cut : (tokenize "def f(): \x7b$(m)*\x7d $(s)" "t").toOption =
      some ⟨[name "def" 1, name "f" 5, op "(" 6, op ")" 7, op ":" 8, op "\x7b" 10, op "$" 11,
        op "(" 12, name "m" 13, op ")" 14, op "*" 15, op "\x7d" 16, op "$" 18, op "(" 19,
        name "s" 20, op ")" 21], ⟨"t", 1, 22⟩⟩ := by decide +kernel
  exact compiled_of_tokens cut rfl rfl

/-- If the list has no statement, the body around it is written `pass`. -/
theorem empty_list_rendered :
    ∃ store after id refs,
      (listFunction.call [("m", .list []), ("s", StatementRef.value ⟨.raw, 0⟩)]).Yields store
        (.object (.cell id)) after ∧
      after.cell id = refs.map StatementRef.value ∧
      after.linesOf 1 refs = .ok ["    def f():", "        pass", "    done()"] := by
  let store : Store := { Store.empty with statements := #[.raw "done()"] }
  let bindings : Bindings := [("m", .list []), ("s", StatementRef.value ⟨.raw, 0⟩)]
  have named (point : String) :
      point ∈ bindings.map Prod.fst ↔ point ∈ Form.pointsOf listFunction.forms := Iff.rfl
  have suited : Form.SuitedAll store bindings listFunction.forms :=
    ⟨⟨⟨[], rfl⟩, trivial⟩, ⟨[⟨.raw, 0⟩], rfl⟩, trivial⟩
  obtain ⟨-, after, id, refs, called, given, lines, kept, -⟩ :=
    call_renders_meaning _ "t" listFunction list_function_compiled store bindings named (by decide)
      suited
  have stored : after.statements[0]? = some (.raw "done()") := kept 0 (.raw "done()") rfl
  have behind : splicedLines store bindings after "s" false 1 = .ok ["    done()"] := by
    have line : after.statementLines 1 ⟨.raw, 0⟩ = .ok [Outline.indent 1 "done()"] :=
      raw_lines 1 stored
    have one : spliced? store bindings "s" false = some [⟨.raw, 0⟩] := rfl
    rw [splicedLines, one, Option.getD_some, lines_of_cons, line]
    rfl
  refine ⟨store, after, id, refs, called, given, ?_⟩
  rw [lines 1, listFunction, Form.meaningAll, Form.meaningAll, Form.meaning, Form.meaning, behind]
  rfl

end Stencil.Template
