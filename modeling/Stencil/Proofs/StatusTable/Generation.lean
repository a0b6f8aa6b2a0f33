import Stencil.Code.Files
import Stencil.Proofs.StatusTable.Lookup

/-!
# The files that makers make

A maker of modules or packages is called on a table: the rule that is asked for
is run, the templates are filled, statements are stored, and what was made is
rendered into files. All that is as if the text had been written line by line
from the table (`generated_files`): a constant for each entry, and the lookup
function with a check for each entry and the default behind them. A package
has a second file, with one line that passes the function on.

What is made is described by what is stored (`IsModule`, `IsPackage`). Storing
more leaves that description true (`Store.Holds`), so what was made first is not
changed by making more; and the files are read off the description.
-/

namespace Stencil.Code

/-- The statements and bodies of one store are in another too. -/
structure Store.Retains (before after : Store) : Prop where
  statements : ∀ (id : Nat) (statement : Statement), before.statements[id]? = some statement →
    after.statements[id]? = some statement
  blocks : ∀ (id : Nat) (body : List StatementRef), before.blocks[id]? = some body →
    after.blocks[id]? = some body

/-- What one store holds, another holds too. -/
structure Store.Holds (before after : Store) : Prop extends before.Retains after where
  modules : ∀ (id : Nat) (item : Module), before.modules[id]? = some item →
    after.modules[id]? = some item
  packages : ∀ (id : Nat) (item : Package), before.packages[id]? = some item →
    after.packages[id]? = some item

namespace Store

variable {before middle after : Store}

/-- A store holds what it holds. -/
theorem holds_refl (store : Store) : store.Holds store :=
  ⟨⟨fun _ _ held => held, fun _ _ held => held⟩, fun _ _ held => held, fun _ _ held => held⟩

/-- What is held twice is held. -/
theorem holds_trans (first : before.Holds middle) (second : middle.Holds after) :
    before.Holds after :=
  ⟨⟨fun id statement held => second.statements id statement (first.statements id statement held),
      fun id body held => second.blocks id body (first.blocks id body held)⟩,
    fun id item held => second.modules id item (first.modules id item held),
    fun id item held => second.packages id item (first.packages id item held)⟩

/-- A store that extends another by growing no body, or one that is new, holds all of it. -/
theorem holds_of_extends {target : Nat} (extended : middle.Extends target after)
    (first : before.Holds middle) (new : before.blocks.size ≤ target) : before.Holds after := by
  refine ⟨⟨?_, ?_⟩, ?_, ?_⟩
  · intro id statement held
    exact extended.statements id statement (first.statements id statement held)
  · intro id body held
    have inside : id < before.blocks.size := (Array.getElem?_eq_some_iff.mp held).1
    exact extended.blocks id body (by omega) (first.blocks id body held)
  · intro id item held
    rw [extended.others]
    exact first.modules id item held
  · intro id item held
    rw [extended.others]
    exact first.packages id item held

end Store

variable {store : Store}

/-- Statements that stand for items have the lines that the items say. -/
theorem lines_of_each {α : Type} {stands : α → StatementRef → Prop} {lines : α → List String}
    {depth : Int} {items : List α} {refs : List StatementRef}
    (each : ∀ item ref, stands item ref → store.statementLines depth ref = .ok (lines item))
    (all : List.Forall₂ stands items refs) :
    store.linesOf depth refs = .ok (items.flatMap lines) := by
  induction all with
  | nil => rfl
  | cons here _ inductionHypothesis =>
    rw [lines_of_cons, each _ _ here, inductionHypothesis]
    rfl

/-- The file of a module holds the lines of its statements, each ended by a line feed. -/
theorem module_file {id : Nat} {item : Module} {lines : List String}
    (stored : store.modules[id]? = some item)
    (written : store.linesOf 0 (store.block item.body) = .ok lines) :
    store.file (.module id) = .ok ⟨item.path, Outline.fileText lines⟩ := by
  have text : store.moduleText id = (store.linesOf 0 (store.block item.body)).map
      Outline.fileText := by
    rw [Store.moduleText, Store.sourceWith, stored, lines_of_outlines]
    cases outlined : (store.block item.body).mapM store.outline <;> simp only [outlined] <;> rfl
  rw [written] at text
  rw [Store.file, Store.filePath, stored]
  exact ok_bind text _

end Stencil.Code

namespace Stencil.StatusTable

open Code Conversion

/-! ## The text builder -/

/-- The name of the constant that a convention makes of a name. -/
def Naming.constant (naming : Naming) (name : String) : String :=
  match naming with
  | .asIs => name
  | .upperSnake => upperSnakeText name

/-- The line of an entry's constant. -/
def constantLine (naming : Naming) (entry : Entry) : String :=
  naming.constant entry.name ++ " = " ++ toString entry.code

/-- The two lines of an entry's check. -/
def checkLines (entry : Entry) : List String :=
  ["    if code == " ++ toString entry.code ++ ":",
    "        return " ++ String.ofList (Text.quote entry.name.toList)]

/-- The lines of a table's module, with the source text of the default. -/
def moduleLines (naming : Naming) (default : String) (table : Table) : List String :=
  table.map (constantLine naming) ++
    "def status_for_code(code):" :: (table.flatMap checkLines ++ ["    return " ++ default])

/-- The files of a table: the module's alone, or in a package's directory behind the file that
passes the lookup function on. -/
def tableFiles (naming : Naming) (default moduleName : String) (package : Option String)
    (table : Table) : List OutputFile :=
  let path := Path.ofText (moduleName ++ ".py")
  let text := Outline.fileText (moduleLines naming default table)
  match package with
  | none => [⟨path, text⟩]
  | some name =>
    [⟨(Path.ofText name).join (.ofText "__init__.py"),
        Outline.fileText ["from ." ++ moduleName ++ " import status_for_code"]⟩,
      ⟨(Path.ofText name).join path, text⟩]

/-- The maker of a table's module, alone or in a package. -/
def makerOf (module : ModuleMaker) : Option String → Maker
  | none => .module module
  | some name => .package ⟨name, module⟩

variable {store before middle after : Store} {naming : Naming} {default : Value} {text : String}
  {entry : Entry} {table : Table}

/-! ## The rules that are asked for -/

/-- A conversion by a table whose first rule is the one that is asked for runs its function. -/
theorem convert_first (role owner input output : String) (function : Subject → Build Value)
    (rest : List (Row (Subject → Build Value))) (subject : Subject) :
    convertBy ⟨role, makingRow owner input output function :: rest⟩ subject (.kind output)
      (some (.kind input)) = function subject := by
  have same : (Pair.ofTags (.kind input) (.kind output)).same
      (Pair.ofTags (.kind input) (.kind output)) = true := by
    simp [Pair.same, Pair.ofTags, Tag.same]
  have found : Conversion.Table.resolve ⟨role, makingRow owner input output function :: rest⟩
      (.ofTags (.kind input) (.kind output)) =
        .ok ⟨.ofTags (.kind input) (.kind output), function, owner⟩ := by
    have first : Conversion.Table.find? (.ofTags (.kind input) (.kind output))
        (makingRow owner input output function :: rest) =
          some ⟨.ofTags (.kind input) (.kind output), function, owner⟩ :=
      congrArg (Option.map Conversion.Row.rule) (List.find?_cons_of_pos same)
    unfold Conversion.Table.resolve Conversion.Table.get?
    rw [first]
    rfl
  unfold convertBy
  change (do
    let rule ← liftM (Conversion.Table.resolve ⟨role, makingRow owner input output function :: rest⟩
      (.ofTags (.kind input) (.kind output)))
    rule.function subject) = _
  rw [found]
  rfl

/-- A module maker makes the module of its subject. -/
theorem make_module (maker : ModuleMaker) (subject : Subject) :
    (Maker.module maker).make subject = maker.module subject :=
  convert_first _ _ _ _ _ _ subject

/-- A package maker makes the package of its subject. -/
theorem make_package (maker : PackageMaker) (subject : Subject) :
    (Maker.package maker).make subject = maker.package subject :=
  convert_first _ _ _ _ _ _ subject

/-! ## Constants -/

/-- A stored statement is the constant of an entry. -/
def IsConstant (store : Store) (naming : Naming) (entry : Entry) (ref : StatementRef) : Prop :=
  store.statements[ref.id]? =
    some (.assignment (.text (naming.constant entry.name)) entry.codeLiteral)

/-- A convention applies to every text. -/
theorem apply_text (naming : Naming) (name : String) :
    naming.apply (.text name) = .ok (.text (naming.constant name)) := by
  cases naming with
  | asIs => rfl
  | upperSnake => rfl

/-- An entry is made into its constant, and everything that was stored is left as it was. -/
theorem constant_yields (maker : ModuleMaker) (writable : entry.Writable) (before : Store) :
    ∃ after ref, (maker.constant entry.subject).Yields before ref.value after ∧
      (∀ target, before.Extends target after) ∧ IsConstant after maker.naming entry ref := by
  let statement : Statement :=
    .assignment (.text (maker.naming.constant entry.name)) entry.codeLiteral
  let after : Store := { before with statements := before.statements.push statement }
  let ref : StatementRef := ⟨.assignment, before.statements.size⟩
  have stored : IsConstant after maker.naming entry ref := Array.getElem?_push_size
  refine ⟨after, ref, ?_, fun target => Build.new_statement_extends target statement before, stored⟩
  refine Build.bind_yields (Build.pure_yields _ before) ?_
  refine Build.bind_yields (Build.lift_yields (apply_text maker.naming entry.name) before) ?_
  refine Build.bind_yields (Build.lift_yields rfl before) ?_
  refine Build.bind_yields (Build.lift_yields (code_literal writable) before) ?_
  exact Build.bind_yields (Build.new_statement_yields statement before) (Build.pure_yields _ _)

/-- An entry whose code is beyond the limit has no constant. -/
theorem constant_fails (maker : ModuleMaker) (long : ¬entry.Writable) (before : Store) :
    (maker.constant entry.subject).Fails before .tooManyDigitsToWrite before := by
  refine Build.bind_fails_behind (Build.pure_yields _ before) ?_
  refine Build.bind_fails_behind
    (Build.lift_yields (apply_text maker.naming entry.name) before) ?_
  refine Build.bind_fails_behind (Build.lift_yields rfl before) ?_
  refine Build.bind_fails _ ?_
  exact Build.lift_fails_iff.mpr ⟨code_refused long, rfl⟩

/-- The constants of a table are put into a body, in order. -/
def constants (maker : ModuleMaker) (body : Nat) (table : Table) : Build Unit :=
  (table.map fun entry => (⟨.int entry.code, .text entry.name⟩ : Item)).forM fun item => do
    Build.push body (← maker.constant (.item item))

/-- The constants of a longer table start with the first entry's. -/
theorem constants_cons (maker : ModuleMaker) (body : Nat) (entry : Entry) (rest : Table) :
    constants maker body (entry :: rest) = (do
      (do Build.push body (← maker.constant entry.subject))
      constants maker body rest) := rfl

/-- The constants of a table are put behind what stands in a body. -/
theorem constants_yield (maker : ModuleMaker) {body : Nat} {held : List StatementRef}
    (writable : ∀ entry ∈ table, entry.Writable) (open' : before.blocks[body]? = some held) :
    ∃ after refs, (constants maker body table).Yields before () after ∧
      before.Extends body after ∧ after.blocks[body]? = some (held ++ refs) ∧
      List.Forall₂ (IsConstant after maker.naming) table refs := by
  induction table generalizing before held with
  | nil =>
    exact ⟨before, [], Build.pure_yields () before, Store.extends_refl body before,
      by rw [open', List.append_nil], .nil⟩
  | cons entry rest inductionHypothesis =>
    rw [List.forall_mem_cons] at writable
    obtain ⟨middle, ref, made, extended, constant⟩ := constant_yields maker writable.1 before
    have stillOpen : middle.blocks[body]? = some held :=
      (extended (body + 1)).blocks body held (Nat.ne_of_lt (Nat.lt_succ_self body)) open'
    have grown : middle.Extends body (middle.appended body [ref]) :=
      Build.appended_extends body [ref] middle
    obtain ⟨after, refs, others, behind, full, constants⟩ :=
      inductionHypothesis writable.2 (Store.appended_block stillOpen [ref])
    refine ⟨after, ref :: refs, ?_, ?_, ?_, .cons ?_ constants⟩
    · rw [constants_cons]
      exact Build.bind_yields (Build.bind_yields made (Build.push_yields body ref middle)) others
    · exact Store.extends_trans (extended body) (Store.extends_trans grown behind)
    · rw [full, List.append_assoc, List.singleton_append]
    · exact behind.statements _ _ (grown.statements _ _ constant)

/-- A table with a code beyond the limit has not all its constants. -/
theorem constants_fail (maker : ModuleMaker) (body : Nat)
    (long : ∃ entry ∈ table, ¬entry.Writable) (before : Store) :
    ∃ after, (constants maker body table).Fails before .tooManyDigitsToWrite after := by
  induction table generalizing before with
  | nil =>
    obtain ⟨entry, member, _⟩ := long
    cases member
  | cons entry rest inductionHypothesis =>
    rw [constants_cons]
    by_cases writable : entry.Writable
    · obtain ⟨middle, ref, made, _⟩ := constant_yields maker writable before
      have behind : ∃ entry ∈ rest, ¬entry.Writable := by
        obtain ⟨other, member, refused⟩ := long
        cases member with
        | head => exact absurd writable refused
        | tail _ member => exact ⟨other, member, refused⟩
      obtain ⟨after, failed⟩ := inductionHypothesis behind (middle.appended body [ref])
      have first := Build.bind_yields made (Build.push_yields body ref middle)
      exact ⟨after, Build.bind_fails_behind first failed⟩
    · exact ⟨before, Build.bind_fails _ (Build.bind_fails _ (constant_fails maker writable before))⟩

/-! ## Modules -/

/-- A stored body is that of a table's module: the constants in the table's order, with the lookup
function behind them, which has the checks in the table's order and the default behind them. -/
inductive IsBody (store : Store) (naming : Naming) (default : Value) (table : Table) (body : Nat) :
    Prop where
  | mk {function inner last : Nat} {constants checks : List StatementRef}
      (held : store.blocks[body]? = some (constants ++ [⟨.function, function⟩]))
      (named : List.Forall₂ (IsConstant store naming) table constants)
      (looked : store.statements[function]? = some (.function lookupName ["code"] inner))
      (innerHeld : store.blocks[inner]? = some (checks ++ [⟨.result, last⟩]))
      (checked : List.Forall₂ (IsCheck store) table checks)
      (answer : store.statements[last]? = some (.result default)) :
      IsBody store naming default table body

/-- A stored module is that of a table. -/
def IsModule (store : Store) (naming : Naming) (default : Value) (table : Table) (path : Path)
    (id : Nat) : Prop :=
  ∃ body, store.modules[id]? = some ⟨path, body⟩ ∧ IsBody store naming default table body

/-- A check is one in every store that retains it. -/
theorem is_check_retained {ref : StatementRef} (check : IsCheck before entry ref)
    (retains : before.Retains after) : IsCheck after entry ref := by
  obtain ⟨stored, thenHeld, returned, elseHeld⟩ := check
  exact .mk (retains.statements _ _ stored) (retains.blocks _ _ thenHeld)
    (retains.statements _ _ returned) (retains.blocks _ _ elseHeld)

/-- The body of a table's module is that in every store that retains it. -/
theorem is_body_retained {body : Nat} (made : IsBody before naming default table body)
    (retains : before.Retains after) : IsBody after naming default table body := by
  obtain ⟨held, named, looked, innerHeld, checked, answer⟩ := made
  exact .mk (retains.blocks _ _ held) (named.imp fun _ _ => retains.statements _ _)
    (retains.statements _ _ looked) (retains.blocks _ _ innerHeld)
    (checked.imp fun _ _ check => is_check_retained check retains) (retains.statements _ _ answer)

/-- The module of a table is that in every store that holds it. -/
theorem is_module_held {path : Path} {id : Nat}
    (made : IsModule before naming default table path id)
    (holds : before.Holds after) : IsModule after naming default table path id := by
  obtain ⟨body, stored, written⟩ := made
  exact ⟨body, holds.modules _ _ stored, is_body_retained written holds.toRetains⟩

section Apart

variable {body : Nat} {named : List StatementRef} (held : store.blocks[body]? = some named)
  (constants : List.Forall₂ (IsConstant store naming) table named)

include held constants

/-- A body of constants is no body that ends with a result. -/
theorem body_apart {block last : Nat} {front : List StatementRef} {expression : Value}
    (ended : store.blocks[block]? = some (front ++ [⟨.result, last⟩]))
    (stored : store.statements[last]? = some (.result expression)) : block ≠ body := by
  rintro rfl
  rw [held] at ended
  cases ended
  have whole := List.forall₂_drop_append table front [⟨.result, last⟩] constants
  obtain ⟨entry, _, constant, _⟩ := List.forall₂_cons_right_iff.mp whole
  rw [IsConstant, stored] at constant
  cases constant

/-- A check is left as it was where a body of constants grows, unless that body is empty as the
second body of the check is. -/
theorem is_check_appended {ref : StatementRef} (check : IsCheck store entry ref)
    (some : named ≠ []) (refs : List StatementRef) :
    IsCheck (store.appended body refs) entry ref := by
  have grown : store.Extends body (store.appended body refs) :=
    Build.appended_extends body refs store
  obtain @⟨id, thenBlock, elseBlock, result, stored, thenHeld, returned, elseHeld⟩ := check
  have thenEnded : store.blocks[thenBlock]? = Option.some ([] ++ [⟨.result, result⟩]) := thenHeld
  have elseApart : elseBlock ≠ body := by
    rintro rfl
    rw [held] at elseHeld
    exact some (Option.some.inj elseHeld)
  exact .mk (grown.statements _ _ stored)
    (grown.blocks _ _ (body_apart held constants thenEnded returned) thenHeld)
    (grown.statements _ _ returned) (grown.blocks _ _ elseApart elseHeld)

end Apart

/-- A module maker makes the module of a table, and everything that was stored is left as it was.
The body grows in three stages, and each stage leaves what the stages before it have put there: the
constants, the checks with the function around them, and the function at the end of the body. -/
theorem module_yields (maker : ModuleMaker) (expression : maker.default.expressionText? = some text)
    (writable : ∀ entry ∈ table, entry.Writable) (before : Store) :
    ∃ after, (maker.module (.ofTable table)).Yields before (.object (.module before.modules.size))
        after ∧
      before.Holds after ∧ after.packages = before.packages ∧
      IsModule after maker.naming maker.default table (.ofText (maker.moduleName ++ ".py"))
        before.modules.size := by
  let item : Module := ⟨.ofText (maker.moduleName ++ ".py"), before.blocks.size⟩
  let made : Store := { before with
    blocks := before.blocks.push []
    modules := before.modules.push item }
  have opened : made.blocks[before.blocks.size]? = some [] := Array.getElem?_push_size
  have placed : made.modules[before.modules.size]? = some item := Array.getElem?_push_size
  have first : before.Holds made :=
    ⟨⟨fun _ _ held => held, fun _ _ held => push_held held _⟩, fun _ _ held => push_held held _,
      fun _ _ held => held⟩
  obtain ⟨named, constants, written, extended, full, isNamed⟩ :=
    constants_yield maker writable opened
  obtain ⟨checking, checks, checked, extendedChecks, isChecked⟩ := checks_yield writable named
  obtain ⟨looking, function, inner, last, called, extendedLook, looked, innerHeld, answer⟩ :=
    function_yields expression checks checking
  have grown : looking.Extends before.blocks.size
      (looking.appended before.blocks.size [⟨.function, function⟩]) :=
    Build.appended_extends _ _ _
  have held : looking.blocks[before.blocks.size]? = some constants := by
    have apart : before.blocks.size ≠ before.blocks.size + 1 := Nat.ne_of_lt (Nat.lt_succ_self _)
    exact (extendedLook _).blocks _ _ apart ((extendedChecks _).blocks _ _ apart full)
  have behind : named.Extends before.blocks.size
      (looking.appended before.blocks.size [⟨.function, function⟩]) :=
    Store.extends_trans (extendedChecks _) (Store.extends_trans (extendedLook _) grown)
  have whole : made.Extends before.blocks.size
      (looking.appended before.blocks.size [⟨.function, function⟩]) :=
    Store.extends_trans extended behind
  have kept : before.Holds (looking.appended before.blocks.size [⟨.function, function⟩]) :=
    Store.holds_of_extends whole first (Nat.le_refl _)
  refine ⟨_, ?_, kept, by rw [whole.others], ?_⟩
  · have lookup : (lookupFunction maker.default table).Yields named
        (.object (.statement ⟨.function, function⟩)) looking := by
      rw [lookup_rule]
      exact Build.bind_yields checked called
    refine Build.bind_yields (show Build.Yields _ before before.modules.size made from rfl) ?_
    refine Build.bind_yields (Build.module_body_yields placed) ?_
    refine Build.bind_yields (Build.lift_yields rfl made) ?_
    refine Build.bind_yields written ?_
    refine Build.bind_yields lookup ?_
    exact Build.bind_yields (Build.push_yields _ ⟨.function, function⟩ looking)
      (Build.pure_yields _ _)
  · have isNamedLast : List.Forall₂ (IsConstant looking maker.naming) table constants :=
      isNamed.imp fun _ _ => fun constant =>
        (extendedLook 0).statements _ _ ((extendedChecks 0).statements _ _ constant)
    have isCheckedLast : List.Forall₂ (IsCheck looking) table checks :=
      isChecked.imp fun _ _ check => is_check_kept check extendedLook
    have apart := body_apart held isNamedLast innerHeld answer
    refine ⟨_, by rw [whole.others]; exact placed, ?_⟩
    refine .mk (Store.appended_block held _)
      (isNamedLast.imp fun _ _ => grown.statements _ _) (grown.statements _ _ looked)
      (grown.blocks _ _ apart innerHeld) ?_ (grown.statements _ _ answer)
    cases isNamedLast with
    | nil =>
      cases isCheckedLast
      exact .nil
    | cons first others =>
      exact isCheckedLast.imp fun _ _ check =>
        is_check_appended held (.cons first others) check (List.cons_ne_nil _ _) _

/-! ## The text of a module -/

/-- At no depth nothing is put in front of a line. -/
theorem indent_zero (line : String) : Outline.indent 0 line = line := String.empty_append

/-- Texts that are put behind an indented text are indented with it. -/
theorem indent_append (depth : Int) (front behind : String) :
    Outline.indent depth (front ++ behind) = Outline.indent depth front ++ behind := by
  rw [Outline.indent, Outline.indent, String.append_assoc]

/-- The lines of a check are a conditional with a result one level deeper. -/
theorem check_lines_indented (entry : Entry) :
    checkLines entry =
      [Outline.indent 1 ("if " ++ ("code" ++ " == " ++ toString entry.code) ++ ":"),
        Outline.indent 2 ("return " ++ String.ofList (Text.quote entry.name.toList))] := by
  have head : Outline.indent 1 "if " ++ "code" ++ " == " = "    if code == " := by decide
  have answer : Outline.indent 2 "return " = "        return " := by decide
  rw [indent_append, indent_append, indent_append, answer, checkLines, ← head]
  simp only [String.append_assoc]

/-- The line of the default is a result. -/
theorem default_line_indented (text : String) :
    "    return " ++ text = Outline.indent 1 ("return " ++ text) := by
  have first : Outline.indent 1 "return " = "    return " := by decide
  rw [indent_append, first]

/-- The constant of an entry is written as its line. -/
theorem constant_written {ref : StatementRef} (constant : IsConstant store naming entry ref) :
    store.statementLines 0 ref = .ok [constantLine naming entry] := by
  rw [assignment_lines 0 constant rfl rfl, indent_zero]
  rfl

/-- The check of an entry is written as its two lines. -/
theorem check_written {ref : StatementRef} (check : IsCheck store entry ref) :
    store.statementLines 1 ref = .ok (checkLines entry) := by
  obtain @⟨_, _, _, result, stored, thenHeld, returned, elseHeld⟩ := check
  have coded : entry.codeLiteral.expressionText? = some (toString entry.code) := rfl
  have condition : store.text (.equals (.reference (.text "code")) entry.codeLiteral) =
      .ok ("code" ++ " == " ++ toString entry.code) := Template.comparison_text coded
  have quoted : store.text entry.nameLiteral =
      .ok (String.ofList (Text.quote entry.name.toList)) := rfl
  have inner : store.linesOf (1 + 1) [⟨.result, result⟩] =
      .ok [Outline.indent 2 ("return " ++ String.ofList (Text.quote entry.name.toList))] := by
    rw [lines_of_cons, result_lines _ returned quoted]
    rfl
  rw [conditional_lines 1 stored condition, Template.block_eq thenHeld, Template.block_eq elseHeld,
    inner, check_lines_indented]
  rfl

/-- The lookup function is written as its head, the checks and the default. -/
theorem function_written {ref : StatementRef} {inner last : Nat} {checks : List StatementRef}
    (expression : default.expressionText? = some text)
    (looked : store.statements[ref.id]? = some (.function lookupName ["code"] inner))
    (innerHeld : store.blocks[inner]? = some (checks ++ [⟨.result, last⟩]))
    (checked : List.Forall₂ (IsCheck store) table checks)
    (answer : store.statements[last]? = some (.result default)) :
    store.statementLines 0 ref = .ok
      ("def status_for_code(code):" :: (table.flatMap checkLines ++ ["    return " ++ text])) := by
  have written : store.text default = .ok text := (expression_text _ expression store.look).1
  have below : store.linesOf (0 + 1) (checks ++ [⟨.result, last⟩]) =
      .ok (table.flatMap checkLines ++ [Outline.indent 1 ("return " ++ text)]) := by
    have above : store.linesOf (0 + 1) checks = .ok (table.flatMap checkLines) :=
      lines_of_each (fun _ _ check => check_written check) checked
    rw [lines_of_append, above, lines_of_cons, result_lines _ answer written]
    rfl
  have head : Outline.indent 0 ("def " ++ lookupName ++ "(" ++ ", ".intercalate ["code"] ++ "):") =
      "def status_for_code(code):" := by decide
  rw [function_lines 0 looked, Template.block_eq innerHeld, below, head, ← default_line_indented]
  cases table <;> rfl

/-- The module of a table has the text that the table says. -/
theorem module_written {path : Path} {id : Nat} (expression : default.expressionText? = some text)
    (made : IsModule store naming default table path id) :
    store.file (.module id) = .ok ⟨path, Outline.fileText (moduleLines naming text table)⟩ := by
  obtain ⟨body, stored, written⟩ := made
  obtain @⟨function, _, _, constants, _, held, named, looked, innerHeld, checked, answer⟩ := written
  have lookup : store.statementLines 0 ⟨.function, function⟩ = _ :=
    function_written expression looked innerHeld checked answer
  have above : store.linesOf 0 constants = .ok (table.flatMap fun entry =>
      [constantLine naming entry]) :=
    lines_of_each (fun _ _ constant => constant_written constant) named
  have lines : store.linesOf 0 (store.block body) = .ok (moduleLines naming text table) := by
    rw [Template.block_eq held, lines_of_append, above, lines_of_cons, lookup, moduleLines,
      List.map_eq_flatMap]
    exact congrArg (fun behind => Except.ok (_ ++ behind)) (List.append_nil _)
  exact module_file stored lines

/-! ## Packages -/

/-- A stored package is that of a table: its root module holds one line, and the module of the table
is the only one that is attached to it. -/
inductive IsPackage (store : Store) (module : ModuleMaker) (table : Table) (path : Path) :
    Nat → Prop where
  | mk {id root body line inner : Nat}
      (stored : store.packages[id]? = some ⟨path, root, [.module inner], []⟩)
      (rooted : store.modules[root]? = some ⟨path.join (.ofText "__init__.py"), body⟩)
      (held : store.blocks[body]? = some [⟨.raw, line⟩])
      (passed : store.statements[line]? =
        some (.raw ("from ." ++ module.moduleName ++ " import " ++ lookupName)))
      (attached : IsModule store module.naming module.default table
        (path.join (.ofText (module.moduleName ++ ".py"))) inner) :
      IsPackage store module table path id

/-- The package of a table is that in every store that holds it. -/
theorem is_package_held {module : ModuleMaker} {path : Path} {id : Nat}
    (made : IsPackage before module table path id) (holds : before.Holds after) :
    IsPackage after module table path id := by
  obtain ⟨stored, rooted, held, passed, attached⟩ := made
  exact .mk (holds.packages _ _ stored) (holds.modules _ _ rooted) (holds.blocks _ _ held)
    (holds.statements _ _ passed) (is_module_held attached holds)

/-- The store of a new package, with the line that passes the lookup function on and no module. -/
def PackageMaker.opened (maker : PackageMaker) (before : Store) : Store :=
  let path := Path.ofText maker.packageName
  let line : Statement := .raw ("from ." ++ maker.module.moduleName ++ " import " ++ lookupName)
  { before with
    statements := before.statements.push line
    blocks := before.blocks.push [⟨.raw, before.statements.size⟩]
    modules := before.modules.push ⟨path.join (.ofText "__init__.py"), before.blocks.size⟩
    packages := before.packages.push ⟨path, before.modules.size, [], []⟩ }

/-- A package maker opens a new package, and attaches the module that its module maker makes. -/
theorem package_run (maker : PackageMaker) (subject : Subject) (before : Store) :
    (maker.package subject).run.run before =
      (maker.module.module subject >>= Build.attach .module
        (.object (.package before.packages.size))).run.run (maker.opened before) := by
  let path := Path.ofText maker.packageName
  let root : Module := ⟨path.join (.ofText "__init__.py"), before.blocks.size⟩
  let line : Statement := .raw ("from ." ++ maker.module.moduleName ++ " import " ++ lookupName)
  let item : Package := ⟨path, before.modules.size, [], []⟩
  let made : Store := { before with
    blocks := before.blocks.push []
    modules := before.modules.push root
    packages := before.packages.push item }
  let written : Store := { made with statements := made.statements.push line }
  have rooted : written.modules[before.modules.size]? = some root := Array.getElem?_push_size
  have placed : written.packages[before.packages.size]? = some item :=
    Array.getElem?_push_size
  let ref : StatementRef := ⟨.raw, before.statements.size⟩
  have opened : written.appended before.blocks.size [ref] = maker.opened before := by
    rw [Store.appended, push_modify]
    rfl
  refine (Build.bind_run (Build.new_package_yields maker.packageName before) _).trans ?_
  refine (Build.bind_run (Build.new_statement_yields line made) _).trans ?_
  refine (Build.bind_run (Build.package_root_yields placed) _).trans ?_
  refine (Build.bind_run (Build.module_body_yields rooted) _).trans ?_
  refine (Build.bind_run (Build.push_yields before.blocks.size ref written) _).trans ?_
  rw [opened, ← make_module]
  rfl

/-- A package maker makes the package of a table, and everything that was stored is left as it was.
The package is opened with its import line, then the module is made and put below it; only the
module's path changes by that, and not its body. -/
theorem package_yields (maker : PackageMaker)
    (expression : maker.module.default.expressionText? = some text)
    (writable : ∀ entry ∈ table, entry.Writable) (before : Store) :
    ∃ after, (maker.package (.ofTable table)).Yields before
        (.object (.package before.packages.size)) after ∧
      before.Holds after ∧
      IsPackage after maker.module table (.ofText maker.packageName) before.packages.size := by
  let path := Path.ofText maker.packageName
  let root : Module := ⟨path.join (.ofText "__init__.py"), before.blocks.size⟩
  let opened := maker.opened before
  have first : before.Holds opened :=
    ⟨⟨fun _ _ held => push_held held _, fun _ _ held => push_held held _⟩,
      fun _ _ held => push_held held _, fun _ _ held => push_held held _⟩
  obtain ⟨after, inside, second, packages, body, stored, isBody⟩ :=
    module_yields maker.module expression writable opened
  have holds : before.Holds after := Store.holds_trans first second
  have known : after.packages[before.packages.size]? =
      some ⟨path, before.modules.size, [], []⟩ := by
    rw [packages]
    exact Array.getElem?_push_size
  have outside {id : Nat} (old : id ≤ before.modules.size) : opened.modules.size ≠ id := by
    have size : opened.modules.size = before.modules.size + 1 := Array.size_push _
    omega
  let last : Store := { after with
    modules := after.modules.modify opened.modules.size fun other =>
      { other with path := path.join other.path }
    packages := after.packages.modify before.packages.size fun other =>
      { other with modules := other.modules ++ [.module opened.modules.size] } }
  have packaged : last.packages[before.packages.size]? =
      some ⟨path, before.modules.size, [.module opened.modules.size], []⟩ := by
    rw [Array.getElem?_modify, if_pos rfl, known]
    rfl
  have retains : after.Retains last := ⟨fun _ _ held => held, fun _ _ held => held⟩
  refine ⟨last, ?_, ⟨⟨holds.statements, holds.blocks⟩, ?_, ?_⟩, ?_⟩
  · rw [Build.Yields, package_run]
    exact Build.bind_yields inside (Build.attach_yields known)
  · intro id item held
    have old : id < before.modules.size := (Array.getElem?_eq_some_iff.mp held).1
    rw [Array.getElem?_modify, if_neg (outside (Nat.le_of_lt old))]
    exact holds.modules id item held
  · intro id item held
    have old : id < before.packages.size := (Array.getElem?_eq_some_iff.mp held).1
    rw [Array.getElem?_modify, if_neg (by omega)]
    exact holds.packages id item held
  · refine .mk packaged ?_ (second.blocks _ _ Array.getElem?_push_size)
      (second.statements _ _ Array.getElem?_push_size)
      ⟨body, ?_, is_body_retained isBody retains⟩
    · rw [Array.getElem?_modify, if_neg (outside (Nat.le_refl _))]
      exact second.modules _ _ Array.getElem?_push_size
    · rw [Array.getElem?_modify, if_pos rfl, stored]
      rfl

/-- The package of a table has the files that the table says. -/
theorem package_written {module : ModuleMaker} {path : Path} {id : Nat}
    (expression : module.default.expressionText? = some text)
    (made : IsPackage store module table path id) :
    store.files (.object (.package id)) = .ok
      [⟨path.join (.ofText "__init__.py"),
          Outline.fileText ["from ." ++ module.moduleName ++ " import status_for_code"]⟩,
        ⟨path.join (.ofText (module.moduleName ++ ".py")),
          Outline.fileText (moduleLines module.naming text table)⟩] := by
  obtain @⟨root, body, line, inner, stored, rooted, held, passed, attached⟩ := made
  have listed : store.fileRefs (.object (.package id)) = .ok [.module root, .module inner] := by
    rw [Store.fileRefs, Store.filesOf, stored]
    rfl
  have lines : store.linesOf 0 (store.block body) =
      .ok ["from ." ++ module.moduleName ++ " import status_for_code"] := by
    rw [Template.block_eq held, lines_of_cons, raw_lines 0 passed, indent_zero, String.append_assoc]
    rfl
  rw [Store.files, ok_bind listed, List.mapM_cons, List.mapM_cons, module_file rooted lines,
    module_written expression attached]
  rfl

/-! ## Codes beyond the limit -/

/-- A table with a code beyond the limit has no module. -/
theorem module_fails (maker : ModuleMaker) (long : ∃ entry ∈ table, ¬entry.Writable)
    (before : Store) :
    ∃ after, (maker.module (.ofTable table)).Fails before .tooManyDigitsToWrite after := by
  let item : Module := ⟨.ofText (maker.moduleName ++ ".py"), before.blocks.size⟩
  have placed : (before.modules.push item)[before.modules.size]? = some item :=
    Array.getElem?_push_size
  obtain ⟨after, failed⟩ := constants_fail maker before.blocks.size long _
  refine ⟨after, ?_⟩
  refine Build.bind_fails_behind (Build.new_module_yields maker.moduleName before) ?_
  refine Build.bind_fails_behind (Build.module_body_yields placed) ?_
  refine Build.bind_fails_behind (Build.lift_yields rfl _) ?_
  exact Build.bind_fails _ failed

/-- A table with a code beyond the limit has no package. -/
theorem package_fails (maker : PackageMaker) (long : ∃ entry ∈ table, ¬entry.Writable)
    (before : Store) :
    ∃ after, (maker.package (.ofTable table)).Fails before .tooManyDigitsToWrite after := by
  obtain ⟨after, failed⟩ := module_fails maker.module long (maker.opened before)
  refine ⟨after, ?_⟩
  rw [Build.Fails, package_run]
  exact Build.bind_fails _ failed

/-! ## Files -/

/-- What a maker has made of a table is in a store. It is said of the stored objects, not of the
steps that made them, so it can be asked of any later store. -/
def Made (store : Store) (module : ModuleMaker) (table : Table) : Option String → Value → Prop
  | none, value => ∃ id, value = .object (.module id) ∧
    IsModule store module.naming module.default table (.ofText (module.moduleName ++ ".py")) id
  | some name, value => ∃ id, value = .object (.package id) ∧
    IsPackage store module table (.ofText name) id

section Files

variable (module : ModuleMaker) (package : Option String)

/-- A maker makes what it is for, and everything that was stored is left as it was. -/
theorem make_yields (expression : module.default.expressionText? = some text)
    (writable : ∀ entry ∈ table, entry.Writable) (before : Store) :
    ∃ made after, ((makerOf module package).make (.ofTable table)).Yields before made after ∧
      before.Holds after ∧ Made after module table package made := by
  cases package with
  | none =>
    obtain ⟨after, made, holds, _, isModule⟩ := module_yields module expression writable before
    rw [makerOf, make_module]
    exact ⟨_, after, made, holds, _, rfl, isModule⟩
  | some name =>
    obtain ⟨after, made, holds, isPackage⟩ :=
      package_yields ⟨name, module⟩ expression writable before
    rw [makerOf, make_package]
    exact ⟨_, after, made, holds, _, rfl, isPackage⟩

/-- What a maker has made has the files that the table says, in every store that holds it. -/
theorem made_written {made : Value} (expression : module.default.expressionText? = some text)
    (isMade : Made before module table package made) (holds : before.Holds after) :
    after.files made = .ok (tableFiles module.naming text module.moduleName package table) := by
  cases package with
  | none =>
    obtain ⟨id, rfl, isModule⟩ := isMade
    have file := module_written expression (is_module_held isModule holds)
    have listed : after.fileRefs (.object (.module id)) = .ok [.module id] := rfl
    rw [Store.files, ok_bind listed, List.mapM_cons, file]
    rfl
  | some name =>
    obtain ⟨id, rfl, isPackage⟩ := isMade
    exact package_written expression (is_package_held isPackage holds)

/-- A maker makes something that has the files that the table says. -/
theorem make_files (expression : module.default.expressionText? = some text)
    (writable : ∀ entry ∈ table, entry.Writable) (before : Store) :
    ∃ made after, ((makerOf module package).make (.ofTable table)).Yields before made after ∧
      after.files made = .ok (tableFiles module.naming text module.moduleName package table) := by
  obtain ⟨made, after, yields, _, isMade⟩ := make_yields module package expression writable before
  exact ⟨made, after, yields,
    made_written module package expression isMade (Store.holds_refl after)⟩

/-- A maker fails on a table with a code beyond the limit. -/
theorem make_fails (long : ∃ entry ∈ table, ¬entry.Writable) (before : Store) :
    ∃ after, ((makerOf module package).make (.ofTable table)).Fails before
      .tooManyDigitsToWrite after := by
  cases package with
  | none =>
    rw [makerOf, make_module]
    exact module_fails module long before
  | some name =>
    rw [makerOf, make_package]
    exact package_fails ⟨name, module⟩ long before

end Files

/-- Making a table's module, alone or in a package, is building its text line by line. Whatever is
stored, the maker makes something that has exactly the files of the builder, if the codes are
within the limit for writing integers; making again gives the same files again, and leaves those
that were made first. With a code beyond the limit nothing is made, and the fault says so.

Proof: what is made is described by the statements in its body, one for each entry and the lookup
function behind them (`make_yields`). An object so described has the files of the builder, in every
store that holds it (`made_written`), and making again only adds to the store. -/
theorem generated_files (naming : Naming) (default : Value) (text : String)
    (expression : default.expressionText? = some text) (moduleName : String)
    (package : Option String) (table : Table) (store : Store) :
    let maker := makerOf ⟨moduleName, default, naming⟩ package
    let files := tableFiles naming text moduleName package table
    ((∀ entry ∈ table, entry.Writable) → ∃ made middle,
      (maker.make (.ofTable table)).Yields store made middle ∧ middle.files made = .ok files ∧
      ∃ again after, (maker.make (.ofTable table)).Yields middle again after ∧
        after.files again = .ok files ∧ after.files made = .ok files) ∧
    ((∃ entry ∈ table, ¬entry.Writable) → ∃ after,
      (maker.make (.ofTable table)).Fails store .tooManyDigitsToWrite after) := by
  intro maker files
  let module : ModuleMaker := ⟨moduleName, default, naming⟩
  constructor
  · intro writable
    obtain ⟨made, middle, first, _, isMade⟩ := make_yields module package expression writable store
    obtain ⟨again, after, second, holds, isAgain⟩ :=
      make_yields module package expression writable middle
    exact ⟨made, middle, first,
      made_written module package expression isMade (Store.holds_refl middle), again, after, second,
      made_written module package expression isAgain (Store.holds_refl after),
      made_written module package expression isMade holds⟩
  · intro long
    exact make_fails module package long store

/-- A package of two codes has these two files. -/
theorem package_generated :
    ∃ made after,
      ((makerOf ⟨"codes", .literal (.text "None"), .upperSnake⟩ (some "http")).make
        (.ofTable [⟨404, "Not Found"⟩, ⟨200, "\"OK\""⟩])).Yields Store.empty made after ∧
      after.files made = .ok
        [⟨.ofText "http/__init__.py", "from .codes import status_for_code\n"⟩,
          ⟨.ofText "http/codes.py", String.join
            ["NOT_FOUND = 404\n", "OK = 200\n",
              "def status_for_code(code):\n",
              "    if code == 404:\n", "        return \"Not Found\"\n",
              "    if code == 200:\n", "        return \"\\\"OK\\\"\"\n",
              "    return None\n"]⟩] := by
  let table : Table := [⟨404, "Not Found"⟩, ⟨200, "\"OK\""⟩]
  have writable : ∀ entry ∈ table, entry.Writable := by decide
  obtain ⟨made, after, done, files, _⟩ := (generated_files .upperSnake (.literal (.text "None"))
    "None" rfl "codes" (some "http") table Store.empty).1 writable
  refine ⟨made, after, done, files.trans (congrArg Except.ok ?_)⟩
  decide

/-- Nothing is made of a code with one digit more than integers are written with. -/
theorem long_code_not_made :
    ¬∃ made after, ((makerOf ⟨"codes", .literal (.text "None"), .asIs⟩ none).make
      (.ofTable [⟨.ofNat (Decimal.tenPow Decimal.digitLimit), "a"⟩])).Yields Store.empty made
        after := by
  rintro ⟨made, after, yielded⟩
  let entry : Entry := ⟨.ofNat (Decimal.tenPow Decimal.digitLimit), "a"⟩
  have size (digits : Nat) : (Int.ofNat (Decimal.tenPow digits)).natAbs = Decimal.tenPow digits :=
    rfl
  have long : ¬entry.Writable := by
    rw [writable_iff, show entry.code.natAbs = _ from size Decimal.digitLimit]
    exact Nat.lt_irrefl _
  obtain ⟨failed, fails⟩ := make_fails ⟨"codes", .literal (.text "None"), .asIs⟩ none
    ⟨entry, List.mem_singleton_self entry, long⟩ Store.empty
  exact Build.not_yields_of_fails fails made after yielded

end Stencil.StatusTable
