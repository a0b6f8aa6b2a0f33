import Stencil.Proofs.Code.Grammar
import Stencil.Proofs.StatusTable.Generation
import Stencil.Proofs.StatusTable.Naming
import Stencil.Proofs.StatusTable.Shape
import Stencil.Proofs.Template.Literals

/-!
# Constants are assignments

The module of a table file starts with one line for each entry. In upper snake
case every such line assigns the entry's code to a name, and the whole text is
that of a module, whatever the names of the entries are. Names that are taken as
they are have to be names that can be bound for that: the line of an entry is an
assignment exactly if its name is one (`constants_assigned`).
-/

namespace Stencil.StatusTable

open Code

variable {language : Language} {naming : Naming} {entry : Entry} {table : Table} {text : String}

/-! ## Lines -/

/-- What is behind the last blank of a text is behind no other blank. -/
theorem last_blank {first second left right : List Char} (one : ' ' ∉ left) (other : ' ' ∉ right)
    (same : first ++ ' ' :: left = second ++ ' ' :: right) : first = second := by
  rcases List.append_eq_append_iff.mp same with ⟨middle, rfl, behind⟩ | ⟨middle, rfl, behind⟩
  · cases middle with
    | nil => rw [List.append_nil]
    | cons c rest =>
      rw [List.cons_append, List.cons.injEq] at behind
      exact absurd (behind.2 ▸ List.mem_append_cons_self) one
  · cases middle with
    | nil => rw [List.append_nil]
    | cons c rest =>
      rw [List.cons_append, List.cons.injEq] at behind
      exact absurd (behind.2 ▸ List.mem_append_cons_self) other

/-- The code of an entry of a table file is written as a decimal literal. -/
theorem code_decimal (natural : 0 ≤ entry.code) (writable : entry.Writable) :
    IsDecimal (toString entry.code) entry.code :=
  decimal_of_natural natural writable

/-- The line of an entry of a table file assigns the entry's code exactly if its constant can be
bound. -/
theorem constant_assigns_iff (language : Language) (naming : Naming) (natural : 0 ≤ entry.code)
    (writable : entry.Writable) :
    language.Assigns (constantLine naming entry) entry.code ↔
      (language.target? (naming.constant entry.name)).isSome := by
  have decimal := code_decimal natural writable
  constructor
  · rintro ⟨target, literal, same, named, known⟩
    have blank : (' ').isDigit = false := rfl
    have chars := congrArg String.toList same
    simp only [constantLine, String.toList_append] at chars
    have split (name digits : List Char) :
        name ++ " = ".toList ++ digits = (name ++ [' ', '=']) ++ ' ' :: digits := by
      rw [List.append_assoc, List.append_assoc]
      rfl
    rw [split, split] at chars
    have front := last_blank (decimal_apart decimal blank) (decimal_apart known blank) chars
    have target_eq : naming.constant entry.name = target :=
      String.toList_inj.mp (List.append_cancel_right front)
    rw [target_eq]
    exact named
  · intro named
    exact ⟨_, _, rfl, named, decimal⟩

/-! ## Modules -/

/-- The checks of a table's entries, with the default behind them, are the body of a function. The
induction is on the table, with one conditional for each entry. -/
theorem checks_body (expression : language.IsExpression text)
    (natural : ∀ entry ∈ table, 0 ≤ entry.code) (writable : ∀ entry ∈ table, entry.Writable) :
    language.IsBody 1 (table.flatMap checkLines ++ ["    return " ++ text]) := by
  induction table with
  | nil =>
    rw [List.flatMap_nil, List.nil_append, default_line_indented]
    exact .result expression
  | cons entry rest inductionHypothesis =>
    rw [List.forall_mem_cons] at natural writable
    have parameter : language.target? "code" = some "code" :=
      language.target_ascii (by decide) (by decide) (by decide)
    have condition := language.comparison "code" _ _
      (Option.isSome_of_eq_some (Spelling.target_named parameter))
      (code_decimal natural.1 writable.1)
    have quoted : language.IsExpression (String.ofList (Text.quote entry.name.toList)) := by
      apply language.string _ entry.name
      · rw [String.toList_ofList]
        exact decode_quote entry.name
      · rw [String.toList_ofList]
        exact Template.quote_visible entry.name.toList
    rw [List.flatMap_cons, check_lines_indented, List.append_assoc]
    exact .conditional condition (.result quoted) (inductionHypothesis natural.2 writable.2)

/-- The lines of a table's module are those of a module if the constants are assignments. The
induction is on the constants, behind which the function stands. -/
theorem module_lines_valid (expression : language.IsExpression text)
    (natural : ∀ entry ∈ table, 0 ≤ entry.code) (writable : ∀ entry ∈ table, entry.Writable)
    (assigned : ∀ entry ∈ table, language.Assigns (constantLine naming entry) entry.code) :
    language.IsModule (moduleLines naming text table) := by
  have bound (text : String) (ascii : isAscii text = true) (named : isName text = true)
      (other : text ≠ fixedName) : (language.target? text).isSome :=
    Option.isSome_of_eq_some (language.target_ascii ascii named other)
  have name := bound "status_for_code" (by decide) (by decide) (by decide)
  have parameter := bound "code" (by decide) (by decide) (by decide)
  have function := Language.IsModule.function name parameter
    (checks_body expression natural writable) .nothing
  rw [List.append_nil] at function
  unfold moduleLines
  generalize table.flatMap checkLines ++ ["    return " ++ text] = body at function
  clear natural writable
  induction table with
  | nil => exact function
  | cons entry rest inductionHypothesis =>
    rw [List.forall_mem_cons] at assigned
    exact .assignment assigned.1 (inductionHypothesis assigned.2)

/-- Every line of a table's module is one line, if the default is and the constants are. -/
theorem module_lines_single (expression : OneLine text)
    (natural : ∀ entry ∈ table, 0 ≤ entry.code) (writable : ∀ entry ∈ table, entry.Writable)
    (single : ∀ entry ∈ table, OneLine (constantLine naming entry)) :
    ∀ line ∈ moduleLines naming text table, OneLine line := by
  intro line member
  rw [moduleLines, List.mem_append, List.mem_cons, List.mem_append, List.mem_map, List.mem_flatMap,
    List.mem_singleton] at member
  rcases member with ⟨entry, among, rfl⟩ | rfl | ⟨entry, among, check⟩ | rfl
  · exact single entry among
  · decide
  · rw [checkLines, List.mem_cons, List.mem_singleton] at check
    rcases check with rfl | rfl
    · have code := decimal_one_line (code_decimal (natural entry among) (writable entry among))
      exact one_line_append (one_line_append (by decide) code) (by decide)
    · apply one_line_append (by decide)
      apply one_line_of_visible
      rw [String.toList_ofList]
      exact Template.quote_visible entry.name.toList
  · exact one_line_append (by decide) expression

/-- Which constants of a table can be bound: in upper snake case all of them, and otherwise those of
entries whose names can. -/
theorem constant_named_iff (language : Language) (naming : Naming) (entry : Entry) :
    (language.target? (naming.constant entry.name)).isSome ↔
      naming = .upperSnake ∨ (language.target? entry.name).isSome := by
  cases naming with
  | asIs => exact ⟨.inr, fun either => either.resolve_left nofun⟩
  | upperSnake =>
    have named := Naming.upper_snake_named language.toSpelling entry.name
    exact iff_of_true (Option.isSome_of_eq_some named) (.inl rfl)

/-- From every table of a table file a module is made, alone or in a package, if the codes are within
the limit for writing integers, and none otherwise. Its text starts with a line for each entry, which
assigns the entry's code to a name, by a decimal literal and in one line, always in upper snake case,
and otherwise exactly if the entry's name can be bound. If all are assignments, the text is that of a
module that can be imported, if the default is one line and an expression.

Proof: the codes of a table file are natural numbers, which are written as the literals that they
are read from. So the line of an entry is an assignment exactly if what is in front of its sign is a
name (`constant_assigns_iff`), and every upper snake case text is one (`constant_named_iff`). The
lines of the function are lines of the grammar for any names and codes (`module_lines_valid`). -/
theorem constants_assigned {α : Type} {view : Schema.View α} {content : α} {path : Path}
    {table : Table} (read : view.readTable path content = .ok table) (naming : Naming)
    (default : Value) (text : String) (expression : default.expressionText? = some text)
    (moduleName : String) (package : Option String) (store : Store) :
    let maker := makerOf ⟨moduleName, default, naming⟩ package
    ((∀ entry ∈ table, entry.Writable) → ∃ made after,
      (maker.make (.ofTable table)).Yields store made after ∧
      after.files made = .ok (tableFiles naming text moduleName package table) ∧
      ∀ language : Language,
        (∀ entry ∈ table, OneLine (constantLine naming entry) ∧
            language.Assigns (constantLine naming entry) entry.code ↔
          naming = .upperSnake ∨ (language.target? entry.name).isSome) ∧
        (language.IsExpression text → OneLine text →
          (naming = .upperSnake ∨ ∀ entry ∈ table, (language.target? entry.name).isSome) →
          language.IsText (Outline.fileText (moduleLines naming text table)))) ∧
    ((∃ entry ∈ table, ¬entry.Writable) → ∃ after,
      (maker.make (.ofTable table)).Fails store .tooManyDigitsToWrite after) := by
  intro maker
  let module : ModuleMaker := ⟨moduleName, default, naming⟩
  constructor
  · intro writable
    obtain ⟨made, after, yields, written⟩ := make_files module package expression writable store
    refine ⟨made, after, yields, written, fun language => ?_⟩
    have natural : ∀ entry ∈ table, 0 ≤ entry.code :=
      fun entry member => (Schema.read_table_entries read entry member).1
    have assigns_iff : ∀ entry ∈ table,
        (language.Assigns (constantLine naming entry) entry.code ↔
          naming = .upperSnake ∨ (language.target? entry.name).isSome) := fun entry member =>
      (constant_assigns_iff language naming (natural entry member) (writable entry member)).trans
        (constant_named_iff language naming entry)
    constructor
    · intro entry member
      rw [← assigns_iff entry member]
      exact and_iff_right_of_imp Language.assigns_one_line
    · intro valid single named
      have assigned : ∀ entry ∈ table, language.Assigns (constantLine naming entry) entry.code :=
        fun entry member =>
          (assigns_iff entry member).mpr (named.imp_right fun each => each entry member)
      refine ⟨_, rfl, ?_, module_lines_valid valid natural writable assigned⟩
      exact module_lines_single single natural writable fun entry member =>
        Language.assigns_one_line (assigned entry member)
  · intro long
    exact make_fails module package long store

/-- Names that are no names of the language are assigned to in upper snake case: a reserved word,
digits, and a name with a line end. -/
theorem unusual_names_assigned :
    ∃ table made after,
      Schema.readTable (.ofText "codes.yaml") (.dict [(.text "codes", .list
        [.list [.int 1, .text "None"], .list [.int 2, .text "404"],
          .list [.int 3, .text "not\nfound"]])]) = .ok table ∧
      ((makerOf ⟨"codes", .literal (.text "0"), .upperSnake⟩ none).make
        (.ofTable table)).Yields Store.empty made after ∧
      (moduleLines .upperSnake "0" table).take 3 = ["NONE = 1", "_404 = 2", "NOT_FOUND = 3"] ∧
      ∀ language : Language, language.Assigns "_404 = 2" 2 ∧
        language.IsText (Outline.fileText (moduleLines .upperSnake "0" table)) := by
  let table : Table := [⟨1, "None"⟩, ⟨2, "404"⟩, ⟨3, "not\nfound"⟩]
  have read : Schema.readTable (.ofText "codes.yaml") (.dict [(.text "codes", .list
      [.list [.int 1, .text "None"], .list [.int 2, .text "404"],
        .list [.int 3, .text "not\nfound"]])]) = .ok table := by decide
  obtain ⟨made, after, yields, _, valid⟩ := (constants_assigned read .upperSnake
    (.literal (.text "0")) "0" rfl "codes" none Store.empty).1 (by decide)
  refine ⟨table, made, after, read, yields, by decide, fun language => ?_⟩
  obtain ⟨lines, whole⟩ := valid language
  have zero : IsDecimal "0" 0 := ⟨by decide, fun _ => rfl, by decide⟩
  exact ⟨((lines ⟨2, "404"⟩ (by decide)).mpr (.inl rfl)).2,
    whole (language.decimal "0" 0 zero) (by decide) (.inl rfl)⟩

/-- An entry of a table file whose name has a blank in it: where names are taken as they are, its
line is no assignment to a name. -/
theorem blank_name_unassigned :
    ∃ table made after,
      Schema.readTable (.ofText "codes.yaml") (.dict [(.text "codes",
        .list [.list [.int 404, .text "Not Found"]])]) = .ok table ∧
      ((makerOf ⟨"codes", .literal (.text "None"), .asIs⟩ none).make
        (.ofTable table)).Yields Store.empty made after ∧
      after.files made = .ok (tableFiles .asIs "None" "codes" none table) ∧
      ∃ entry ∈ table, ∀ language : Language,
        ¬language.Assigns (constantLine .asIs entry) entry.code := by
  let table : Table := [⟨404, "Not Found"⟩]
  let module : ModuleMaker := ⟨"codes", .literal (.text "None"), .asIs⟩
  have writable : ∀ entry ∈ table, entry.Writable := by decide
  obtain ⟨made, after, yields, written⟩ := make_files module none rfl writable Store.empty
  refine ⟨table, made, after, by decide, yields, written, ⟨404, "Not Found"⟩, by decide, ?_⟩
  intro language assigns
  have bound := (constant_assigns_iff language .asIs (by decide) (by decide)).mp assigns
  obtain ⟨name, named⟩ := Option.isSome_iff_exists.mp bound
  have blank : ' ' ∉ "Not Found".toList :=
    name_apart language.toWordSpelling (Spelling.target_named named) (by decide) (by decide)
  exact absurd (by decide) blank

end Stencil.StatusTable
