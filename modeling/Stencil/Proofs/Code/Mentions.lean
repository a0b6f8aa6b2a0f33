import Mathlib.Logic.Basic
import Stencil.Proofs.Code.Feeding
import Stencil.Code.Files

/-!
# What texts depend on

The text of a value depends on the stored objects that it mentions and on no
others (`text_same`). So statements keep their outlines when a store only grows:
when new modules, packages and bodies are added, while statements, growing lists
and the older bodies stay (`outline_grown`).

The store that is grown has to be closed, which every store in use is: what its
statements and lists mention is stored in it.
-/

namespace Stencil.Code

mutual

/-- The stored objects that a value mentions. -/
def Value.mentions : Value → List Ref
  | .list items => mentionsAll items
  | .tuple items => mentionsAll items
  | .dict entries => mentionsEntries entries
  | .literal inner => inner.mentions
  | .reference inner => inner.mentions
  | .equals lhs rhs => lhs.mentions ++ rhs.mentions
  | .declared _ value => value.mentions
  | .object ref => [ref]
  | _ => []

/-- The stored objects that values mention. -/
def Value.mentionsAll : List Value → List Ref
  | [] => []
  | item :: rest => item.mentions ++ mentionsAll rest

/-- The stored objects that the entries of a dictionary mention. -/
def Value.mentionsEntries : List (Value × Value) → List Ref
  | [] => []
  | (key, value) :: rest => key.mentions ++ value.mentions ++ mentionsEntries rest

end

/-- The stored objects that a statement mentions. -/
def Statement.mentions : Statement → List Ref
  | .assignment target value => target.mentions ++ value.mentions
  | .result expression => expression.mentions
  | .raw _ => []
  | .function _ _ body => [.block body]
  | .conditional condition thenBody elseBody =>
    condition.mentions ++ thenBody.mentions ++ elseBody.mentions

/-- What is mentioned in a list is mentioned in one of its items. -/
theorem mem_mentions_all {ref : Ref} {items : List Value} :
    ref ∈ Value.mentionsAll items ↔ ∃ item ∈ items, ref ∈ item.mentions := by
  induction items with
  | nil => simp [Value.mentionsAll]
  | cons item rest inductionHypothesis =>
    rw [Value.mentionsAll, List.mem_append, inductionHypothesis]
    simp

mutual

/-- Values are displayed the same by names that agree on what is mentioned. Every display is a text
around the displays of its parts. The recursion is on the value. -/
theorem display_same {first second : Ref → String} (value : Value)
    (same : ∀ ref ∈ value.mentions, first ref = second ref) :
    value.display first = value.display second := by
  cases value with
  | list items =>
    simp only [Value.mentions] at same
    exact congrArg (fun shown => "[" ++ Value.commas shown ++ "]") (display_items_same items same)
  | tuple items =>
    simp only [Value.mentions] at same
    have inner := display_items_same items same
    match items with
    | [] => rfl
    | [item] => exact congrArg (fun shown => "(" ++ shown ++ ",)") (List.cons.inj inner).1
    | item :: next :: rest =>
      exact congrArg (fun shown => "(" ++ Value.commas shown ++ ")") inner
  | dict entries =>
    simp only [Value.mentions] at same
    exact congrArg (fun shown => "\x7b" ++ Value.commas shown ++ "\x7d")
      (display_entries_same entries same)
  | literal inner =>
    simp only [Value.mentions] at same
    exact congrArg (fun shown => "Literal(text=" ++ shown ++ ")") (display_same inner same)
  | reference inner =>
    simp only [Value.mentions] at same
    exact congrArg (fun shown => "Variable(name=" ++ shown ++ ")") (display_same inner same)
  | equals lhs rhs =>
    simp only [Value.mentions] at same
    have left := display_same lhs (fun ref inside => same ref (List.mem_append_left _ inside))
    have right := display_same rhs (fun ref inside => same ref (List.mem_append_right _ inside))
    exact congrArg₂ (fun left right => "Equals(lhs=" ++ left ++ ", rhs=" ++ right ++ ")") left right
  | declared kind inner =>
    simp only [Value.mentions] at same
    exact display_same inner same
  | object ref =>
    simp only [Value.mentions] at same
    exact same ref (List.mem_singleton.mpr rfl)
  | _ => rfl

/-- The items of a list are displayed the same by names that agree on what is mentioned. -/
theorem display_items_same {first second : Ref → String} (items : List Value)
    (same : ∀ ref ∈ Value.mentionsAll items, first ref = second ref) :
    Value.displayItems first items = Value.displayItems second items := by
  cases items with
  | nil => rfl
  | cons item rest =>
    simp only [Value.mentionsAll] at same
    have head := display_same item (fun ref inside => same ref (List.mem_append_left _ inside))
    have tail := display_items_same rest
      (fun ref inside => same ref (List.mem_append_right _ inside))
    exact congrArg₂ List.cons head tail

/-- The entries of a dictionary are displayed the same by names that agree on what is mentioned. -/
theorem display_entries_same {first second : Ref → String} (entries : List (Value × Value))
    (same : ∀ ref ∈ Value.mentionsEntries entries, first ref = second ref) :
    Value.displayEntries first entries = Value.displayEntries second entries := by
  match entries with
  | [] => rfl
  | (key, value) :: rest =>
    simp only [Value.mentionsEntries] at same
    have heads (ref : Ref) (inside : ref ∈ key.mentions ++ value.mentions) :=
      same ref (List.mem_append_left _ inside)
    have left := display_same key (fun ref inside => heads ref (List.mem_append_left _ inside))
    have right := display_same value (fun ref inside => heads ref (List.mem_append_right _ inside))
    have tail := display_entries_same rest
      (fun ref inside => same ref (List.mem_append_right _ inside))
    have entry := congrArg₂ (fun left right => left ++ ": " ++ right) left right
    exact congrArg₂ List.cons entry tail

end

/-- Two looks at stored objects give the same name and source text for one. -/
def Look.Agree (first second : Look) (ref : Ref) : Prop :=
  first.name ref = second.name ref ∧ first.source ref = second.source ref

mutual

/-- Values have the same text by looks that agree on what is mentioned. -/
theorem text_same {first second : Look} (value : Value)
    (agree : ∀ ref ∈ value.mentions, first.Agree second ref) :
    value.textBy first = value.textBy second := by
  have shown := display_same value fun ref inside => (agree ref inside).1
  cases value with
  | equals lhs rhs =>
    simp only [Value.mentions] at agree
    have left := source_same lhs (fun ref inside => agree ref (List.mem_append_left _ inside))
    have right := source_same rhs (fun ref inside => agree ref (List.mem_append_right _ inside))
    simp only [Value.textBy, left, right]
  | declared kind inner =>
    simp only [Value.mentions] at agree
    simp only [Value.textBy, text_same inner agree]
  | object ref =>
    simp only [Value.mentions] at agree
    simp only [Value.textBy, (agree ref (List.mem_singleton.mpr rfl)).1]
  | text written => simp only [Value.textBy]
  | literal inner => simp only [Value.textBy]
  | reference inner => simp only [Value.textBy]
  | _ => simp only [Value.textBy, shown]

/-- Operands have the same source text by looks that agree on what is mentioned. -/
theorem source_same {first second : Look} (value : Value)
    (agree : ∀ ref ∈ value.mentions, first.Agree second ref) :
    value.sourceBy first = value.sourceBy second := by
  cases value with
  | literal inner =>
    simp only [Value.mentions] at agree
    simp only [Value.sourceBy, text_same inner agree]
  | reference inner =>
    simp only [Value.mentions] at agree
    simp only [Value.sourceBy, text_same inner agree]
  | equals lhs rhs =>
    simp only [Value.mentions] at agree
    have left := source_same lhs (fun ref inside => agree ref (List.mem_append_left _ inside))
    have right := source_same rhs (fun ref inside => agree ref (List.mem_append_right _ inside))
    simp only [Value.sourceBy, left, right]
  | object ref =>
    simp only [Value.mentions] at agree
    simp only [Value.sourceBy, (agree ref (List.mem_singleton.mpr rfl)).2]
  | _ => simp only [Value.sourceBy]

end

/-! ## Stores that grow -/

/-- A module, package or body is in a store. -/
def Ref.Stored (store : Store) : Ref → Prop
  | .block id => id < store.blocks.size
  | .module id => id < store.modules.size
  | .package id => id < store.packages.size
  | _ => True

/-- What is mentioned in a store is stored in it. -/
structure Store.Closed (store : Store) : Prop where
  statements : ∀ (id : Nat) (statement : Statement), store.statements[id]? = some statement →
    ∀ ref ∈ statement.mentions, ref.Stored store
  cells : ∀ (id : Nat) (items : List Value), store.cells[id]? = some items →
    ∀ value ∈ items, ∀ ref ∈ value.mentions, ref.Stored store
  walks : store.WalksOver store.blocks.size

/-- There are no modules and packages yet. -/
structure Store.Bare (store : Store) : Prop where
  modules : store.modules = #[]
  packages : store.packages = #[]

/-- A store has grown out of another: only modules, packages, iterators and new bodies differ. -/
structure Store.Grown (start store : Store) : Prop extends
    start.Older start.blocks.size store where
  statements : store.statements = start.statements
  templates : store.templates = start.templates

variable {start store : Store}

/-- No module or package is stored in a bare store. -/
theorem bare_stored (bare : start.Bare) {ref : Ref} (stored : ref.Stored start) :
    (∀ id, ref ≠ .module id) ∧ ∀ id, ref ≠ .package id := by
  constructor
  · rintro id rfl
    simp [Ref.Stored, bare.modules] at stored
  · rintro id rfl
    simp [Ref.Stored, bare.packages] at stored

/-- What is stored at the start keeps its name. The induction is on the bound of nested lists. -/
theorem name_grown (closed : start.Closed) (bare : start.Bare) (grown : start.Grown store)
    (bound : Nat) (outer : List Nat) {ref : Ref} (stored : ref.Stored start) :
    store.nameOf bound outer ref = start.nameOf bound outer ref := by
  obtain ⟨notModule, notPackage⟩ := bare_stored bare stored
  induction bound generalizing outer ref with
  | zero => cases ref <;> rfl
  | succ bound inductionHypothesis =>
    cases ref with
    | module id => exact absurd rfl (notModule id)
    | package id => exact absurd rfl (notPackage id)
    | template id => simp only [Store.nameOf, grown.templates]
    | cell id =>
      have held : store.cell id = start.cell id := by rw [Store.cell, Store.cell, grown.cells]
      simp only [Store.nameOf, held]
      split
      · rfl
      refine display_same _ fun ref inside => ?_
      rw [Value.mentions, mem_mentions_all] at inside
      obtain ⟨value, member, mentioned⟩ := inside
      have known : ref.Stored start := by
        cases stored : start.cells[id]? with
        | none => simp [Store.cell, stored] at member
        | some items =>
          simp only [Store.cell, stored, Option.getD_some] at member
          exact closed.cells id items stored value member ref mentioned
      obtain ⟨notModule, notPackage⟩ := bare_stored bare known
      exact inductionHypothesis (id :: outer) known notModule notPackage
    | _ => rfl

/-- Statements keep their outlines. The induction is on the bound; the cases are the statements. -/
theorem outline_grown (closed : start.Closed) (bare : start.Bare) (grown : start.Grown store)
    (bound : Nat) : store.outlineOf bound = start.outlineOf bound := by
  induction bound with
  | zero => rfl
  | succ bound inductionHypothesis =>
    funext ref
    have agree (other : Ref) (stored : other.Stored start) :
        Look.Agree ⟨store.name, store.sourceWith (store.outlineOf bound)⟩
          ⟨start.name, start.sourceWith (start.outlineOf bound)⟩ other := by
      constructor
      · have size : store.cells.size = start.cells.size := by rw [grown.cells]
        dsimp only [Store.name]
        rw [size]
        exact name_grown closed bare grown _ [] stored
      · obtain ⟨notModule, notPackage⟩ := bare_stored bare stored
        cases other with
        | module id => exact absurd rfl (notModule id)
        | _ => simp only [Store.sourceWith]
    have held (id : Nat) (stored : (Ref.block id).Stored start) :
        store.block id = start.block id := by
      rw [Store.block, Store.block, grown.blocks id stored]
    rw [Store.outlineOf, Store.outlineOf, grown.statements]
    cases found : start.statements[ref.id]? with
    | none => rfl
    | some statement =>
      have known := closed.statements ref.id statement found
      cases statement with
      | assignment target value =>
        have left := text_same target fun other inside =>
          agree other (known other (List.mem_append_left _ inside))
        have right := text_same value fun other inside =>
          agree other (known other (List.mem_append_right _ inside))
        dsimp only
        rw [left, right]
      | result expression =>
        have only := text_same expression fun other inside => agree other (known other inside)
        dsimp only
        rw [only]
      | raw line => rfl
      | function name args body =>
        dsimp only
        rw [held body (known _ (List.mem_singleton.mpr rfl)), inductionHypothesis]
      | conditional condition thenBody elseBody =>
        have head := text_same condition fun other inside => agree other (known other
          (List.mem_append_left _ (List.mem_append_left _ inside)))
        have first : store.bodyWith (store.outlineOf bound) thenBody =
            start.bodyWith (start.outlineOf bound) thenBody := by
          rw [inductionHypothesis]
          unfold Store.bodyWith
          split
          · rw [held _ (known _ (by simp [Statement.mentions, Value.mentions]))]
          all_goals rfl
        have second : store.elseWith (store.outlineOf bound) elseBody =
            start.elseWith (start.outlineOf bound) elseBody := by
          rw [inductionHypothesis]
          unfold Store.elseWith
          split
          · rw [held _ (known _ (by simp [Statement.mentions, Value.mentions]))]
          · rfl
        dsimp only
        rw [head, first, second]

end Stencil.Code
