import Stencil.Proofs.Outcome
import Stencil.Proofs.Run
import Stencil.Proofs.Code.Rendering

/-!
# Reading generated code by its indentation

The layout rule takes lines back to the tree that they were rendered from. A
line stands at a depth of one for every four spaces before it, and it owns the
lines behind it as far as they stand deeper. `Skeleton.read` applies the rule
and knows nothing of statements.

`Trees` says which skeleton stored statements have, statement by statement. It
asks of every statement's own line that it is one line, not empty, and does not
start with a space. Rendering at any depth and reading back then gives that
skeleton (`read_rendered`): lines of statements do not run into each other, and
no line is owned by another than the header of its body.
-/

namespace Stencil.Code

/-- What the layout rule sees in lines: lines that own none, and headers with the lines that they
own, of which there is at least one. -/
inductive Skeleton where
  | leaf (text : String)
  | header (text : String) (first : Skeleton) (rest : List Skeleton)

namespace Skeleton

/-- How deep a line stands. -/
def depth (line : String) : Nat := (line.toList.takeWhile (· == ' ')).length / 4

/-- A line without the spaces before it. -/
def unindent (line : String) : String := String.ofList (line.toList.dropWhile (· == ' '))

/-- A line with what it owns. -/
def owning (text : String) : List Skeleton → Skeleton
  | [] => .leaf text
  | first :: rest => .header text first rest

/-- Lines read by the layout rule: each line owns the maximal run of deeper lines behind it. Neither
the statements nor the code that writes the lines is consulted, only how deep each line stands. -/
def read : List String → List Skeleton
  | [] => []
  | line :: rest =>
    owning (unindent line) (read (rest.takeWhile fun other => depth line < depth other)) ::
      read (rest.dropWhile fun other => depth line < depth other)
termination_by lines => lines.length
decreasing_by
  · exact Nat.lt_succ_of_le (List.takeWhile_sublist _).length_le
  · exact Nat.lt_succ_of_le (List.dropWhile_sublist _).length_le

/-- The skeleton below a head: that of the statements, or `pass` if there are none. -/
def headed (head : String) : List Skeleton → Skeleton
  | [] => .header head (.leaf "pass") []
  | first :: rest => .header head first rest

/-- The skeleton of a second body: nothing if it has no statements. -/
def otherwise : List Skeleton → List Skeleton
  | [] => []
  | first :: rest => [.header "else:" first rest]

end Skeleton

/-- A text that makes one line, with something other than a space at its front. -/
def OwnLine (text : String) : Prop :=
  '\n' ∉ text.toList ∧ ∃ first rest, text.toList = first :: rest ∧ first ≠ ' '

/-- The skeleton of stored statements. Every rule puts one statement before others; the bodies of
statements are blocks. -/
inductive Trees (store : Store) : List StatementRef → List Skeleton → Prop where
  | nothing : Trees store [] []
  | assignment {ref : StatementRef} {refs : List StatementRef} {skeletons : List Skeleton}
      {target value : Value} {left right : String}
      (stored : store.statements[ref.id]? = some (.assignment target value))
      (named : store.text target = .ok left) (valued : store.text value = .ok right)
      (own : OwnLine (left ++ " = " ++ right)) (behind : Trees store refs skeletons) :
      Trees store (ref :: refs) (.leaf (left ++ " = " ++ right) :: skeletons)
  | result {ref : StatementRef} {refs : List StatementRef} {skeletons : List Skeleton}
      {expression : Value} {text : String}
      (stored : store.statements[ref.id]? = some (.result expression))
      (valued : store.text expression = .ok text) (own : OwnLine ("return " ++ text))
      (behind : Trees store refs skeletons) :
      Trees store (ref :: refs) (.leaf ("return " ++ text) :: skeletons)
  | raw {ref : StatementRef} {refs : List StatementRef} {skeletons : List Skeleton} {line : String}
      (stored : store.statements[ref.id]? = some (.raw line)) (own : OwnLine line)
      (behind : Trees store refs skeletons) :
      Trees store (ref :: refs) (.leaf line :: skeletons)
  | function {ref : StatementRef} {refs : List StatementRef} {inner skeletons : List Skeleton}
      {name : String} {args : List String} {body : Nat}
      (stored : store.statements[ref.id]? = some (.function name args body))
      (own : OwnLine ("def " ++ name ++ "(" ++ ", ".intercalate args ++ "):"))
      (below : Trees store (store.block body) inner) (behind : Trees store refs skeletons) :
      Trees store (ref :: refs)
        (.headed ("def " ++ name ++ "(" ++ ", ".intercalate args ++ "):") inner :: skeletons)
  | conditional {ref : StatementRef} {refs : List StatementRef}
      {inner others skeletons : List Skeleton} {condition : Value} {thenBody elseBody : Nat}
      {text : String}
      (stored : store.statements[ref.id]? =
        some (.conditional condition (.object (.block thenBody)) (.object (.block elseBody))))
      (valued : store.text condition = .ok text) (own : OwnLine ("if " ++ text ++ ":"))
      (below : Trees store (store.block thenBody) inner)
      (beside : Trees store (store.block elseBody) others) (behind : Trees store refs skeletons) :
      Trees store (ref :: refs)
        (.headed ("if " ++ text ++ ":") inner :: (Skeleton.otherwise others ++ skeletons))

/-! ## Lines at a depth -/

namespace Skeleton

/-- A line is the spaces of its depth with its text behind them. -/
theorem indent_chars (level : Nat) (text : String) :
    (Outline.indent level text).toList = List.replicate (4 * level) ' ' ++ text.toList := by
  simp [Outline.indent]

/-- The spaces before a text's own line are its indentation. -/
theorem indent_run (level : Nat) {text : String} (own : OwnLine text) :
    (Outline.indent level text).toList.takeWhile (· == ' ') = List.replicate (4 * level) ' ' ∧
      (Outline.indent level text).toList.dropWhile (· == ' ') = text.toList := by
  obtain ⟨-, first, rest, chars, visible⟩ := own
  rw [indent_chars]
  refine run_of_stops _ _ ?_ ?_
  · intro c member
    simp [List.eq_of_mem_replicate member]
  · rw [chars, stops_cons]
    simpa using visible

/-- An indented line stands at its depth. -/
theorem depth_indent (level : Nat) {text : String} (own : OwnLine text) :
    depth (Outline.indent level text) = level := by
  rw [depth, (indent_run level own).1, List.length_replicate]
  omega

/-- An indented line has its text behind the spaces. -/
theorem unindent_indent (level : Nat) {text : String} (own : OwnLine text) :
    unindent (Outline.indent level text) = text := by
  rw [unindent, (indent_run level own).2, String.ofList_toList]

/-- Lines that start with none deeper than a level: they end the run of the deeper lines before
them. -/
abbrev Level (level : Nat) (lines : List String) : Prop :=
  Stops (fun line => level < depth line) lines

/-- No line is read from no lines. -/
@[simp] theorem read_nil : read [] = [] := by rw [read]

/-- A line with deeper lines behind it owns these, up to lines at its own level. -/
theorem read_header (level : Nat) {text : String} (own : OwnLine text) (inner behind : List String)
    (deeper : ∀ line ∈ inner, level < depth line) (ends : Level level behind) :
    read (Outline.indent level text :: (inner ++ behind)) =
      owning text (read inner) :: read behind := by
  obtain ⟨taken, left⟩ := run_of_stops (p := fun line => decide (level < depth line)) inner behind
    (by simpa using deeper) ends
  rw [read, unindent_indent level own, depth_indent level own, taken, left]

/-- Lines that lie at a level read as skeletons, whatever is behind them at that level. -/
structure Lies (level : Nat) (lines : List String) (skeletons : List Skeleton) : Prop where
  deep : ∀ line ∈ lines, level ≤ depth line
  unbroken : ∀ line ∈ lines, '\n' ∉ line.toList
  starts : Level level lines
  reads : ∀ behind, Level level behind → read (lines ++ behind) = skeletons ++ read behind

variable {level : Nat} {lines others : List String} {skeletons skeletons' : List Skeleton}

/-- Nothing lies in no lines. -/
theorem lies_nothing (level : Nat) : Lies level [] [] := by
  constructor
  · simp
  · simp
  · exact stops_nil _
  · intro behind _
    rfl

/-- Lines behind lines at the same level read as skeletons behind skeletons. -/
theorem lies_append (before : Lies level lines skeletons) (behind : Lies level others skeletons') :
    Lies level (lines ++ others) (skeletons ++ skeletons') := by
  constructor
  · intro line member
    rcases List.mem_append.mp member with member | member
    · exact before.deep line member
    · exact behind.deep line member
  · intro line member
    rcases List.mem_append.mp member with member | member
    · exact before.unbroken line member
    · exact behind.unbroken line member
  · cases lines with
    | nil => exact behind.starts
    | cons line rest => exact before.starts
  · intro tail ends
    have level : Level level (others ++ tail) := by
      cases others with
      | nil => exact ends
      | cons line rest => exact behind.starts
    rw [List.append_assoc, before.reads _ level, behind.reads tail ends, List.append_assoc]

/-- Lines that stand by themselves read as the skeletons that lie in them. -/
theorem lies_read (lies : Lies level lines skeletons) : read lines = skeletons := by
  simpa using lies.reads [] (stops_nil _)

/-- A line has no line end if its text has none. -/
theorem indent_unbroken (level : Nat) {text : String} (own : OwnLine text) :
    '\n' ∉ (Outline.indent level text).toList := by
  rw [indent_chars, List.mem_append]
  rintro (blank | inside)
  · exact absurd (List.eq_of_mem_replicate blank) (by decide)
  · exact own.1 inside

/-- A line owns the lines of the next level that stand below it. -/
theorem lies_owning {text : String} (own : OwnLine text)
    (below : Lies (level + 1) lines skeletons) :
    Lies level (Outline.indent level text :: lines) [owning text skeletons] := by
  have atLevel : depth (Outline.indent level text) = level := depth_indent level own
  constructor
  · intro line member
    rcases List.mem_cons.mp member with rfl | member
    · exact Nat.le_of_eq atLevel.symm
    · exact Nat.le_of_succ_le (below.deep line member)
  · intro line member
    rcases List.mem_cons.mp member with rfl | member
    · exact indent_unbroken level own
    · exact below.unbroken line member
  · simp [atLevel]
  · intro behind ends
    rw [List.cons_append, read_header level own lines behind below.deep ends, lies_read below]
    rfl

/-- Nothing lies only in no lines. -/
theorem lies_empty_iff (lies : Lies level lines skeletons) : lines = [] ↔ skeletons = [] := by
  have same := lies_read lies
  cases lines with
  | nil =>
    rw [read_nil] at same
    simp [← same]
  | cons line rest =>
    rw [read] at same
    simp [← same]

end Skeleton

/-! ## Lines of stored statements -/

section

open Skeleton

variable {level : Nat} {lines : List String} {skeletons : List Skeleton}

/-- A statement's own line lies at its level. -/
theorem lies_line {text : String} (own : OwnLine text) :
    Lies level [Outline.indent level text] [.leaf text] := lies_owning own (lies_nothing _)

/-- A head with its body below it reads as the head's skeleton. -/
theorem lies_headed {head : String} (own : OwnLine head)
    (below : Lies (level + 1) lines skeletons) :
    Lies level (Outline.indent level head :: orPass ((level + 1 : Nat) : Int) lines)
      [headed head skeletons] := by
  cases skeletons with
  | nil =>
    obtain rfl := (lies_empty_iff below).mpr rfl
    have pass : OwnLine "pass" := ⟨by decide, 'p', ['a', 's', 's'], by decide, by decide⟩
    exact lies_owning own (lies_owning pass (lies_nothing _))
  | cons first rest =>
    cases lines with
    | nil => exact absurd ((lies_empty_iff below).mp rfl) (List.cons_ne_nil first rest)
    | cons line others => exact lies_owning own below

/-- A second body reads as its skeleton, with the dividing line as its header. -/
theorem lies_otherwise (below : Lies (level + 1) lines skeletons) :
    Lies level (withElse level lines) (otherwise skeletons) := by
  cases skeletons with
  | nil =>
    obtain rfl := (lies_empty_iff below).mpr rfl
    exact lies_nothing level
  | cons first rest =>
    have divider : OwnLine "else:" := ⟨by decide, 'e', ['l', 's', 'e', ':'], by decide, by decide⟩
    cases lines with
    | nil => exact absurd ((lies_empty_iff below).mp rfl) (List.cons_ne_nil first rest)
    | cons line others => exact lies_owning divider below

end

/-- The lines of statements of a skeleton lie at any level as the skeleton. The induction is on the
rules; each case puts the lines of one statement before the others'. -/
theorem trees_lie {store : Store} {refs : List StatementRef} {skeletons : List Skeleton}
    (trees : Trees store refs skeletons) (level : Nat) :
    ∃ lines, store.linesOf level refs = .ok lines ∧ Skeleton.Lies level lines skeletons := by
  have next (level : Nat) : ((level + 1 : Nat) : Int) = (level : Int) + 1 := Int.natCast_succ level
  induction trees generalizing level with
  | nothing => exact ⟨[], rfl, Skeleton.lies_nothing level⟩
  | assignment stored named valued own _ inductionHypothesis =>
    obtain ⟨lines, rendered, lies⟩ := inductionHypothesis level
    refine ⟨_, ?_, Skeleton.lies_append (lies_line own) lies⟩
    rw [lines_of_cons, assignment_lines level stored named valued, rendered]
    rfl
  | result stored valued own _ inductionHypothesis =>
    obtain ⟨lines, rendered, lies⟩ := inductionHypothesis level
    refine ⟨_, ?_, Skeleton.lies_append (lies_line own) lies⟩
    rw [lines_of_cons, result_lines level stored valued, rendered]
    rfl
  | raw stored own _ inductionHypothesis =>
    obtain ⟨lines, rendered, lies⟩ := inductionHypothesis level
    refine ⟨_, ?_, Skeleton.lies_append (lies_line own) lies⟩
    rw [lines_of_cons, raw_lines level stored, rendered]
    rfl
  | function stored own _ _ inner inductionHypothesis =>
    obtain ⟨lines, rendered, lies⟩ := inductionHypothesis level
    obtain ⟨innerLines, innerRendered, innerLies⟩ := inner (level + 1)
    refine ⟨_, ?_, Skeleton.lies_append (lies_headed own innerLies) lies⟩
    rw [next] at innerRendered
    rw [lines_of_cons, function_lines level stored, innerRendered, rendered]
    rfl
  | conditional stored valued own _ _ _ inner beside inductionHypothesis =>
    obtain ⟨lines, rendered, lies⟩ := inductionHypothesis level
    obtain ⟨innerLines, innerRendered, innerLies⟩ := inner (level + 1)
    obtain ⟨elseLines, elseRendered, elseLies⟩ := beside (level + 1)
    have branch := Skeleton.lies_append (lies_headed own innerLies) (lies_otherwise elseLies)
    refine ⟨_, ?_, Skeleton.lies_append branch lies⟩
    rw [next] at innerRendered elseRendered
    rw [lines_of_cons, conditional_lines level stored valued, innerRendered, elseRendered, rendered]
    rfl

/-! ## The text of a file -/

/-- The lines of a text, cut at its line ends. -/
def cutLines : List Char → List (List Char)
  | [] => []
  | c :: rest =>
    if c = '\n' then [] :: cutLines rest
    else match cutLines rest with
      | [] => [[c]]
      | first :: others => (c :: first) :: others

/-- A line with its end is cut from the front of a text. -/
theorem cut_line (line rest : List Char) (unbroken : '\n' ∉ line) :
    cutLines (line ++ '\n' :: rest) = line :: cutLines rest := by
  induction line with
  | nil => simp [cutLines]
  | cons c others inductionHypothesis =>
    rw [List.mem_cons, not_or] at unbroken
    rw [List.cons_append, cutLines, if_neg (fun same => unbroken.1 same.symm),
      inductionHypothesis unbroken.2]

/-- The text of unbroken lines is cut into these lines. -/
theorem cut_file_text (lines : List String) (unbroken : ∀ line ∈ lines, '\n' ∉ line.toList) :
    (cutLines (Outline.fileText lines).toList).map String.ofList = lines := by
  induction lines with
  | nil => rfl
  | cons line rest inductionHypothesis =>
    have text : (Outline.fileText (line :: rest)).toList =
        line.toList ++ '\n' :: (Outline.fileText rest).toList := by
      simp [Outline.fileText, String.toList_join]
    rw [text, cut_line _ _ (unbroken line List.mem_cons_self), List.map_cons, String.ofList_toList,
      inductionHypothesis fun other member => unbroken other (List.mem_cons_of_mem line member)]

/-- Reading a statement's rendering back by the layout rule gives exactly its skeleton, at whatever
depth it was rendered, and the same from the text of the lines. Since a header of a skeleton owns
something and a leaf owns nothing, headers are never left without a body and plain lines never get
one; since the skeleton lists what stands in each body, no statement moves to another.

Proof: by induction on the skeleton the lines of a statement lie at its depth, its own line first
and everything in its body deeper (`trees_lie`). Reading goes by depths alone, so a header gets back
just the lines that lie in it (`Skeleton.lies_read`). No line breaks in two, so cutting the text of
the lines gives the lines. -/
theorem read_rendered (store : Store) (ref : StatementRef) (skeletons : List Skeleton)
    (tree : Trees store [ref] skeletons) (depth : Nat) :
    ∃ lines, store.statementLines depth ref = .ok lines ∧ Skeleton.read lines = skeletons ∧
      Skeleton.read ((cutLines (Outline.fileText lines).toList).map String.ofList) = skeletons := by
  obtain ⟨lines, rendered, lies⟩ := trees_lie tree depth
  rw [lines_of_cons, lines_of_nil] at rendered
  obtain ⟨first, own, done⟩ := bind_ok rendered
  have same : first ++ [] = lines := Except.ok.inj done
  obtain rfl : first = lines := (List.append_nil first).symm.trans same
  refine ⟨first, own, Skeleton.lies_read lies, ?_⟩
  rw [cut_file_text _ lies.unbroken]
  exact Skeleton.lies_read lies

/-- A function whose first statement is a conditional with an empty first body, and whose second
body ends in another conditional. -/
def nestedStore : Store :=
  { Store.empty with
    statements := #[.function "f" ["a", "b"] 0,
      .conditional (.equals (.reference (.text "a")) (.literal (.text "1")))
        (.object (.block 1)) (.object (.block 2)),
      .conditional (.reference (.text "b")) (.object (.block 3)) (.object (.block 1)),
      .raw "x += 1", .result (.reference (.text "a"))]
    blocks := #[[⟨.conditional, 1⟩, ⟨.result, 4⟩], [], [⟨.conditional, 2⟩], [⟨.raw, 3⟩]] }

/-- The nested conditionals of the function are read back where they were put. -/
theorem nested_read :
    Trees nestedStore [⟨.function, 0⟩]
      [.header "def f(a, b):"
        (.header "if a == 1:" (.leaf "pass") [])
        [.header "else:" (.header "if b:" (.leaf "x += 1") []) [], .leaf "return a"]] ∧
    ∃ lines, nestedStore.statementLines 2 ⟨.function, 0⟩ = .ok lines ∧
      Skeleton.read lines =
        [.header "def f(a, b):"
          (.header "if a == 1:" (.leaf "pass") [])
          [.header "else:" (.header "if b:" (.leaf "x += 1") []) [], .leaf "return a"]] := by
  have line : Trees nestedStore [⟨.raw, 3⟩] [.leaf "x += 1"] :=
    .raw rfl ⟨by decide, 'x', _, rfl, by decide⟩ .nothing
  have innerHead : OwnLine ("if " ++ "b" ++ ":") := ⟨by decide, 'i', _, rfl, by decide⟩
  have second : Trees nestedStore [⟨.conditional, 2⟩] [.header "if b:" (.leaf "x += 1") []] :=
    @Trees.conditional nestedStore _ [] [.leaf "x += 1"] [] [] _ 3 1 "b" rfl rfl innerHead line
      .nothing .nothing
  have returned : OwnLine ("return " ++ "a") := ⟨by decide, 'r', _, rfl, by decide⟩
  have last : Trees nestedStore [⟨.result, 4⟩] [.leaf "return a"] :=
    .result rfl rfl returned .nothing
  have head : OwnLine ("if " ++ "a == 1" ++ ":") := ⟨by decide, 'i', _, rfl, by decide⟩
  have body : Trees nestedStore [⟨.conditional, 1⟩, ⟨.result, 4⟩]
      [.header "if a == 1:" (.leaf "pass") [],
        .header "else:" (.header "if b:" (.leaf "x += 1") []) [], .leaf "return a"] :=
    @Trees.conditional nestedStore _ _ [] [.header "if b:" (.leaf "x += 1") []] _ _ 1 2 "a == 1"
      rfl rfl head .nothing second last
  have definition : OwnLine ("def " ++ "f" ++ "(" ++ ", ".intercalate ["a", "b"] ++ "):") :=
    ⟨by decide, 'd', _, rfl, by decide⟩
  have tree := @Trees.function nestedStore ⟨.function, 0⟩ [] _ [] "f" ["a", "b"] 0 rfl definition
    body .nothing
  obtain ⟨lines, rendered, read, -⟩ := read_rendered nestedStore ⟨.function, 0⟩ _ tree 2
  exact ⟨tree, lines, rendered, read⟩

end Stencil.Code
