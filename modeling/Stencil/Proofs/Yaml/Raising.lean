import Mathlib
import Stencil.Yaml.Construction

/-!
# What reading a YAML text raises

Reading a text raises faults of the text, and the fault of a value where the
form of a scalar promises a value that its text does not have. The faults of
values are all of a few broad families (`valueFamilies`), the ones that the
readers of numbers, dates and words raise: none is a fault that names a file.

`Settles` says of a step that it raises nothing else. It is proved along the
layers of the reader: characters and lexemes, the tokens they make, the nodes
that the tokens are read to, and the content that the nodes are made into.
-/

namespace Stencil.Yaml

open Std.Do

set_option mvcgen.warning false

/-- The families of the faults of values. -/
def valueFamilies : List Family := [.type, .value, .missingField, .key, .index, .overflow]

/-- A fault that is not of a value, or is of one of the families of values. -/
@[simp] def Fault.Settled : Fault → Prop
  | .value fault => fault.family ∈ valueFamilies
  | _ => True

/-- A step keeps what holds of the state, and raises settled faults only. -/
abbrev Settles {σ α : Type} (holds : σ → Prop) (step : StateT σ (Except Fault) α) : Prop :=
  ⦃fun state => ⌜holds state⌝⦄ step
    ⦃post⟨fun _ state => ⌜holds state⌝, fun fault => ⌜fault.Settled⌝⟩⦄

section Steps

variable {σ α : Type}

/-- What a step that throws leaves is the fault. -/
@[spec 3000] theorem throw_leaves (fault : Fault)
    {Q : PostCond α (.arg σ (.except Fault .pure))} :
    ⦃fun _ => Q.2.1 fault⦄ (throw fault : StateT σ (Except Fault) α) ⦃Q⦄ := by
  intro state holds
  exact holds

/-- A step whose result is dropped leaves what it leaves. -/
@[spec] theorem discard_leaves (step : StateT σ (Except Fault) α)
    {Q : PostCond PUnit (.arg σ (.except Fault .pure))} :
    ⦃wp⟦step⟧ (fun _ => Q.1 ⟨⟩, Q.2)⦄ (discard step : StateT σ (Except Fault) PUnit) ⦃Q⦄ := by
  change Triple ((fun _ => PUnit.unit) <$> step) _ Q
  mvcgen

/-- An outcome has a settled fault, if it has one. -/
abbrev Fault.Settles (outcome : Except Fault α) : Prop :=
  ⦃⌜True⌝⦄ outcome ⦃post⟨fun _ => ⌜True⌝, fun fault => ⌜fault.Settled⌝⟩⦄

/-- An outcome whose faults are settled settles. -/
theorem outcome_settles {outcome : Except Fault α}
    (settled : ∀ fault, outcome = .error fault → fault.Settled) : Fault.Settles outcome := by
  intro _
  cases outcome with
  | ok value => trivial
  | error fault => exact settled fault rfl

/-- The fault of an outcome that settles is settled. -/
theorem settled_of_outcome {outcome : Except Fault α} (settles : Fault.Settles outcome)
    {fault : Fault} (raised : outcome = .error fault) : fault.Settled := by
  have holds := settles trivial
  rw [raised] at holds
  exact holds

/-- A run of a step that settles settles. -/
theorem run_settles {holds : σ → Prop} {step : StateT σ (Except Fault) α}
    (settles : Settles holds step) {state : σ} (initial : holds state) :
    Fault.Settles (step.run state) := by
  apply outcome_settles
  intro fault raised
  have left := settles state initial
  change (wp⟦step.run state⟧ _).down at left
  rw [raised] at left
  exact left

/-- What a fault as an outcome leaves is the fault. -/
@[spec 3000] theorem error_leaves (fault : Fault) {Q : PostCond α (.except Fault .pure)} :
    ⦃Q.2.1 fault⦄ (Except.error fault : Except Fault α) ⦃Q⦄ := by
  intro holds
  exact holds

/-- What a thrown fault leaves is the fault. -/
@[spec 3000] theorem thrown_leaves (fault : Fault) {Q : PostCond α (.except Fault .pure)} :
    ⦃Q.2.1 fault⦄ (throw fault : Except Fault α) ⦃Q⦄ := by
  intro holds
  exact holds

/-- What a value as an outcome leaves is the value. -/
@[spec 3000] theorem ok_leaves (value : α) {Q : PostCond α (.except Fault .pure)} :
    ⦃Q.1 value⦄ (Except.ok value : Except Fault α) ⦃Q⦄ := by
  intro holds
  exact holds

end Steps

/-! ## Numbers and dates -/

/-- The fault of an integer's text is that of a value. -/
theorem int_settled {base : Nat} {digits : List Char} {fault : Stencil.Fault}
    (raised : Code.intOfText base digits = .error fault) : fault.family ∈ valueFamilies := by
  rw [Code.intOfText, Code.readInt] at raised
  split at raised <;> cases raised <;> simp [valueFamilies, Stencil.Fault.family]

/-- The fault of a double's text is that of a value. -/
theorem double_settled {digits : List Char} {fault : Stencil.Fault}
    (raised : Code.doubleOfText digits = .error fault) : fault.family ∈ valueFamilies := by
  rw [Code.doubleOfText, Code.readDouble] at raised
  split at raised <;> cases raised
  simp [valueFamilies, Stencil.Fault.family]

/-- The fault of a timestamp's text is that of a value. -/
theorem timestamp_settled {text : List Char} {fault : Stencil.Fault}
    (raised : Timestamp.read text = .error fault) : fault.family ∈ valueFamilies := by
  rw [Timestamp.read] at raised
  split at raised
  · cases raised
    simp [valueFamilies, Stencil.Fault.family]
  · split at raised <;> cases raised
    simp [valueFamilies, Stencil.Fault.family]

/-! ## Lexemes

Readers of names, quoted and plain scalars raise no fault of a value, but two do:
a version can have too many digits, and an escape can name a character that is
none.
-/

namespace Scan

/-- A reading step raises settled faults only. -/
abbrev Settles {α : Type} (scan : Scan α) : Prop := Yaml.Settles (fun _ => True) scan

@[spec] theorem peek_settles : Settles peek := by mvcgen [peek]

@[spec] theorem skip_settles (count : Nat) : Settles (skip count) := by mvcgen [skip]

@[spec] theorem take_settles (p : Char → Bool) : Settles (takeWhile p) := by mvcgen [takeWhile]

@[spec] theorem spaces_settles : Settles spaces := by mvcgen [spaces]

@[spec] theorem break_settles : Settles lineBreak := by mvcgen [lineBreak]

@[spec] theorem comment_settles : Settles comment := by mvcgen [comment]

@[spec] theorem rest_settles (lexeme : Lexeme) : Settles (restOfLine lexeme) := by
  mvcgen [restOfLine]

@[spec] theorem name_settles (lexeme : Lexeme) : Settles (name lexeme) := by mvcgen [name]

@[spec] theorem bytes_settles (lexeme : Lexeme) (fuel : Nat) :
    Settles (escapedBytes lexeme fuel) := by
  induction fuel with
  | zero => mvcgen [escapedBytes]
  | succ fuel inductionHypothesis => mvcgen [escapedBytes, inductionHypothesis]

@[spec] theorem pieces_settles (lexeme : Lexeme) (fuel : Nat) :
    Settles (addressPieces lexeme fuel) := by
  induction fuel with
  | zero => mvcgen [addressPieces]
  | succ fuel inductionHypothesis => mvcgen [addressPieces, inductionHypothesis]

@[spec] theorem address_settles (lexeme : Lexeme) : Settles (address lexeme) := by
  mvcgen [address]

@[spec] theorem handle_settles (lexeme : Lexeme) : Settles (handle lexeme) := by
  mvcgen [handle]

@[spec] theorem tag_settles : Settles tag := by
  mvcgen [tag]

@[spec] theorem anchor_settles (lexeme : Lexeme) : Settles (anchorName lexeme) := by
  unfold anchorName
  generalize String.toList _ = closing
  mvcgen

@[spec] theorem version_settles : Settles versionNumber := by
  mvcgen [versionNumber]
  exact int_settled ‹_›

@[spec] theorem directive_settles : Settles directive := by
  mvcgen [directive]

@[spec] theorem chomping_settles : Settles chomping := by
  mvcgen [chomping]

@[spec] theorem increment_settles : Settles increment := by
  mvcgen [increment]

@[spec] theorem header_settles : Settles blockHeader := by
  mvcgen [blockHeader]

@[spec] theorem leading_settles (deepest fuel : Nat) : Settles (leadingLines deepest fuel) := by
  induction fuel generalizing deepest with
  | zero => mvcgen [leadingLines]
  | succ fuel inductionHypothesis => mvcgen [leadingLines, inductionHypothesis]

@[spec] theorem indent_settles (column : Nat) : Settles (indentTo column) := by
  mvcgen [indentTo]

@[spec] theorem empty_settles (column fuel : Nat) : Settles (emptyLines column fuel) := by
  induction fuel with
  | zero => mvcgen [emptyLines]
  | succ fuel inductionHypothesis => mvcgen [emptyLines, inductionHypothesis]

@[spec] theorem lines_settles (folded : Bool) (column : Nat) (before : List Char) (fuel : Nat) :
    Settles (blockLines folded column before fuel) := by
  induction fuel generalizing before with
  | zero => mvcgen [blockLines]
  | succ fuel inductionHypothesis => mvcgen [blockLines, inductionHypothesis]

@[spec] theorem block_settles (folded : Bool) (indent : Int) :
    Settles (blockScalar folded indent) := by
  mvcgen [blockScalar]

@[spec] theorem breaks_settles (fuel : Nat) : Settles (quotedBreaks fuel) := by
  induction fuel with
  | zero => mvcgen [quotedBreaks]
  | succ fuel inductionHypothesis => mvcgen [quotedBreaks, inductionHypothesis]

@[spec] theorem escape_settles : Settles escape := by
  mvcgen [escape]
  all_goals simp [valueFamilies, Stencil.Fault.family]

@[spec] theorem word_settles (double : Bool) (fuel : Nat) : Settles (quotedWord double fuel) := by
  induction fuel with
  | zero => mvcgen [quotedWord]
  | succ fuel inductionHypothesis => mvcgen [quotedWord, inductionHypothesis]

@[spec] theorem gap_settles : Settles quotedGap := by
  mvcgen [quotedGap]

@[spec] theorem quoted_settles (double : Bool) (mark : Char) (fuel : Nat) :
    Settles (quotedRest double mark fuel) := by
  induction fuel with
  | zero => mvcgen [quotedRest]
  | succ fuel inductionHypothesis => mvcgen [quotedRest, inductionHypothesis]

@[spec] theorem scalar_settles (double : Bool) : Settles (quotedScalar double) := by
  mvcgen [quotedScalar]

@[spec] theorem ends_settles (fuel : Nat) : Settles (plainBreaks fuel) := by
  induction fuel with
  | zero => mvcgen [plainBreaks]
  | succ fuel inductionHypothesis => mvcgen [plainBreaks, inductionHypothesis]

@[spec] theorem between_settles : Settles plainGap := by
  mvcgen [plainGap]

@[spec] theorem words_settles (flow : Bool) (indent : Int) (joint : List Char) (newLine : Bool)
    (fuel : Nat) : Settles (plainWords flow indent joint newLine fuel) := by
  induction fuel generalizing joint newLine with
  | zero => mvcgen [plainWords]
  | succ fuel inductionHypothesis => mvcgen [plainWords, inductionHypothesis]

@[spec] theorem plain_settles (flow : Bool) (indent : Int) :
    Settles (plainScalar flow indent) := by
  mvcgen [plainScalar]

end Scan

/-! ## Tokens -/

namespace Scanner

/-- A step between tokens raises settled faults only. -/
abbrev Settles {α : Type} (step : Step α) : Prop := Yaml.Settles (fun _ => True) step

/-- A reading step between tokens leaves what it leaves at the scanner's place. -/
@[spec] theorem reading_leaves {α : Type} (scan : Scan α)
    {Q : PostCond α (.arg Scanner (.except Fault .pure))} :
    ⦃fun state => wp⟦scan⟧ (fun result cursor => Q.1 result { state with cursor }, Q.2)
      state.cursor⦄ reading scan ⦃Q⦄ := by
  intro state holds
  change (wp⟦scan state.cursor⟧ _).down at holds
  change (wp⟦reading scan state⟧ _).down
  have leaves : reading scan state =
      (scan state.cursor).map fun read => (read.1, { state with cursor := read.2 }) := by
    have looked : reading scan state = (reading scan).run state := rfl
    rw [looked, reading, StateT.run_bind, StateT.run_get, pure_bind]
    cases scan state.cursor <;> rfl
  rw [leaves]
  cases done : scan state.cursor with
  | error fault =>
    rw [done] at holds
    exact holds
  | ok outcome =>
    rw [done] at holds
    exact holds

@[spec] theorem hold_settles (token : Token) : Settles (hold token) := by mvcgen [hold]

@[spec] theorem stale_settles : Settles dropStaleKeys := by mvcgen [dropStaleKeys]

@[spec] theorem drop_settles : Settles dropKey := by mvcgen [dropKey]

@[spec] theorem save_settles : Settles saveKey := by mvcgen [saveKey]

@[spec] theorem allow_settles (allowed : Bool) : Settles (allowKey allowed) := by
  mvcgen [allowKey]

@[spec] theorem close_settles (column : Int) (fuel : Nat) : Settles (closeTo column fuel) := by
  induction fuel with
  | zero => mvcgen [closeTo]
  | succ fuel inductionHypothesis => mvcgen [closeTo, inductionHypothesis]

@[spec] theorem unwind_settles (column : Int) : Settles (unwind column) := by mvcgen [unwind]

@[spec] theorem deepen_settles (column : Nat) : Settles (deepen column) := by mvcgen [deepen]

@[spec] theorem to_token_settles (fuel : Nat) : Settles (skipToToken fuel) := by
  induction fuel with
  | zero => mvcgen [skipToToken]
  | succ fuel inductionHypothesis => mvcgen [skipToToken, inductionHypothesis]

@[spec] theorem stream_settles : Settles endStream := by mvcgen [endStream]

@[spec] theorem outermost_settles {scan : Scan Token} (settles : scan.Settles) :
    Settles (outermost scan) := by
  mvcgen [outermost, settles]

@[spec] theorem open_settles (token : Token) : Settles (openFlow token) := by mvcgen [openFlow]

@[spec] theorem shut_settles (token : Token) : Settles (closeFlow token) := by mvcgen [closeFlow]

@[spec] theorem flow_settles : Settles flowEntry := by mvcgen [flowEntry]

@[spec] theorem open_block_settles {fault : Fault} (settled : fault.Settled) (token : Token) :
    Settles (openBlock fault token) := by
  mvcgen [openBlock]

@[spec] theorem entry_settles : Settles blockEntry := by mvcgen [blockEntry]

@[spec] theorem key_settles : Settles markedKey := by mvcgen [markedKey]

@[spec] theorem value_settles : Settles mappingValue := by mvcgen [mappingValue]

@[spec] theorem keyed_settles {scan : Scan Token} (settles : scan.Settles) :
    Settles (keyed scan) := by
  mvcgen [keyed, settles]

@[spec] theorem plain_settles : Settles plain := by mvcgen [plain]

@[spec] theorem block_settles (folded : Bool) : Settles (block folded) := by mvcgen [block]

@[spec] theorem fetch_settles : Settles fetch := by mvcgen [fetch]

@[spec] theorem waiting_settles : Settles waiting := by mvcgen [waiting]

/-- The fault behind the tokens is settled. -/
theorem release_settled (fuel : Nat) (state : Scanner) :
    ∀ fault ∈ (release fuel state).2, fault.Settled := by
  fun_induction release fuel state with
  | case1 => simp
  | case2 _ _ _ waited =>
    simpa using settled_of_outcome (run_settles waiting_settles trivial) waited
  | case3 _ _ _ _ _ fetched =>
    simpa using settled_of_outcome (run_settles fetch_settles trivial) fetched
  | case4 _ _ _ _ _ _ _ inductionHypothesis => exact inductionHypothesis
  | case5 => simp
  | case6 _ _ _ _ _ _ _ _ _ released inductionHypothesis =>
    rw [released] at inductionHypothesis
    exact inductionHypothesis

end Scanner

/-! ## Nodes -/

namespace Reader

/-- A step of reading nodes raises settled faults only, if the fault behind the tokens is one. -/
abbrev Settles {α : Type} (step : Read α) : Prop :=
  Yaml.Settles (fun reader => ∀ fault ∈ reader.fault, fault.Settled) step

@[spec] theorem look_settles : Settles look := by
  mvcgen [look]
  simp_all

@[spec] theorem take_settles : Settles take := by
  mvcgen [take]

@[spec] theorem add_settles (anchor : Option String) (node : Node) : Settles (add anchor node) := by
  mvcgen [add]

@[spec] theorem absent_settles : Settles absent := by
  mvcgen [absent]

@[spec] theorem anchor_settles : Settles anchor? := by
  mvcgen [anchor?]

@[spec] theorem tag_settles : Settles tag? := by
  mvcgen [tag?]

@[spec] theorem properties_settles : Settles properties := by
  mvcgen [properties]

@[spec] theorem full_settles (written : Option (Option String × String)) :
    Settles (fullTag written) := by
  mvcgen [fullTag]

@[spec] theorem fresh_settles (anchor : Option String) : Settles (freshAnchor anchor) := by
  mvcgen [freshAnchor]

/-- The readers of nodes and of their parts settle, up to a depth. -/
structure NodesSettle (fuel : Nat) : Prop where
  node : ∀ block indentless, Settles (node block indentless fuel)
  blockItems : Settles (blockItems fuel)
  indentlessEntries : Settles (indentlessEntries fuel)
  blockValue : Settles (blockValue fuel)
  blockEntries : Settles (blockEntries fuel)
  flowItems : ∀ first, Settles (flowItems first fuel)
  flowEntries : ∀ first, Settles (flowEntries first fuel)

/-- The readers of nodes settle. They call each other, so the induction on the depth goes over all
of them at once. -/
theorem nodes_settle (fuel : Nat) : NodesSettle fuel := by
  induction fuel with
  | zero =>
    constructor
    · intros
      mvcgen [node]
    · mvcgen [blockItems]
    · mvcgen [indentlessEntries]
    · mvcgen [blockValue]
    · mvcgen [blockEntries]
    · intros
      mvcgen [flowItems]
    · intros
      mvcgen [flowEntries]
  | succ fuel inductionHypothesis =>
    obtain ⟨nodes, blocks, indentless, value, entries, items, pairs⟩ := inductionHypothesis
    constructor
    · intros
      mvcgen [node, nodes, blocks, indentless, value, entries, items, pairs]
    · mvcgen [blockItems, nodes, blocks]
    · mvcgen [indentlessEntries, nodes, indentless]
    · mvcgen [blockValue, nodes]
    · mvcgen [blockEntries, nodes, value, entries]
    · intros
      mvcgen [flowItems, nodes, items]
    · intros
      mvcgen [flowEntries, nodes, pairs]

@[spec] theorem directives_settle (versioned : Bool) (handles : List (String × String))
    (fuel : Nat) : Settles (directives versioned handles fuel) := by
  induction fuel generalizing versioned handles with
  | zero => mvcgen [directives]
  | succ fuel inductionHypothesis => mvcgen [directives, inductionHypothesis]

@[spec] theorem ends_settle (fuel : Nat) : Settles (skipEnds fuel) := by
  induction fuel with
  | zero => mvcgen [skipEnds]
  | succ fuel inductionHypothesis => mvcgen [skipEnds, inductionHypothesis]

@[spec] theorem start_settles (fuel : Nat) : Settles (markedStart fuel) := by
  mvcgen [markedStart]

@[spec] theorem document_settles : Settles document? := by
  have nodes (fuel : Nat) := (nodes_settle fuel).node
  mvcgen [document?, nodes]

end Reader

/-- Reading a document settles: what is behind the tokens does. -/
theorem Document.of_text_settles (text : List Char) : Fault.Settles (Document.ofText? text) := by
  have released := Scanner.release_settled (16 * text.length + 64) (.start text)
  have read : Fault.Settles
      (Reader.document?.run ⟨(tokens text).1, (tokens text).2, #[], [], []⟩) :=
    run_settles Reader.document_settles released
  change Fault.Settles (Reader.document?.run (⟨(tokens text).1, (tokens text).2, #[], [], []⟩ :
    Reader) >>= fun outcome =>
      .ok (outcome.1.map fun root => (⟨outcome.2.nodes, root⟩ : Document)))
  mvcgen [read]

/-! ## Scalars -/

namespace Scalar

/-- Reading a number or a date settles if its faults are those of values. -/
theorem lift_settles {α : Type} {result : Except Stencil.Fault α}
    (settled : ∀ fault, result = .error fault → fault.family ∈ valueFamilies) :
    Fault.Settles (lift result) := by
  apply outcome_settles
  cases result with
  | ok value => nofun
  | error fault =>
    rintro _ ⟨⟩
    exact settled fault rfl

@[spec] theorem signed_settles (cs : List Char) : Fault.Settles (signed cs) := by
  mvcgen [signed]
  simp [valueFamilies, Stencil.Fault.family]

/-- Reading texts one after another settles if reading each does. -/
theorem each_settles {α β : Type} {read : α → Except Fault β}
    (settles : ∀ item, Fault.Settles (read item)) (items : List α) :
    Fault.Settles (items.mapM read) := by
  induction items with
  | nil => mvcgen
  | cons item rest inductionHypothesis =>
    rw [List.mapM_cons]
    mvcgen [settles, inductionHypothesis]

@[spec] theorem int_settles (text : List Char) : Fault.Settles (int text) := by
  have whole (base : Nat) (digits : List Char) :
      Fault.Settles (lift (Code.intOfText base digits)) := lift_settles fun _ => int_settled
  have parts (parts : List (List Char)) := each_settles (whole 10) parts
  mvcgen [int, whole, parts]
  all_goals simp [valueFamilies, Stencil.Fault.family]

@[spec] theorem sixty_settles (power : Nat) (total : Decimal.Double)
    (digits : List Decimal.Double) : Fault.Settles (sixtyDouble power total digits) := by
  fun_induction sixtyDouble power total digits with
  | case1 => mvcgen
  | case2 => mvcgen; simp [valueFamilies, Stencil.Fault.family]
  | case3 _ _ _ _ _ inductionHypothesis => exact inductionHypothesis

@[spec] theorem double_settles (text : List Char) : Fault.Settles (double text) := by
  have whole (digits : List Char) : Fault.Settles (lift (Code.doubleOfText digits)) :=
    lift_settles fun _ => double_settled
  have parts (parts : List (List Char)) := each_settles whole parts
  mvcgen [double, whole, parts]

@[spec] theorem truth_settles (text : List Char) : Fault.Settles (truth text) := by
  mvcgen [truth]
  simp [valueFamilies, Stencil.Fault.family]

@[spec] theorem binary_settles (text : List Char) : Fault.Settles (binary text) := by
  mvcgen [binary]

/-- Reading a scalar of any type settles. -/
theorem reader_settles {kind : Kind} {read : List Char → Except Fault Atom}
    (reads : reader? kind = some read) (text : List Char) : Fault.Settles (read text) := by
  have stamp : Fault.Settles (lift (Timestamp.read text)) := lift_settles fun _ => timestamp_settled
  cases kind <;> cases reads <;> mvcgen [stamp]

end Scalar

/-! ## Contents -/

namespace Construction

/-- A step of making a content raises settled faults only. -/
abbrev Settles {α : Type} (step : Make α) : Prop := Yaml.Settles (fun _ => True) step

/-- Taking a step for each item settles if the step does. -/
theorem each_settles {α β : Type} {step : α → Make β} (settles : ∀ item, Settles (step item))
    (items : List α) : Settles (items.mapM step) := by
  induction items with
  | nil =>
    rw [List.mapM_nil]
    mvcgen
  | cons item rest inductionHypothesis =>
    rw [List.mapM_cons]
    mvcgen [settles, inductionHypothesis]

/-- Folding items settles if taking in each does. -/
theorem fold_settles {α β : Type} {step : β → α → Make β}
    (settles : ∀ before item, Settles (step before item)) (before : β) (items : List α) :
    Settles (items.foldlM step before) := by
  induction items generalizing before with
  | nil =>
    rw [List.foldlM_nil]
    mvcgen
  | cons item rest inductionHypothesis =>
    rw [List.foldlM_cons]
    exact Triple.bind _ _ (settles before item) inductionHypothesis

/-- Taking a step for each item in turn settles if the step does. -/
theorem loop_settles {α : Type} {step : α → Make Unit}
    (settles : ∀ item, Settles (step item)) (items : List α) : Settles (items.forM step) := by
  induction items with
  | nil =>
    change Settles (pure ())
    mvcgen
  | cons item rest inductionHypothesis =>
    change Settles (step item >>= fun _ => rest.forM step)
    exact Triple.bind _ _ (settles item) fun _ => inductionHypothesis

@[spec] theorem set_node_settles (id : Nat) (node : Node) : Settles (setNode id node) := by
  mvcgen [setNode]

@[spec] theorem add_settles (id : Nat) (datum : Datum) : Settles (add id datum) := by
  mvcgen [add]

@[spec] theorem text_settles (construction : Construction) (fuel id : Nat) :
    Fault.Settles (construction.scalarText fuel id) := by
  induction fuel generalizing id with
  | zero => mvcgen [scalarText]
  | succ fuel inductionHypothesis => mvcgen [scalarText, inductionHypothesis]

@[spec] theorem make_settles (id : Nat) : Settles (make id) := by
  mvcgen [make, Scalar.reader_settles]
  simp [valueFamilies, Stencil.Fault.family]

@[spec] theorem entries_settles (id : Nat) : Settles (entriesAt id) := by
  mvcgen [entriesAt]

@[spec] theorem set_entries_settles (id : Nat) (entries : List (Nat × Nat)) :
    Settles (setEntries id entries) := by
  mvcgen [setEntries]

@[spec] theorem key_settles (id : Nat) : Settles (settleKey id) := by
  unfold settleKey
  have found : Settles get := by mvcgen
  refine Triple.bind _ _ found ?_
  intro construction
  by_cases marked : construction.hasKind .value id
  · rw [if_pos marked]
    exact set_node_settles id _
  · rw [if_neg marked]
    mvcgen

@[spec] theorem merge_settles (id : Nat) : Settles (takeMerge? id) := by
  mvcgen [takeMerge?]

@[spec] theorem prepend_settles (id : Nat) (merged : List (Nat × Nat)) :
    Settles (prepend id merged) := by
  unfold prepend
  refine Triple.bind _ _ (entries_settles id) ?_
  intro own
  have keys : Settles (own.forM fun entry => settleKey entry.1) := by
    apply loop_settles
    intro entry
    exact key_settles entry.1
  refine Triple.bind _ _ keys ?_
  intro _
  exact set_entries_settles id _

@[spec] theorem merged_settles (fuel id : Nat) : Settles (takeMerged fuel id) := by
  induction fuel generalizing id with
  | zero => mvcgen [takeMerged]
  | succ fuel inductionHypothesis =>
    have flattened (id : Nat) : Settles (do
        let _ ← entriesAt id
        prepend id (← takeMerged fuel id)
        entriesAt id) := by
      mvcgen [inductionHypothesis]
    have each (items : List Nat) := each_settles flattened items
    mvcgen [takeMerged, inductionHypothesis, each]

@[spec] theorem flatten_settles (id : Nat) : Settles (flatten id) := by
  mvcgen [flatten]

@[spec] theorem dict_settles (id : Nat) : Settles (dictOf id) := by
  unfold dictOf
  refine Triple.bind _ _ (flatten_settles id) ?_
  intro _
  refine Triple.bind _ _ (entries_settles id) ?_
  intro nodes
  refine fold_settles ?_ _ nodes
  rintro entries ⟨keyNode, valueNode⟩
  mvcgen

@[spec] theorem singles_settles (collection : Collection) (node : Node) :
    Settles (singlesOf collection node) := by
  cases node with
  | sequence tag items =>
    refine each_settles ?_ items
    intro item
    mvcgen
  | scalar tag text => mvcgen [singlesOf]
  | mapping tag entries => mvcgen [singlesOf]

@[spec] theorem filled_settles (id : Nat) : Settles (filled id) := by
  have each (items : List Nat) := each_settles make_settles items
  have found : Settles get := by mvcgen
  unfold filled
  refine Triple.bind _ _ found ?_
  intro construction
  dsimp only
  split
  all_goals mvcgen [each]

@[spec] theorem fill_settles (fuel index : Nat) : Settles (fillFrom fuel index) := by
  induction fuel generalizing index with
  | zero => mvcgen [fillFrom]
  | succ fuel inductionHypothesis => mvcgen [fillFrom, inductionHypothesis]

end Construction

/-- Making a content settles. -/
theorem Content.of_document_settles (document : Document) :
    Fault.Settles (Content.ofDocument document) := by
  have made (root fuel : Nat) : Construction.Settles (do
      let made ← Construction.make root
      Construction.fillFrom fuel 0
      return made) := by
    mvcgen
  refine Triple.bind _ _ (run_settles (made _ _) trivial) ?_
  intro outcome
  mvcgen

/-- Reading a text raises faults of the text, and of values those of their families. -/
theorem Content.of_text_settled {text : List Char} {fault : Fault}
    (raised : Content.ofText text = .error fault) : fault.Settled := by
  have read := Document.of_text_settles text
  have made := Content.of_document_settles
  have settles : Fault.Settles (Content.ofText text) := by
    mvcgen [Content.ofText, read, made]
  exact settled_of_outcome settles raised

end Stencil.Yaml
