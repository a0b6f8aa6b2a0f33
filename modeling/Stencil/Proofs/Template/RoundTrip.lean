import Stencil.Proofs.Template.Acceptance
import Stencil.Proofs.Template.Account
import Stencil.Proofs.Template.Printing

/-!
# Printed forms are parsed back

Printing well-formed forms and parsing the text gives the same forms, up to the
places where they stand. In the other direction, whatever a text is parsed to is
sound: its names are names, its literals are literals, and its raw texts are
texts of a line. Only the condition that a raw text does not start with a lone
equals sign is lost, since blanks other than spaces and tabs hide the sign from
the look-ahead.

The text is read in two steps. Cutting a printed text gives tokens that derive
the printed forms (`spells_forms`); the tokens are taken to the same forms by
the reading machine. Backwards, the tokens that a machine has read derive the
forms that it gives, and every token is worded as its kind says.
-/

namespace Stencil.Template

/-- Printed statements hold tokens that derive the statements, all of them standing nowhere. The
induction follows the nesting of the forms, and every case puts the lines of one statement before
the lines of the others. -/
theorem spells_forms (forms : List Form) (sound : WellFormed forms) :
    ∃ tokens, Derives tokens (Form.bareAll forms) ∧ Spells (print forms).toList tokens := by
  induction forms using forms_induction with
  | nothing => exact ⟨[], .nothing, spells_nothing⟩
  | function name args body location rest inner behind =>
    obtain ⟨⟨named, argsNamed, soundBody⟩, soundRest⟩ := sound
    obtain ⟨held, derivedBody, spelledBody⟩ := inner soundBody
    obtain ⟨more, derivedRest, spelledRest⟩ := behind soundRest
    obtain ⟨head, headed, spelledHead⟩ := spells_function named argsNamed
    refine ⟨_, .function .nowhere .nowhere headed derivedBody derivedRest, ?_⟩
    have spelled := spells_append spelledHead
      (spells_append spelledBody (spells_append spells_closing spelledRest))
    simpa [print, Form.linesOf, Form.lines, bodyTokens] using spelled
  | conditional lhs rhs thenBody elseBody location rest inner elseInner behind =>
    obtain ⟨⟨named, valued, soundThen, soundElse⟩, soundRest⟩ := sound
    obtain ⟨thenTokens, derivedThen, spelledThen⟩ := inner soundThen
    obtain ⟨elseTokens, derivedElse, spelledElse⟩ := elseInner soundElse
    obtain ⟨more, derivedRest, spelledRest⟩ := behind soundRest
    obtain ⟨head, headed, spelledHead⟩ := spells_condition named valued
    cases elseBody with
    | nil =>
      refine ⟨_, .conditional .nowhere .nowhere headed derivedThen derivedRest, ?_⟩
      have spelled := spells_append spelledHead
        (spells_append spelledThen (spells_append spells_closing spelledRest))
      simpa [print, Form.linesOf, Form.lines, bodyTokens] using spelled
    | cons form others =>
      refine ⟨_, .alternative .nowhere .nowhere .nowhere .nowhere .nowhere .nowhere headed
        derivedThen derivedElse derivedRest, ?_⟩
      have spelled := spells_append spelledHead (spells_append spelledThen
        (spells_append spells_divider
          (spells_append spelledElse (spells_append spells_closing spelledRest))))
      simpa [print, Form.linesOf, Form.lines, bodyTokens] using spelled
  | result value location rest behind =>
    obtain ⟨more, derivedRest, spelledRest⟩ := behind sound.2
    obtain ⟨tokens, valued, spelledLine⟩ := spells_result sound.1
    refine ⟨_, .result .nowhere valued derivedRest, ?_⟩
    have spelled := spells_append spelledLine spelledRest
    simpa [print, Form.linesOf, Form.lines] using spelled
  | assign target value location rest behind =>
    obtain ⟨⟨named, soundValue⟩, soundRest⟩ := sound
    obtain ⟨more, derivedRest, spelledRest⟩ := behind soundRest
    obtain ⟨tokens, valued, spelledLine⟩ := spells_assign named soundValue
    refine ⟨_, .assign target .nowhere .nowhere named.2 valued derivedRest, ?_⟩
    have spelled := spells_append spelledLine spelledRest
    simpa [print, Form.linesOf, Form.lines] using spelled
  | raw text location rest behind =>
    obtain ⟨⟨line, guarded⟩, soundRest⟩ := sound
    obtain ⟨more, derivedRest, spelledRest⟩ := behind soundRest
    refine ⟨_, .raw text .nowhere line.1 derivedRest, ?_⟩
    have spelled := spells_append (spells_raw line guarded) spelledRest
    simpa [print, Form.linesOf, Form.lines] using spelled
  | splice name many location rest behind =>
    obtain ⟨named, soundRest⟩ := sound
    obtain ⟨more, derivedRest, spelledRest⟩ := behind soundRest
    have spelled := spells_append (spells_splice named many) spelledRest
    cases many with
    | false =>
      refine ⟨_, .splice name .nowhere .nowhere .nowhere .nowhere named.2 derivedRest, ?_⟩
      simpa [print, Form.linesOf, Form.lines] using spelled
    | true =>
      refine ⟨_, .sequence name .nowhere .nowhere .nowhere .nowhere .nowhere named.2
        derivedRest, ?_⟩
      simpa [print, Form.linesOf, Form.lines] using spelled

/-- A value that stands nowhere stays where it is. -/
@[simp] theorem bare_bare (value : Operand) : value.bare.bare = value.bare := by
  cases value <;> rfl

/-- Statements that stand nowhere stay where they are. -/
theorem bare_all_bare (forms : List Form) :
    Form.bareAll (Form.bareAll forms) = Form.bareAll forms := by
  induction forms using forms_induction with
  | nothing => rfl
  | function name args body location rest inner behind =>
    simp [Form.bareAll, Form.bare, inner, behind]
  | conditional lhs rhs thenBody elseBody location rest inner elseInner behind =>
    simp [Form.bareAll, Form.bare, inner, elseInner, behind]
  | result value location rest behind => simp [Form.bareAll, Form.bare, behind]
  | assign target value location rest behind => simp [Form.bareAll, Form.bare, behind]
  | raw text location rest behind => simp [Form.bareAll, Form.bare, behind]
  | splice name many location rest behind => simp [Form.bareAll, Form.bare, behind]

/-- The tokens cut from a printed text derive the printed forms at the places of the tokens. -/
theorem parse_printed (forms : List Form) (source : String) (sound : WellFormed forms) :
    ∃ parsed, parse (print forms) source = .ok parsed ∧
      Form.bareAll parsed = Form.bareAll forms := by
  obtain ⟨spelled, derived, spells⟩ := spells_forms forms sound
  have lexes : Lexes none (print forms).toList spelled := by
    simpa using spells none [] [] rfl (fun last _ => lexes_end last)
  obtain ⟨tokens, cut, same⟩ := lexes (.start source) none rfl
  have alike : Alike tokens.items spelled := by
    rw [Alike, ← same, List.map_map]
    rfl
  obtain ⟨parsed, read, bare⟩ := derives_relocated derived alike
  refine ⟨parsed, ?_, bare.trans (bare_all_bare forms)⟩
  have cutText : tokenize (print forms) source = .ok tokens := cut
  rw [parse, cutText]
  exact parse_of_derives read

/-! ## Forms that a text is parsed to -/

/-- The tokens are worded as their kinds say. -/
def AllWorded (tokens : List Token) : Prop :=
  ∀ token ∈ tokens, Worded token.kind token.text.toList

/-- Tokens are worded if their parts are. -/
@[simp] theorem all_worded_append (tokens more : List Token) :
    AllWorded (tokens ++ more) ↔ AllWorded tokens ∧ AllWorded more := by
  simp [AllWorded, or_imp, forall_and]

/-- Tokens are worded one by one. -/
@[simp] theorem all_worded_cons (token : Token) (more : List Token) :
    AllWorded (token :: more) ↔ Worded token.kind token.text.toList ∧ AllWorded more := by
  simp [AllWorded]

/-- The name of a point is a name. -/
theorem name_of_point {name : String} {marker opening place closing : Location}
    (worded : AllWorded (pointTokens name marker opening place closing)) (named : name ∉ keywords) :
    IsName name := by
  simp only [pointTokens, all_worded_cons] at worded
  exact ⟨worded.2.2.1, named⟩

/-- Worded tokens of a value say a sound value. -/
theorem operand_sound {tokens : List Token} {value : Operand} (valued : OperandTokens tokens value)
    (worded : AllWorded tokens) : value.Sound := by
  cases valued with
  | string text location => exact .inl ((all_worded_cons _ _).mp worded).1
  | number text location => exact .inr (.inl ((all_worded_cons _ _).mp worded).1)
  | constant text location known => exact .inr (.inr known)
  | reference text location named other =>
    exact ⟨⟨((all_worded_cons _ _).mp worded).1, named⟩, other⟩
  | point name marker opening place closing named => exact name_of_point worded named

/-- Worded tokens of parameters say names. -/
theorem parameters_sound {tokens : List Token} {names : List String}
    (listed : Parameters tokens names) (worded : AllWorded tokens) :
    ∀ name ∈ names, IsName name := by
  induction listed with
  | nothing => simp
  | last name place named =>
    intro other member
    obtain rfl := List.mem_singleton.mp member
    exact ⟨((all_worded_cons _ _).mp worded).1, named⟩
  | more name place comma tokens names named _ inductionHypothesis =>
    simp only [all_worded_cons] at worded
    intro other member
    rcases List.mem_cons.mp member with rfl | member
    · exact ⟨worded.1, named⟩
    · exact inductionHypothesis worded.2.2 other member

/-- Worded tokens say sound statements. The induction is on the derivation. -/
theorem derives_sound {tokens : List Token} {forms : List Form} (derived : Derives tokens forms)
    (worded : AllWorded tokens) : Form.SoundAll IsLine forms := by
  induction derived with
  | nothing => exact trivial
  | function opening closing headed _ _ inner behind =>
    obtain ⟨place, _, parameters, _, _, named, listed, rfl⟩ := headed
    simp only [bodyTokens, all_worded_append, all_worded_cons] at worded
    obtain ⟨⟨⟨_, name, _, args, _⟩, _, body, _⟩, rest⟩ := worded
    exact ⟨⟨⟨name, named⟩, parameters_sound listed args, inner body⟩, behind rest⟩
  | conditional opening closing headed _ _ inner behind =>
    obtain ⟨place, _, value, _, named, valued, rfl⟩ := headed
    simp only [bodyTokens, all_worded_append, all_worded_cons] at worded
    obtain ⟨⟨⟨_, lhs, _, rhs, _⟩, _, body, _⟩, rest⟩ := worded
    exact ⟨⟨⟨lhs, named⟩, operand_sound valued rhs, inner body, trivial⟩, behind rest⟩
  | alternative opening closing divider colon opening' closing' headed _ _ _ inner elseInner
      behind =>
    obtain ⟨place, _, value, _, named, valued, rfl⟩ := headed
    simp only [bodyTokens, all_worded_append, all_worded_cons] at worded
    obtain ⟨⟨⟨⟨_, lhs, _, rhs, _⟩, _, body, _⟩, _, _, _, otherwise, _⟩, rest⟩ := worded
    exact ⟨⟨⟨lhs, named⟩, operand_sound valued rhs, inner body, elseInner otherwise⟩, behind rest⟩
  | result location valued _ behind =>
    simp only [all_worded_append, all_worded_cons] at worded
    obtain ⟨⟨_, value⟩, rest⟩ := worded
    exact ⟨operand_sound valued value, behind rest⟩
  | assign target location sign named valued _ behind =>
    simp only [all_worded_append, all_worded_cons] at worded
    obtain ⟨⟨name, _, value⟩, rest⟩ := worded
    exact ⟨⟨⟨name, named⟩, operand_sound valued value⟩, behind rest⟩
  | raw text location nonempty _ behind =>
    rw [all_worded_cons] at worded
    exact ⟨⟨nonempty, worded.1⟩, behind worded.2⟩
  | splice name marker opening place closing named _ behind =>
    rw [all_worded_append] at worded
    exact ⟨name_of_point worded.1 named, behind worded.2⟩
  | sequence name marker opening place closing star named _ behind =>
    rw [all_worded_append, all_worded_cons] at worded
    exact ⟨name_of_point worded.1 named, behind worded.2.2⟩

/-- Printing and parsing agree, and parsing gives nothing that could not be said. Every list of
well-formed forms is printed to a text that is parsed to the same forms up to their places, and
every form that any text is parsed to has names, literals and raw texts that read as such.

Proof: a printed text is cut into tokens that derive the printed forms, and the reader decides
derivation (`parse_printed`). In the other direction what a text is parsed to is derived from its
tokens. A derivation takes names, literals and raw texts over from tokens, so they are sound because
every token of a text is worded as its kind says. -/
theorem print_parse_round_trip :
    (∀ (forms : List Form) (source : String), WellFormed forms →
      ∃ parsed, parse (print forms) source = .ok parsed ∧
        Form.bareAll parsed = Form.bareAll forms) ∧
    (∀ (text source : String) (parsed : List Form), parse text source = .ok parsed →
      Form.SoundAll IsLine parsed) := by
  refine ⟨parse_printed, ?_⟩
  intro text source parsed read
  obtain ⟨tokens, cut, taken⟩ := bind_ok read
  exact derives_sound (derives_of_parse taken) (tokenize_worded cut)

/-- A function called `raw` with every kind of statement in it, and `raw` wherever a name can be. -/
def rawEverywhere : List Form :=
  [.function "raw" ["raw", "x"]
    [.conditional "raw" (.reference "raw" .nowhere)
      [.raw "== raw" .nowhere, .splice "raw" true .nowhere]
      [.assign "raw" (.literal "-1" .nowhere) .nowhere] .nowhere,
      .result (.point "raw" .nowhere) .nowhere] .nowhere]

/-- The look-ahead and the grammar agree on each `raw` of the printed function. In the text behind
it a carriage return hides an equals sign. -/
theorem raw_everywhere_round_trip :
    WellFormed rawEverywhere ∧
      (∃ parsed, parse (print rawEverywhere) "t" = .ok parsed ∧
        Form.bareAll parsed = Form.bareAll rawEverywhere) ∧
      parse "raw\r= x" "t" = .ok [.raw "= x" (.start "t")] ∧
      Form.SoundAll IsLine [.raw "= x" (.start "t")] := by
  have raw : IsName "raw" := ⟨⟨'r', ['a', 'w'], rfl, rfl, List.all_eq_true.mp rfl⟩, by decide⟩
  have x : IsName "x" := ⟨⟨'x', [], rfl, rfl, List.all_eq_true.mp rfl⟩, by decide⟩
  have number : IsLiteral "-1" := .inr (.inl ⟨['-'], ['1'], [], .inr rfl,
    ⟨by decide, List.all_eq_true.mp rfl⟩, .inl rfl, by decide⟩)
  have line : IsLine "== raw" := by
    refine ⟨by decide, by decide, ?_, ?_⟩
    · intro c first
      have same : some '=' = some c := first
      cases same
      decide
    · intro c last
      have same : some 'w' = some c := last
      cases same
      decide
  have doubled : ¬LoneSign ['=', '=', ' ', 'r', 'a', 'w'] := by
    rintro ⟨rest, text, lone⟩
    cases text
    exact lone rfl
  have wellFormed : WellFormed rawEverywhere := by
    simp [WellFormed, rawEverywhere, Form.SoundAll, Form.Sound, Operand.Sound, raw, x, number, line,
      doubled, literalNames]
  have cut : (tokenize "raw\r= x" "t").toOption =
      some ⟨[⟨.raw, "= x", .start "t"⟩], ⟨"t", 1, 8⟩⟩ := by decide +kernel
  have read : parse "raw\r= x" "t" = .ok [.raw "= x" (.start "t")] := parse_of_tokens cut rfl
  exact ⟨wellFormed, print_parse_round_trip.1 rawEverywhere "t" wellFormed, read,
    print_parse_round_trip.2 "raw\r= x" "t" _ read⟩

end Stencil.Template
