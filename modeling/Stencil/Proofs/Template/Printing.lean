import Stencil.Proofs.Template.Relocation

/-!
# Printing forms

A template is written with one statement on a line, single spaces, and an
`else` only where there is something behind it. A form is *sound* if its names
can be read as names, its literals as literals, and if its raw texts have a
given property; well-formed forms have raw texts that survive their line and do
not look like an assignment to `raw`.

The text of a line is cut into the tokens of the line (`Spells`), whatever text
stands before and behind it, so long as no name is expected where it starts.
Then none is expected where it ends either, and lines can be put one under the
other.
-/

namespace Stencil.Template

/-- A word that can be used as a name. -/
def IsName (text : String) : Prop := NameText text.toList ∧ text ∉ keywords

/-- The text of a literal: a quoted string, a number, or a name that stands for a value. -/
def IsLiteral (text : String) : Prop :=
  StringText text.toList ∨ NumberText text.toList ∨ text ∈ literalNames

/-- A value whose text reads as what it is. -/
def Operand.Sound : Operand → Prop
  | .literal text _ => IsLiteral text
  | .reference name _ => IsName name ∧ name ∉ literalNames
  | .point name _ => IsName name

mutual

/-- A statement whose words read as what they are, and whose raw texts have the given property. -/
def Form.Sound (line : String → Prop) : Form → Prop
  | .function name args body _ => IsName name ∧ (∀ arg ∈ args, IsName arg) ∧ SoundAll line body
  | .conditional lhs rhs thenBody elseBody _ =>
    IsName lhs ∧ rhs.Sound ∧ SoundAll line thenBody ∧ SoundAll line elseBody
  | .result value _ => value.Sound
  | .assign target value _ => IsName target ∧ value.Sound
  | .raw text _ => line text
  | .splice name _ _ => IsName name

/-- Statements that are sound one by one. -/
def Form.SoundAll (line : String → Prop) : List Form → Prop
  | [] => True
  | form :: rest => form.Sound line ∧ SoundAll line rest

end

/-- A raw text that a line can carry. -/
def IsLine (text : String) : Prop := text ≠ "" ∧ RawText text.toList

/-- A text starts with one equals sign and not with two. -/
def LoneSign (text : List Char) : Prop := ∃ rest, text = '=' :: rest ∧ rest.head? ≠ some '='

/-- Forms that can be printed: no raw text reads like an assignment to `raw`. This is all that is
asked of forms to be printed; they may be as deep as one likes. -/
def WellFormed (forms : List Form) : Prop :=
  Form.SoundAll (fun text => IsLine text ∧ ¬LoneSign text.toList) forms

/-- A value as it is written. -/
def Operand.written : Operand → String
  | .literal text _ => text
  | .reference name _ => name
  | .point name _ => "$(" ++ name ++ ")"

mutual

/-- The lines of a statement. -/
def Form.lines : Form → List String
  | .function name args body _ =>
    ("def " ++ name ++ "(" ++ ", ".intercalate args ++ "): \x7b") :: linesOf body ++ ["\x7d"]
  | .conditional lhs rhs thenBody elseBody _ =>
    ("if " ++ lhs ++ " == " ++ rhs.written ++ ": \x7b") :: linesOf thenBody ++
      (if elseBody.isEmpty then [] else "\x7d else: \x7b" :: linesOf elseBody) ++ ["\x7d"]
  | .result value _ => ["return " ++ value.written]
  | .assign target value _ => [target ++ " = " ++ value.written]
  | .raw text _ => ["raw " ++ text]
  | .splice name many _ => ["$(" ++ name ++ ")" ++ if many then "*" else ""]

/-- The lines of statements, one under the other. -/
def Form.linesOf : List Form → List String
  | [] => []
  | form :: rest => form.lines ++ linesOf rest

end

/-- Lines as one text. -/
def joinLines (lines : List String) : String := String.join (lines.map (· ++ "\n"))

/-- Forms as the text of a template. -/
def print (forms : List Form) : String := joinLines (Form.linesOf forms)

/-! ## Pieces of a line -/

/-- A name is expected behind the token. -/
abbrev Expectant (previous : Option Token) : Prop := previous.any Token.expectsName = true

/-- No name is expected behind the token. -/
abbrev Ready (previous : Option Token) : Prop := previous.any Token.expectsName = false

/-- Nothing that could go on with a value. -/
def valueRest (c : Char) : Bool := isNameRest c || Text.isDigit c || c == '.'

/-- What stops a value stops a name. -/
theorem stops_name {rest : List Char} (stops : Stops valueRest rest) : Stops isNameRest rest := by
  intro c first
  have outside := stops c first
  simp only [valueRest, Bool.or_eq_false_iff] at outside
  exact outside.1.1

/-- What stops a value stops a number. -/
theorem stops_number {rest : List Char} (stops : Stops valueRest rest) :
    Stops (fun c => Text.isDigit c || c == '.') rest := by
  intro c first
  have outside := stops c first
  simp only [valueRest, Bool.or_eq_false_iff] at outside
  exact Bool.or_eq_false_iff.mpr ⟨outside.1.2, outside.2⟩

/-- A name does not go on with a space before it. -/
theorem name_stops_gap {name : List Char} (named : NameText name) (rest : List Char) :
    Stops isGap (name ++ rest) := by
  obtain ⟨first, tail, rfl, start, -⟩ := named
  have far := name_start_bounds start
  exact (stops_cons _ _ _).mpr (not_blank_of_bounds (c := first) (by omega)).2.1

/-- A line's end holds no token. -/
theorem lexes_line_end {previous : Option Token} {rest : List Char} {spelled : List Token}
    (behind : Lexes previous rest spelled) : Lexes previous ('\n' :: rest) spelled := by
  have read : piece? ('\n' :: rest) = some ⟨.lineEnd, ['\n'], rest⟩ := rfl
  exact lexes_skip read (.inl rfl) behind

/-- A space holds no token. -/
theorem lexes_space {previous : Option Token} {rest : List Char} {spelled : List Token}
    (stops : Stops isGap rest) (behind : Lexes previous rest spelled) :
    Lexes previous (' ' :: rest) spelled := by
  obtain ⟨taken, left⟩ := run_of_stops [] rest (by simp) stops
  have read : piece? (' ' :: rest) = some ⟨.gap, [' '], rest⟩ := by
    simp only [List.nil_append] at taken left
    simp [piece?, isGap, taken, left]
  exact lexes_skip read (.inr rfl) behind

/-- An operator of one character, other than the equals sign, holds one token. -/
theorem lexes_operator (previous : Option Token) (c : Char) {rest : List Char}
    {spelled : List Token} (operator : isOperator c = true) (other : c ≠ '=')
    (behind : Lexes (some (mark (String.ofList [c]) .nowhere)) rest spelled) :
    Lexes previous (c :: rest) (mark (String.ofList [c]) .nowhere :: spelled) := by
  have read := piece_operator c rest operator (fun same => absurd same other)
  exact lexes_token previous read (by simp) behind

/-- A name holds one token. The word `raw` is a name where one is expected and where it is assigned
to. -/
theorem lexes_name (previous : Option Token) {name : String} {rest : List Char}
    {spelled : List Token} (named : NameText name.toList) (stops : Stops isNameRest rest)
    (ordinary : name = "raw" → Expectant previous ∨ assigns rest = true)
    (behind : Lexes (some (word name .nowhere)) rest spelled) :
    Lexes previous (name.toList ++ rest) (word name .nowhere :: spelled) := by
  obtain ⟨chars, rfl⟩ : ∃ chars, name = String.ofList chars :=
    ⟨name.toList, String.ofList_toList.symm⟩
  rw [String.toList_ofList] at named ⊢
  refine lexes_token previous (piece_name chars rest named stops) ?_ behind
  rintro ⟨-, isRaw, opens⟩
  rw [opens_raw_eq, Bool.and_eq_true] at opens
  rcases ordinary isRaw with expected | assigned
  · simp [expected] at opens
  · simp [assigned] at opens

/-- A keyword holds one token. -/
theorem lexes_keyword (previous : Option Token) (name : String) {rest : List Char}
    {spelled : List Token} (keyword : name ∈ keywords) (stops : Stops isNameRest rest)
    (behind : Lexes (some (word name .nowhere)) rest spelled) :
    Lexes previous (name.toList ++ rest) (word name .nowhere :: spelled) := by
  have named : NameText name.toList := by
    simp only [keywords, List.mem_cons, List.not_mem_nil, or_false] at keyword
    rcases keyword with rfl | rfl | rfl | rfl
    · exact ⟨'d', ['e', 'f'], rfl, rfl, List.all_eq_true.mp rfl⟩
    · exact ⟨'i', ['f'], rfl, rfl, List.all_eq_true.mp rfl⟩
    · exact ⟨'e', ['l', 's', 'e'], rfl, rfl, List.all_eq_true.mp rfl⟩
    · exact ⟨'r', ['e', 't', 'u', 'r', 'n'], rfl, rfl, List.all_eq_true.mp rfl⟩
  refine lexes_name previous named stops ?_ behind
  rintro rfl
  exact absurd keyword (by decide)

/-- A literal that is no name holds one token. -/
theorem lexes_literal {kind : TokenKind} {text : String} {previous : Option Token}
    {rest : List Char} {spelled : List Token} (other : kind ≠ .name)
    (read : piece? (text.toList ++ rest) = some ⟨.token kind, text.toList, rest⟩)
    (behind : Lexes (some ⟨kind, text, .nowhere⟩) rest spelled) :
    Lexes previous (text.toList ++ rest) (⟨kind, text, .nowhere⟩ :: spelled) := by
  have same : String.ofList text.toList = text := String.ofList_toList
  rw [← same] at behind
  have cut := lexes_token previous read (by simp [other]) behind
  rw [same] at cut
  exact cut

/-- No name is expected behind a name that is no keyword. -/
theorem ready_name {name : String} (named : name ∉ keywords) :
    Ready (some (word name .nowhere)) := by
  have other : name ∉ nameWords := by
    intro member
    apply named
    simp only [nameWords, List.mem_cons, List.not_mem_nil, or_false] at member
    rcases member with rfl | rfl | rfl <;> decide
  simp [Ready, Token.expectsName, other]

/-! ## Values and parameters -/

/-- The tokens of a point that stands nowhere. -/
abbrev barePoint (name : String) : List Token :=
  pointTokens name .nowhere .nowhere .nowhere .nowhere

/-- A point holds its four tokens. -/
theorem lexes_point {name : String} (named : IsName name) {previous : Option Token}
    {rest : List Char} {spelled : List Token}
    (behind : ∀ last, Ready last → Lexes last rest spelled) :
    Lexes previous ('$' :: '(' :: (name.toList ++ ')' :: rest)) (barePoint name ++ spelled) := by
  refine lexes_operator _ '$' (by decide) (by decide) ?_
  refine lexes_operator _ '(' (by decide) (by decide) ?_
  refine lexes_name _ named.1 (by simp; decide) (fun _ => .inl (by decide)) ?_
  exact lexes_operator _ ')' (by decide) (by decide) (behind _ (by decide))

/-- A sound value holds the tokens of the value, if nothing goes on with its text. The cases are
those of the value; what is behind it must not go on with a name, a number or a point. -/
theorem lexes_operand {value : Operand} (sound : value.Sound) :
    ∃ tokens, OperandTokens tokens value.bare ∧
      ∀ previous rest spelled, Expectant previous → Stops valueRest rest →
        (∀ last, Ready last → Lexes last rest spelled) →
        Lexes previous (value.written.toList ++ rest) (tokens ++ spelled) := by
  cases value with
  | literal text place =>
    rcases sound with isString | isNumber | known
    · refine ⟨_, .string text .nowhere, ?_⟩
      intro previous rest spelled _ _ behind
      have read := piece_string text.toList rest isString
      exact lexes_literal (by decide) read (behind _ rfl)
    · refine ⟨_, .number text .nowhere, ?_⟩
      intro previous rest spelled _ stops behind
      have read := piece_number text.toList rest isNumber (stops_number stops)
      exact lexes_literal (by decide) read (behind _ rfl)
    · refine ⟨_, .constant text .nowhere known, ?_⟩
      intro previous rest spelled expectant stops behind
      have named : NameText text.toList ∧ text ∉ keywords := by
        simp only [literalNames, List.mem_cons, List.not_mem_nil, or_false] at known
        rcases known with rfl | rfl | rfl
        · exact ⟨⟨'T', ['r', 'u', 'e'], rfl, rfl, List.all_eq_true.mp rfl⟩, by decide⟩
        · exact ⟨⟨'F', ['a', 'l', 's', 'e'], rfl, rfl, List.all_eq_true.mp rfl⟩, by decide⟩
        · exact ⟨⟨'N', ['o', 'n', 'e'], rfl, rfl, List.all_eq_true.mp rfl⟩, by decide⟩
      exact lexes_name _ named.1 (stops_name stops) (fun _ => .inl expectant)
        (behind _ (ready_name named.2))
  | reference name place =>
    obtain ⟨⟨named, other⟩, unknown⟩ := sound
    refine ⟨_, .reference name .nowhere other unknown, ?_⟩
    intro previous rest spelled expectant stops behind
    exact lexes_name _ named (stops_name stops) (fun _ => .inl expectant)
      (behind _ (ready_name other))
  | point name place =>
    refine ⟨_, .point name .nowhere .nowhere .nowhere .nowhere sound.2, ?_⟩
    intro previous rest spelled _ _ behind
    simpa [Operand.written] using lexes_point sound behind

/-- Sound parameters hold the tokens of a parameter list. The induction is on the parameters; each
stands behind the parenthesis or behind a comma, where a name is expected. -/
theorem lexes_parameters (args : List String) (sound : ∀ arg ∈ args, IsName arg) :
    ∃ tokens, Parameters tokens args ∧
      ∀ previous rest spelled, Expectant previous →
        (∀ last, Lexes last (')' :: rest) spelled) →
        Lexes previous ((", ".intercalate args).toList ++ ')' :: rest) (tokens ++ spelled) := by
  induction args with
  | nil => exact ⟨[], .nothing, fun previous rest spelled _ behind => behind previous⟩
  | cons name others inductionHypothesis =>
    have named : IsName name := sound name List.mem_cons_self
    obtain ⟨tokens, listed, cut⟩ :=
      inductionHypothesis fun arg member => sound arg (List.mem_cons_of_mem name member)
    cases others with
    | nil =>
      refine ⟨_, .last name .nowhere named.2, ?_⟩
      intro previous rest spelled expectant behind
      have cutLast : Lexes previous (name.toList ++ ')' :: rest) (word name .nowhere :: spelled) :=
        lexes_name _ named.1 (by simp; decide) (fun _ => .inl expectant) (behind _)
      simpa [String.toList_intercalate] using cutLast
    | cons next others =>
      refine ⟨_, .more name .nowhere .nowhere tokens (next :: others) named.2 listed, ?_⟩
      intro previous rest spelled expectant behind
      have nextNamed : IsName next := sound next (by simp)
      have spaced : Stops isGap ((", ".intercalate (next :: others)).toList ++ ')' :: rest) := by
        have starts := name_stops_gap nextNamed.1
        cases others <;> simpa [String.toList_intercalate] using starts _
      have cutComma := lexes_operator (some (word name .nowhere)) ',' (by decide)
        (by decide) (lexes_space spaced (cut _ rest spelled (by decide) behind))
      have cutName := lexes_name previous named.1 (by simp; decide)
        (fun _ => .inl expectant) cutComma
      simpa [String.toList_intercalate] using cutName

/-- A sound value does not go on with a space before it. -/
theorem operand_stops_gap {value : Operand} (sound : value.Sound) (rest : List Char) :
    Stops isGap (value.written.toList ++ rest) := by
  cases value with
  | literal text place =>
    rcases sound with ⟨quote, body, isQuote, -, text⟩ |
      ⟨sign, whole, _, signed, digits, -, text⟩ | known
    · rw [Operand.written, text, List.cons_append, stops_cons]
      rcases isQuote with rfl | rfl <;> decide
    · rw [Operand.written, text]
      obtain ⟨first, others, rfl⟩ := List.exists_cons_of_ne_nil digits.1
      have digit := digit_bounds (digits.2 first List.mem_cons_self)
      have far : isGap first = false := (not_blank_of_bounds (c := first) (by omega)).2.1
      rcases signed with rfl | rfl
      · simpa using far
      · exact (stops_cons _ _ _).mpr (by decide)
    · simp only [literalNames, List.mem_cons, List.not_mem_nil, or_false] at known
      rcases known with rfl | rfl | rfl <;> simp [Operand.written, isGap]
  | reference name place => exact name_stops_gap sound.1.1 rest
  | point name place => simp [Operand.written, isGap]

/-! ## Lines -/

/-- A text holds tokens: whatever stands before and behind it, they are cut from it, if no name is
expected where it starts; and none is where it ends. -/
def Spells (text : List Char) (tokens : List Token) : Prop :=
  ∀ previous rest spelled, Ready previous → (∀ last, Ready last → Lexes last rest spelled) →
    Lexes previous (text ++ rest) (tokens ++ spelled)

/-- No text holds no token. -/
theorem spells_nothing : Spells [] [] := fun previous _ _ ready behind => behind previous ready

/-- One text behind another holds its tokens behind the other's. -/
theorem spells_append {first second : List Char} {tokens others : List Token}
    (before : Spells first tokens) (behind : Spells second others) :
    Spells (first ++ second) (tokens ++ others) := by
  intro previous rest spelled ready goesOn
  rw [List.append_assoc, List.append_assoc]
  refine before previous (second ++ rest) (others ++ spelled) ready ?_
  intro last lastReady
  exact behind last rest spelled lastReady goesOn

/-- No line has no text. -/
@[simp] theorem join_nil : (joinLines []).toList = [] := rfl

/-- The text of lines is the text of the first above the text of the others. -/
@[simp] theorem join_cons (line : String) (lines : List String) :
    (joinLines (line :: lines)).toList = line.toList ++ '\n' :: (joinLines lines).toList := by
  simp [joinLines, String.toList_join]

/-- Texts of lines stand one under the other. -/
@[simp] theorem join_append (lines others : List String) :
    (joinLines (lines ++ others)).toList =
      (joinLines lines).toList ++ (joinLines others).toList := by
  simp [joinLines, String.toList_join]

/-- A line holds its tokens if they are cut from its text with the line's end behind it. -/
theorem spells_line {line : String} {tokens : List Token}
    (cut : ∀ previous rest spelled, Ready previous →
      (∀ last, Ready last → Lexes last ('\n' :: rest) spelled) →
      Lexes previous (line.toList ++ '\n' :: rest) (tokens ++ spelled)) :
    Spells (joinLines [line]).toList tokens := by
  intro previous rest spelled ready behind
  have ended (last : Option Token) (lastReady : Ready last) : Lexes last ('\n' :: rest) spelled :=
    lexes_line_end (behind last lastReady)
  simpa [joinLines, String.join_cons] using cut previous rest spelled ready ended

/-- The brace that opens a body, behind a colon. -/
theorem lexes_opening {previous : Option Token} {rest : List Char} {spelled : List Token}
    (behind : ∀ last, Ready last → Lexes last rest spelled) :
    Lexes previous (':' :: ' ' :: '\x7b' :: rest)
      (mark ":" .nowhere :: mark "\x7b" .nowhere :: spelled) := by
  refine lexes_operator _ ':' (by decide) (by decide) ?_
  refine lexes_space (by simp; decide) ?_
  exact lexes_operator _ '\x7b' (by decide) (by decide) (behind _ (by decide))

/-- The first line of a function holds its head and the brace that opens its body. -/
theorem spells_function {name : String} {args : List String} (named : IsName name)
    (sound : ∀ arg ∈ args, IsName arg) :
    ∃ head, FunctionHead head .nowhere name args ∧
      Spells (joinLines ["def " ++ name ++ "(" ++ ", ".intercalate args ++ "): \x7b"]).toList
        (head ++ [mark "\x7b" .nowhere]) := by
  obtain ⟨parameters, listed, cutParameters⟩ := lexes_parameters args sound
  refine ⟨_, ⟨.nowhere, .nowhere, parameters, .nowhere, .nowhere, named.2, listed, rfl⟩, ?_⟩
  apply spells_line
  intro previous rest spelled _ behind
  have cutClosing (last : Option Token) : Lexes last (')' :: ':' :: ' ' :: '\x7b' :: '\n' :: rest)
      (mark ")" .nowhere :: mark ":" .nowhere :: mark "\x7b" .nowhere :: spelled) :=
    lexes_operator _ ')' (by decide) (by decide) (lexes_opening behind)
  have cutOpening := lexes_operator (some (word name .nowhere)) '(' (by decide)
    (by decide) (cutParameters _ _ _ (by decide) cutClosing)
  have cutName := lexes_name (some (word "def" .nowhere)) named.1 (by simp; decide)
    (fun _ => .inl (by decide)) cutOpening
  have cutWord := lexes_keyword previous "def" (by decide)
    (by simp; decide) (lexes_space (name_stops_gap named.1 _) cutName)
  simpa using cutWord

/-- The first line of a conditional holds its head and the brace that opens its body. -/
theorem spells_condition {lhs : String} {rhs : Operand} (named : IsName lhs) (sound : rhs.Sound) :
    ∃ head, ConditionHead head .nowhere lhs rhs.bare ∧
      Spells (joinLines ["if " ++ lhs ++ " == " ++ rhs.written ++ ": \x7b"]).toList
        (head ++ [mark "\x7b" .nowhere]) := by
  obtain ⟨value, valued, cutValue⟩ := lexes_operand sound
  refine ⟨_, ⟨.nowhere, .nowhere, value, .nowhere, named.2, valued, rfl⟩, ?_⟩
  apply spells_line
  intro previous rest spelled _ behind
  have cutRight := cutValue (some (mark "==" .nowhere)) (':' :: ' ' :: '\x7b' :: '\n' :: rest) _
    (by decide) (by simp; decide) (fun _ _ => lexes_opening behind)
  have cutComparison := lexes_token (some (word lhs .nowhere))
    (piece_comparison _) (by simp) (lexes_space (operand_stops_gap sound _) cutRight)
  have cutLeft := lexes_name (some (word "if" .nowhere)) named.1 (by simp; decide)
    (fun _ => .inl (by decide)) (lexes_space (by simp; decide) cutComparison)
  have cutWord := lexes_keyword previous "if" (by decide)
    (by simp; decide) (lexes_space (name_stops_gap named.1 _) cutLeft)
  simpa using cutWord

/-- The line that closes a body holds its brace. -/
theorem spells_closing : Spells (joinLines ["\x7d"]).toList [mark "\x7d" .nowhere] := by
  apply spells_line
  intro previous rest spelled _ behind
  exact lexes_operator _ '\x7d' (by decide) (by decide) (behind _ (by decide))

/-- The line between two bodies holds the brace that closes one, the word and the brace that opens
the other. -/
theorem spells_divider :
    Spells (joinLines ["\x7d else: \x7b"]).toList
      [mark "\x7d" .nowhere, word "else" .nowhere, mark ":" .nowhere, mark "\x7b" .nowhere] := by
  apply spells_line
  intro previous rest spelled _ behind
  have cutWord := lexes_keyword (some (mark "\x7d" .nowhere)) "else"
    (by decide) (by simp; decide) (lexes_opening behind)
  exact lexes_operator _ '\x7d' (by decide) (by decide) (lexes_space (by simp; decide) cutWord)

/-- The line of a result holds the word and the value. -/
theorem spells_result {value : Operand} (sound : value.Sound) :
    ∃ tokens, OperandTokens tokens value.bare ∧
      Spells (joinLines ["return " ++ value.written]).toList
        (word "return" .nowhere :: tokens) := by
  obtain ⟨tokens, valued, cutValue⟩ := lexes_operand sound
  refine ⟨tokens, valued, ?_⟩
  apply spells_line
  intro previous rest spelled _ behind
  have cut := cutValue (some (word "return" .nowhere)) ('\n' :: rest) spelled (by decide)
    (by simp; decide) behind
  have cutWord := lexes_keyword previous "return" (by decide)
    (by simp; decide) (lexes_space (operand_stops_gap sound _) cut)
  simpa using cutWord

/-- The line of an assignment holds the name, the sign and the value. If the name is `raw`, the sign
behind it tells it from a raw line. -/
theorem spells_assign {target : String} {value : Operand} (named : IsName target)
    (sound : value.Sound) :
    ∃ tokens, OperandTokens tokens value.bare ∧
      Spells (joinLines [target ++ " = " ++ value.written]).toList
        (word target .nowhere :: mark "=" .nowhere :: tokens) := by
  obtain ⟨tokens, valued, cutValue⟩ := lexes_operand sound
  refine ⟨tokens, valued, ?_⟩
  apply spells_line
  intro previous rest spelled _ behind
  have cut := cutValue (some (mark "=" .nowhere)) ('\n' :: rest) spelled (by decide)
    (by simp; decide) behind
  have cutSign := lexes_token (some (word target .nowhere))
    (piece_operator '=' _ (by decide) (fun _ => by simp)) (by simp)
    (lexes_space (operand_stops_gap sound _) cut)
  have cutName := lexes_name previous named.1 (by simp; decide)
    (fun _ => .inr rfl) (lexes_space (by simp; decide) cutSign)
  simpa using cutName

/-- A raw text does not make its line an assignment. -/
theorem not_assigns_raw {text : List Char} (raw : RawText text) (guarded : ¬LoneSign text)
    (rest : List Char) : assigns (' ' :: (text ++ '\n' :: rest)) = false := by
  cases text with
  | nil => rfl
  | cons first others =>
    have visible : Text.isBlank first = false := raw.2.1 first rfl
    have other : (first == ' ' || first == '\t') = false := by
      apply Bool.eq_false_iff.mpr
      intro blank
      simp only [Bool.or_eq_true, beq_iff_eq] at blank
      rcases blank with rfl | rfl <;> exact absurd visible (by decide)
    simp only [assigns, List.cons_append, List.dropWhile_cons, other, beq_self_eq_true,
      Bool.true_or, if_true]
    simp only [Bool.false_eq_true, if_false]
    split
    · rfl
    · rename_i distinct same
      cases same
      exfalso
      apply guarded
      refine ⟨others, rfl, ?_⟩
      intro doubled
      obtain ⟨tail, rfl⟩ := List.head?_eq_some_iff.mp doubled
      exact distinct _ rfl
    · rfl

/-- The word with a raw text behind it on its line holds one token: the word opens a raw line since
no name is expected and no single sign follows, and stripping takes the space off again. -/
theorem lexes_raw_line {previous : Option Token} (ready : Ready previous) {text : String}
    (raw : RawText text.toList) (guarded : ¬LoneSign text.toList) {rest : List Char}
    {spelled : List Token} (behind : Lexes (some ⟨.raw, text, .nowhere⟩) ('\n' :: rest) spelled) :
    Lexes previous ("raw ".toList ++ text.toList ++ '\n' :: rest)
      (⟨.raw, text, .nowhere⟩ :: spelled) := by
  have read := piece_name ['r', 'a', 'w'] (' ' :: (text.toList ++ '\n' :: rest))
    ⟨'r', ['a', 'w'], rfl, rfl, List.all_eq_true.mp rfl⟩ (by simp; decide)
  have opens : opensRaw previous (' ' :: (text.toList ++ '\n' :: rest)) = true := by
    rw [opens_raw_eq, ready, not_assigns_raw raw guarded]
    rfl
  have inside : ∀ c ∈ ' ' :: text.toList, inLine c = true := by
    intro c member
    have other : c ≠ '\n' := by
      rintro rfl
      exact raw.1 (by simpa using member)
    simpa [inLine] using other
  obtain ⟨taken, left⟩ := run_of_stops (' ' :: text.toList) ('\n' :: rest)
    inside (by simp [inLine])
  have blank : Text.isBlank ' ' = true := by decide
  have stripped : Text.strip (' ' :: text.toList) = Text.strip text.toList := by
    simp [Text.strip, blank]
  have line : String.ofList (Text.strip ((' ' :: (text.toList ++ '\n' :: rest)).takeWhile inLine)) =
      text := by
    rw [← List.cons_append, taken, stripped, strip_of_raw _ raw, String.ofList_toList]
  have below : (' ' :: (text.toList ++ '\n' :: rest)).dropWhile inLine = '\n' :: rest := left
  have cut := lexes_raw read opens line below behind
  simpa using cut

/-- The line of a raw text holds one token. -/
theorem spells_raw {text : String} (line : IsLine text) (guarded : ¬LoneSign text.toList) :
    Spells (joinLines ["raw " ++ text]).toList [⟨.raw, text, .nowhere⟩] := by
  apply spells_line
  intro previous rest spelled ready behind
  simpa using lexes_raw_line ready line.2 guarded (behind _ rfl)

/-- The line of a splice holds a point, and a star if there are many. -/
theorem spells_splice {name : String} (named : IsName name) (many : Bool) :
    Spells (joinLines ["$(" ++ name ++ ")" ++ if many then "*" else ""]).toList
      (barePoint name ++ if many then [mark "*" .nowhere] else []) := by
  apply spells_line
  intro previous rest spelled _ behind
  cases many with
  | false => simpa using lexes_point named behind
  | true =>
    have cutStar (last : Option Token) :
        Lexes last ('*' :: '\n' :: rest) (mark "*" .nowhere :: spelled) :=
      lexes_operator _ '*' (by decide) (by decide) (behind _ (by decide))
    simpa using lexes_point named fun last _ => cutStar last

end Stencil.Template
