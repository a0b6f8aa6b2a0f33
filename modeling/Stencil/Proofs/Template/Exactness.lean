import Stencil.Proofs.Template.Account

/-!
# The reader accepts exactly the grammar

Tokens are read as forms if and only if they derive them
(`parse_ok_iff`). Since the reader is a function, tokens derive one list of
forms at most (`derives_unique`).

Every statement and every value of a derived tree, at any depth, is itself
derived from a run of neighbouring tokens, and it carries the location of the
first of them (`Spelled`). The derivation of a list of statements is followed
down to the one that is asked for; what stands around it is put around its
tokens (`spelled_inside`).
-/

namespace Stencil.Template

/-- Where a value starts. -/
def Operand.location : Operand → Location
  | literal _ location => location
  | reference _ location => location
  | point _ location => location

/-- The value that a statement has, if it has one. -/
def Form.operand? : Form → Option Operand
  | .conditional _ rhs _ _ _ => some rhs
  | .result value _ => some value
  | .assign _ value _ => some value
  | _ => none

/-- A statement is one of a list of statements, or stands in a body of one, at any depth. So a claim
about all statements of a template is one about its inner statements too. -/
inductive Form.Among (form : Form) : List Form → Prop where
  | here (others : List Form) : Among form (form :: others)
  | behind (other : Form) (others : List Form) (inside : Among form others) :
      Among form (other :: others)
  | function (name : String) (args : List String) (body : List Form) (location : Location)
      (others : List Form) (inside : Among form body) :
      Among form (.function name args body location :: others)
  | thenBody (lhs : String) (rhs : Operand) (thenForms elseForms : List Form)
      (location : Location) (others : List Form) (inside : Among form thenForms) :
      Among form (.conditional lhs rhs thenForms elseForms location :: others)
  | elseBody (lhs : String) (rhs : Operand) (thenForms elseForms : List Form)
      (location : Location) (others : List Form) (inside : Among form elseForms) :
      Among form (.conditional lhs rhs thenForms elseForms location :: others)

/-- Neighbouring tokens make a part of a template, and the part carries the location of the first of
them. -/
def Spelled (tokens : List Token) (makes : List Token → Prop) (location : Location) : Prop :=
  ∃ before own after, tokens = before ++ own ++ after ∧ makes own ∧
    own.head?.map Token.location = some location

variable {tokens more : List Token} {forms others : List Form} {form : Form}

/-- What is made by some tokens is made by them among others. -/
theorem spelled_inside {makes : List Token → Prop} {location : Location}
    (spelled : Spelled tokens makes location) (before after : List Token) :
    Spelled (before ++ tokens ++ after) makes location := by
  obtain ⟨front, own, back, rfl, made, first⟩ := spelled
  exact ⟨before ++ front, own, back ++ after, by simp, made, first⟩

/-- What is made by some tokens is made by them with others behind. -/
theorem spelled_before {makes : List Token → Prop} {location : Location}
    (spelled : Spelled tokens makes location) (after : List Token) :
    Spelled (tokens ++ after) makes location := spelled_inside spelled [] after

/-- What is made by some tokens is made by them with others in front. -/
theorem spelled_behind {makes : List Token → Prop} {location : Location} (before : List Token)
    (spelled : Spelled tokens makes location) : Spelled (before ++ tokens) makes location := by
  simpa using spelled_inside spelled before []

/-- What is made by the tokens of a body is made by them between the braces. -/
theorem spelled_body {makes : List Token → Prop} {location : Location}
    (spelled : Spelled tokens makes location) (opening closing : Location) :
    Spelled (bodyTokens opening tokens closing) makes location :=
  spelled_inside spelled [mark "\x7b" opening] [mark "\x7d" closing]

/-- The first token of a value stands where the value does. -/
theorem operand_first {operand : Operand} (valued : OperandTokens tokens operand) :
    tokens.head?.map Token.location = some operand.location := by
  cases valued <;> rfl

/-- The first token of a statement stands where the statement does. -/
theorem form_first (derived : Derives tokens (form :: others)) :
    tokens.head?.map Token.location = some form.location := by
  cases derived with
  | function opening closing headed =>
    obtain ⟨_, _, _, _, _, _, _, rfl⟩ := headed
    rfl
  | conditional opening closing headed =>
    obtain ⟨_, _, _, _, _, _, rfl⟩ := headed
    rfl
  | alternative _ _ _ _ _ _ headed =>
    obtain ⟨_, _, _, _, _, _, rfl⟩ := headed
    rfl
  | _ => rfl

/-- Tokens that derive one statement, with others behind them, spell it. -/
theorem spelled_form (derived : Derives tokens [form]) (more : List Token) :
    Spelled (tokens ++ more) (Derives · [form]) form.location :=
  ⟨[], tokens, more, rfl, derived, form_first derived⟩

/-- The tokens of a condition spell the value that is compared. -/
theorem spelled_condition {location : Location} {lhs : String} {rhs : Operand}
    (headed : ConditionHead tokens location lhs rhs) :
    Spelled tokens (OperandTokens · rhs) rhs.location := by
  obtain ⟨place, comparison, value, colon, _, valued, rfl⟩ := headed
  exact ⟨[word "if" location, word lhs place, mark "==" comparison], value, [mark ":" colon],
    by simp, valued, operand_first valued⟩

/-- Each statement of a derived tree is spelled by tokens of its own, from its location on.

Proof: induction on the derivation. A statement of the list is spelled by its tokens; one in a body
is spelled between the braces of the body, by the induction for the body. -/
theorem forms_spelled (derived : Derives tokens forms) (among : form.Among forms) :
    Spelled tokens (Derives · [form]) form.location := by
  induction derived with
  | nothing => cases among
  | @function head body more _ _ _ _ _ opening closing headed inner _ innerSpelled behindSpelled =>
    cases among with
    | here =>
      refine spelled_form ?_ more
      simpa using Derives.function opening closing headed inner .nothing
    | behind _ _ inside => exact spelled_behind _ (behindSpelled inside)
    | function _ _ _ _ _ inside =>
      exact spelled_inside (spelled_body (innerSpelled inside) opening closing) head more
  | @conditional head body more _ _ _ _ _ opening closing headed inner _ innerSpelled
      behindSpelled =>
    cases among with
    | here =>
      refine spelled_form ?_ more
      simpa using Derives.conditional opening closing headed inner .nothing
    | behind _ _ inside => exact spelled_behind _ (behindSpelled inside)
    | thenBody _ _ _ _ _ _ inside =>
      exact spelled_inside (spelled_body (innerSpelled inside) opening closing) head more
    | elseBody _ _ _ _ _ _ inside => cases inside
  | @alternative head body otherwise more _ _ _ _ _ _ opening closing divider colon opening'
      closing' headed inner elseInner _ innerSpelled elseSpelled behindSpelled =>
    cases among with
    | here =>
      refine spelled_form ?_ more
      simpa using Derives.alternative opening closing divider colon opening' closing' headed inner
        elseInner .nothing
    | behind _ _ inside => exact spelled_behind _ (behindSpelled inside)
    | thenBody _ _ _ _ _ _ inside =>
      have first := spelled_behind head (spelled_body (innerSpelled inside) opening closing)
      simpa using spelled_before first
        (word "else" divider :: mark ":" colon :: bodyTokens opening' otherwise closing' ++ more)
    | elseBody _ _ _ _ _ _ inside =>
      have second := spelled_behind
        (head ++ bodyTokens opening body closing ++ [word "else" divider, mark ":" colon])
        (spelled_body (elseSpelled inside) opening' closing')
      simpa using spelled_before second more
  | @result value more _ _ location valued _ behindSpelled =>
    cases among with
    | here =>
      refine spelled_form ?_ more
      simpa using Derives.result location valued .nothing
    | behind _ _ inside => exact spelled_behind _ (behindSpelled inside)
  | @assign value more _ _ target location sign named valued _ behindSpelled =>
    cases among with
    | here =>
      refine spelled_form ?_ more
      simpa using Derives.assign target location sign named valued .nothing
    | behind _ _ inside => exact spelled_behind _ (behindSpelled inside)
  | @raw more _ text location nonempty _ behindSpelled =>
    cases among with
    | here => exact spelled_form (.raw text location nonempty .nothing) more
    | behind _ _ inside => exact spelled_behind [⟨.raw, text, location⟩] (behindSpelled inside)
  | @splice more _ name marker opening place closing named _ behindSpelled =>
    cases among with
    | here =>
      refine spelled_form ?_ more
      simpa using Derives.splice name marker opening place closing named .nothing
    | behind _ _ inside => exact spelled_behind _ (behindSpelled inside)
  | @sequence more _ name marker opening place closing star named _ behindSpelled =>
    rw [List.append_cons]
    cases among with
    | here =>
      refine spelled_form ?_ more
      simpa using Derives.sequence name marker opening place closing star named .nothing
    | behind _ _ inside => exact spelled_behind _ (behindSpelled inside)

/-- The value of a derived statement is spelled by tokens of its own, from its location on. -/
theorem operand_spelled {operand : Operand} (derived : Derives tokens [form])
    (has : form.operand? = some operand) :
    Spelled tokens (OperandTokens · operand) operand.location := by
  cases derived with
  | conditional opening closing headed inner behind =>
    cases has
    simpa using spelled_before (spelled_condition headed) _
  | alternative opening closing divider colon opening' closing' headed inner elseInner behind =>
    cases has
    simpa using spelled_before (spelled_condition headed) _
  | @result value _ _ _ location valued behind =>
    cases has
    cases behind
    exact ⟨[word "return" location], value, [], rfl, valued, operand_first valued⟩
  | @assign value _ _ _ target location sign named valued behind =>
    cases has
    cases behind
    exact ⟨[word target location, mark "=" sign], value, [], rfl, valued, operand_first valued⟩
  | _ => cases has

/-- A value of a part of the tokens is a value of the tokens. -/
theorem spelled_operand {operand : Operand}
    (spelled : Spelled tokens (Derives · [form]) form.location)
    (has : form.operand? = some operand) :
    Spelled tokens (OperandTokens · operand) operand.location := by
  obtain ⟨before, own, after, rfl, derived, _⟩ := spelled
  exact spelled_inside (operand_spelled derived has) before after

/-- Tokens are read as forms if they derive them, and only then. -/
theorem parse_ok_iff {tokens : Tokens} :
    parseTokens tokens = .ok forms ↔ Derives tokens.items forms :=
  ⟨derives_of_parse, parse_of_derives⟩

/-- Tokens derive one list of forms at most. -/
theorem derives_unique (derived : Derives tokens forms) (again : Derives tokens others) :
    forms = others := by
  let read : Tokens := ⟨tokens, .start ""⟩
  have first : parseTokens read = .ok forms := parse_of_derives derived
  have second : parseTokens read = .ok others := parse_of_derives again
  exact Except.ok.inj (first.symm.trans second)

/-- The reader accepts exactly the grammar, on any tokens. They are read as the forms that they
derive, of which there is one list at most, and are refused if they derive none. Each statement and
each value of what is read is spelled by neighbouring tokens and carries the location of the first
of them.

Proof: the machine takes the tokens one by one and keeps what is still open; what it has read is
derived, and what is derived is read (`parse_ok_iff`). As reading is a function there is one list at
most. For the last part the derivation is followed down to the form in question
(`forms_spelled`). -/
theorem parse_exact (tokens : Tokens) :
    (∀ forms, parseTokens tokens = .ok forms ↔ Derives tokens.items forms) ∧
      (∀ forms others, Derives tokens.items forms → Derives tokens.items others →
        forms = others) ∧
      ∀ forms, Derives tokens.items forms → ∀ form : Form, form.Among forms →
        Spelled tokens.items (Derives · [form]) form.location ∧
          ∀ operand, form.operand? = some operand →
            Spelled tokens.items (OperandTokens · operand) operand.location := by
  refine ⟨fun forms => parse_ok_iff, fun forms others => derives_unique, ?_⟩
  intro forms derived form among
  have spelled := forms_spelled derived among
  exact ⟨spelled, fun operand has => spelled_operand spelled has⟩

/-- The tokens of a function with a comma behind its last parameter. Its body is a conditional with
two bodies, the first of them empty. -/
def branching : Tokens :=
  let place (column : Nat) : Location := ⟨"branching", 1, column⟩
  ⟨[word "def" (place 1), word "f" (place 5), mark "(" (place 6), word "a" (place 7),
    mark "," (place 8), mark ")" (place 9), mark ":" (place 10), mark "\x7b" (place 12),
    word "if" (place 14), word "a" (place 17), mark "==" (place 19), ⟨.number, "1", place 22⟩,
    mark ":" (place 23), mark "\x7b" (place 25), mark "\x7d" (place 26), word "else" (place 28),
    mark ":" (place 32), mark "\x7b" (place 34), mark "$" (place 36), mark "(" (place 37),
    word "rest" (place 38), mark ")" (place 42), mark "*" (place 43), mark "\x7d" (place 45),
    mark "\x7d" (place 47)], place 48⟩

/-- What that function says. -/
def branchingForm : Form :=
  .function "f" ["a"]
    [.conditional "a" (.literal "1" ⟨"branching", 1, 22⟩) []
      [.splice "rest" true ⟨"branching", 1, 36⟩] ⟨"branching", 1, 14⟩] ⟨"branching", 1, 1⟩

/-- The function is read, and the splice in it is spelled where it starts. -/
theorem branching_exact :
    parseTokens branching = .ok [branchingForm] ∧
      Spelled branching.items (Derives · [.splice "rest" true ⟨"branching", 1, 36⟩])
        ⟨"branching", 1, 36⟩ := by
  have headed : FunctionHead (branching.items.take 7) ⟨"branching", 1, 1⟩ "f" ["a"] :=
    ⟨_, _, [word "a" _, mark "," _], _, _, by decide,
      .more "a" _ _ _ _ (by decide) .nothing, rfl⟩
  have conditioned : ConditionHead ((branching.items.drop 8).take 5) ⟨"branching", 1, 14⟩ "a"
      (.literal "1" ⟨"branching", 1, 22⟩) :=
    ⟨_, _, [⟨.number, "1", _⟩], _, by decide, .number "1" _, rfl⟩
  have derived : Derives branching.items [branchingForm] :=
    .function _ _ headed
      (.alternative _ _ _ _ _ _ conditioned .nothing
        (.sequence "rest" _ _ _ _ _ (by decide) .nothing) .nothing) .nothing
  obtain ⟨accepts, _, spells⟩ := parse_exact branching
  refine ⟨(accepts _).mpr derived, (spells _ derived _ ?_).1⟩
  exact .function _ _ _ _ _ (.elseBody _ _ _ _ _ _ (.here _))

end Stencil.Template
