import Stencil.Template.Parser

/-!
# The grammar of templates

Which tokens say which forms, as a relation of its own: `Derives tokens forms`
has one rule for each statement, with the statements behind it. The rules know
nothing of phases, levels or the order in which tokens are looked at.

Locations are part of the relation. A statement starts where its first token
starts, and a value where its only token or its marker does.
-/

namespace Stencil.Template

/-- An operator. -/
abbrev mark (text : String) (location : Location) : Token := ⟨.op, text, location⟩

/-- A word: a name or a keyword. -/
abbrev word (text : String) (location : Location) : Token := ⟨.name, text, location⟩

/-- The tokens of a point. -/
def pointTokens (name : String) (marker opening place closing : Location) : List Token :=
  [mark "$" marker, mark "(" opening, word name place, mark ")" closing]

/-- The tokens of a value: a string, a number, a name that stands for a value of its own, another
name, or a point. -/
inductive OperandTokens : List Token → Operand → Prop where
  | string (text : String) (location : Location) :
      OperandTokens [⟨.string, text, location⟩] (.literal text location)
  | number (text : String) (location : Location) :
      OperandTokens [⟨.number, text, location⟩] (.literal text location)
  | constant (text : String) (location : Location) (known : text ∈ literalNames) :
      OperandTokens [word text location] (.literal text location)
  | reference (text : String) (location : Location) (named : text ∉ keywords)
      (other : text ∉ literalNames) : OperandTokens [word text location] (.reference text location)
  | point (name : String) (marker opening place closing : Location) (named : name ∉ keywords) :
      OperandTokens (pointTokens name marker opening place closing) (.point name marker)

/-- The tokens of parameters: names with commas between them, and perhaps one behind the last. -/
inductive Parameters : List Token → List String → Prop where
  | nothing : Parameters [] []
  | last (name : String) (place : Location) (named : name ∉ keywords) :
      Parameters [word name place] [name]
  | more (name : String) (place comma : Location) (tokens : List Token) (names : List String)
      (named : name ∉ keywords) (behind : Parameters tokens names) :
      Parameters (word name place :: mark "," comma :: tokens) (name :: names)

/-- The tokens of a function before its body. -/
def FunctionHead (tokens : List Token) (location : Location) (name : String)
    (args : List String) : Prop :=
  ∃ place opening parameters closing colon, name ∉ keywords ∧ Parameters parameters args ∧
    tokens = word "def" location :: word name place :: mark "(" opening ::
      (parameters ++ [mark ")" closing, mark ":" colon])

/-- The tokens of a conditional before its first body. -/
def ConditionHead (tokens : List Token) (location : Location) (lhs : String)
    (rhs : Operand) : Prop :=
  ∃ place comparison value colon, lhs ∉ keywords ∧ OperandTokens value rhs ∧
    tokens = word "if" location :: word lhs place :: mark "==" comparison ::
      (value ++ [mark ":" colon])

/-- The tokens of a body: statements between braces. -/
def bodyTokens (opening : Location) (tokens : List Token) (closing : Location) : List Token :=
  mark "\x7b" opening :: (tokens ++ [mark "\x7d" closing])

/-- The tokens of statements. Each rule puts one statement before others. The rules mention tokens
only by kind and text, and forms with the locations that these give them. The reader and its states
do not occur in them. -/
inductive Derives : List Token → List Form → Prop where
  | nothing : Derives [] []
  | function {head body more : List Token} {forms others : List Form} {location : Location}
      {name : String} {args : List String} (opening closing : Location)
      (headed : FunctionHead head location name args) (inner : Derives body forms)
      (behind : Derives more others) :
      Derives (head ++ bodyTokens opening body closing ++ more)
        (.function name args forms location :: others)
  | conditional {head body more : List Token} {forms others : List Form} {location : Location}
      {lhs : String} {rhs : Operand} (opening closing : Location)
      (headed : ConditionHead head location lhs rhs) (inner : Derives body forms)
      (behind : Derives more others) :
      Derives (head ++ bodyTokens opening body closing ++ more)
        (.conditional lhs rhs forms [] location :: others)
  | alternative {head body otherwise more : List Token} {forms elseForms others : List Form}
      {location : Location} {lhs : String} {rhs : Operand}
      (opening closing divider colon opening' closing' : Location)
      (headed : ConditionHead head location lhs rhs) (inner : Derives body forms)
      (elseInner : Derives otherwise elseForms) (behind : Derives more others) :
      Derives (head ++ bodyTokens opening body closing ++
          word "else" divider :: mark ":" colon :: bodyTokens opening' otherwise closing' ++ more)
        (.conditional lhs rhs forms elseForms location :: others)
  | result {value more : List Token} {operand : Operand} {others : List Form} (location : Location)
      (valued : OperandTokens value operand) (behind : Derives more others) :
      Derives (word "return" location :: value ++ more) (.result operand location :: others)
  | assign {value more : List Token} {operand : Operand} {others : List Form} (target : String)
      (location sign : Location) (named : target ∉ keywords) (valued : OperandTokens value operand)
      (behind : Derives more others) :
      Derives (word target location :: mark "=" sign :: value ++ more)
        (.assign target operand location :: others)
  | raw {more : List Token} {others : List Form} (text : String) (location : Location)
      (nonempty : text ≠ "") (behind : Derives more others) :
      Derives (⟨.raw, text, location⟩ :: more) (.raw text location :: others)
  | splice {more : List Token} {others : List Form} (name : String)
      (marker opening place closing : Location) (named : name ∉ keywords)
      (behind : Derives more others) :
      Derives (pointTokens name marker opening place closing ++ more)
        (.splice name false marker :: others)
  | sequence {more : List Token} {others : List Form} (name : String)
      (marker opening place closing star : Location) (named : name ∉ keywords)
      (behind : Derives more others) :
      Derives (pointTokens name marker opening place closing ++ mark "*" star :: more)
        (.splice name true marker :: others)

/-- Statements can be put behind statements. -/
theorem derives_append {tokens more : List Token} {forms others : List Form}
    (derived : Derives tokens forms) (behind : Derives more others) :
    Derives (tokens ++ more) (forms ++ others) := by
  induction derived with
  | nothing => exact behind
  | function opening closing headed inner _ _ inductionHypothesis =>
    simpa using Derives.function opening closing headed inner inductionHypothesis
  | conditional opening closing headed inner _ _ inductionHypothesis =>
    simpa using Derives.conditional opening closing headed inner inductionHypothesis
  | alternative opening closing divider colon opening' closing' headed inner elseInner _ _ _
      inductionHypothesis =>
    simpa using Derives.alternative opening closing divider colon opening' closing' headed inner
      elseInner inductionHypothesis
  | result location valued _ inductionHypothesis =>
    simpa using Derives.result location valued inductionHypothesis
  | assign target location sign named valued _ inductionHypothesis =>
    simpa using Derives.assign target location sign named valued inductionHypothesis
  | raw text location nonempty _ inductionHypothesis =>
    exact .raw text location nonempty inductionHypothesis
  | splice name marker opening place closing named _ inductionHypothesis =>
    simpa using Derives.splice name marker opening place closing named inductionHypothesis
  | sequence name marker opening place closing star named _ inductionHypothesis =>
    simpa using Derives.sequence name marker opening place closing star named inductionHypothesis

end Stencil.Template
