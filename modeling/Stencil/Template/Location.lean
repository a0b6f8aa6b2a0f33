/-!
# Locations and syntax errors

A location is a line and a column of a named text, both counted from one in
characters. A syntax error is a cause at a location; its wording is
`Cause.message`, and `SyntaxError.message` puts the location before it.
-/

namespace Stencil.Template

/-- A line and a column of a named text. -/
structure Location where
  source : String
  line : Nat
  column : Nat
deriving DecidableEq, Repr

namespace Location

/-- The first character of a text. -/
def start (source : String) : Location := ⟨source, 1, 1⟩

/-- The location behind `count` further characters of the same line. -/
def advance (location : Location) (count : Nat) : Location :=
  { location with column := location.column + count }

/-- The start of the next line. -/
def nextLine (location : Location) : Location :=
  { location with line := location.line + 1, column := 1 }

/-- A location as messages show it. -/
def write (location : Location) : String :=
  location.source ++ ":" ++ toString location.line ++ ":" ++ toString location.column

end Location

/-- What is wrong with a template. A found token is given by its description. -/
inductive Cause where
  | unterminatedString
  | unexpectedCharacter (shown : String)
  | unmatchedClosingBrace
  | unmatchedOpeningBrace
  | unmatchedParenthesis
  | expectedOperator (text context found : String)
  | expectedName (context found : String)
  | expectedStatement (found : String)
  | expectedValue (found : String)
  | unknownStatement (word : String)
  | emptyRaw
  | pointWithoutParenthesis
  | pointWithoutName
  | pointUnclosed
  | notOneStatement (kind : String)
  | splicedSequence (kind : String)
  | notFunction
deriving DecidableEq, Repr

/-- The wording of a cause. -/
def Cause.message : Cause → String
  | unterminatedString => "unterminated string literal"
  | unexpectedCharacter shown => "unexpected character " ++ shown
  | unmatchedClosingBrace => "unmatched '\x7d'"
  | unmatchedOpeningBrace => "unmatched '\x7b'"
  | unmatchedParenthesis => "unmatched '('"
  | expectedOperator text context found =>
    "expected '" ++ text ++ "' " ++ context ++ ", found " ++ found
  | expectedName context found => "expected a name " ++ context ++ ", found " ++ found
  | expectedStatement found => "expected a statement, found " ++ found
  | expectedValue found => "expected a value, found " ++ found
  | unknownStatement word => "unknown statement keyword '" ++ word ++ "'"
  | emptyRaw => "expected text after 'raw'"
  | pointWithoutParenthesis => "malformed substitution marker, expected '$(name)'"
  | pointWithoutName => "malformed substitution marker, expected a name inside '$( )'"
  | pointUnclosed => "malformed substitution marker, missing ')'"
  | notOneStatement kind => "expected exactly one statement for a " ++ kind ++ " template"
  | splicedSequence kind => "a " ++ kind ++ " template cannot be a spliced sequence"
  | notFunction => "expected a function definition"

/-- A cause at a location. -/
structure SyntaxError where
  cause : Cause
  location : Location
deriving DecidableEq, Repr

/-- The location, then the cause. -/
def SyntaxError.message (fault : SyntaxError) : String :=
  fault.location.write ++ ": " ++ fault.cause.message

end Stencil.Template
