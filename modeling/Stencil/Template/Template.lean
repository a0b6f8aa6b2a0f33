import Stencil.Template.Parser

/-!
# Templates

A template is a name, a kind and the forms that its text says. The kind tells
what a call gives: the list of its statements, one statement, or one function
definition. The last two take a template of exactly one form.
-/

namespace Stencil.Template

/-- What a template gives when it is called. -/
inductive Kind where
  | statements
  | statement
  | functionDefinition
deriving DecidableEq, Repr

namespace Kind

/-- A kind's name. -/
def text : Kind → String
  | statements => "statements"
  | statement => "statement"
  | functionDefinition => "function_definition"

/-- The kind of a name. -/
def ofText? (text : String) : Option Kind :=
  [statements, statement, functionDefinition].find? (·.text == text)

end Kind

/-- A template whose text has been read. -/
structure Template where
  name : String
  kind : Kind
  forms : List Form
deriving Repr

namespace Template

/-- The names that a template leaves open, at their first occurrences. -/
def points (template : Template) : List String := distinct (Form.pointsOf template.forms)

/-- What is wrong with the forms for a kind of template. -/
def misfit? (kind : Kind) (name : String) (forms : List Form) : Option SyntaxError :=
  match kind, forms with
  | .statements, _ => none
  | kind, [] => some ⟨.notOneStatement kind.text, .start name⟩
  | kind, _ :: second :: _ => some ⟨.notOneStatement kind.text, second.location⟩
  | kind, [.splice _ true location] => some ⟨.splicedSequence kind.text, location⟩
  | .statement, [_] => none
  | .functionDefinition, [.function ..] => none
  | .functionDefinition, [form] => some ⟨.notFunction, form.location⟩

/-- Read a template of a kind. The name stands for the text in locations. -/
def compile (kind : Kind) (text name : String) : Except SyntaxError Template := do
  let forms ← parse text name
  match misfit? kind name forms with
  | some fault => throw fault
  | none => return ⟨name, kind, forms⟩

end Template

end Stencil.Template
