import Stencil.Conversion.Tag

/-!
# Recipes

What a rule's function does with its value. A recipe can ask the role that it
runs on: for a conversion, for a method by name, for the method of that name
further on in the order of classes, or for an entry of the configuration.
-/

namespace Stencil.Conversion

open Code

/-- What a function does with its value. -/
inductive Recipe where
  /-- A text, whatever the value is. -/
  | text (written : String)
  /-- The value itself. -/
  | value
  /-- The value's text between two texts. -/
  | shown (before after : String)
  /-- The value's text and then the text of an entry of the configuration. -/
  | config (key : String)
  /-- The texts of parts, one after another. -/
  | concat (parts : List Recipe)
  /-- The texts of the value's items, each converted, with a separator between them. -/
  | each (output : Tag) (input : Option Tag) (separator : String)
  /-- The value converted. -/
  | via (output : Tag) (input : Option Tag)
  /-- The text of what the inherited method gives, in brackets. -/
  | inherited (method : String)
  /-- What the method of this name gives. -/
  | method (name : String)
  /-- A refusal. -/
  | refusal (message : String)
deriving Repr, Inhabited

end Stencil.Conversion
