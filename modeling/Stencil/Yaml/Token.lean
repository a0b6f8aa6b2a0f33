/-!
# YAML tokens

The tokens that a YAML text is cut into. Those that open and close block
collections stand for changes of indentation and have no characters.
-/

namespace Stencil.Yaml

/-- A directive before a document. -/
inductive Directive where
  | version (major : Nat)
  | handle (handle address : String)
  | other
deriving DecidableEq, Repr

/-- A token. -/
inductive Token where
  | streamEnd
  | directive (directive : Directive)
  | documentStart
  | documentEnd
  | blockSequenceStart
  | blockMappingStart
  | blockEnd
  | flowSequenceStart
  | flowSequenceEnd
  | flowMappingStart
  | flowMappingEnd
  | flowEntry
  | blockEntry
  | key
  | value
  | aliasName (name : String)
  | anchor (name : String)
  | tag (handle : Option String) (rest : String)
  /-- A scalar; a plain one stands without quotes and marks. -/
  | scalar (text : String) (plain : Bool)
deriving DecidableEq, Repr

/-- A token as messages name it. -/
def Token.name : Token → String
  | streamEnd => "<stream end>"
  | directive _ => "<directive>"
  | documentStart => "<document start>"
  | documentEnd => "<document end>"
  | blockSequenceStart => "<block sequence start>"
  | blockMappingStart => "<block mapping start>"
  | blockEnd => "<block end>"
  | flowSequenceStart => "["
  | flowSequenceEnd => "]"
  | flowMappingStart => "\x7b"
  | flowMappingEnd => "\x7d"
  | flowEntry => ","
  | blockEntry => "-"
  | key => "?"
  | value => ":"
  | aliasName _ => "<alias>"
  | anchor _ => "<anchor>"
  | tag .. => "<tag>"
  | scalar .. => "<scalar>"

end Stencil.Yaml
