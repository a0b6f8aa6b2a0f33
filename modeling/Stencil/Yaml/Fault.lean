import Stencil.Fault

/-!
# Faults of YAML texts

What is wrong with a YAML text. A fault inside a construct is reported by the
construct; a fault of its own by its wording. A scalar whose type is plain from
its form, and which still has no value, raises the fault of its type.
-/

namespace Stencil.Yaml

/-- What a text was being cut into when it went wrong. -/
inductive Lexeme where
  | nextToken
  | simpleKey
  | directive
  | aliasName
  | anchor
  | tag
  | blockScalar
  | quoted
  | doubleQuoted
deriving DecidableEq, Repr

namespace Lexeme

/-- A lexeme's name with its article or preposition. -/
def name : Lexeme → String
  | nextToken => "for the next token"
  | simpleKey => "a simple key"
  | directive => "a directive"
  | aliasName => "an alias"
  | anchor => "an anchor"
  | tag => "a tag"
  | blockScalar => "a block scalar"
  | quoted => "a quoted scalar"
  | doubleQuoted => "a double-quoted scalar"

end Lexeme

/-- What tokens were being put together when they did not fit. -/
inductive Phrase where
  | node
  | blockNode
  | flowNode
  | blockCollection
  | blockMapping
  | flowSequence
  | flowMapping
deriving DecidableEq, Repr

namespace Phrase

/-- A phrase's name. -/
def name : Phrase → String
  | node => "a node"
  | blockNode => "a block node"
  | flowNode => "a flow node"
  | blockCollection => "a block collection"
  | blockMapping => "a block mapping"
  | flowSequence => "a flow sequence"
  | flowMapping => "a flow mapping"

end Phrase

/-- The collections that have values. -/
inductive Collection where
  | mapping
  | orderedMap
  | pairs
deriving DecidableEq, Repr

namespace Collection

/-- A collection's name. -/
def name : Collection → String
  | mapping => "a mapping"
  | orderedMap => "an ordered map"
  | pairs => "pairs"

end Collection

/-- What is wrong with a YAML text. -/
inductive Fault where
  /-- A character that no text may hold. -/
  | unacceptable (code : Nat)
  | scanning (lexeme : Lexeme)
  /-- A tag or a directive without the address it needs. -/
  | noAddress (lexeme : Lexeme)
  | entryNotAllowed
  | keyNotAllowed
  | valueNotAllowed
  | parsing (phrase : Phrase)
  | noDocumentStart (found : String)
  | repeatedVersion
  | incompatibleVersion
  | repeatedHandle (shown : String)
  | undefinedAlias (shown : String)
  | repeatedAnchor (shown : String)
  | severalDocuments
  | constructing (collection : Collection)
  /-- The tag asks for another sort of node. -/
  | expectedNode (expected found : String)
  | unknownTag (shown : String)
  | notAscii (detail : String)
  | notBase64 (detail : String)
  | nestedTooDeep
  /-- A value that a scalar's form promises and its text does not give. -/
  | value (fault : Stencil.Fault)
deriving DecidableEq, Repr

/-- A number in at least four hexadecimal digits. -/
def codeText (code : Nat) : String :=
  let digits := Nat.toDigits 16 code
  String.ofList (List.replicate (4 - digits.length) '0' ++ digits)

/-- The first line of a fault's wording. -/
def Fault.message : Fault → String
  | unacceptable code =>
    "unacceptable character #x" ++ codeText code ++ ": special characters are not allowed"
  | scanning lexeme => "while scanning " ++ lexeme.name
  | noAddress lexeme => "while parsing " ++ lexeme.name
  | entryNotAllowed => "sequence entries are not allowed here"
  | keyNotAllowed => "mapping keys are not allowed here"
  | valueNotAllowed => "mapping values are not allowed here"
  | parsing phrase => "while parsing " ++ phrase.name
  | noDocumentStart found =>
    "expected '<document start>', but found " ++ Text.display found
  | repeatedVersion => "found duplicate YAML directive"
  | incompatibleVersion => "found incompatible YAML document (version 1.* is required)"
  | repeatedHandle shown => "duplicate tag handle " ++ shown
  | undefinedAlias shown => "found undefined alias " ++ shown
  | repeatedAnchor shown => "found duplicate anchor " ++ shown ++ "; first occurrence"
  | severalDocuments => "expected a single document in the stream"
  | constructing collection => "while constructing " ++ collection.name
  | expectedNode expected found => "expected a " ++ expected ++ " node, but found " ++ found
  | unknownTag shown => "could not determine a constructor for the tag " ++ shown
  | notAscii detail => "failed to convert base64 data into ascii: " ++ detail
  | notBase64 detail => "failed to decode base64 data: " ++ detail
  | nestedTooDeep => "maximum recursion depth exceeded"
  | value fault => fault.message

end Stencil.Yaml
