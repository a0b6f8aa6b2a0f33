import Stencil.Template.Location
import Stencil.Text.Utf8
import Stencil.Text.Quoted

/-!
# Faults

What can go wrong anywhere in the library, as causes. A cause names its
parties (the kind of a value, a field, a path); `Fault.message` is its
wording and `Fault.family` the broad class it belongs to. A fault of the
operating system keeps its number. Most wordings show only the first bytes of a
kind's name.
-/

namespace Stencil

/-- Faults of the file system, by cause. -/
inductive FileFault where
  | notFound
  | alreadyThere
  | notDirectory
  | isDirectory
  | nameTooLong
deriving DecidableEq, Repr

namespace FileFault

/-- The number of a file system fault. -/
def number : FileFault → Nat
  | notFound => 2
  | alreadyThere => 17
  | notDirectory => 20
  | isDirectory => 21
  | nameTooLong => 36

/-- The wording of a file system fault. -/
def wording : FileFault → String
  | notFound => "No such file or directory"
  | alreadyThere => "File exists"
  | notDirectory => "Not a directory"
  | isDirectory => "Is a directory"
  | nameTooLong => "File name too long"

end FileFault

/-- A cause of failure. -/
inductive Fault where
  /-- Something other than a statement was put into a body. -/
  | notStatement (kind : String)
  /-- The value cannot be walked through. -/
  | notIterable (kind : String)
  /-- The value has no such operation or field. -/
  | noAttribute (kind field : String)
  /-- The source text of an expression is no text. -/
  | textNotText (kind : String)
  /-- An operation was given a depth that it does not take. -/
  | unexpectedDepth (owner : String)
  /-- The value has no literal. -/
  | unquotable (kind : String)
  /-- A double that is no finite number has no literal. -/
  | unquotableDouble (shown : String)
  /-- The integer has more digits than are written. -/
  | tooManyDigitsToWrite
  /-- The value is neither a node nor a list of nodes. -/
  | notRenderable (kind : String)
  /-- The value cannot be a key. -/
  | unhashable (kind : String)
  /-- The text is no integer. -/
  | malformedInt (base : Nat) (shown : String)
  /-- The text has more digits than are read. -/
  | tooManyDigitsToRead (digits : Nat)
  /-- The text is no double. -/
  | malformedDouble (shown : String)
  /-- The value is no number and no text that could be one. -/
  | noInt (kind : String)
  /-- The value is no double and no text that could be one. -/
  | noDouble (kind : String)
  /-- Not-a-number has no integer part. -/
  | intOfNan
  /-- An infinity has no integer part. -/
  | intOfInfinity
  /-- The integer lies beyond the doubles. -/
  | intTooLarge
  /-- The integer lies beyond machine words. -/
  | wordTooLarge
  /-- The integer lies beyond the sizes that things can have. -/
  | sizeTooLarge (kind : String)
  /-- There is no room for so many bytes. -/
  | noRoom
  /-- A part of the value lies outside its range. -/
  | outOfRange (wording : String)
  /-- A text has no bytes unless an encoding is named. -/
  | textWithoutEncoding
  /-- The value is no byte string and nothing that could be one. -/
  | noBytes (kind : String)
  /-- The value is no integer. -/
  | noInteger (kind : String)
  /-- There cannot be fewer than no bytes. -/
  | negativeCount
  /-- The integer is no byte. -/
  | byteOutOfRange
  /-- An item that has to be a pair cannot be taken apart. -/
  | notPair (index : Nat)
  /-- An item that has to be a pair has another number of parts. -/
  | pairLength (index length : Nat)
  /-- An index past the end of a text. -/
  | indexPastEnd
  /-- The value cannot be taken apart. -/
  | notUnpackable (kind : String)
  /-- The value has too few parts. -/
  | tooFewParts (expected got : Nat)
  /-- The value has too many parts. -/
  | tooManyParts (expected : Nat)
  /-- The value names no member of a choice. -/
  | notMember (shown choice : String)
  /-- A text was expected. -/
  | expectedText (kind : String)
  /-- A byte string stands where only a text can. -/
  | textPatternOnBytes
  /-- The key is absent. -/
  | missingKey (shown : String)
  /-- An iterator has nothing more to give. -/
  | exhausted
  /-- The nesting is deeper than can be followed. -/
  | tooDeep
  /-- More calls wait for one another than there is room for. -/
  | tooManyCalls
  /-- The operation would never end. -/
  | endless
  /-- A template's text is malformed. -/
  | template (fault : Template.SyntaxError)
  /-- A template was called without values for some of its points. -/
  | missingPoints (template : String) (names : List String)
  /-- A template was called with values for points that it does not have. -/
  | unexpectedPoints (template : String) (names : List String)
  /-- A value was given for the template itself. -/
  | selfGivenTwice
  /-- Two rules convert the same pair. -/
  | duplicateRule (role input output : String)
  /-- No rule converts the pair. -/
  | missingRule (role input output : String)
  /-- The role has no top-level conversion. -/
  | noConversion (role : String)
  /-- The bases of a class cannot be put into one order. -/
  | inconsistentBases (message : String)
  /-- A class's name holds the character that ends names. -/
  | nulInName
  /-- A base is named twice. -/
  | duplicateBase (base : String)
  /-- No class further on in the order has the method. -/
  | noInherited (field : String)
  /-- The function was written in a class that the order does not have. -/
  | foreignClass
  /-- A class lacks what every role has. -/
  | noRole (owner field : String)
  /-- The value cannot be called. -/
  | notCallable (kind : String)
  /-- A method needs one more argument. -/
  | missingArgument (method argument : String)
  /-- A method takes no argument. -/
  | surplusArgument (method : String)
  /-- A function or a class was called with other arguments than it takes. -/
  | unfitCall (wording : String)
  /-- The class cannot be extended. -/
  | finalBase (kind : String)
  /-- A class that takes no value was given one. -/
  | takesNoValue (kind : String)
  /-- The kind of the value that stands for nothing takes no value. -/
  | noneTakesNoValue
  /-- A rule refused its value. -/
  | refused (message : String)
  /-- The input file is absent. -/
  | missingInput (path : String)
  /-- The input file cannot be read. -/
  | unreadableInput (path detail : String)
  /-- The input file is no YAML. -/
  | malformedYaml (path detail : String)
  /-- The input file is no table of status codes. -/
  | schema (path detail : String)
  /-- The file system refused. -/
  | file (cause : FileFault) (path : String)
  /-- A file is no UTF-8. -/
  | encoding (fault : Text.DecodeFault)
  /-- A path holds the character that ends paths. -/
  | nulInPath
  /-- The home directory cannot be told. -/
  | noHome
deriving DecidableEq, Repr

/-- The broad classes of faults. -/
inductive Family where
  | type
  | value
  | missingField
  | key
  | index
  | overflow
  | memory
  | stop
  | recursion
  | runtime
  | endless
  | templateSyntax
  | templateArgument
  | duplicateRule
  | missingRule
  | missingInput
  | unreadableInput
  | malformedYaml
  | schema
  | unicode
  | file (cause : FileFault)
deriving DecidableEq, Repr

namespace Fault

/-- The class that a fault belongs to. -/
def family : Fault → Family
  | notStatement _ | notIterable _ | textNotText _ | unexpectedDepth _ | unquotable _
  | unquotableDouble _ | notRenderable _ | unhashable _ | noInt _ | noDouble _ | notUnpackable _
  | expectedText _ | textPatternOnBytes | selfGivenTwice | noConversion _
  | inconsistentBases _ | duplicateBase _ | notCallable _ | finalBase _ | takesNoValue _
  | noneTakesNoValue | foreignClass | missingArgument .. | surplusArgument _ | unfitCall _
  | textWithoutEncoding | noBytes _ | noInteger _ | notPair _ => .type
  | tooManyDigitsToWrite | malformedInt .. | tooManyDigitsToRead _ | malformedDouble _ | intOfNan
  | outOfRange _ | tooFewParts .. | tooManyParts _ | notMember .. | refused _ | nulInPath
  | nulInName | negativeCount | byteOutOfRange | pairLength .. => .value
  | noAttribute .. | noInherited _ | noRole .. => .missingField
  | missingKey _ => .key
  | indexPastEnd => .index
  | intOfInfinity | intTooLarge | wordTooLarge | sizeTooLarge _ => .overflow
  | noRoom => .memory
  | exhausted => .stop
  | tooDeep | tooManyCalls => .recursion
  | noHome => .runtime
  | endless => .endless
  | template _ => .templateSyntax
  | missingPoints .. | unexpectedPoints .. => .templateArgument
  | duplicateRule .. => .duplicateRule
  | missingRule .. => .missingRule
  | missingInput _ => .missingInput
  | unreadableInput .. => .unreadableInput
  | malformedYaml .. => .malformedYaml
  | schema .. => .schema
  | file cause _ => .file cause
  | encoding _ => .unicode

end Fault

/-- The wording of a decoding fault. -/
def Text.DecodeFault.message (fault : Text.DecodeFault) : String :=
  let reason := match fault.cause with
    | .start => "invalid start byte"
    | .continuation => "invalid continuation byte"
    | .unfinished => "unexpected end of data"
  let place := match fault.bytes with
    | [byte] =>
      "byte 0x" ++ String.ofList (Text.hex 2 byte.toNat) ++ " in position "
        ++ toString fault.position
    | bytes =>
      "bytes in position " ++ toString fault.position ++ "-"
        ++ toString (fault.position + bytes.length - 1)
  "'utf-8' codec can't decode " ++ place ++ ": " ++ reason

namespace Fault

/-- A kind's name in quotes, as far as a wording shows it. -/
def kindShown (kind : String) : String := "'" ++ Text.clip 200 kind ++ "'"

/-- The name of a kind or a class in quotes, as far as the wording about a field shows it. -/
def ownerShown (owner : String) : String := "'" ++ Text.clip 50 owner ++ "'"

/-- The wording of a fault. -/
def message : Fault → String
  | notStatement kind => "Expected a Statement, got " ++ kind
  | notIterable kind => kindShown kind ++ " object is not iterable"
  | noAttribute kind field => ownerShown kind ++ " object has no attribute '" ++ field ++ "'"
  | textNotText kind => "__str__ returned non-string (type " ++ kind ++ ")"
  | unexpectedDepth owner => owner ++ ".render() takes 1 positional argument but 2 were given"
  | unquotable kind => "Cannot quote " ++ kind ++ " as a Python literal"
  | unquotableDouble shown => "Cannot quote non-finite float " ++ shown ++ " as a Python literal"
  | tooManyDigitsToWrite =>
    "Exceeds the limit (4300 digits) for integer string conversion; "
      ++ "use sys.set_int_max_str_digits() to increase the limit"
  | notRenderable kind => "not renderable: " ++ kind
  | unhashable kind => "unhashable type: " ++ kindShown kind
  | malformedInt base shown =>
    "invalid literal for int() with base " ++ toString base ++ ": " ++ shown
  | tooManyDigitsToRead digits =>
    "Exceeds the limit (4300 digits) for integer string conversion: value has "
      ++ toString digits ++ " digits; use sys.set_int_max_str_digits() to increase the limit"
  | malformedDouble shown => "could not convert string to float: " ++ shown
  | noInt kind =>
    "int() argument must be a string, a bytes-like object or a real number, not "
      ++ kindShown kind
  | noDouble kind => "float() argument must be a string or a real number, not " ++ kindShown kind
  | intOfNan => "cannot convert float NaN to integer"
  | intOfInfinity => "cannot convert float infinity to integer"
  | intTooLarge => "int too large to convert to float"
  | wordTooLarge => "Python int too large to convert to C int"
  | sizeTooLarge kind => "cannot fit " ++ kindShown kind ++ " into an index-sized integer"
  | noRoom => ""
  | outOfRange wording => wording
  | textWithoutEncoding => "string argument without an encoding"
  | noBytes kind => "cannot convert " ++ kindShown kind ++ " object to bytes"
  | noInteger kind => kindShown kind ++ " object cannot be interpreted as an integer"
  | negativeCount => "negative count"
  | byteOutOfRange => "bytes must be in range(0, 256)"
  | notPair index =>
    "cannot convert dictionary update sequence element #" ++ toString index ++ " to a sequence"
  | pairLength index length =>
    "dictionary update sequence element #" ++ toString index ++ " has length "
      ++ toString length ++ "; 2 is required"
  | indexPastEnd => "string index out of range"
  | notUnpackable kind => "cannot unpack non-iterable " ++ Text.clip 200 kind ++ " object"
  | tooFewParts expected got =>
    "not enough values to unpack (expected " ++ toString expected ++ ", got "
      ++ toString got ++ ")"
  | tooManyParts expected => "too many values to unpack (expected " ++ toString expected ++ ")"
  | notMember shown choice => shown ++ " is not a valid " ++ choice
  | expectedText kind => "expected string or bytes-like object, got " ++ kindShown kind
  | textPatternOnBytes => "cannot use a string pattern on a bytes-like object"
  | missingKey shown => shown
  | exhausted => ""
  | tooDeep => "maximum recursion depth exceeded"
  | tooManyCalls => "maximum recursion depth exceeded while calling a Python object"
  | endless => "the operation does not end"
  | template fault => fault.message
  | missingPoints owner names =>
    "missing substitution value(s): " ++ ", ".intercalate names
      ++ " (template " ++ owner ++ ")"
  | unexpectedPoints owner names =>
    "unexpected substitution value(s): " ++ ", ".intercalate names
      ++ " (template " ++ owner ++ ")"
  | selfGivenTwice => "Template.__call__() got multiple values for argument 'self'"
  | duplicateRule role input output =>
    "Duplicate rule: " ++ role ++ " (" ++ input ++ " -> " ++ output ++ ")"
  | missingRule role input output =>
    "No rule registered: " ++ role ++ " (" ++ input ++ " -> " ++ output ++ ")"
  | noConversion role => role ++ " declares no top-level conversion"
  | inconsistentBases message => message
  | nulInName => "type name must not contain null characters"
  | duplicateBase base => "duplicate base class " ++ base
  | noInherited field => "'super' object has no attribute '" ++ field ++ "'"
  | foreignClass => "super(type, obj): obj must be an instance or subtype of type"
  | noRole owner field =>
    "type object " ++ ownerShown owner ++ " has no attribute '" ++ field ++ "'"
  | notCallable kind => kindShown kind ++ " object is not callable"
  | missingArgument method argument =>
    method ++ "() missing 1 required positional argument: '" ++ argument ++ "'"
  | surplusArgument method => method ++ "() takes 1 positional argument but 2 were given"
  | unfitCall wording => wording
  | finalBase kind => "type '" ++ kind ++ "' is not an acceptable base type"
  | takesNoValue kind => Text.clip 200 kind ++ "() takes no arguments"
  | noneTakesNoValue => "NoneType takes no arguments"
  | refused text => text
  | missingInput path => "Missing input file: " ++ path
  | unreadableInput path detail => "Unreadable input file (" ++ detail ++ "): " ++ path
  | malformedYaml path detail => "Invalid YAML format (" ++ detail ++ "): " ++ path
  | schema path detail => "Invalid input schema (" ++ detail ++ "): " ++ path
  | file cause path =>
    "[Errno " ++ toString cause.number ++ "] " ++ cause.wording ++ ": " ++ path
  | encoding fault => fault.message
  | nulInPath => "embedded null byte"
  | noHome => "Could not determine home directory."

end Fault

end Stencil
