import Stencil.Yaml.Timestamp

/-!
# Types of scalars

Every node has a tag. A plain scalar without one has the type that its form
shows: a truth value, a number, null, a date, a merge mark; everything else is a
text. The forms are those of YAML 1.1: integers in four bases and in base sixty,
doubles with a point and a signed exponent, `yes` and `no` for truth values.
-/

namespace Stencil.Yaml

/-- The standard types. -/
inductive Kind where
  | null
  | bool
  | int
  | float
  | binary
  | timestamp
  | orderedMap
  | pairs
  | set
  | text
  | sequence
  | mapping
  | merge
  | value
  | mark
deriving DecidableEq, Repr

namespace Kind

/-- A standard type's name. -/
def name : Kind → String
  | null => "null"
  | bool => "bool"
  | int => "int"
  | float => "float"
  | binary => "binary"
  | timestamp => "timestamp"
  | orderedMap => "omap"
  | pairs => "pairs"
  | set => "set"
  | text => "str"
  | sequence => "seq"
  | mapping => "map"
  | merge => "merge"
  | value => "value"
  | mark => "yaml"

/-- Whether the values of a type are collections. -/
def isCollection : Kind → Bool
  | orderedMap | pairs | set | sequence | mapping => true
  | _ => false

/-- All standard types. -/
def all : List Kind :=
  [null, bool, int, float, binary, timestamp, orderedMap, pairs, set, text, sequence, mapping,
    merge, value]

/-- The address that standard tags start with. -/
def address : String := "tag:yaml.org,2002:"

/-- A standard type's tag. -/
def tag (kind : Kind) : String := address ++ kind.name

/-- The standard type of a tag. -/
def ofTag? (tag : String) : Option Kind := all.find? (·.tag == tag)

end Kind

namespace Form

/-- A decimal digit or an underscore. -/
def isLoose (c : Char) : Bool := c.isDigit || c == '_'

/-- The text behind an optional sign. -/
def unsigned : List Char → List Char
  | '-' :: rest => rest
  | '+' :: rest => rest
  | cs => cs

/-- The parts of a text between colons. -/
def colonParts : List Char → List (List Char)
  | [] => [[]]
  | c :: rest =>
    if c = ':' then [] :: colonParts rest
    else match colonParts rest with
      | [] => [[c]]
      | part :: others => (c :: part) :: others

/-- Digits and underscores, a digit first. -/
def isLooseNumber : List Char → Bool
  | [] => false
  | c :: rest => c.isDigit && rest.all isLoose

/-- A number below sixty in one or two digits. -/
def isSixtieth : List Char → Bool
  | [a] => a.isDigit
  | [a, b] => '0' ≤ a && a ≤ '5' && b.isDigit
  | _ => false

/-- The words for truth values. -/
def truthWords : List String :=
  ["yes", "Yes", "YES", "no", "No", "NO", "true", "True", "TRUE", "false", "False", "FALSE", "on",
    "On", "ON", "off", "Off", "OFF"]

/-- The words for null. -/
def nullWords : List String := ["~", "null", "Null", "NULL", ""]

/-- Nothing, or an exponent with its sign. -/
def isExponent : List Char → Bool
  | [] => true
  | mark :: sign :: digits =>
    (mark == 'e' || mark == 'E') && (sign == '-' || sign == '+') && !digits.isEmpty
      && digits.all Char.isDigit
  | _ => false

/-- Digits, a point, digits, an exponent. -/
def isPointed (cs : List Char) : Bool :=
  match cs.span isLoose with
  | (c :: _, '.' :: rest) => c.isDigit && isExponent (rest.dropWhile isLoose)
  | _ => false

/-- A double in base sixty. -/
def isSixtyDouble (cs : List Char) : Bool :=
  match cs.span (· != '.') with
  | (whole, '.' :: rest) => rest.all isLoose && match colonParts whole with
    | first :: second :: others =>
      isLooseNumber first && isSixtieth second && others.all isSixtieth
    | _ => false
  | _ => false

/-- The form of a double. -/
def isDouble (cs : List Char) : Bool :=
  let body := unsigned cs
  let word := String.ofList body
  let fraction := match cs with
    | '.' :: c :: rest => c.isDigit && isExponent (rest.dropWhile isLoose)
    | _ => false
  isPointed body || fraction || isSixtyDouble body || [".inf", ".Inf", ".INF"].contains word
    || [".nan", ".NaN", ".NAN"].contains (String.ofList cs)

/-- The form of an integer. -/
def isInteger (cs : List Char) : Bool :=
  let body := unsigned cs
  let positive (cs : List Char) : Bool := isLooseNumber cs && cs.head? != some '0'
  match body with
  | ['0'] => true
  | '0' :: 'b' :: c :: rest => (c :: rest).all fun c => c == '0' || c == '1' || c == '_'
  | '0' :: 'x' :: c :: rest =>
    (c :: rest).all fun c =>
      c.isDigit || ('a' ≤ c && c ≤ 'f') || ('A' ≤ c && c ≤ 'F') || c == '_'
  | '0' :: c :: rest => (c :: rest).all fun c => ('0' ≤ c && c ≤ '7') || c == '_'
  | body => match colonParts body with
    | [number] => positive number
    | first :: others => positive first && others.all isSixtieth
    | [] => false

end Form

/-- The type that the form of a plain scalar shows. A line feed at its end does not count. -/
def Kind.ofPlain (text : List Char) : Kind :=
  if text = ['\n'] then .text
  else
    let cs := Timestamp.chomp text
    let word := String.ofList cs
    if Form.truthWords.contains word then .bool
    else if Form.isDouble cs then .float
    else if Form.isInteger cs then .int
    else if word = "<<" then .merge
    else if Form.nullWords.contains word then .null
    else if Timestamp.isPlain text then .timestamp
    else if word = "=" then .value
    else if ["!", "&", "*"].contains word then .mark
    else .text

end Stencil.Yaml
