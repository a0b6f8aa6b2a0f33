import Stencil.Yaml.Lexeme

/-!
# Cutting YAML into tokens

Indentation opens and closes block collections, and a mapping's key need not be
marked: whether a token starts a *simple key* shows only when a colon follows it
on the same line. Until then the tokens from it on are held back, and if the
colon comes, the marks of a mapping and of a key are put before it.

`tokens` gives the tokens in the order in which they are released, and the
fault, if there is one, behind those that are released before it is met. So a
reader who looks at one token at a time meets faults in the order of the text.
-/

namespace Stencil.Yaml

/-- A token that may turn out to be a key: its number, where it stands, and whether the colon has
to come. -/
structure SimpleKey where
  number : Nat
  index : Nat
  line : Nat
  column : Nat
  required : Bool
deriving Repr

/-- The state between tokens. -/
structure Scanner where
  cursor : Cursor
  /-- Tokens found and not yet released. -/
  held : List Token
  /-- How many tokens were released. -/
  released : Nat
  /-- How many flow collections are open. -/
  flow : Int
  /-- The column of the innermost block collection, and those of the ones around it. -/
  indent : Int
  indents : List Int
  /-- Whether a simple key may start here. -/
  keyAllowed : Bool
  /-- The possible simple keys by the flow collections around them. -/
  keys : List (Int × SimpleKey)
  /-- Whether the end of the text is reached. -/
  done : Bool
deriving Repr

namespace Scanner

/-- The state before a text. -/
def start (text : List Char) : Scanner :=
  ⟨⟨text, 0, 0, 0⟩, [], 0, 0, -1, [], true, [], false⟩

/-- Steps between tokens. -/
abbrev Step (α : Type) := StateT Scanner (Except Fault) α

/-- Run a reading step at the scanner's place. -/
def reading {α : Type} (scan : Scan α) : Step α := do
  let state ← get
  match scan state.cursor with
  | .error fault => throw fault
  | .ok (result, cursor) =>
    set { state with cursor }
    return result

/-- Hold a token. -/
def hold (token : Token) : Step Unit := modify fun s => { s with held := s.held ++ [token] }

/-- Forget possible keys of earlier lines and of long ago. One that had to come is a fault. -/
def dropStaleKeys : Step Unit := do
  let s ← get
  let stale (key : SimpleKey) : Bool :=
    key.line != s.cursor.line || key.index + 1024 < s.cursor.index
  if s.keys.any fun entry => stale entry.2 && entry.2.required then
    throw (.scanning .simpleKey)
  set { s with keys := s.keys.filter fun entry => !stale entry.2 }

/-- Forget the possible key of this flow collection. -/
def dropKey : Step Unit := do
  let s ← get
  match s.keys.lookup s.flow with
  | none => pure ()
  | some key =>
    if key.required then throw (.scanning .simpleKey)
    set { s with keys := s.keys.filter (·.1 != s.flow) }

/-- Note that a simple key may start here. -/
def saveKey : Step Unit := do
  let s ← get
  if s.keyAllowed then
    dropKey
    let required := s.flow == 0 && s.indent == (s.cursor.column : Int)
    let key : SimpleKey :=
      ⟨s.released + s.held.length, s.cursor.index, s.cursor.line, s.cursor.column, required⟩
    modify fun s => { s with keys := s.keys ++ [(s.flow, key)] }

/-- Allow or forbid a simple key. -/
def allowKey (allowed : Bool) : Step Unit := modify fun s => { s with keyAllowed := allowed }

/-- Close the block collections that are indented deeper than a column. -/
def closeTo (column : Int) : Nat → Step Unit
  | 0 => pure ()
  | fuel + 1 => do
    let s ← get
    if s.flow = 0 ∧ column < s.indent then
      set { s with indent := s.indents.head?.getD (-1), indents := s.indents.tail }
      hold .blockEnd
      closeTo column fuel

/-- Close the block collections that are indented deeper than a column. -/
def unwind (column : Int) : Step Unit := do closeTo column ((← get).indents.length + 1)

/-- Make a column the innermost indentation, if it is deeper. -/
def deepen (column : Nat) : Step Bool := do
  let s ← get
  if s.indent < column then
    set { s with indent := column, indents := s.indent :: s.indents }
    return true
  else return false

/-- Skip blanks, comments and line ends. Outside of flow collections a key may start on a new
line. -/
def skipToToken : Nat → Step Unit
  | 0 => pure ()
  | fuel + 1 => do
    reading Scan.spaces
    reading Scan.comment
    if (← reading Scan.lineBreak) ≠ [] then
      if (← get).flow = 0 then allowKey true
      skipToToken fuel

/-- Read one character as a token. -/
def character (token : Token) : Step Unit := do
  reading (Scan.skip 1)
  hold token

/-- End the text. -/
def endStream : Step Unit := do
  unwind (-1)
  dropKey
  modify fun s => { s with keyAllowed := false, keys := [], done := true }
  hold .streamEnd

/-- Read a token at the start of a line that ends all block collections. -/
def outermost (scan : Scan Token) : Step Unit := do
  unwind (-1)
  dropKey
  allowKey false
  hold (← reading scan)

/-- Open a flow collection. -/
def openFlow (token : Token) : Step Unit := do
  saveKey
  modify fun s => { s with flow := s.flow + 1, keyAllowed := true }
  character token

/-- Close a flow collection. -/
def closeFlow (token : Token) : Step Unit := do
  dropKey
  modify fun s => { s with flow := s.flow - 1, keyAllowed := false }
  character token

/-- Go on to the next entry of a flow collection. -/
def flowEntry : Step Unit := do
  allowKey true
  dropKey
  character .flowEntry

/-- Open a block collection here, unless one is open at this column. -/
def openBlock (fault : Fault) (token : Token) : Step Unit := do
  let s ← get
  if s.flow = 0 then
    if !s.keyAllowed then throw fault
    if ← deepen s.cursor.column then hold token

/-- Go on to the next entry of a block sequence. -/
def blockEntry : Step Unit := do
  openBlock .entryNotAllowed .blockSequenceStart
  allowKey true
  dropKey
  character .blockEntry

/-- Read the mark of a key. -/
def markedKey : Step Unit := do
  openBlock .keyNotAllowed .blockMappingStart
  allowKey ((← get).flow == 0)
  dropKey
  character .key

/-- Read the mark of a value. A possible key before it becomes one. -/
def mappingValue : Step Unit := do
  let s ← get
  match s.keys.lookup s.flow with
  | some key =>
    let place := key.number - s.released
    set { s with
      keys := s.keys.filter (·.1 != s.flow)
      held := s.held.insertIdx place .key }
    if s.flow = 0 then
      if ← deepen key.column then
        modify fun s => { s with held := s.held.insertIdx place .blockMappingStart }
    allowKey false
  | none =>
    openBlock .valueNotAllowed .blockMappingStart
    allowKey (s.flow == 0)
    dropKey
  character .value

/-- Read a token that may be a simple key. -/
def keyed (scan : Scan Token) : Step Unit := do
  saveKey
  allowKey false
  hold (← reading scan)

/-- Read a plain scalar, behind which a key may start if it ended with its line. -/
def plain : Step Unit := do
  saveKey
  let s ← get
  let (token, newLine) ← reading (Scan.plainScalar (s.flow != 0) s.indent)
  allowKey newLine
  hold token

/-- Read a block scalar. -/
def block (folded : Bool) : Step Unit := do
  allowKey true
  dropKey
  hold (← reading (Scan.blockScalar folded (← get).indent))

/-- A character that no plain scalar starts with, unless another follows it closely. -/
def isIndicator (c : Char) : Bool :=
  isBlankOrEnd c || "-?:,[]\x7b\x7d#&*!|>'\"%@`".toList.contains c

/-- Whether a plain scalar starts here. -/
def startsPlain (s : Scanner) : Bool :=
  let c := s.cursor.peek 0
  !isIndicator c ||
    (!isBlankOrEnd (s.cursor.peek 1) && (c == '-' || (s.flow == 0 && (c == '?' || c == ':'))))

/-- Find the next tokens. -/
def fetch : Step Unit := do
  let s ← get
  if s.cursor.index = 0 ∧ (s.cursor.peek 0).toNat = 0xFEFF then reading (Scan.skip 1)
  skipToToken ((← get).cursor.rest.length + 1)
  dropStaleKeys
  unwind (← get).cursor.column
  let s ← get
  let c := s.cursor.peek 0
  let lineStart := s.cursor.column = 0
  let inFlow := s.flow ≠ 0
  let spaced := isBlankOrEnd (s.cursor.peek 1)
  let mark (token : Token) : Scan Token := do
    Scan.skip 3
    return token
  if c = nul then endStream
  else if c = '%' ∧ lineStart then outermost Scan.directive
  else if lineStart ∧ s.cursor.atMark '-' then outermost (mark .documentStart)
  else if lineStart ∧ s.cursor.atMark '.' then outermost (mark .documentEnd)
  else if c = '[' then openFlow .flowSequenceStart
  else if c = '\x7b' then openFlow .flowMappingStart
  else if c = ']' then closeFlow .flowSequenceEnd
  else if c = '\x7d' then closeFlow .flowMappingEnd
  else if c = ',' then flowEntry
  else if c = '-' ∧ spaced then blockEntry
  else if c = '?' ∧ (inFlow ∨ spaced) then markedKey
  else if c = ':' ∧ (inFlow ∨ spaced) then mappingValue
  else if c = '*' then keyed (.aliasName <$> Scan.anchorName .aliasName)
  else if c = '&' then keyed (.anchor <$> Scan.anchorName .anchor)
  else if c = '!' then keyed Scan.tag
  else if c = '|' ∧ !inFlow then block false
  else if c = '>' ∧ !inFlow then block true
  else if c = '\'' then keyed (Scan.quotedScalar false)
  else if c = '"' then keyed (Scan.quotedScalar true)
  else if s.startsPlain then plain
  else throw (.scanning .nextToken)

/-- Whether the first held token may still turn out to be a key. -/
def pending (s : Scanner) : Bool := s.keys.any fun entry => entry.2.number == s.released

/-- Whether more has to be read before a token can be released. -/
def waiting : Step Bool := do
  let s ← get
  if s.done then return false
  if s.held.isEmpty then return true
  dropStaleKeys
  return (← get).pending

/-- Release tokens one by one, reading on when none can be released. -/
def release : Nat → Scanner → List Token × Option Fault
  | 0, _ => ([], some .nestedTooDeep)
  | fuel + 1, s =>
    match waiting s with
    | .error fault => ([], some fault)
    | .ok (true, s) => match fetch s with
      | .error fault => ([], some fault)
      | .ok (_, s) => release fuel s
    | .ok (false, s) => match s.held with
      | [] => ([], none)
      | token :: held =>
        let (tokens, fault) := release fuel { s with held, released := s.released + 1 }
        (token :: tokens, fault)

end Scanner

/-- The tokens of a text, and the fault behind them. Every character gives at most a few tokens, so
the bound is never met. -/
def tokens (text : List Char) : List Token × Option Fault :=
  Scanner.release (16 * text.length + 64) (.start text)

end Stencil.Yaml
