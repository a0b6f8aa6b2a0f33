import Stencil.Yaml.Fault

/-!
# A place in a YAML text

A cursor is the text still to be read together with the line and column it is
at and the number of characters before it. `Scan` is the monad of reading
steps. Behind the text stands an endless row of NUL characters, which no text
can hold.
-/

namespace Stencil.Yaml

/-- The character that stands behind the text. -/
def nul : Char := Char.ofNat 0

/-- A character that ends a line. -/
def isBreak (c : Char) : Bool :=
  c == '\n' || c == '\r' || c.toNat == 0x85 || c.toNat == 0x2028 || c.toNat == 0x2029

/-- The end of a line or of the text. -/
def isLineEnd (c : Char) : Bool := c == nul || isBreak c

/-- A space, or the end of a line or of the text. -/
def isSpaceOrEnd (c : Char) : Bool := c == ' ' || isLineEnd c

/-- A blank, or the end of a line or of the text. -/
def isBlankOrEnd (c : Char) : Bool := c == '\t' || isSpaceOrEnd c

/-- A character of an anchor's, a directive's or a handle's name. -/
def isNameChar (c : Char) : Bool := c.isAlphanum || c == '-' || c == '_'

/-- A hexadecimal digit. -/
def isHexDigit (c : Char) : Bool :=
  c.isDigit || ('a' ≤ c && c ≤ 'f') || ('A' ≤ c && c ≤ 'F')

/-- A place in a text. -/
structure Cursor where
  rest : List Char
  index : Nat
  line : Nat
  column : Nat
deriving Repr

namespace Cursor

/-- The character that comes after `offset` others. -/
def peek (cursor : Cursor) (offset : Nat) : Char := cursor.rest[offset]?.getD nul

/-- The number of next characters that satisfy a condition. -/
def count (cursor : Cursor) (p : Char → Bool) : Nat := (cursor.rest.takeWhile p).length

/-- The next characters. -/
def ahead (cursor : Cursor) (length : Nat) : List Char := cursor.rest.take length

/-- The place behind the next character. A byte order mark takes no column. -/
def step (cursor : Cursor) : Cursor :=
  match cursor.rest with
  | [] => cursor
  | c :: rest =>
    let ends := isBreak c && !(c == '\r' && rest.head? == some '\n')
    if ends then ⟨rest, cursor.index + 1, cursor.line + 1, 0⟩
    else if c.toNat = 0xFEFF then { cursor with rest, index := cursor.index + 1 }
    else { cursor with rest, index := cursor.index + 1, column := cursor.column + 1 }

/-- The place behind the next characters. -/
def advance (cursor : Cursor) : Nat → Cursor
  | 0 => cursor
  | n + 1 => cursor.step.advance n

/-- Whether a document mark stands here: three equal characters with a blank behind them. -/
def atMark (cursor : Cursor) (c : Char) : Bool :=
  cursor.ahead 3 == [c, c, c] && isBlankOrEnd (cursor.peek 3)

/-- Whether a line here would start or end a document. -/
def atDocumentMark (cursor : Cursor) : Bool := cursor.atMark '-' || cursor.atMark '.'

end Cursor

/-- Reading steps. -/
abbrev Scan (α : Type) := StateT Cursor (Except Fault) α

namespace Scan

/-- The next character. -/
def peek : Scan Char := return (← get).peek 0

/-- Go behind the next characters. -/
def skip (count : Nat) : Scan Unit := modify (·.advance count)

/-- Take the next characters that satisfy a condition. -/
def takeWhile (p : Char → Bool) : Scan (List Char) := do
  let taken := (← get).rest.takeWhile p
  skip taken.length
  return taken

/-- Skip spaces. -/
def spaces : Scan Unit := discard (takeWhile (· == ' '))

/-- Take a line end, if one is here. The usual ones are read as a line feed. -/
def lineBreak : Scan (List Char) := do
  let cursor ← get
  let c := cursor.peek 0
  if c = '\r' ∧ cursor.peek 1 = '\n' then
    skip 2
    return ['\n']
  else if c = '\n' ∨ c = '\r' ∨ c.toNat = 0x85 then
    skip 1
    return ['\n']
  else if isBreak c then
    skip 1
    return [c]
  else return []

/-- Skip a comment, if one is here. -/
def comment : Scan Unit := do
  if (← peek) = '#' then discard (takeWhile (!isLineEnd ·))

/-- Skip the rest of a line, which may hold spaces and a comment and nothing else. -/
def restOfLine (lexeme : Lexeme) : Scan Unit := do
  spaces
  comment
  if !isLineEnd (← peek) then throw (.scanning lexeme)
  discard lineBreak

end Scan

end Stencil.Yaml
