import Stencil.Text.Printable

/-!
# Quoted texts

Two ways to write a text between quotes.

* `quote` writes double quotes. The quote, the backslash and the controls below
  `U+0020` are escaped; everything else, non-ASCII included, stands for itself.
  The result never holds a line break.
* `display` writes the text for a reader: single quotes, unless the text holds
  a single quote and no double quote. Every character that is not printable is
  written by its number. `displayBytes` does the same for a byte string.
-/

namespace Stencil.Text

/-- A hexadecimal digit, in lower case. -/
def hexDigit (n : Nat) : Char := if n < 10 then Char.ofNat (48 + n) else Char.ofNat (87 + n)

/-- The last `width` hexadecimal digits of a number. -/
def hex : (width : Nat) → Nat → List Char
  | 0, _ => []
  | width + 1, n => hex width (n / 16) ++ [hexDigit (n % 16)]

/-- How a character is written between double quotes. -/
def quoteChar (c : Char) : List Char :=
  if c = '"' then ['\\', '"']
  else if c = '\\' then ['\\', '\\']
  else if c = '\n' then ['\\', 'n']
  else if c = '\r' then ['\\', 'r']
  else if c = '\t' then ['\\', 't']
  else if c.toNat = 0xC then ['\\', 'f']
  else if c.toNat = 0x8 then ['\\', 'b']
  else if c.toNat < 0x20 then '\\' :: 'u' :: hex 4 c.toNat
  else [c]

/-- A text between double quotes. -/
def quote (cs : List Char) : List Char := '"' :: (cs.flatMap quoteChar ++ ['"'])

/-- The quote that `display` puts around a text: double only if that saves escaping. -/
def displayMark (cs : List Char) : Char :=
  if cs.contains '\'' && !cs.contains '"' then '"' else '\''

/-- How a character is displayed between the given quotes. -/
def displayChar (mark c : Char) : List Char :=
  if c = mark then ['\\', c]
  else if c = '\\' then ['\\', '\\']
  else if c = '\n' then ['\\', 'n']
  else if c = '\r' then ['\\', 'r']
  else if c = '\t' then ['\\', 't']
  else if isPrintable c then [c]
  else if c.toNat < 0x100 then '\\' :: 'x' :: hex 2 c.toNat
  else if c.toNat < 0x10000 then '\\' :: 'u' :: hex 4 c.toNat
  else '\\' :: 'U' :: hex 8 c.toNat

/-- A text as it is shown inside messages and lists. -/
def displayChars (cs : List Char) : List Char :=
  displayMark cs :: (cs.flatMap (displayChar (displayMark cs)) ++ [displayMark cs])

/-- A text as it is shown inside messages and lists. -/
def display (text : String) : String := String.ofList (displayChars text.toList)

/-- How a byte is displayed between the given quotes. -/
def displayByte (mark : Char) (byte : UInt8) : List Char :=
  let c := Char.ofNat byte.toNat
  if c = mark then ['\\', c]
  else if c = '\\' then ['\\', '\\']
  else if c = '\n' then ['\\', 'n']
  else if c = '\r' then ['\\', 'r']
  else if c = '\t' then ['\\', 't']
  else if 0x20 ≤ byte.toNat ∧ byte.toNat < 0x7F then [c]
  else '\\' :: 'x' :: hex 2 byte.toNat

/-- A byte string as it is shown inside messages and lists. -/
def displayBytes (bytes : List UInt8) : String :=
  let mark := displayMark (bytes.map fun byte => Char.ofNat byte.toNat)
  String.ofList ('b' :: mark :: (bytes.flatMap (displayByte mark) ++ [mark]))

end Stencil.Text
