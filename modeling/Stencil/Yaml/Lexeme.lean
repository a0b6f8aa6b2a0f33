import Stencil.Code.Number
import Stencil.Yaml.Cursor
import Stencil.Yaml.Token

/-!
# Reading lexemes

How the tokens that hold text are read: directives, anchors and aliases, tags,
block scalars, quoted scalars and plain scalars. Every reader starts at the
first character of its lexeme and stops behind the last.

Scalars that go over several lines are folded: a single line end becomes a
space, further ones stay. Loops over lines are bounded by the length of the
text.
-/

namespace Stencil.Yaml

namespace Scan

/-- Read the name of an anchor, an alias or a directive. -/
def name (lexeme : Lexeme) : Scan String := do
  let taken ← takeWhile isNameChar
  if taken.isEmpty then throw (.scanning lexeme)
  return String.ofList taken

/-! ## Tags -/

/-- A character of a tag's address. -/
def isAddressChar (c : Char) : Bool :=
  c.isAlphanum || "-;/?:@&=+$,_.!~*'()[]%".toList.contains c

/-- The number that two hexadecimal digits write, if two stand here. -/
def hexPair? (first second : Char) : Option Nat :=
  let digit (c : Char) : Nat :=
    if c.isDigit then c.toNat - 48 else c.toLower.toNat - 87
  if isHexDigit first && isHexDigit second then some (digit first * 16 + digit second) else none

/-- Read the bytes that are written behind percent signs. -/
def escapedBytes (lexeme : Lexeme) : Nat → Scan (List UInt8)
  | 0 => return []
  | fuel + 1 => do
    let cursor ← get
    if cursor.peek 0 ≠ '%' then return []
    match hexPair? (cursor.peek 1) (cursor.peek 2) with
    | none => throw (.scanning lexeme)
    | some byte =>
      skip 3
      return UInt8.ofNat byte :: (← escapedBytes lexeme fuel)

/-- Read a tag's address in pieces, runs of escaped bytes among them. -/
def addressPieces (lexeme : Lexeme) : Nat → Scan (List Char)
  | 0 => return []
  | fuel + 1 => do
    let taken ← takeWhile fun c => isAddressChar c && c != '%'
    if (← peek) = '%' then
      let bytes ← escapedBytes lexeme (← get).rest.length
      match Text.decode bytes with
      | .error _ => throw (.scanning lexeme)
      | .ok written => return taken ++ written ++ (← addressPieces lexeme fuel)
    else return taken

/-- Read a tag's address, which is not empty. -/
def address (lexeme : Lexeme) : Scan String := do
  let cursor ← get
  let written ← addressPieces lexeme (cursor.rest.length + 1)
  if cursor.index = (← get).index then throw (.noAddress lexeme)
  return String.ofList written

/-- Read a tag's handle: an exclamation mark, or a name between two. -/
def handle (lexeme : Lexeme) : Scan String := do
  let cursor ← get
  if cursor.peek 0 ≠ '!' then throw (.scanning lexeme)
  if cursor.peek 1 = ' ' then
    skip 1
    return "!"
  let length := (cursor.rest.drop 1 |>.takeWhile isNameChar).length
  if cursor.peek (length + 1) ≠ '!' then throw (.scanning lexeme)
  skip (length + 2)
  return String.ofList (cursor.ahead (length + 2))

/-- Read a tag. -/
def tag : Scan Token := do
  let cursor ← get
  let c := cursor.peek 1
  let token ←
    if c = '<' then do
      skip 2
      let written ← address .tag
      if (← peek) ≠ '>' then throw (.noAddress .tag)
      skip 1
      pure (Token.tag none written)
    else if isBlankOrEnd c then do
      skip 1
      pure (Token.tag none "!")
    else do
      let word := (cursor.rest.drop 1).takeWhile (!isSpaceOrEnd ·)
      let mark ← if word.contains '!' then handle .tag else do
        skip 1
        pure "!"
      pure (Token.tag (some mark) (← address .tag))
  if !isSpaceOrEnd (← peek) then throw (.scanning .tag)
  return token

/-! ## Anchors and directives -/

/-- Read the name behind the mark of an anchor or an alias. -/
def anchorName (lexeme : Lexeme) : Scan String := do
  skip 1
  let written ← name lexeme
  let c ← peek
  if isBlankOrEnd c || "?:,]\x7d%@`".toList.contains c then return written
  else throw (.scanning lexeme)

/-- Read a number of a version. -/
def versionNumber : Scan Nat := do
  let digits ← takeWhile Char.isDigit
  if digits.isEmpty then throw (.scanning .directive)
  match Code.intOfText 10 digits with
  | .ok number => return number.toNat
  | .error fault => throw (.value fault)

/-- Read a directive with the rest of its line. -/
def directive : Scan Token := do
  skip 1
  let word ← name .directive
  if !isSpaceOrEnd (← peek) then throw (.scanning .directive)
  let read ←
    if word = "YAML" then do
      spaces
      let major ← versionNumber
      if (← peek) ≠ '.' then throw (.scanning .directive)
      skip 1
      let _ ← versionNumber
      if !isSpaceOrEnd (← peek) then throw (.scanning .directive)
      pure (Directive.version major)
    else if word = "TAG" then do
      spaces
      let mark ← handle .directive
      if (← peek) ≠ ' ' then throw (.scanning .directive)
      spaces
      let written ← address .directive
      if !isSpaceOrEnd (← peek) then throw (.scanning .directive)
      pure (Directive.handle mark written)
    else do
      let _ ← takeWhile (!isLineEnd ·)
      pure Directive.other
  restOfLine .directive
  return .directive read

/-! ## Block scalars -/

/-- What is kept of the line ends behind a block scalar. -/
inductive Chomping where
  | strip
  | clip
  | keep
deriving DecidableEq

/-- Read a chomping mark, if one is here. -/
def chomping : Scan (Option Chomping) := do
  match ← peek with
  | '+' =>
    skip 1
    return some .keep
  | '-' =>
    skip 1
    return some .strip
  | _ => return none

/-- Read an indentation mark, if one is here. -/
def increment : Scan (Option Nat) := do
  let c ← peek
  if c.isDigit then
    if c = '0' then throw (.scanning .blockScalar)
    skip 1
    return some (c.toNat - 48)
  else return none

/-- Read the two marks of a block scalar in either order, and the rest of the line. -/
def blockHeader : Scan (Chomping × Option Nat) := do
  let first ← chomping
  let width ← increment
  let second ← if first.isSome then pure none else if width.isSome then chomping else pure none
  if !isSpaceOrEnd (← peek) then throw (.scanning .blockScalar)
  restOfLine .blockScalar
  return ((first <|> second).getD .clip, width)

/-- Read the empty lines before a block scalar whose indentation is not given: their line ends,
and the greatest column reached. -/
def leadingLines (deepest : Nat) : Nat → Scan (List Char × Nat)
  | 0 => return ([], deepest)
  | fuel + 1 => do
    let c ← peek
    if c = ' ' then
      skip 1
      leadingLines (max deepest (← get).column) fuel
    else if isBreak c then
      let ended ← lineBreak
      let (others, deepest) ← leadingLines deepest fuel
      return (ended ++ others, deepest)
    else return ([], deepest)

/-- Skip spaces up to a column. -/
def indentTo (column : Nat) : Scan Unit := do
  let cursor ← get
  skip (min (column - cursor.column) (cursor.count (· == ' ')))

/-- Read empty lines inside a block scalar, up to its column in the next line that is not. -/
def emptyLines (column : Nat) : Nat → Scan (List Char)
  | 0 => return []
  | fuel + 1 => do
    indentTo column
    if isBreak (← peek) then
      let ended ← lineBreak
      return ended ++ (← emptyLines column fuel)
    else return []

/-- Read the lines of a block scalar at its column, the line ends before them given. Also returns
the last line end and the empty lines behind it. -/
def blockLines (folded : Bool) (column : Nat) (before : List Char) :
    Nat → Scan (List Char × List Char × List Char)
  | 0 => return (before, [], [])
  | fuel + 1 => do
    let starts ← peek
    let line ← takeWhile (!isLineEnd ·)
    let ended ← lineBreak
    let empty ← emptyLines column ((← get).rest.length + 1)
    let cursor ← get
    if cursor.column = column ∧ cursor.peek 0 ≠ nul then
      let blank (c : Char) : Bool := c == ' ' || c == '\t'
      let joins := folded && ended == ['\n'] && !blank starts && !blank (cursor.peek 0)
      let joint := if joins then (if empty.isEmpty then [' '] else []) else ended
      let (text, last, trailing) ← blockLines folded column (joint ++ empty) fuel
      return (before ++ line ++ text, last, trailing)
    else return (before ++ line, ended, empty)

/-- Read a block scalar inside a given indentation. -/
def blockScalar (folded : Bool) (indent : Int) : Scan Token := do
  skip 1
  let (chomp, width) ← blockHeader
  let least := (max (indent + 1) 1).toNat
  let fuel := (← get).rest.length + 1
  let (breaks, column) ← match width with
    | none => do
      let (breaks, deepest) ← leadingLines 0 fuel
      pure (breaks, max least deepest)
    | some width => do
      let column := least + width - 1
      pure (← emptyLines column fuel, column)
  let cursor ← get
  let (text, last, trailing) ←
    if cursor.column = column ∧ cursor.peek 0 ≠ nul then blockLines folded column breaks fuel
    else pure ([], [], breaks)
  let closing := match chomp with
    | .strip => []
    | .clip => last
    | .keep => last ++ trailing
  return .scalar (String.ofList (text ++ closing)) false

/-! ## Quoted scalars -/

/-- The character that an escape of one letter stands for. -/
def escaped? (c : Char) : Option Char :=
  match c with
  | '0' => some nul
  | 'a' => some (Char.ofNat 7)
  | 'b' => some (Char.ofNat 8)
  | 't' => some '\t'
  | '\t' => some '\t'
  | 'n' => some '\n'
  | 'v' => some (Char.ofNat 11)
  | 'f' => some (Char.ofNat 12)
  | 'r' => some '\r'
  | 'e' => some (Char.ofNat 27)
  | ' ' => some ' '
  | '"' => some '"'
  | '\\' => some '\\'
  | '/' => some '/'
  | 'N' => some (Char.ofNat 0x85)
  | '_' => some (Char.ofNat 0xA0)
  | 'L' => some (Char.ofNat 0x2028)
  | 'P' => some (Char.ofNat 0x2029)
  | _ => none

/-- The number of hexadecimal digits that an escape takes. -/
def escapeWidth? (c : Char) : Option Nat :=
  match c with
  | 'x' => some 2
  | 'u' => some 4
  | 'U' => some 8
  | _ => none

/-- Read the line ends between two lines of a quoted scalar. A document mark must not come here. -/
def quotedBreaks : Nat → Scan (List Char)
  | 0 => return []
  | fuel + 1 => do
    if (← get).atDocumentMark then throw (.scanning .quoted)
    let _ ← takeWhile fun c => c == ' ' || c == '\t'
    if isBreak (← peek) then
      let ended ← lineBreak
      return ended ++ (← quotedBreaks fuel)
    else return []

/-- Read an escape behind its backslash. -/
def escape : Scan (List Char) := do
  let cursor ← get
  let c := cursor.peek 0
  match escaped? c, escapeWidth? c with
  | some written, _ =>
    skip 1
    return [written]
  | none, some width =>
    let digits := (cursor.rest.drop 1).take width
    if digits.length < width || !digits.all isHexDigit then throw (.scanning .doubleQuoted)
    let code := digits.foldl (fun total d => total * 16 + (hexPair? '0' d).getD 0) 0
    if 0x80000000 ≤ code then throw (.value .wordTooLarge)
    if 0x110000 ≤ code then throw (.value (.outOfRange "chr() arg not in range(0x110000)"))
    skip (width + 1)
    return [Char.ofNat code]
  | none, none =>
    if isBreak c then
      let _ ← lineBreak
      quotedBreaks cursor.rest.length
    else throw (.scanning .doubleQuoted)

/-- Read a quoted scalar up to a blank, a line end or its closing quote. -/
def quotedWord (double : Bool) : Nat → Scan (List Char)
  | 0 => return []
  | fuel + 1 => do
    let taken ← takeWhile fun c => !(c == '\'' || c == '"' || c == '\\' || isBlankOrEnd c)
    let cursor ← get
    let c := cursor.peek 0
    if !double && c == '\'' && cursor.peek 1 == '\'' then
      skip 2
      return taken ++ '\'' :: (← quotedWord double fuel)
    else if (double && c == '\'') || (!double && (c == '"' || c == '\\')) then
      skip 1
      return taken ++ c :: (← quotedWord double fuel)
    else if double && c == '\\' then
      skip 1
      let written ← escape
      return taken ++ written ++ (← quotedWord double fuel)
    else return taken

/-- Read the blanks inside a quoted scalar; with a line end among them they are folded. -/
def quotedGap : Scan (List Char) := do
  let blanks ← takeWhile fun c => c == ' ' || c == '\t'
  let c ← peek
  if c = nul then throw (.scanning .quoted)
  if isBreak c then
    let ended ← lineBreak
    let others ← quotedBreaks ((← get).rest.length + 1)
    if ended ≠ ['\n'] then return ended ++ others
    else if others.isEmpty then return [' ']
    else return others
  else return blanks

/-- Read words and gaps up to the closing quote. -/
def quotedRest (double : Bool) (mark : Char) : Nat → Scan (List Char)
  | 0 => return []
  | fuel + 1 => do
    let cursor ← get
    let word ← quotedWord double (cursor.rest.length + 1)
    if (← peek) = mark then return word
    let gap ← quotedGap
    return word ++ gap ++ (← quotedRest double mark fuel)

/-- Read a quoted scalar. -/
def quotedScalar (double : Bool) : Scan Token := do
  let mark ← peek
  skip 1
  let text ← quotedRest double mark ((← get).rest.length + 1)
  skip 1
  return .scalar (String.ofList text) false

/-! ## Plain scalars -/

/-- What stands between two words of a plain scalar: nothing more to come, or the text that joins
them. -/
inductive Joint where
  | ends
  | text (joint : List Char)

/-- Read the line ends between two lines of a plain scalar; none if a document mark comes. -/
def plainBreaks : Nat → Scan (Option (List Char))
  | 0 => return some []
  | fuel + 1 => do
    if (← get).atDocumentMark then return none
    spaces
    if isBreak (← peek) then
      let ended ← lineBreak
      return (← plainBreaks fuel).map (ended ++ ·)
    else return some []

/-- Read the blanks behind a word of a plain scalar, and whether a line ended among them. -/
def plainGap : Scan (Joint × Bool) := do
  let blanks ← takeWhile (· == ' ')
  if isBreak (← peek) then
    let ended ← lineBreak
    match ← plainBreaks ((← get).rest.length + 1) with
    | none => return (.ends, true)
    | some others =>
      if ended ≠ ['\n'] then return (.text (ended ++ others), true)
      else if others.isEmpty then return (.text [' '], true)
      else return (.text others, true)
  else if blanks.isEmpty then return (.ends, false)
  else return (.text blanks, false)

/-- The word of a plain scalar that starts here. In flow collections the brackets and commas end
it too. -/
def plainWord (flow : Bool) : List Char → List Char
  | [] => []
  | c :: rest =>
    let next := rest.head?.getD nul
    let ends :=
      isBlankOrEnd c ||
        (c == ':' && (isBlankOrEnd next || (flow && ",[]\x7b\x7d".toList.contains next))) ||
        (flow && ",?[]\x7b\x7d".toList.contains c)
    if ends then [] else c :: plainWord flow rest

/-- Read the words of a plain scalar, the joint before them given. Also returns whether the scalar
ended behind a line end. -/
def plainWords (flow : Bool) (indent : Int) (joint : List Char) (newLine : Bool) :
    Nat → Scan (List Char × Bool)
  | 0 => return ([], newLine)
  | fuel + 1 => do
    let cursor ← get
    let word := if cursor.peek 0 = '#' then [] else plainWord flow cursor.rest
    if word.isEmpty then return ([], newLine)
    skip word.length
    let (gap, ended) ← plainGap
    let cursor ← get
    match gap with
    | .ends => return (joint ++ word, ended)
    | .text gap =>
      if cursor.peek 0 = '#' ∨ (!flow ∧ cursor.column < indent) then
        return (joint ++ word, ended)
      let (others, ended) ← plainWords flow indent gap ended fuel
      return (joint ++ word ++ others, ended)

/-- Read a plain scalar inside a given indentation. Also returns whether it ended behind a line
end, where a simple key may start. -/
def plainScalar (flow : Bool) (indent : Int) : Scan (Token × Bool) := do
  let (text, newLine) ← plainWords flow (indent + 1) [] false ((← get).rest.length + 1)
  return (.scalar (String.ofList text) true, newLine)

end Scan

end Stencil.Yaml
