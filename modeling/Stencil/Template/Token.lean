import Stencil.Text.Digit
import Stencil.Text.Quoted
import Stencil.Template.Location

/-!
# Tokens

A template's text is cut into names, numbers, quoted strings, operators and raw
lines. Blanks, line ends and comments separate tokens and are dropped. Every
token carries the location of its first character.

The word `raw` in statement position opens a raw line: the rest of its line is
one token, without the white space around it. `raw` is an ordinary name where a
name is expected (after an opening parenthesis, a comma, an equals sign, a
dollar sign, `def`, `if` or `return`) and before a single equals sign.

`tokenize` cuts off one `Piece` after the other; a piece is never empty, so the
text gets shorter.
-/

namespace Stencil.Template

/-- The kinds of tokens. -/
inductive TokenKind where
  | name
  | number
  | string
  | op
  | raw
deriving DecidableEq, Repr

/-- A token with the location of its first character. -/
structure Token where
  kind : TokenKind
  text : String
  location : Location
deriving DecidableEq, Repr

/-- The tokens of a text, and the location behind its last character. -/
structure Tokens where
  items : List Token
  stop : Location
deriving DecidableEq, Repr

/-- Whether a token is the given operator. -/
def Token.isOp (token : Token) (text : String) : Bool := token.kind == .op && token.text == text

/-- Whether a token is the given name. -/
def Token.isName (token : Token) (text : String) : Bool := token.kind == .name && token.text == text

/-- A blank inside a line. -/
def isGap (c : Char) : Bool := c == ' ' || c == '\t' || c == '\r'

/-- A character that does not end a line. -/
def inLine (c : Char) : Bool := c != '\n'

/-- A character that can start a name: an ASCII letter or an underscore. -/
def isNameStart (c : Char) : Bool := c.isAlpha || c == '_'

/-- A character that can go on with a name. -/
def isNameRest (c : Char) : Bool := isNameStart c || c.isDigit

/-- The operators of one character. -/
def isOperator (c : Char) : Bool := "()\x7b\x7d:,=*$".toList.contains c

/-- What a piece of text is. -/
inductive PieceKind where
  | lineEnd
  | gap
  | token (kind : TokenKind)
deriving DecidableEq, Repr

/-- The piece that a text starts with, and the text behind it. -/
structure Piece where
  kind : PieceKind
  text : List Char
  rest : List Char
deriving DecidableEq, Repr

/-- The rest of a quoted string with its closing quote, and the text behind it. A backslash takes
the next character of the line with it; the string ends on its line. -/
def stringRest? (mark : Char) : List Char → Option (List Char × List Char)
  | [] => none
  | '\\' :: c :: rest =>
    if c = '\n' then none
    else (stringRest? mark rest).map fun (text, rest) => ('\\' :: c :: text, rest)
  | c :: rest =>
    if c = mark then some ([c], rest)
    else if c = '\\' ∨ c = '\n' then none
    else (stringRest? mark rest).map fun (text, rest) => (c :: text, rest)

/-- The digits that a number goes on with, then a point with digits behind it if both are there. -/
def numberRest (cs : List Char) : List Char × List Char :=
  let whole := cs.takeWhile Text.isDigit
  match cs.dropWhile Text.isDigit with
  | '.' :: d :: rest =>
    if Text.isDigit d then
      (whole ++ '.' :: d :: rest.takeWhile Text.isDigit, rest.dropWhile Text.isDigit)
    else (whole, '.' :: d :: rest)
  | rest => (whole, rest)

/-- The piece that a text starts with; none if nothing starts with its first character. -/
def piece? : List Char → Option Piece
  | [] => none
  | c :: rest =>
    if c = '\n' then some ⟨.lineEnd, [c], rest⟩
    else if isGap c then some ⟨.gap, c :: rest.takeWhile isGap, rest.dropWhile isGap⟩
    else if c = '#' then some ⟨.gap, c :: rest.takeWhile inLine, rest.dropWhile inLine⟩
    else if isNameStart c then
      some ⟨.token .name, c :: rest.takeWhile isNameRest, rest.dropWhile isNameRest⟩
    else if Text.isDigit c then
      let (text, rest) := numberRest rest
      some ⟨.token .number, c :: text, rest⟩
    else if c = '"' ∨ c = '\'' then
      (stringRest? c rest).map fun (text, rest) => ⟨.token .string, c :: text, rest⟩
    else match c, rest with
      | '-', d :: rest =>
        if Text.isDigit d then
          let (text, rest) := numberRest rest
          some ⟨.token .number, c :: d :: text, rest⟩
        else none
      | '=', '=' :: rest => some ⟨.token .op, ['=', '='], rest⟩
      | c, rest => if isOperator c then some ⟨.token .op, [c], rest⟩ else none

/-- A quoted string takes at least its closing quote off the text. -/
theorem length_stringRest? {mark : Char} {cs text rest : List Char}
    (read : stringRest? mark cs = some (text, rest)) : rest.length < cs.length := by
  fun_induction stringRest? mark cs generalizing text rest with
  | case1 => simp at read
  | case2 => simp at read
  | case3 c cs _ step =>
    simp only [Option.map_eq_some_iff, Prod.mk.injEq, Prod.exists] at read
    obtain ⟨_, _, inner, _, rfl⟩ := read
    have := step inner
    simp only [List.length_cons]
    omega
  | case4 =>
    simp only [Option.some.injEq, Prod.mk.injEq] at read
    obtain ⟨_, rfl⟩ := read
    simp
  | case5 => simp at read
  | case6 c cs _ _ _ step =>
    simp only [Option.map_eq_some_iff, Prod.mk.injEq, Prod.exists] at read
    obtain ⟨_, _, inner, _, rfl⟩ := read
    have := step inner
    simp only [List.length_cons]
    omega

/-- What stands behind a number's digits is no longer than the text they were cut from. -/
theorem length_numberRest (cs : List Char) : (numberRest cs).2.length ≤ cs.length := by
  have drop (cs : List Char) : (cs.dropWhile Text.isDigit).length ≤ cs.length :=
    (List.dropWhile_sublist _).length_le
  unfold numberRest
  split
  · rename_i d rest dropped
    have bound := drop cs
    rw [dropped] at bound
    split
    · have := drop rest
      simp only [List.length_cons] at bound ⊢
      omega
    · exact bound
  · exact drop cs

/-- A piece takes at least one character off the text. -/
theorem length_piece? {cs : List Char} {piece : Piece} (read : piece? cs = some piece) :
    piece.rest.length < cs.length := by
  have drop (p : Char → Bool) (cs : List Char) : (cs.dropWhile p).length ≤ cs.length :=
    (List.dropWhile_sublist _).length_le
  cases cs with
  | nil => simp [piece?] at read
  | cons c rest =>
    simp only [piece?] at read
    split at read
    · simp only [Option.some.injEq] at read; subst read; simp
    split at read
    · simp only [Option.some.injEq] at read; subst read
      have := drop isGap rest; simp only [List.length_cons]; omega
    split at read
    · simp only [Option.some.injEq] at read; subst read
      have := drop inLine rest; simp only [List.length_cons]; omega
    split at read
    · simp only [Option.some.injEq] at read; subst read
      have := drop isNameRest rest; simp only [List.length_cons]; omega
    split at read
    · simp only [Option.some.injEq] at read; subst read
      have := length_numberRest rest; simp only [List.length_cons]; omega
    split at read
    · simp only [Option.map_eq_some_iff] at read
      obtain ⟨⟨text, tail⟩, inner, rfl⟩ := read
      have := length_stringRest? inner; simp only [List.length_cons]; omega
    split at read
    · rename_i d tail _ _ _ _ _ _
      split at read
      · simp only [Option.some.injEq] at read; subst read
        have := length_numberRest tail; simp only [List.length_cons]; omega
      · simp at read
    · simp only [Option.some.injEq] at read; subst read; simp only [List.length_cons]; omega
    · split at read
      · simp only [Option.some.injEq] at read; subst read; simp
      · simp at read

/-- The operators after which `raw` is an ordinary name. -/
def nameOperators : List String := ["(", ",", "=", "==", "$"]

/-- The words after which `raw` is an ordinary name. -/
def nameWords : List String := ["def", "if", "return"]

/-- Whether `raw` opens a raw line, from the token before it and the text behind it. -/
def opensRaw (previous : Option Token) (rest : List Char) : Bool :=
  let afterName := previous.any fun token =>
    (token.kind == .op && nameOperators.contains token.text) ||
      (token.kind == .name && nameWords.contains token.text)
  let assigned := match rest.dropWhile fun c => c == ' ' || c == '\t' with
    | '=' :: '=' :: _ => false
    | '=' :: _ => true
    | _ => false
  !afterName && !assigned

/-- Cut a text into tokens, from a location and the token before it on. -/
def tokenizeFrom (location : Location) (previous : Option Token) (cs : List Char) :
    Except SyntaxError Tokens :=
  match read : piece? cs with
  | none => match cs with
    | [] => .ok ⟨[], location⟩
    | c :: _ =>
      if c = '"' ∨ c = '\'' then .error ⟨.unterminatedString, location⟩
      else .error ⟨.unexpectedCharacter (Text.display (String.singleton c)), location⟩
  | some piece =>
    have := length_piece? read
    let behind := location.advance piece.text.length
    match piece.kind with
    | .lineEnd => tokenizeFrom location.nextLine previous piece.rest
    | .gap => tokenizeFrom behind previous piece.rest
    | .token kind =>
      let text := String.ofList piece.text
      if kind = .name ∧ text = "raw" ∧ opensRaw previous piece.rest then
        let line := piece.rest.takeWhile inLine
        let token : Token := ⟨.raw, String.ofList (Text.strip line), location⟩
        have : (piece.rest.dropWhile inLine).length < cs.length :=
          Nat.lt_of_le_of_lt (List.dropWhile_sublist _).length_le this
        do
          let tokens ← tokenizeFrom (behind.advance line.length) (some token)
            (piece.rest.dropWhile inLine)
          return { tokens with items := token :: tokens.items }
      else
        let token : Token := ⟨kind, text, location⟩
        do
          let tokens ← tokenizeFrom behind (some token) piece.rest
          return { tokens with items := token :: tokens.items }
termination_by cs.length

/-- Cut a text into tokens. The source names the text in locations. -/
def tokenize (text : String) (source : String) : Except SyntaxError Tokens :=
  tokenizeFrom (.start source) none text.toList

end Stencil.Template
