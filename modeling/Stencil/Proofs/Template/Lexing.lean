import Stencil.Proofs.Outcome
import Stencil.Proofs.Template.Wording

/-!
# Cutting a text into the tokens it spells

`Lexes previous cs spelled` says that a text is cut into the listed tokens,
whatever the location of its start, when the token before it is the given one.
Locations are left out: a *bare* token stands nowhere. One lemma for each kind
of piece puts a token before a text that is cut already, so that the tokens of
a written text are read off from its front to its end.

Whether `raw` opens a raw line depends on the token before it and on the text
behind it; both stand in the rule for raw lines and in the rule for names. In
the other direction every token that a text is cut into is worded as its kind
says.
-/

namespace Stencil.Template

/-- The location of what stands nowhere. -/
def Location.nowhere : Location := .start ""

/-- A token that stands nowhere. -/
def Token.bare (token : Token) : Token := { token with location := .nowhere }

/-- After this token `raw` is an ordinary name. -/
def Token.expectsName (token : Token) : Bool :=
  (token.kind == .op && nameOperators.contains token.text) ||
    (token.kind == .name && nameWords.contains token.text)

/-- A text goes on, behind blanks of its line, with a single equals sign. -/
def assigns (rest : List Char) : Bool :=
  match rest.dropWhile fun c => c == ' ' || c == '\t' with
  | '=' :: '=' :: _ => false
  | '=' :: _ => true
  | _ => false

/-- `raw` opens a raw line unless a name is expected or a single equals sign follows. -/
theorem opens_raw_eq (previous : Option Token) (rest : List Char) :
    opensRaw previous rest = (!previous.any Token.expectsName && !assigns rest) := rfl

/-- Where a token stands does not decide what `raw` means behind it. -/
theorem opens_raw_bare (previous : Option Token) (rest : List Char) :
    opensRaw (previous.map Token.bare) rest = opensRaw previous rest := by
  cases previous <;> rfl

/-- Nothing is cut from the empty text. -/
theorem tokenize_end (location : Location) (previous : Option Token) :
    tokenizeFrom location previous [] = .ok ⟨[], location⟩ := by
  rw [tokenizeFrom]
  rfl

/-- A text that starts with a piece is cut behind the piece. This is the recursion of
`tokenizeFrom` without the proof that it ends. -/
theorem tokenize_piece {cs : List Char} {piece : Piece} (read : piece? cs = some piece)
    (location : Location) (previous : Option Token) :
    tokenizeFrom location previous cs =
      match piece.kind with
      | .lineEnd => tokenizeFrom location.nextLine previous piece.rest
      | .gap => tokenizeFrom (location.advance piece.text.length) previous piece.rest
      | .token kind =>
        if kind = .name ∧ String.ofList piece.text = "raw" ∧ opensRaw previous piece.rest then do
          let line := piece.rest.takeWhile inLine
          let token : Token := ⟨.raw, String.ofList (Text.strip line), location⟩
          let tokens ← tokenizeFrom ((location.advance piece.text.length).advance line.length)
            (some token) (piece.rest.dropWhile inLine)
          return { tokens with items := token :: tokens.items }
        else do
          let token : Token := ⟨kind, String.ofList piece.text, location⟩
          let tokens ← tokenizeFrom (location.advance piece.text.length) (some token) piece.rest
          return { tokens with items := token :: tokens.items } := by
  rw [tokenizeFrom]
  split
  · rename_i none
    rw [read] at none
    cases none
  · rename_i found same
    rw [read] at same
    cases same
    rfl

/-- A text is cut into tokens of the given spelling, wherever it stands and whatever location the
token before it has. -/
def Lexes (previous : Option Token) (cs : List Char) (spelled : List Token) : Prop :=
  ∀ location before, before.map Token.bare = previous →
    ∃ tokens, tokenizeFrom location before cs = .ok tokens ∧
      tokens.items.map Token.bare = spelled

/-- The empty text holds no token. -/
theorem lexes_end (previous : Option Token) : Lexes previous [] [] := by
  intro location before _
  exact ⟨⟨[], location⟩, tokenize_end location before, rfl⟩

/-- Blanks, line ends and comments are passed over. -/
theorem lexes_skip {cs : List Char} {piece : Piece} {previous : Option Token}
    {spelled : List Token} (read : piece? cs = some piece)
    (skipped : piece.kind = .lineEnd ∨ piece.kind = .gap)
    (behind : Lexes previous piece.rest spelled) : Lexes previous cs spelled := by
  intro location before same
  rw [tokenize_piece read]
  rcases skipped with kind | kind
  · rw [kind]
    exact behind location.nextLine before same
  · rw [kind]
    exact behind (location.advance piece.text.length) before same

/-- A token that is no raw word stands in the list as it is spelled. -/
theorem lexes_token (previous : Option Token) {cs text rest : List Char} {kind : TokenKind}
    {spelled : List Token} (read : piece? cs = some ⟨.token kind, text, rest⟩)
    (ordinary : ¬(kind = .name ∧ String.ofList text = "raw" ∧ opensRaw previous rest))
    (behind : Lexes (some ⟨kind, String.ofList text, .nowhere⟩) rest spelled) :
    Lexes previous cs (⟨kind, String.ofList text, .nowhere⟩ :: spelled) := by
  intro location before same
  subst same
  rw [opens_raw_bare] at ordinary
  obtain ⟨tokens, cut, spells⟩ := behind (location.advance text.length)
    (some ⟨kind, String.ofList text, location⟩) rfl
  refine ⟨{ tokens with items := ⟨kind, String.ofList text, location⟩ :: tokens.items }, ?_, ?_⟩
  · rw [tokenize_piece read]
    simp only [ordinary, if_false, cut]
    rfl
  · simp [Token.bare, spells]

/-- A raw word takes the rest of its line with it, without the white space around it. -/
theorem lexes_raw {cs rest below : List Char} {text : String} {previous : Option Token}
    {spelled : List Token} (read : piece? cs = some ⟨.token .name, ['r', 'a', 'w'], rest⟩)
    (opens : opensRaw previous rest = true)
    (line : String.ofList (Text.strip (rest.takeWhile inLine)) = text)
    (ended : rest.dropWhile inLine = below)
    (behind : Lexes (some ⟨.raw, text, .nowhere⟩) below spelled) :
    Lexes previous cs (⟨.raw, text, .nowhere⟩ :: spelled) := by
  intro location before same
  subst same line ended
  rw [opens_raw_bare] at opens
  obtain ⟨tokens, cut, spells⟩ := behind
    ((location.advance 3).advance (rest.takeWhile inLine).length)
    (some ⟨.raw, String.ofList (Text.strip (rest.takeWhile inLine)), location⟩) rfl
  refine ⟨{ tokens with items := ⟨.raw, String.ofList (Text.strip (rest.takeWhile inLine)),
    location⟩ :: tokens.items }, ?_, ?_⟩
  · rw [tokenize_piece read]
    have word : String.ofList ['r', 'a', 'w'] = "raw" := by decide
    simp only [word, opens, and_self, if_true, List.length_cons, List.length_nil, cut]
    rfl
  · simp [Token.bare, spells]

/-- A text that no piece starts is cut into no token. -/
theorem tokenize_none {cs : List Char} (none : piece? cs = none) {location : Location}
    {previous : Option Token} {tokens : Tokens}
    (cut : tokenizeFrom location previous cs = .ok tokens) : tokens.items = [] := by
  rw [tokenizeFrom] at cut
  split at cut
  · split at cut
    · cases cut
      rfl
    · split at cut <;> cases cut
  · rename_i read
    rw [none] at read
    cases read

/-- Every token that a text is cut into is worded as its kind says. The recursion follows the
pieces: a name, number, string or operator is a worded piece, and a raw line is stripped. -/
theorem tokenize_worded {location : Location} {previous : Option Token} {cs : List Char}
    {tokens : Tokens} (cut : tokenizeFrom location previous cs = .ok tokens) :
    ∀ token ∈ tokens.items, Worded token.kind token.text.toList := by
  cases read : piece? cs with
  | none => simp [tokenize_none read cut]
  | some piece =>
    have shorter : piece.rest.length < cs.length := length_piece? read
    have worded := (piece_worded read).2
    rw [tokenize_piece read] at cut
    split at cut
    · exact tokenize_worded cut
    · exact tokenize_worded cut
    · rename_i kind isToken
      split at cut
      · have shorterLine : (piece.rest.dropWhile inLine).length < cs.length :=
          Nat.lt_of_le_of_lt (List.dropWhile_sublist _).length_le shorter
        obtain ⟨behind, cutBehind, done⟩ := bind_ok cut
        cases done
        intro token member
        rcases List.mem_cons.mp member with rfl | member
        · simpa [Worded] using strip_raw _ (rest_line piece.rest)
        · exact tokenize_worded cutBehind token member
      · obtain ⟨behind, cutBehind, done⟩ := bind_ok cut
        cases done
        intro token member
        rcases List.mem_cons.mp member with rfl | member
        · simpa using worded kind isToken
        · exact tokenize_worded cutBehind token member
termination_by cs.length

end Stencil.Template
