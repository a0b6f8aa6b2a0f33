import Stencil.Proofs.Template.Lexing

/-!
# Scanning a text turn by turn

The lexer as a loop: a turn cuts one piece off the text that is left, and with a
raw word the rest of its line. Nothing bounds the loop but the number of turns
that it is given. Every turn takes at least one character (`turn_takes`), so with
more turns than characters the loop is through, and it reads what `tokenize`
reads (`scan_follows`).

A location that is reached is the one behind some characters of the text, counted
from its start (`Reached`). The tokens, the end and the faults of the lexer stand
at such locations (`tokenize_reached`), and these are positions of the text: the
line is one of its lines, which end at line feeds and nowhere else, and the column
is at most one behind the last character of the line (`reached_inside`).
-/

namespace Stencil.Template

/-! ## Locations in a text -/

/-- The location behind one more character. -/
def Location.behind (location : Location) (c : Char) : Location :=
  if c = '\n' then location.nextLine else location.advance 1

/-- The location behind more characters. -/
def Location.through (location : Location) (cs : List Char) : Location :=
  cs.foldl Location.behind location

/-- A location is a position of a named text: one of its lines, and a character of the line or the
place behind the last. -/
def Location.Inside (source : String) (text : List Char) (location : Location) : Prop :=
  location.source = source ∧ 1 ≤ location.line ∧ 1 ≤ location.column ∧
    ∃ line, (text.splitOn '\n')[location.line - 1]? = some line ∧
      location.column ≤ line.length + 1

/-- A location is behind some characters of a text. -/
def Reached (source : String) (text : List Char) (location : Location) : Prop :=
  ∃ before after, text = before ++ after ∧ location = (Location.start source).through before

/-- Behind no character the location is the same. -/
@[simp] theorem through_nil (location : Location) : location.through [] = location := rfl

/-- Characters are counted one after the other. -/
theorem through_append (location : Location) (cs more : List Char) :
    location.through (cs ++ more) = (location.through cs).through more := List.foldl_append

/-- Inside a line the column counts characters. -/
theorem through_line {cs : List Char} (line : '\n' ∉ cs) (location : Location) :
    location.through cs = location.advance cs.length := by
  induction cs generalizing location with
  | nil => rfl
  | cons c cs inductionHypothesis =>
    rw [List.mem_cons, not_or] at line
    obtain ⟨other, line⟩ := line
    have first : location.behind c = location.advance 1 := if_neg (Ne.symm other)
    change (location.behind c).through cs = _
    rw [first, inductionHypothesis line, List.length_cons]
    simp only [Location.advance, Location.mk.injEq, true_and]
    omega

/-- A location behind some characters is, further along its line, behind those it goes past too. -/
theorem through_further {first location : Location} {before text : List Char}
    (here : location = first.through before) (line : '\n' ∉ text) :
    location.advance text.length = first.through (before ++ text) := by
  rw [through_append, ← here, through_line line]

/-- From a first location on, a last one is in one of the lines that follow, and inside of it. The
first of the lines goes on from the column of the first location. -/
def Location.Ahead (first : Location) (lines : List (List Char)) (last : Location) : Prop :=
  last.source = first.source ∧ first.line ≤ last.line ∧ 1 ≤ last.column ∧
    ∃ line, lines[last.line - first.line]? = some line ∧
      last.column ≤ line.length + if last.line = first.line then first.column else 1

/-- A location ahead of the next line is ahead of the end of this one. -/
theorem ahead_line {first last : Location} {lines : List (List Char)}
    (ahead : first.nextLine.Ahead lines last) : first.Ahead ([] :: lines) last := by
  obtain ⟨same, further, counted, line, found, bound⟩ := ahead
  have below : first.line + 1 ≤ last.line := further
  have index : last.line - first.line = last.line - (first.line + 1) + 1 := by omega
  refine ⟨same, by omega, counted, line, ?_, ?_⟩
  · rw [index, List.getElem?_cons_succ]
    exact found
  · have columns : (if last.line = first.nextLine.line then first.nextLine.column else 1) = 1 := by
      split <;> rfl
    rw [columns] at bound
    rwa [if_neg (by omega)]

/-- A location ahead of the next character is ahead of this one. -/
theorem ahead_character {first last : Location} {lines : List (List Char)} (c : Char)
    (ahead : (first.advance 1).Ahead lines last) :
    first.Ahead (lines.modifyHead (c :: ·)) last := by
  obtain ⟨same, further, counted, line, found, bound⟩ := ahead
  change lines[last.line - first.line]? = some line at found
  change _ ≤ line.length + if last.line = first.line then first.column + 1 else 1 at bound
  by_cases here : last.line = first.line
  · rw [if_pos here] at bound
    rw [here, Nat.sub_self] at found
    refine ⟨same, further, counted, c :: line, ?_, ?_⟩
    · rw [here, Nat.sub_self, List.getElem?_modifyHead]
      simp [found]
    · rw [if_pos here, List.length_cons]
      omega
  · rw [if_neg here] at bound
    refine ⟨same, further, counted, line, ?_, ?_⟩
    · have later : last.line - first.line ≠ 0 := by
        have : first.line ≤ last.line := further
        omega
      rw [List.getElem?_modifyHead, found]
      simp [later]
    · rwa [if_neg here]

/-- The location behind the first characters of a text is ahead of the first, in the lines of the
text.

Proof: induction on the characters. A line feed leaves its line for the next; any other character
makes its line one longer. -/
theorem through_ahead (before after : List Char) (first : Location) (counted : 1 ≤ first.column) :
    first.Ahead ((before ++ after).splitOn '\n') (first.through before) := by
  induction before generalizing first with
  | nil =>
    obtain ⟨line, others, lines⟩ := List.exists_cons_of_ne_nil (List.splitOn_ne_nil '\n' after)
    refine ⟨rfl, Nat.le_refl _, counted, line, ?_, ?_⟩
    · simp [lines]
    · simp
  | cons c before inductionHypothesis =>
    rw [List.cons_append, List.splitOn_eq_splitOnP, List.splitOnP_cons_eq_if_modifyHead,
      ← List.splitOn_eq_splitOnP]
    change first.Ahead _ ((first.behind c).through before)
    by_cases ends : c = '\n'
    · rw [Location.behind, if_pos ends, if_pos (beq_iff_eq.mpr ends)]
      exact ahead_line (inductionHypothesis first.nextLine (Nat.le_refl 1))
    · rw [Location.behind, if_neg ends, if_neg (by simpa using ends)]
      exact ahead_character c (inductionHypothesis (first.advance 1) (Nat.le_add_left 1 _))

/-- A location that is reached is a position of the text. -/
theorem reached_inside {source : String} {text : List Char} {location : Location}
    (reached : Reached source text location) : location.Inside source text := by
  obtain ⟨before, after, rfl, rfl⟩ := reached
  obtain ⟨same, further, counted, line, found, bound⟩ :=
    through_ahead before after (.start source) (Nat.le_refl 1)
  refine ⟨same, further, counted, line, found, ?_⟩
  have columns : (if ((Location.start source).through before).line = (Location.start source).line
      then (Location.start source).column else 1) = 1 := by split <;> rfl
  rwa [columns] at bound

/-! ## Pieces and lines -/

/-- What stands between quotes stays on its line. -/
theorem quoted_line {quote : Char} {text : List Char} (quoted : Quoted quote text) :
    '\n' ∉ text := by
  induction quoted with
  | nothing => exact List.not_mem_nil
  | plain c rest other bare inside tail inductionHypothesis =>
    simp [Ne.symm inside, inductionHypothesis]
  | escaped c rest inside tail inductionHypothesis =>
    simp [Ne.symm inside, inductionHypothesis]

/-- Characters that all have something that a line feed has not stay on their line. -/
theorem line_of_all (accepts : Char → Bool) {text : List Char}
    (all : ∀ c ∈ text, accepts c = true) (refused : accepts '\n' = false) : '\n' ∉ text := by
  intro inside
  rw [all _ inside] at refused
  cases refused

/-- No token goes over the end of a line. -/
theorem worded_line {kind : TokenKind} {text : List Char} (worded : Worded kind text) :
    '\n' ∉ text := by
  cases kind with
  | name =>
    obtain ⟨first, rest, rfl, start, goesOn⟩ := worded
    refine line_of_all isNameRest ?_ (by decide)
    intro c member
    rcases List.mem_cons.mp member with rfl | member
    · simp [isNameRest, start]
    · exact goesOn c member
  | number =>
    obtain ⟨sign, whole, fraction, signed, ⟨_, digits⟩, fractional, rfl⟩ := worded
    have wholeLine := line_of_all _ digits (by decide)
    have signLine : '\n' ∉ sign := by rcases signed with rfl | rfl <;> decide
    have fractionLine : '\n' ∉ fraction := by
      rcases fractional with rfl | ⟨behind, ⟨_, digits⟩, rfl⟩
      · exact List.not_mem_nil
      · have behindLine := line_of_all _ digits (by decide)
        simp [behindLine]
    simp [signLine, wholeLine, fractionLine]
  | string =>
    obtain ⟨quote, body, isQuote, quoted, rfl⟩ := worded
    have bodyLine := quoted_line quoted
    rcases isQuote with rfl | rfl <;> simp [bodyLine]
  | op =>
    rcases worded with rfl | ⟨c, operator, rfl⟩
    · decide
    · refine line_of_all isOperator ?_ (by decide)
      simpa using operator
  | raw => exact worded.1

/-- A line feed is a piece of its own, and no other piece goes over the end of a line. -/
theorem piece_line {cs : List Char} {piece : Piece} (read : piece? cs = some piece) :
    if piece.kind = .lineEnd then piece.text = ['\n'] else '\n' ∉ piece.text := by
  have worded := (piece_worded read).2
  cases cs with
  | nil => simp [piece?] at read
  | cons c rest =>
    simp only [piece?] at read
    split at read
    · rename_i isEnd
      cases read
      rw [if_pos rfl, isEnd]
    split at read
    · rename_i isBlank
      cases read
      rw [if_neg (by simp)]
      refine line_of_all isGap ?_ (by decide)
      exact List.forall_mem_cons.mpr ⟨isBlank, run_inside isGap rest⟩
    split at read
    · rename_i isComment
      cases read
      rw [if_neg (by simp)]
      refine line_of_all inLine ?_ (by decide)
      exact List.forall_mem_cons.mpr ⟨by rw [isComment]; decide, run_inside inLine rest⟩
    have isToken : ∃ kind, piece.kind = .token kind := by
      clear worded
      grind [Option.map_eq_some_iff]
    obtain ⟨kind, isToken⟩ := isToken
    rw [if_neg (by simp [isToken])]
    exact worded_line (worded kind isToken)

/-- A text that no piece starts is refused where it starts. -/
theorem tokenize_refused {c : Char} {rest : List Char} (refused : piece? (c :: rest) = none)
    (location : Location) (previous : Option Token) :
    tokenizeFrom location previous (c :: rest) =
      if c = '"' ∨ c = '\'' then .error ⟨.unterminatedString, location⟩
      else .error ⟨.unexpectedCharacter (Text.display (String.singleton c)), location⟩ := by
  rw [tokenizeFrom]
  split
  · rfl
  · rename_i cut
    rw [refused] at cut
    cases cut

/-- What is read of a text is at most one token for each character. The tokens stand at locations of
the text, and so do the end and a fault. -/
def Located (source : String) (text : List Char) : Except SyntaxError Tokens → Prop
  | .ok tokens => tokens.items.length ≤ text.length ∧ Reached source text tokens.stop ∧
      ∀ token ∈ tokens.items, Reached source text token.location
  | .error fault => Reached source text fault.location

/-! ## The loop -/

/-- Where the loop stands: a location, the tokens that are read, and the text that is left. -/
structure Scan where
  location : Location
  read : List Token
  rest : List Char

namespace Scan

/-- Nothing is read yet. -/
def start (text source : String) : Scan := ⟨.start source, [], text.toList⟩

/-- Go on behind a piece of the text that is left, and behind a raw word at the end of its line. -/
def take (scan : Scan) (piece : Piece) : Scan :=
  let behind := scan.location.advance piece.text.length
  match piece.kind with
  | .lineEnd => ⟨scan.location.nextLine, scan.read, piece.rest⟩
  | .gap => ⟨behind, scan.read, piece.rest⟩
  | .token kind =>
    let text := String.ofList piece.text
    if kind = .name ∧ text = "raw" ∧ opensRaw scan.read.getLast? piece.rest then
      let line := piece.rest.takeWhile inLine
      ⟨behind.advance line.length,
        scan.read ++ [⟨.raw, String.ofList (Text.strip line), scan.location⟩],
        piece.rest.dropWhile inLine⟩
    else ⟨behind, scan.read ++ [⟨kind, text, scan.location⟩], piece.rest⟩

/-- Cut one piece off the text that is left. -/
def turn (scan : Scan) : Except SyntaxError Scan :=
  match piece? scan.rest with
  | none => match scan.rest with
    | [] => .ok scan
    | c :: _ =>
      if c = '"' ∨ c = '\'' then .error ⟨.unterminatedString, scan.location⟩
      else .error ⟨.unexpectedCharacter (Text.display (String.singleton c)), scan.location⟩
  | some piece => .ok (scan.take piece)

/-- Take turns while there is text left. A loop that is not through has no outcome. -/
def loop : (turns : Nat) → Scan → Option (Except SyntaxError Tokens)
  | 0, _ => none
  | turns + 1, scan =>
    if scan.rest = [] then some (.ok ⟨scan.read, scan.location⟩)
    else match scan.turn with
      | .ok next => loop turns next
      | .error fault => some (.error fault)

/-- A turn takes some characters of the text, and reads one token at most, which stands where the
turn began. -/
structure Takes (before after : Scan) (taken : List Char) : Prop where
  nonempty : taken ≠ []
  text : before.rest = taken ++ after.rest
  location : after.location = before.location.through taken
  read : after.read = before.read ∨
    ∃ token : Token, token.location = before.location ∧ after.read = before.read ++ [token]

/-- Less text is left behind a turn. -/
theorem takes_shorter {before after : Scan} {taken : List Char}
    (takes : before.Takes after taken) : after.rest.length < before.rest.length := by
  have some := List.length_pos_iff.mpr takes.nonempty
  rw [takes.text, List.length_append]
  omega

/-- A piece that is cut off is taken. -/
theorem take_takes {scan : Scan} {piece : Piece} (cut : piece? scan.rest = some piece) :
    ∃ taken, scan.Takes (scan.take piece) taken := by
  have whole := (piece_worded cut).1
  have line := piece_line cut
  have nonempty := piece_nonempty cut
  unfold take
  cases kind : piece.kind with
  | lineEnd =>
    rw [if_pos kind] at line
    refine ⟨piece.text, nonempty, whole, ?_, .inl rfl⟩
    rw [line]
    rfl
  | gap =>
    rw [if_neg (by simp [kind])] at line
    exact ⟨piece.text, nonempty, whole, (through_line line _).symm, .inl rfl⟩
  | token word =>
    rw [if_neg (by simp [kind])] at line
    have behind := through_line line scan.location
    simp only
    split
    · refine ⟨piece.text ++ piece.rest.takeWhile inLine, by simp [nonempty], ?_, ?_,
        .inr ⟨_, rfl, rfl⟩⟩
      · rw [List.append_assoc, List.takeWhile_append_dropWhile, ← whole]
      · rw [through_append, behind, through_line (rest_line piece.rest)]
    · exact ⟨piece.text, nonempty, whole, behind.symm, .inr ⟨_, rfl, rfl⟩⟩

/-- Every turn takes at least one character. -/
theorem turn_takes {scan next : Scan} (left : scan.rest ≠ []) (turned : scan.turn = .ok next) :
    ∃ taken, scan.Takes next taken := by
  unfold turn at turned
  split at turned
  · split at turned
    · rename_i empty
      exact absurd empty left
    · split at turned <;> cases turned
  · rename_i piece cut
    cases turned
    exact take_takes cut

/-- A fault stands where the turn began. -/
theorem turn_refused {scan : Scan} {fault : SyntaxError} (turned : scan.turn = .error fault) :
    fault.location = scan.location := by
  unfold turn at turned
  split at turned
  · split at turned
    · cases turned
    · split at turned <;> cases turned <;> rfl
  · cases turned

/-- What the lexer reads: the tokens that are read, and those of the text that is left. -/
def outcome (scan : Scan) : Except SyntaxError Tokens := do
  let tokens ← tokenizeFrom scan.location scan.read.getLast? scan.rest
  return { tokens with items := scan.read ++ tokens.items }

/-- From the start on the lexer reads the text. -/
theorem start_outcome (text source : String) :
    (start text source).outcome = tokenize text source := by
  change (tokenizeFrom (.start source) none text.toList >>= pure) = _
  rw [bind_pure, tokenize]

/-- A token that is read leaves the outcome as it is. -/
theorem outcome_token (scan : Scan) (token : Token) (location : Location) (rest : List Char) :
    outcome ⟨location, scan.read ++ [token], rest⟩ = (do
      let tokens ← (do
        let tokens ← tokenizeFrom location (some token) rest
        return { tokens with items := token :: tokens.items } : Except SyntaxError Tokens)
      return { tokens with items := scan.read ++ tokens.items }) := by
  simp only [outcome, List.getLast?_concat, List.append_assoc, List.singleton_append]
  cases tokenizeFrom location (some token) rest <;> rfl

/-- Going on behind a piece leaves the outcome as it is. -/
theorem take_outcome {scan : Scan} {piece : Piece} (cut : piece? scan.rest = some piece) :
    scan.outcome = (scan.take piece).outcome := by
  rw [outcome, tokenize_piece cut]
  obtain ⟨kind, text, rest⟩ := piece
  cases kind with
  | lineEnd | gap => rfl
  | token word =>
    simp only [take]
    split <;> exact (outcome_token ..).symm

/-- A turn leaves the outcome as it is. -/
theorem turn_outcome {scan : Scan} (left : scan.rest ≠ []) :
    scan.outcome = match scan.turn with
      | .ok next => next.outcome
      | .error fault => .error fault := by
  cases cut : piece? scan.rest with
  | none =>
    obtain ⟨location, read, rest⟩ := scan
    cases rest with
    | nil => exact absurd rfl left
    | cons c rest =>
      change piece? (c :: rest) = none at cut
      rw [outcome, turn, cut]
      simp only [tokenize_refused cut]
      split <;> rfl
  | some piece =>
    rw [turn, cut]
    exact take_outcome cut

/-- With more turns than characters the loop is through, and it reads what the lexer reads. -/
theorem scan_follows {turns : Nat} {scan : Scan} (enough : scan.rest.length < turns) :
    scan.loop turns = some scan.outcome := by
  induction turns generalizing scan with
  | zero => omega
  | succ turns inductionHypothesis =>
    rw [loop]
    by_cases empty : scan.rest = []
    · rw [if_pos empty, outcome, empty, tokenize_end]
      simp [pure, bind, Except.bind, Except.pure]
    · rw [if_neg empty, turn_outcome empty]
      cases turned : scan.turn with
      | error fault => rfl
      | ok next =>
        obtain ⟨taken, takes⟩ := turn_takes empty turned
        have shorter := takes_shorter takes
        exact inductionHypothesis (by omega)

/-- A scan stands inside a text: some of the text is behind it, and the tokens read stand there and
are no more than the characters. -/
structure Within (scan : Scan) (source : String) (text : List Char) (taken : List Char) : Prop where
  whole : text = taken ++ scan.rest
  location : scan.location = (Location.start source).through taken
  count : scan.read.length ≤ taken.length
  read : ∀ token ∈ scan.read, Reached source text token.location

variable {source : String} {text taken : List Char} {scan next : Scan}

/-- A scan that stands inside a text stands at a location that is reached. -/
theorem within_reached (within : scan.Within source text taken) :
    Reached source text scan.location := ⟨taken, scan.rest, within.whole, within.location⟩

/-- A turn stays inside the text. -/
theorem within_takes {more : List Char} (within : scan.Within source text taken)
    (takes : scan.Takes next more) : next.Within source text (taken ++ more) := by
  have some := List.length_pos_iff.mpr takes.nonempty
  refine ⟨?_, ?_, ?_, ?_⟩
  · rw [within.whole, takes.text, List.append_assoc]
  · rw [takes.location, within.location, through_append]
  · have count := within.count
    rcases takes.read with same | ⟨token, _, one⟩
    · rw [same, List.length_append]
      omega
    · rw [one, List.length_append, List.length_append, List.length_singleton]
      omega
  · rcases takes.read with same | ⟨token, here, one⟩
    · rw [same]
      exact within.read
    · rw [one]
      intro other member
      rcases List.mem_append.mp member with member | member
      · exact within.read other member
      · rw [List.mem_singleton.mp member, here]
        exact within_reached within

/-- The loop stays inside the text.

Proof: induction on the turns, each of which stays inside. -/
theorem loop_within {turns : Nat} {outcome : Except SyntaxError Tokens}
    (within : scan.Within source text taken) (through : scan.loop turns = some outcome) :
    Located source text outcome := by
  induction turns generalizing scan taken with
  | zero => cases through
  | succ turns inductionHypothesis =>
    rw [loop] at through
    by_cases empty : scan.rest = []
    · rw [if_pos empty] at through
      cases through
      refine ⟨?_, within_reached within, within.read⟩
      rw [within.whole, List.length_append]
      exact Nat.le_trans within.count (Nat.le_add_right ..)
    · rw [if_neg empty] at through
      cases turned : scan.turn with
      | error fault =>
        rw [turned] at through
        cases through
        change Reached source text fault.location
        rw [turn_refused turned]
        exact within_reached within
      | ok next =>
        rw [turned] at through
        obtain ⟨more, takes⟩ := turn_takes empty turned
        exact inductionHypothesis (within_takes within takes) through

end Scan

/-- With more turns than characters the loop reads what the lexer reads. -/
theorem tokenize_follows {text : String} {turns : Nat} (enough : text.toList.length < turns)
    (source : String) : (Scan.start text source).loop turns = some (tokenize text source) := by
  rw [Scan.scan_follows enough, Scan.start_outcome]

/-- What the lexer reads stands at locations of the text. -/
theorem tokenize_reached (text source : String) :
    Located source text.toList (tokenize text source) := by
  have within : (Scan.start text source).Within source text.toList [] :=
    ⟨rfl, rfl, Nat.le_refl 0, nofun⟩
  exact Scan.loop_within within (tokenize_follows (Nat.lt_succ_self _) source)

end Stencil.Template
