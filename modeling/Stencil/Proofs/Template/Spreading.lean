import Stencil.Proofs.Template.Cutting

/-!
# Where tokens stand in their text

A location of a text stands for an offset: the lines above it are counted with
their ends, and the characters before it on its line (`Location.offset`). The
location behind the first characters of a text stands for their number
(`offset_through`).

`Spread` lays tokens over a text: each has a stretch of its own, at the offset of
its location and spelled as the token says, and what is left between the
stretches is a separation. The tokens of a text are spread over it
(`tokenize_spread`), so nothing of the text is lost and no two tokens overlap.
A text that is refused is so at the one place that the lexer comes to where no
lexeme starts, and what stands before that place is a text of its own
(`tokens_spread`).
-/

namespace Stencil.Template

/-! ## Offsets -/

/-- The offset that a location of a text stands for: the lines above it with their ends, and what
is before it on its line. -/
def Location.offset (text : List Char) (location : Location) : Nat :=
  (((text.splitOn '\n').take (location.line - 1)).flatMap (· ++ ['\n'])).length +
    (location.column - 1)

/-- From a first location to a last one there is a number of characters, in the lines that follow.
The first of the lines goes on from the column of the first location. -/
def Location.Counts (first : Location) (lines : List (List Char)) (count : Nat) (last : Location) :
    Prop :=
  first.line ≤ last.line ∧
    count + (if last.line = first.line then first.column else 1) =
      ((lines.take (last.line - first.line)).flatMap (· ++ ['\n'])).length + last.column

/-- A line's end is one more character. -/
theorem counts_line {first last : Location} {lines : List (List Char)} {count : Nat}
    (counts : first.nextLine.Counts lines count last) :
    first.Counts ([] :: lines) (count + 1) last := by
  obtain ⟨further, counted⟩ := counts
  have below : first.line + 1 ≤ last.line := further
  have index : last.line - first.line = last.line - (first.line + 1) + 1 := by omega
  have columns : (if last.line = first.nextLine.line then first.nextLine.column else 1) = 1 := by
    split <;> rfl
  rw [columns] at counted
  change count + 1 = (List.flatMap _ (List.take (last.line - (first.line + 1)) _)).length + _
    at counted
  refine ⟨by omega, ?_⟩
  rw [if_neg (by omega), index, List.take_succ_cons, List.flatMap_cons, List.length_append, counted]
  simp only [List.nil_append, List.length_cons, List.length_nil]
  omega

/-- Any other character is one more on its line. -/
theorem counts_character {first last : Location} {lines : List (List Char)} {count : Nat}
    (some : lines ≠ []) (c : Char) (counts : (first.advance 1).Counts lines count last) :
    first.Counts (lines.modifyHead (c :: ·)) (count + 1) last := by
  obtain ⟨further, counted⟩ := counts
  change first.line ≤ last.line at further
  change count + (if last.line = first.line then first.column + 1 else 1) =
    (List.flatMap _ (List.take (last.line - first.line) _)).length + _ at counted
  refine ⟨further, ?_⟩
  by_cases here : last.line = first.line
  · rw [if_pos here, here, Nat.sub_self, List.take_zero] at counted
    rw [if_pos here, here, Nat.sub_self, List.take_zero]
    omega
  · obtain ⟨line, others, rfl⟩ := List.exists_cons_of_ne_nil some
    obtain ⟨more, index⟩ : ∃ more, last.line - first.line = more + 1 :=
      ⟨last.line - first.line - 1, by omega⟩
    rw [if_neg here, index, List.take_succ_cons, List.flatMap_cons, List.length_append] at counted
    rw [if_neg here, index, List.modifyHead_cons, List.take_succ_cons, List.flatMap_cons,
      List.length_append, List.cons_append, List.length_cons]
    omega

/-- From a location to the one behind more characters there are as many of them.

Proof: induction on the characters. A line feed leaves its line for the next; any other character
makes its line one longer. -/
theorem through_counts (before after : List Char) (first : Location) :
    first.Counts ((before ++ after).splitOn '\n') before.length (first.through before) := by
  induction before generalizing first with
  | nil => simp [Location.Counts]
  | cons c before inductionHypothesis =>
    rw [List.cons_append, List.splitOn_eq_splitOnP, List.splitOnP_cons_eq_if_modifyHead,
      ← List.splitOn_eq_splitOnP]
    change first.Counts _ _ ((first.behind c).through before)
    by_cases ends : c = '\n'
    · rw [Location.behind, if_pos ends, if_pos (beq_iff_eq.mpr ends)]
      exact counts_line (inductionHypothesis first.nextLine)
    · rw [Location.behind, if_neg ends, if_neg (by simpa using ends)]
      exact counts_character (List.splitOn_ne_nil '\n' _) c (inductionHypothesis (first.advance 1))

/-- The location behind the first characters of a text stands for their number. -/
theorem offset_through (source : String) (before after : List Char) :
    ((Location.start source).through before).offset (before ++ after) = before.length := by
  obtain ⟨_, counted⟩ := through_counts before after (.start source)
  have columns : (if ((Location.start source).through before).line = (Location.start source).line
      then (Location.start source).column else 1) = 1 := by split <;> rfl
  have column := (through_ahead before after (.start source) (Nat.le_refl 1)).2.2.1
  rw [columns] at counted
  change before.length + 1 = (List.flatMap _ (List.take (_ - 1) _)).length + _ at counted
  rw [Location.offset]
  omega

/-! ## Tokens over a text -/

/-- A token is spelled by a stretch of text, with other text behind it. A raw line is the word and
the rest of its line, and the token says the line without the white space around it. -/
def Token.Covers (token : Token) (own behind : List Char) : Prop :=
  match token.kind with
  | .raw => ∃ line, own = "raw".toList ++ line ∧ '\n' ∉ line ∧ Stops inLine behind ∧
      token.text.toList = Text.strip line
  | _ => own = token.text.toList

/-- Tokens are spread over what is behind the first characters of a text: they stand at their
offsets one behind the other, with separations between them, before the first and behind the
last. -/
inductive Spread (text : List Char) : List Char → List Token → Prop where
  | last {before rest : List Char} (whole : text = before ++ rest) (skipped : Skipped [] rest) :
      Spread text before []
  | next {before gap own behind : List Char} {token : Token} {tokens : List Token}
      (whole : text = before ++ gap ++ own ++ behind) (skipped : Skipped (own ++ behind) gap)
      (place : token.location.offset text = (before ++ gap).length) (some : own ≠ [])
      (covers : token.Covers own behind) (others : Spread text (before ++ gap ++ own) tokens) :
      Spread text before (token :: tokens)

variable {text before : List Char} {tokens : List Token}

/-- What the lexer passes over is part of the separation before the next token. -/
theorem spread_skip {cs : List Char} {piece : Piece} (read : piece? cs = some piece)
    (passed : piece.kind = .lineEnd ∨ piece.kind = .gap) (whole : text = before ++ cs)
    (spread : Spread text (before ++ piece.text) tokens) : Spread text before tokens := by
  have split := (piece_worded read).1
  have rest_of {more : List Char} (other : text = before ++ piece.text ++ more) :
      piece.rest = more := by
    rw [whole, split, ← List.append_assoc] at other
    exact List.append_cancel_left other
  generalize front : before ++ piece.text = reached at spread
  cases spread with
  | @last _ rest other skipped =>
    subst front
    have left : piece.rest = rest ++ [] := by rw [rest_of other, List.append_nil]
    exact .last (by rw [other, List.append_assoc]) (piece_skipped read passed left skipped)
  | @next _ gap own behind token tokens other skipped place some covers others =>
    subst front
    have left : piece.rest = gap ++ (own ++ behind) := by
      apply rest_of
      rw [other]
      simp only [List.append_assoc]
    have wider : text = before ++ (piece.text ++ gap) ++ own ++ behind := by
      rw [other]
      simp only [List.append_assoc]
    refine .next wider (piece_skipped read passed left skipped) ?_ some covers ?_
    · rw [place]
      simp only [List.append_assoc]
    · simpa only [List.append_assoc] using others

/-- A token that starts where others do not yet is spread before them. -/
theorem spread_token {source : String} {own behind : List Char} {token : Token}
    (whole : text = before ++ own ++ behind) (some : own ≠ [])
    (here : token.location = (Location.start source).through before)
    (covers : token.Covers own behind) (others : Spread text (before ++ own) tokens) :
    Spread text before (token :: tokens) := by
  have next : text = before ++ [] ++ own ++ behind := by rw [whole, List.append_nil]
  refine .next next .nothing ?_ some covers ?_
  · rw [here, whole, List.append_assoc, offset_through, List.append_nil]
  · rwa [List.append_nil]

/-- The tokens of a text are spread over it, and they end where the text does.

Proof: recursion on the text that is left, by its pieces. -/
theorem tokenize_spread {source : String} {before cs : List Char} {location : Location}
    {previous : Option Token} {tokens : Tokens}
    (here : location = (Location.start source).through before)
    (cut : tokenizeFrom location previous cs = .ok tokens) :
    Spread (before ++ cs) before tokens.items ∧
      tokens.stop = (Location.start source).through (before ++ cs) := by
  cases read : piece? cs with
  | none =>
    cases cs with
    | nil =>
      rw [tokenize_end] at cut
      cases cut
      rw [List.append_nil]
      exact ⟨.last (List.append_nil _).symm .nothing, here⟩
    | cons c rest =>
      rw [tokenize_refused read] at cut
      split at cut <;> cases cut
  | some piece =>
    have shorter : piece.rest.length < cs.length := length_piece? read
    have whole : before ++ cs = before ++ piece.text ++ piece.rest := by
      rw [List.append_assoc, ← (piece_worded read).1]
    have line := piece_line read
    rw [tokenize_piece read] at cut
    cases kind : piece.kind with
    | lineEnd =>
      rw [kind] at cut
      rw [if_pos kind] at line
      have behind : location.nextLine = (Location.start source).through (before ++ piece.text) := by
        rw [through_append, ← here, line]
        rfl
      obtain ⟨spread, stop⟩ := tokenize_spread behind cut
      rw [← whole] at spread stop
      exact ⟨spread_skip read (.inl kind) rfl spread, stop⟩
    | gap =>
      rw [kind] at cut
      rw [if_neg (by simp [kind])] at line
      obtain ⟨spread, stop⟩ := tokenize_spread (through_further here line) cut
      rw [← whole] at spread stop
      exact ⟨spread_skip read (.inr kind) rfl spread, stop⟩
    | token word =>
      simp only [kind] at cut
      rw [if_neg (by simp [kind])] at line
      have some := piece_nonempty read
      have behind := through_further here line
      split at cut
      · rename_i opens
        have below : (piece.rest.dropWhile inLine).length < cs.length :=
          Nat.lt_of_le_of_lt (List.dropWhile_sublist _).length_le shorter
        have restLine := rest_line piece.rest
        have further := through_further behind restLine
        rw [List.append_assoc] at further
        have ended : before ++ cs = before ++ (piece.text ++ piece.rest.takeWhile inLine) ++
            piece.rest.dropWhile inLine := by
          rw [whole]
          simp only [List.append_assoc, List.takeWhile_append_dropWhile]
        obtain ⟨tokens, cutBehind, done⟩ := bind_ok cut
        cases done
        obtain ⟨spread, stop⟩ := tokenize_spread further cutBehind
        rw [← ended] at spread stop
        have isRaw : piece.text = "raw".toList := by rw [← opens.2.1, String.toList_ofList]
        refine ⟨spread_token ended (by simp [some]) here ?_ spread, stop⟩
        change ∃ line, _ ∧ _
        refine ⟨_, by rw [isRaw], restLine, stops_drop inLine piece.rest, ?_⟩
        rw [String.toList_ofList]
      · obtain ⟨tokens, cutBehind, done⟩ := bind_ok cut
        cases done
        obtain ⟨spread, stop⟩ := tokenize_spread behind cutBehind
        rw [← whole] at spread stop
        refine ⟨spread_token whole some here ?_ spread, stop⟩
        cases word with
        | raw => exact absurd kind (piece_not_raw read)
        | _ => exact String.toList_ofList.symm
termination_by cs.length

/-- Tokens that are spread stand at offsets that go up, none before what they are spread behind and
all before the end of the text. The induction is on the laying out of the tokens: each has a stretch
that is not empty, and the next one starts behind it. -/
theorem spread_ascends (spread : Spread text before tokens) :
    (∀ token ∈ tokens, before.length ≤ token.location.offset text) ∧
      (tokens.map (fun token => token.location.offset text) ++ [text.length]).Pairwise
        (· < ·) := by
  induction spread with
  | last => simp
  | @next before gap own behind token tokens whole _ place some _ _ inductionHypothesis =>
    obtain ⟨later, ascends⟩ := inductionHypothesis
    have taken := List.length_pos_iff.mpr some
    have total := congrArg List.length whole
    simp only [List.length_append] at place later total
    refine ⟨?_, ?_⟩
    · rw [List.forall_mem_cons]
      refine ⟨by omega, fun other member => ?_⟩
      have := later other member
      omega
    · rw [List.map_cons, List.cons_append, List.pairwise_cons]
      refine ⟨fun offset member => ?_, ascends⟩
      rcases List.mem_append.mp member with member | member
      · obtain ⟨other, inside, rfl⟩ := List.mem_map.mp member
        have := later other inside
        omega
      · rw [List.mem_singleton.mp member]
        omega

/-- Each of the tokens that are spread is spelled at the offset of its location. -/
theorem spread_spelled (spread : Spread text before tokens) :
    ∀ token ∈ tokens, ∃ own behind,
      text.drop (token.location.offset text) = own ++ behind ∧ token.Covers own behind := by
  induction spread with
  | last => exact List.forall_mem_nil _
  | @next before gap own behind token tokens whole _ place _ covers _ inductionHypothesis =>
    rw [List.forall_mem_cons]
    refine ⟨⟨own, behind, ?_, covers⟩, inductionHypothesis⟩
    rw [place, whole, List.append_assoc (before ++ gap), List.drop_left]

/-- Tokens lose nothing of their text, and their locations are true. If a text is cut into tokens,
their locations and that of the end stand for offsets that go up; each token is spelled at its
offset; between the tokens, before the first and behind the last there are only separations; and
the end is at the end of the text. If a text is refused, the fault is at the one place that the
lexer comes to where no lexeme starts, and what is before that place is cut on its own, to its
end, into the tokens that were read so far.

Proof: what the lexer has read is spread over the text before its place, by recursion on the text
that is left (`tokenize_spread`), and what is spread stands at ascending offsets (`spread_ascends`).
A text is refused only where no lexeme starts; the lexer does not get past such a place, so it comes
to one at most (`stops_once`). -/
theorem tokens_spread (text source : String) :
    match tokenize text source with
    | .ok tokens =>
      ((tokens.items.map Token.location ++ [tokens.stop]).map
        (Location.offset text.toList)).Pairwise (· < ·) ∧
      (∀ token ∈ tokens.items, ∃ own behind,
        text.toList.drop (token.location.offset text.toList) = own ++ behind ∧
          token.Covers own behind) ∧
      Spread text.toList [] tokens.items ∧
      tokens.stop.offset text.toList = text.toList.length
    | .error fault =>
      ∃ stopped before, (Scan.start text source).Comes stopped ∧ StartsNone stopped.rest ∧
        (∀ place, (Scan.start text source).Comes place → StartsNone place.rest →
          place = stopped) ∧
        text.toList = before ++ stopped.rest ∧ fault.location = stopped.location ∧
        fault.location.offset text.toList = before.length ∧
        tokenize (String.ofList before) source = .ok ⟨stopped.read, stopped.location⟩ := by
  cases outcome : tokenize text source with
  | ok tokens =>
    have here : Location.start source = (Location.start source).through [] := rfl
    obtain ⟨spread, stop⟩ := tokenize_spread here outcome
    rw [List.nil_append] at spread stop
    have ended : tokens.stop.offset text.toList = text.toList.length := by
      have counted := offset_through source text.toList []
      rw [List.append_nil] at counted
      rw [stop]
      exact counted
    refine ⟨?_, spread_spelled spread, spread, ended⟩
    have ascends := (spread_ascends spread).2
    rw [List.map_append, List.map_map, List.map_singleton, ended]
    exact ascends
  | error fault =>
    obtain ⟨stopped, before, comes, none, whole, here, behind, read⟩ := tokenize_stops outcome
    refine ⟨stopped, before, comes, none, ?_, whole, here, ?_, read⟩
    · intro place other stays
      exact stops_once other comes stays none
    · rw [here, behind, whole, offset_through]

end Stencil.Template
