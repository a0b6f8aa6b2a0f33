import Stencil.Proofs.Template.Printing
import Stencil.Proofs.Template.Separation

/-!
# Layout is insignificant

The tokens of a text are written one behind the other with other separators
between them, and the new text is cut into the same tokens (`layout_insignificant`).
A separator is never empty, so no token runs into the next one. The word `raw`
needs more: what it means depends on the token before it, which is the same in
both texts, and on a sign behind it, which a separator must not hide.

Whether `raw` was a name or opened a raw line in the first text is said of the
tokens alone (`Settled`), so that the second text can be gone through token by
token (`lexes_spaced`). A raw line that reads like an assignment is left out,
since its text behind the word would not open a raw line again.
-/

namespace Stencil.Template

/-- White space, and comments with the line feeds that end them. A comment without its line feed
would take the next token along, so it is none. -/
inductive Separator : List Char → Prop where
  | nothing : Separator []
  | blank (c : Char) {rest : List Char} (space : isGap c = true ∨ c = '\n')
      (tail : Separator rest) : Separator (c :: rest)
  | comment (line : List Char) {rest : List Char} (inside : '\n' ∉ line)
      (tail : Separator rest) : Separator ('#' :: (line ++ '\n' :: rest))

/-- The text that a token is written with. -/
def Token.spelling (token : Token) : List Char :=
  match token.kind with
  | .raw => "raw ".toList ++ token.text.toList
  | _ => token.text.toList

/-- Tokens written one behind the other, each with the separator that follows it. -/
def spaced : List (Token × List Char) → List Char
  | [] => []
  | (token, gap) :: rest => token.spelling ++ gap ++ spaced rest

/-- Separators that keep tokens apart: none is empty, the one behind a raw line starts with a line
feed, and the one between the name `raw` and a sign behind it stays on its line. -/
def Spacing : List (Token × List Char) → Prop
  | [] => True
  | (token, gap) :: rest =>
    Separator gap ∧ gap ≠ [] ∧ (token.kind = .raw → gap.head? = some '\n') ∧
      (token.isName "raw" = true → (∃ next ∈ rest.head?, next.1.isOp "=" = true) →
        ∀ c ∈ gap, c = ' ' ∨ c = '\t') ∧
      Spacing rest

/-- What `raw` means, said of the tokens of a text: it opens a raw line only where no name is
expected, and it is a name only where one is or before a single sign. -/
def Settled (previous : Option Token) : List Token → Prop
  | [] => True
  | token :: rest =>
    (token.kind = .raw → Ready previous) ∧
      (token.isName "raw" = true → Expectant previous ∨ ∃ next ∈ rest.head?, next.isOp "=" = true) ∧
      Settled (some token) rest

/-! ## The tokens of a text -/

/-- A text goes on with a single sign behind blanks of its line. -/
theorem assigns_iff {cs : List Char} :
    assigns cs = true ↔ ∃ run more, cs = run ++ '=' :: more ∧ (∀ c ∈ run, c = ' ' ∨ c = '\t') ∧
      Stops (· == '=') more := by
  have blank_iff (c : Char) : (c == ' ' || c == '\t') = true ↔ c = ' ' ∨ c = '\t' := by simp
  constructor
  · intro assigned
    have split := List.takeWhile_append_dropWhile (p := fun c => c == ' ' || c == '\t') (l := cs)
    unfold assigns at assigned
    split at assigned
    · cases assigned
    · rename_i more distinct sign
      rw [sign] at split
      refine ⟨_, more, split.symm, fun c member => ?_, ?_⟩
      · exact (blank_iff c).mp (run_inside _ cs c member)
      · intro c first
        rw [beq_eq_false_iff_ne]
        rintro rfl
        obtain ⟨tail, rfl⟩ := List.head?_eq_some_iff.mp first
        exact distinct tail rfl
    · cases assigned
  · rintro ⟨run, more, rfl, blanks, single⟩
    have inside (c : Char) (member : c ∈ run) := (blank_iff c).mpr (blanks c member)
    have left := (run_of_stops run ('=' :: more) inside ((stops_cons _ _ _).mpr (by decide))).2
    rw [assigns, left]
    cases more with
    | nil => rfl
    | cons c more =>
      have other : c ≠ '=' := by simpa using single
      simp [other]

/-- A text that goes on with a single sign has the sign as its first token. -/
theorem assigned_next {location : Location} {previous : Option Token} {cs : List Char}
    {tokens : Tokens} (assigned : assigns cs = true)
    (cut : tokenizeFrom location previous cs = .ok tokens) :
    ∃ next ∈ tokens.items.head?, next.isOp "=" = true := by
  obtain ⟨run, more, rfl, blanks, single⟩ := assigns_iff.mp assigned
  have first {location : Location} {tokens : Tokens}
      (cut : tokenizeFrom location previous ('=' :: more) = .ok tokens) :
      ∃ next ∈ tokens.items.head?, next.isOp "=" = true := by
    rw [tokenize_piece (piece_operator '=' more (by decide) fun _ => single)] at cut
    obtain ⟨behind, _, done⟩ := bind_ok cut
    cases done
    exact ⟨_, rfl, by simp [Token.isOp]⟩
  cases run with
  | nil => exact first cut
  | cons c run =>
    have gaps : ∀ d ∈ c :: run, isGap d = true := by
      intro d member
      rcases blanks d member with rfl | rfl <;> decide
    rw [List.forall_mem_cons] at gaps
    have notEnd : c ≠ '\n' := by
      rintro rfl
      exact absurd gaps.1 (by decide)
    obtain ⟨taken, left⟩ :=
      run_of_stops run ('=' :: more) gaps.2 ((stops_cons _ _ _).mpr (by decide))
    have read : piece? (c :: run ++ '=' :: more) = some ⟨.gap, c :: run, '=' :: more⟩ := by
      simp [piece?, notEnd, gaps.1, taken, left]
    rw [tokenize_piece read] at cut
    exact first cut

/-- What `raw` means is settled by the tokens of a text.

Proof: recursion on the text, by its pieces. -/
theorem tokenize_settled {location : Location} {previous : Option Token} {cs : List Char}
    {tokens : Tokens} (cut : tokenizeFrom location previous cs = .ok tokens) :
    Settled previous tokens.items := by
  cases read : piece? cs with
  | none => simp [tokenize_none read cut, Settled]
  | some piece =>
    have shorter : piece.rest.length < cs.length := length_piece? read
    rw [tokenize_piece read] at cut
    split at cut
    · exact tokenize_settled cut
    · exact tokenize_settled cut
    · rename_i kind isToken
      split at cut
      · rename_i opens
        have shorterLine : (piece.rest.dropWhile inLine).length < cs.length :=
          Nat.lt_of_le_of_lt (List.dropWhile_sublist _).length_le shorter
        obtain ⟨behind, cutBehind, done⟩ := bind_ok cut
        cases done
        refine ⟨fun _ => ?_, fun isName => ?_, tokenize_settled cutBehind⟩
        · have ready := opens.2.2
          rw [opens_raw_eq, Bool.and_eq_true, Bool.not_eq_true'] at ready
          exact ready.1
        · simp [Token.isName] at isName
      · rename_i ordinary
        obtain ⟨behind, cutBehind, done⟩ := bind_ok cut
        cases done
        refine ⟨fun isRaw => ?_, fun isName => ?_, tokenize_settled cutBehind⟩
        · simp only at isRaw
          exact absurd (isRaw ▸ isToken) (piece_not_raw read)
        · simp only [Token.isName, Bool.and_eq_true, beq_iff_eq] at isName
          rw [not_and, not_and, opens_raw_eq] at ordinary
          have closed := ordinary isName.1 isName.2
          by_cases expected : Expectant previous
          · exact .inl expected
          · have ready : Ready previous := by simpa using expected
            exact .inr (assigned_next (by simpa [ready] using closed) cutBehind)
termination_by cs.length

/-! ## The tokens with other separators -/

variable {gap : List Char}

/-- A separator separates whatever is behind it. -/
theorem skipped_of_separator (separator : Separator gap) (behind : List Char) :
    Skipped behind gap := by
  induction separator with
  | nothing => exact .nothing
  | blank c space tail inductionHypothesis => exact .blank c space inductionHypothesis
  | comment line inside tail inductionHypothesis =>
    refine .comment line inside ?_ (.blank '\n' (.inr rfl) inductionHypothesis)
    exact (stops_cons _ _ _).mpr (by decide)

/-- A separator starts with a character that goes on with no token. -/
theorem separator_stops (separator : Separator gap) (some : gap ≠ []) (behind : List Char) :
    Stops valueRest (gap ++ behind) ∧ Stops (· == '=') (gap ++ behind) := by
  have first (c : Char) (rest : List Char) (outside : valueRest c = false ∧ (c == '=') = false) :
      Stops valueRest (c :: rest ++ behind) ∧ Stops (· == '=') (c :: rest ++ behind) :=
    ⟨(stops_cons _ _ _).mpr outside.1, (stops_cons _ _ _).mpr outside.2⟩
  cases separator with
  | nothing => exact absurd rfl some
  | blank c space =>
    refine first c _ ?_
    rcases space with space | rfl
    · simp only [isGap, Bool.or_eq_true, beq_iff_eq] at space
      rcases space with (rfl | rfl) | rfl <;> decide
    · decide
  | comment line => exact first '#' _ (by decide)

/-- No token is written with a blank in front. -/
theorem spelling_stops {token : Token} (worded : Worded token.kind token.text.toList)
    (behind : List Char) : Stops isGap (token.spelling ++ behind) := by
  obtain ⟨kind, text, location⟩ := token
  cases kind with
  | name => exact name_stops_gap worded behind
  | number =>
    have sound : (Operand.literal text location).Sound := .inr (.inl worded)
    exact operand_stops_gap sound behind
  | string =>
    have sound : (Operand.literal text location).Sound := .inl worded
    exact operand_stops_gap sound behind
  | op =>
    change Stops isGap (text.toList ++ behind)
    rcases worded with double | ⟨c, operator, single⟩
    · rw [double]
      exact (stops_cons _ _ _).mpr (by decide)
    · rw [single]
      refine (stops_cons _ _ _).mpr ?_
      rcases operator_cases operator with rfl | rfl | rfl | rfl | rfl | rfl | rfl | rfl | rfl <;>
        decide
  | raw => exact (stops_cons _ _ _).mpr (by decide)

/-- The tokens that are written start with no blank. -/
theorem spaced_stops {pairs : List (Token × List Char)}
    (worded : ∀ pair ∈ pairs, Worded pair.1.kind pair.1.text.toList) :
    Stops isGap (spaced pairs) := by
  cases pairs with
  | nil => exact stops_nil _
  | cons pair rest =>
    rw [spaced, List.append_assoc]
    exact spelling_stops (worded pair List.mem_cons_self) _

/-- A name or a mark that is written before a separator is read again. -/
theorem piece_spelled {token : Token} (ordinary : token.kind ≠ .raw)
    (worded : Worded token.kind token.text.toList) {rest : List Char}
    (stops : Stops valueRest rest ∧ Stops (· == '=') rest) :
    piece? (token.text.toList ++ rest) = some ⟨.token token.kind, token.text.toList, rest⟩ := by
  obtain ⟨kind, text, location⟩ := token
  cases kind with
  | name => exact piece_name _ rest worded (stops_name stops.1)
  | number => exact piece_number _ rest worded (stops_number stops.1)
  | string => exact piece_string _ rest worded
  | op =>
    change piece? (text.toList ++ rest) = some ⟨_, text.toList, rest⟩
    rcases worded with double | ⟨c, operator, single⟩
    · rw [double]
      exact piece_comparison rest
    · rw [single]
      exact piece_operator c rest operator fun _ => stops.2
  | raw => exact absurd rfl ordinary

/-- Whether a name is expected behind a token does not depend on where the token stands. -/
theorem expectant_bare (previous : Option Token) :
    (previous.map Token.bare).any Token.expectsName = previous.any Token.expectsName := by
  cases previous <;> rfl

/-- Blanks of a line and a single sign behind them assign. -/
theorem spaced_assigns {rest : List (Token × List Char)} (blanks : ∀ c ∈ gap, c = ' ' ∨ c = '\t')
    (sign : ∃ next ∈ rest.head?, next.1.isOp "=" = true) (spacing : Spacing rest) :
    assigns (gap ++ spaced rest) = true := by
  obtain ⟨⟨next, nextGap⟩, first, sign⟩ := sign
  obtain ⟨others, rfl⟩ := List.head?_eq_some_iff.mp first
  obtain ⟨separator, some, -⟩ := spacing
  simp only [Token.isOp, Bool.and_eq_true, beq_iff_eq] at sign
  refine assigns_iff.mpr ⟨gap, nextGap ++ spaced others, ?_, blanks,
    (separator_stops separator some _).2⟩
  simp [spaced, Token.spelling, sign.1, sign.2]

/-- A name opens no raw line where it is written. The word `raw` is one where a name is expected, or
where the sign behind it is still on its line. -/
theorem spaced_ordinary {previous : Option Token} {token : Token} {rest : List (Token × List Char)}
    (spacing : Spacing ((token, gap) :: rest))
    (settled : Settled previous (token :: rest.map Prod.fst)) :
    ¬(token.kind = .name ∧ token.text = "raw" ∧
      opensRaw (previous.map Token.bare) (gap ++ spaced rest)) := by
  rintro ⟨isName, isWord, opens⟩
  obtain ⟨-, -, -, signed, others⟩ := spacing
  obtain ⟨-, rawNamed, -⟩ := settled
  have named : token.isName "raw" = true := by simp [Token.isName, isName, isWord]
  rw [opens_raw_eq, expectant_bare, Bool.and_eq_true, Bool.not_eq_true', Bool.not_eq_true'] at opens
  rcases rawNamed named with expected | sign
  · rw [expected] at opens
    cases opens.1
  · have sign : ∃ next ∈ rest.head?, next.1.isOp "=" = true := by simpa using sign
    rw [spaced_assigns (signed named sign) sign others] at opens
    cases opens.2

/-- Tokens that are written with separators between them are read again.

Proof: induction on the tokens, for every token before the first. -/
theorem lexes_spaced {previous : Option Token} {pairs : List (Token × List Char)}
    (spacing : Spacing pairs) (settled : Settled previous (pairs.map Prod.fst))
    (worded : ∀ pair ∈ pairs, Worded pair.1.kind pair.1.text.toList)
    (guarded : ∀ pair ∈ pairs, pair.1.kind = .raw → ¬LoneSign pair.1.text.toList) :
    Lexes (previous.map Token.bare) (spaced pairs) ((pairs.map Prod.fst).map Token.bare) := by
  induction pairs generalizing previous with
  | nil => exact lexes_end _
  | cons pair rest inductionHypothesis =>
    obtain ⟨token, gap⟩ := pair
    have ordinary := spaced_ordinary spacing settled
    obtain ⟨separator, some, lineEnd, -, others⟩ := spacing
    obtain ⟨rawReady, -, settledOthers⟩ := settled
    rw [List.forall_mem_cons] at worded guarded
    have behind : Lexes (Option.some token.bare) (gap ++ spaced rest)
        ((rest.map Prod.fst).map Token.bare) :=
      lexes_skipped (skipped_of_separator separator _) (spaced_stops worded.2)
        (inductionHypothesis others settledOthers worded.2 guarded.2)
    obtain ⟨kind, text, location⟩ := token
    have same : String.ofList text.toList = text := String.ofList_toList
    rw [spaced, List.append_assoc, List.map_cons, List.map_cons]
    by_cases isRaw : kind = .raw
    · subst isRaw
      obtain ⟨below, rfl⟩ := List.head?_eq_some_iff.mp (lineEnd rfl)
      have ready : Ready (previous.map Token.bare) := (expectant_bare previous).trans (rawReady rfl)
      exact lexes_raw_line ready worded.1 (guarded.1 rfl) behind
    · have spelled : Token.spelling ⟨kind, text, location⟩ = text.toList := by
        unfold Token.spelling
        split
        · rename_i kind
          exact absurd kind isRaw
        · rfl
      have stops := separator_stops separator some (spaced rest)
      have read : piece? (text.toList ++ (gap ++ spaced rest)) =
          Option.some ⟨.token kind, text.toList, gap ++ spaced rest⟩ :=
        piece_spelled isRaw worded.1 stops
      rw [spelled]
      rw [← same] at ordinary behind
      have cut := lexes_token (previous.map Token.bare) read ordinary behind
      rw [same] at cut
      exact cut

/-- Layout is insignificant. The tokens of a text, written with other separators between them, are
read as the same tokens at other locations, if no raw line among them reads like an assignment.
Before the first token there may be a separator too.

Proof: the new text is gone through token by token (`lexes_spaced`). A token ends where its
separator starts, as no wording goes on with a blank or a comment (`spaced_stops`). Only what `raw`
means hangs on more than its own characters: on the token before it, which is the same in both texts
(`tokenize_settled`), and on a sign behind it, which separators must not hide. -/
theorem layout_insignificant {text source : String} {tokens : Tokens}
    (cut : tokenize text source = .ok tokens)
    (guarded : ∀ token ∈ tokens.items, token.kind = .raw → ¬LoneSign token.text.toList)
    {front : List Char} (separator : Separator front) {pairs : List (Token × List Char)}
    (written : pairs.map Prod.fst = tokens.items) (spacing : Spacing pairs) (name : String) :
    ∃ again, tokenize (String.ofList (front ++ spaced pairs)) name = .ok again ∧
      again.items.map Token.bare = tokens.items.map Token.bare := by
  have member {pair : Token × List Char} (inside : pair ∈ pairs) : pair.1 ∈ tokens.items :=
    written ▸ List.mem_map_of_mem inside
  have worded (pair : Token × List Char) (inside : pair ∈ pairs) :=
    tokenize_worded cut pair.1 (member inside)
  have settled : Settled none (pairs.map Prod.fst) := written ▸ tokenize_settled cut
  have spelled := lexes_spaced spacing settled worded fun pair inside =>
    guarded pair.1 (member inside)
  have lexes := lexes_skipped (skipped_of_separator separator _) (spaced_stops worded) spelled
  obtain ⟨again, read, same⟩ := lexes (.start name) none rfl
  refine ⟨again, ?_, by rw [same, written]⟩
  rw [tokenize, String.toList_ofList]
  exact read

/-- A name `raw` before a sign and a raw line that starts with two signs keep their meanings. -/
theorem raw_respaced :
    ∃ again, tokenize "# a\n raw\t=#c\n1 raw == x\n\n" "b" = .ok again ∧
      again.items.map Token.bare =
        [word "raw" .nowhere, mark "=" .nowhere, ⟨.number, "1", .nowhere⟩,
          ⟨.raw, "== x", .nowhere⟩] := by
  let tokens : Tokens := ⟨[word "raw" ⟨"a", 1, 1⟩, mark "=" ⟨"a", 1, 5⟩,
    ⟨.number, "1", ⟨"a", 1, 7⟩⟩, ⟨.raw, "== x", ⟨"a", 2, 1⟩⟩], ⟨"a", 2, 9⟩⟩
  have cut : (tokenize "raw = 1\nraw == x" "a").toOption = some tokens := by decide +kernel
  have guarded : ∀ token ∈ tokens.items, token.kind = .raw → ¬LoneSign token.text.toList := by
    intro token member isRaw
    simp only [tokens, word, mark, List.mem_cons, List.not_mem_nil, or_false] at member
    rcases member with rfl | rfl | rfl | rfl
    case inr.inr.inr =>
      rintro ⟨rest, text, single⟩
      cases text
      exact single rfl
    all_goals cases isRaw
  have separator : Separator "# a\n ".toList := by
    exact .comment [' ', 'a'] (by decide) (.blank ' ' (.inl rfl) .nothing)
  let pairs := tokens.items.zip [['\t'], ['#', 'c', '\n'], [' '], ['\n', '\n']]
  have spacing : Spacing pairs := by
    refine ⟨.blank '\t' (.inl rfl) .nothing, by decide, nofun,
      fun _ _ => List.forall_mem_singleton.mpr (.inr rfl), ?_⟩
    refine ⟨.comment ['c'] (by decide) .nothing, by decide, nofun, nofun, ?_⟩
    refine ⟨.blank ' ' (.inl rfl) .nothing, by decide, nofun, nofun, ?_⟩
    refine ⟨.blank '\n' (.inr rfl) (.blank '\n' (.inr rfl) .nothing), by decide, fun _ => rfl,
      nofun, trivial⟩
  have written : pairs.map Prod.fst = tokens.items := rfl
  exact layout_insignificant (ok_of_some cut) guarded separator written spacing "b"

end Stencil.Template
