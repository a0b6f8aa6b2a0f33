import Stencil.Proofs.Template.Scanning

/-!
# Text between tokens

Spaces, tabs, carriage returns, line feeds and comments separate tokens and hold
none. A comment runs to the end of its line, so whether a text is such a
separation depends on the text behind it (`Skipped`): a comment that no line feed
ends would take a token behind it along.

A text is cut into the same tokens with a separation in front of it and without
(`lexes_skipped`), and what the lexer passes over in one piece is put in front of
a separation (`piece_skipped`).
-/

namespace Stencil.Template

/-- White space and comments, each comment running to the end of its line. It has the text behind it
as a parameter, since a comment goes on to the end of its line. -/
inductive Skipped (behind : List Char) : List Char → Prop where
  | nothing : Skipped behind []
  | blank (c : Char) {rest : List Char} (space : isGap c = true ∨ c = '\n')
      (tail : Skipped behind rest) : Skipped behind (c :: rest)
  | comment (line : List Char) {rest : List Char} (inside : '\n' ∉ line)
      (ended : Stops inLine (rest ++ behind)) (tail : Skipped behind rest) :
      Skipped behind ('#' :: (line ++ rest))

/-- No piece is a raw line: the lexer takes the rest of the line behind the word. -/
theorem piece_not_raw {cs : List Char} {piece : Piece} (read : piece? cs = some piece) :
    piece.kind ≠ .token .raw := by
  cases cs with
  | nil => simp [piece?] at read
  | cons c rest =>
    simp only [piece?] at read
    grind [Option.map_eq_some_iff]

variable {behind gap : List Char}

/-- Without the blanks that it starts with a separation is one. -/
theorem skipped_drop (skipped : Skipped behind gap) : Skipped behind (gap.dropWhile isGap) := by
  induction skipped with
  | nothing => exact .nothing
  | blank c space tail inductionHypothesis =>
    by_cases blank : isGap c = true
    · rw [List.dropWhile_cons_of_pos blank]
      exact inductionHypothesis
    · rw [List.dropWhile_cons_of_neg blank]
      exact .blank c space tail
  | comment line inside ended tail =>
    rw [List.dropWhile_cons_of_neg (by decide)]
    exact .comment line inside ended tail

/-- Blanks in front of a separation are part of one. -/
theorem skipped_run {run : List Char} (blanks : ∀ c ∈ run, isGap c = true)
    (skipped : Skipped behind gap) : Skipped behind (run ++ gap) := by
  induction run with
  | nil => exact skipped
  | cons c run inductionHypothesis =>
    rw [List.forall_mem_cons] at blanks
    exact .blank c (.inl blanks.1) (inductionHypothesis blanks.2)

/-- What the lexer passes over in one piece is put in front of a separation. -/
theorem piece_skipped {cs : List Char} {piece : Piece} (read : piece? cs = some piece)
    (passed : piece.kind = .lineEnd ∨ piece.kind = .gap) (split : piece.rest = gap ++ behind)
    (skipped : Skipped behind gap) : Skipped behind (piece.text ++ gap) := by
  cases cs with
  | nil => simp [piece?] at read
  | cons c rest =>
    simp only [piece?] at read
    split at read
    · rename_i isEnd
      cases read
      exact .blank c (.inr isEnd) skipped
    split at read
    · rename_i isBlank
      cases read
      have blanks : ∀ d ∈ c :: rest.takeWhile isGap, isGap d = true :=
        List.forall_mem_cons.mpr ⟨isBlank, run_inside isGap rest⟩
      exact skipped_run blanks skipped
    split at read
    · rename_i isComment
      cases read
      subst isComment
      refine .comment _ (rest_line rest) ?_ skipped
      change rest.dropWhile inLine = gap ++ behind at split
      rw [← split]
      exact stops_drop inLine rest
    -- Every other piece is a token.
    · exfalso
      grind [Option.map_eq_some_iff]

/-- A separation in front of a text changes none of its tokens.

Proof: recursion on the separation, by its first piece. A run of blanks is one piece, so what is
behind the separation must not go on with blanks. -/
theorem lexes_skipped {cs gap : List Char} {previous : Option Token} {spelled : List Token}
    (skipped : Skipped cs gap) (stops : Stops isGap cs) (lexes : Lexes previous cs spelled) :
    Lexes previous (gap ++ cs) spelled := by
  cases skipped with
  | nothing => exact lexes
  | @blank c rest space tail =>
    rcases space with blank | rfl
    · have left := drop_of_stops rest stops
      have notEnd : c ≠ '\n' := by
        rintro rfl
        revert blank
        decide
      have read : piece? (c :: (rest ++ cs)) =
          some ⟨.gap, c :: (rest ++ cs).takeWhile isGap, rest.dropWhile isGap ++ cs⟩ := by
        simp [piece?, notEnd, blank, left]
      have shorter : (rest.dropWhile isGap).length ≤ rest.length :=
        (List.dropWhile_sublist _).length_le
      exact lexes_skip read (.inr rfl) (lexes_skipped (skipped_drop tail) stops lexes)
    · have read : piece? ('\n' :: (rest ++ cs)) = some ⟨.lineEnd, ['\n'], rest ++ cs⟩ := rfl
      exact lexes_skip read (.inl rfl) (lexes_skipped tail stops lexes)
  | @comment line rest inside ended tail =>
    have inLine_line : ∀ c ∈ line, inLine c = true := by
      intro c member
      have other : c ≠ '\n' := fun same => inside (same ▸ member)
      simpa [inLine] using other
    obtain ⟨taken, left⟩ := run_of_stops line (rest ++ cs) inLine_line ended
    have read : piece? ('#' :: (line ++ (rest ++ cs))) =
        some ⟨.gap, '#' :: line, rest ++ cs⟩ := by
      have classes : isGap '#' = false := by decide
      simp [piece?, classes, taken, left]
    rw [List.cons_append, List.append_assoc]
    exact lexes_skip read (.inr rfl) (lexes_skipped tail stops lexes)
termination_by gap.length

end Stencil.Template
