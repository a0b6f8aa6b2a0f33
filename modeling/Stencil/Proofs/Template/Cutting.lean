import Mathlib.Logic.Relation
import Stencil.Proofs.Template.Separation

/-!
# Texts that are cut off

A lexeme is what the lexer can take off the front of a text: a line feed, a run of
blanks, a comment or a worded token. Where it can take nothing off, no lexeme
starts (`refused_starts_none`).

A piece is read the same from a text that is cut off anywhere behind it
(`piece_cut`). What `raw` means depends on more of the text, but not if the text
is cut off where no lexeme starts (`opens_raw_cut`). So every turn of the lexer
can be taken on such a text as well (`take_cut`), and if the lexer refuses a text,
it reads what stands before the fault to its end, with the tokens that it had read
when it stopped (`stopped_cut`).
-/

namespace Stencil.Template

/-- The text of a token or of what separates tokens. It is said by kinds of texts, without the
function that cuts them, for which it is the measure. -/
inductive Lexeme : List Char → Prop where
  | lineEnd : Lexeme ['\n']
  | blanks {run : List Char} (some : run ≠ []) (blanks : ∀ c ∈ run, isGap c = true) : Lexeme run
  | comment (line : List Char) (inside : '\n' ∉ line) : Lexeme ('#' :: line)
  | token {kind : TokenKind} {text : List Char} (ordinary : kind ≠ .raw)
      (worded : Worded kind text) : Lexeme text

/-- No lexeme stands at the front of a text, and there is a text. -/
def StartsNone (text : List Char) : Prop := text ≠ [] ∧ ∀ lexeme, Lexeme lexeme → ¬lexeme <+: text

/-! ## Where no lexeme starts -/

/-- A text that a piece could be cut off starts with none of the characters that open one alone. -/
theorem refused_cons {c : Char} {rest : List Char} (refused : piece? (c :: rest) = none) :
    c ≠ '\n' ∧ isGap c = false ∧ c ≠ '#' ∧ isNameStart c = false ∧ Text.isDigit c = false ∧
      isOperator c = false := by
  simp only [piece?] at refused
  split at refused
  · cases refused
  split at refused
  · cases refused
  split at refused
  · cases refused
  split at refused
  · cases refused
  split at refused
  · cases refused
  rename_i notEnd notGap notMark notStart notDigit
  refine ⟨notEnd, by simpa using notGap, notMark, by simpa using notStart, by simpa using notDigit,
    ?_⟩
  split at refused
  · rename_i isMark
    rcases isMark with rfl | rfl <;> decide
  split at refused
  · decide
  · cases refused
  · split at refused
    · cases refused
    · rename_i notOperator
      simpa using notOperator

/-- What the lexer refuses starts no lexeme. The cases are those of a lexeme: each starts with a
character that the lexer goes on from. -/
theorem refused_starts_none {text : List Char} (some : text ≠ []) (refused : piece? text = none) :
    StartsNone text := by
  refine ⟨some, ?_⟩
  rintro lexeme is ⟨rest, rfl⟩
  cases is with
  | lineEnd => exact absurd rfl (refused_cons refused).1
  | @blanks run some blanks =>
    obtain ⟨c, run, rfl⟩ := List.exists_cons_of_ne_nil some
    have blank := blanks c List.mem_cons_self
    rw [(refused_cons refused).2.1] at blank
    cases blank
  | comment line inside => exact absurd rfl (refused_cons refused).2.2.1
  | @token kind text ordinary worded =>
    cases kind with
    | name =>
      obtain ⟨first, tail, rfl, start, _⟩ := worded
      rw [(refused_cons refused).2.2.2.1] at start
      cases start
    | number =>
      obtain ⟨sign, whole, fraction, signed, ⟨nonempty, digits⟩, _, rfl⟩ := worded
      obtain ⟨first, others, rfl⟩ := List.exists_cons_of_ne_nil nonempty
      have digit := digits first List.mem_cons_self
      rcases signed with rfl | rfl
      · rw [(refused_cons refused).2.2.2.2.1] at digit
        cases digit
      · have classes : isGap '-' = false ∧ isNameStart '-' = false ∧ Text.isDigit '-' = false := by
          decide
        simp [piece?, classes, digit] at refused
    | string =>
      rw [piece_string _ rest worded] at refused
      cases refused
    | op =>
      rcases worded with rfl | ⟨c, operator, rfl⟩
      · exact absurd (refused_cons refused).2.2.2.2.2 (by decide)
      · rw [(refused_cons refused).2.2.2.2.2] at operator
        cases operator
    | raw => exact absurd rfl ordinary

/-- What the lexer takes off a text is a lexeme. -/
theorem piece_lexeme {cs : List Char} {piece : Piece} (read : piece? cs = some piece) :
    Lexeme piece.text := by
  have worded := (piece_worded read).2
  have notRaw := piece_not_raw read
  cases cs with
  | nil => simp [piece?] at read
  | cons c rest =>
    simp only [piece?] at read
    split at read
    · rename_i isEnd
      cases read
      rw [isEnd]
      exact .lineEnd
    split at read
    · rename_i isBlank
      cases read
      refine .blanks (List.cons_ne_nil _ _) ?_
      exact List.forall_mem_cons.mpr ⟨isBlank, run_inside isGap rest⟩
    split at read
    · rename_i isComment
      cases read
      rw [isComment]
      exact .comment _ (rest_line rest)
    have isToken : ∃ kind, piece.kind = .token kind := by
      clear worded notRaw
      grind [Option.map_eq_some_iff]
    obtain ⟨kind, is⟩ := isToken
    exact .token (fun same => notRaw (same ▸ is)) (worded kind is)

/-- No lexeme starts exactly where the lexer can take nothing off. -/
theorem starts_none_iff {text : List Char} (some : text ≠ []) :
    StartsNone text ↔ piece? text = none := by
  constructor
  · rintro ⟨_, none⟩
    cases read : piece? text with
    | none => rfl
    | some piece =>
      have whole := (piece_worded read).1
      exact absurd (whole ▸ List.prefix_append _ _) (none piece.text (piece_lexeme read))
  · exact refused_starts_none some

/-! ## Pieces of a text that is cut off -/

section

variable {p : Char → Bool} {cs kept after : List Char}

/-- A run is read the same from a text that is cut off behind it. -/
theorem run_cut (left : cs.dropWhile p = kept ++ after) :
    (cs.takeWhile p ++ kept).takeWhile p = cs.takeWhile p ∧
      (cs.takeWhile p ++ kept).dropWhile p = kept := by
  have stops := stops_drop p cs
  rw [left] at stops
  exact run_of_stops _ kept (run_inside p cs) (stops_front stops)

/-- A number is read the same from a text that is cut off behind it. The cases are those of
`numberRest`. -/
theorem number_rest_cut (left : (numberRest cs).2 = kept ++ after) :
    numberRest ((numberRest cs).1 ++ kept) = ((numberRest cs).1, kept) := by
  have point : Text.isDigit '.' = false := by decide
  have digits := run_inside Text.isDigit cs
  unfold numberRest at left ⊢
  split at left
  · rename_i d rest dropped
    split at left
    · rename_i digit
      obtain ⟨taken, behind⟩ := run_cut left
      obtain ⟨whole, fraction⟩ := run_of_stops (cs.takeWhile Text.isDigit)
        ('.' :: d :: (rest.takeWhile Text.isDigit ++ kept)) digits ((stops_cons _ _ _).mpr point)
      simp [digit, whole, fraction, taken, behind]
    · rename_i other
      change '.' :: d :: rest = kept ++ after at left
      cases kept with
      | nil =>
        obtain ⟨whole, none⟩ := run_of_stops (cs.takeWhile Text.isDigit) [] digits (stops_nil _)
        rw [List.append_nil] at whole none
        simp [other, whole, none]
      | cons first kept =>
        rw [List.cons_append, List.cons.injEq] at left
        obtain ⟨rfl, left⟩ := left
        obtain ⟨whole, behind⟩ := run_of_stops (cs.takeWhile Text.isDigit) ('.' :: kept) digits
          ((stops_cons _ _ _).mpr point)
        cases kept with
        | nil => simp [other, whole, behind]
        | cons second kept =>
          rw [List.cons_append, List.cons.injEq] at left
          obtain ⟨rfl, _⟩ := left
          simp [other, whole, behind]
  · rename_i whole noFraction
    change cs.dropWhile Text.isDigit = kept ++ after at left
    obtain ⟨taken, behind⟩ := run_cut left
    rw [left] at noFraction
    simp only [taken, behind]
    split
    · exact absurd rfl (noFraction _ _)
    · rfl

/-- A piece is read the same from a text that is cut off behind it. The cases are those of `piece?`:
a piece ends where its own characters end, so what is cut off behind it does not matter. -/
theorem piece_cut {piece : Piece} (read : piece? cs = some piece)
    (left : piece.rest = kept ++ after) :
    piece? (piece.text ++ kept) = some ⟨piece.kind, piece.text, kept⟩ := by
  cases cs with
  | nil => simp [piece?] at read
  | cons c rest =>
    simp only [piece?] at read
    split at read
    · rename_i isEnd
      cases read
      subst isEnd
      rfl
    split at read
    · rename_i notEnd isBlank
      cases read
      obtain ⟨taken, behind⟩ := run_cut left
      simp [piece?, notEnd, isBlank, taken, behind]
    split at read
    · rename_i notEnd notBlank isComment
      cases read
      subst isComment
      obtain ⟨taken, behind⟩ := run_cut left
      simp [piece?, notBlank, taken, behind]
    split at read
    · rename_i notEnd notBlank notComment start
      cases read
      obtain ⟨taken, behind⟩ := run_cut left
      simp [piece?, notEnd, notBlank, notComment, start, taken, behind]
    split at read
    · rename_i notEnd notBlank notComment notStart digit
      cases read
      have number := number_rest_cut left
      simp [piece?, notEnd, notBlank, notComment, notStart, digit, number]
    split at read
    · rename_i isMark
      obtain ⟨⟨text, tail⟩, inner, rfl⟩ := Option.map_eq_some_iff.mp read
      obtain ⟨body, quoted, rfl, _⟩ := string_rest_worded inner
      exact piece_string _ kept ⟨c, body, isMark, quoted, rfl⟩
    split at read
    · rename_i d tail _ _ _ _ _ _
      split at read
      · rename_i digit
        cases read
        have number := number_rest_cut left
        have classes : isGap '-' = false ∧ isNameStart '-' = false ∧ Text.isDigit '-' = false := by
          decide
        simp [piece?, classes, digit, number]
      · cases read
    · cases read
      exact piece_comparison kept
    · rename_i single
      split at read
      · rename_i operator
        cases read
        refine piece_operator _ kept operator ?_
        rintro rfl
        change rest = kept ++ after at left
        have stops : Stops (· == '=') rest := by
          cases rest with
          | nil => exact stops_nil _
          | cons d rest =>
            rw [stops_cons, beq_eq_false_iff_ne]
            rintro rfl
            exact single _ rfl rfl
        rw [left] at stops
        exact stops_front stops
      · cases read

/-- What `raw` means is the same in a text that is cut off where no piece starts. -/
theorem assigns_cut (some : after ≠ []) (refused : piece? after = none) :
    assigns (kept ++ after) = assigns kept := by
  obtain ⟨c, rest, rfl⟩ := List.exists_cons_of_ne_nil some
  obtain ⟨_, notGap, _, _, _, notOperator⟩ := refused_cons refused
  have visible : (c == ' ' || c == '\t') = false := by
    simp only [isGap, Bool.or_eq_false_iff] at notGap
    exact Bool.or_eq_false_iff.mpr notGap.1
  have notEquals : c ≠ '=' := by
    rintro rfl
    revert notOperator
    decide
  have whole : (kept ++ c :: rest).dropWhile (fun c => c == ' ' || c == '\t') =
      kept.dropWhile (fun c => c == ' ' || c == '\t') ++ c :: rest :=
    drop_of_stops kept ((stops_cons _ _ _).mpr visible)
  unfold assigns
  rw [whole]
  rcases kept.dropWhile (fun c => c == ' ' || c == '\t') with - | ⟨first, - | ⟨second, others⟩⟩
  · simp [notEquals]
  · by_cases sign : first = '='
    · simp [sign, notEquals]
    · simp [sign]
  · by_cases sign : first = '='
    · by_cases doubled : second = '='
      · simp [sign, doubled]
      · simp [sign, doubled]
    · simp [sign]

/-- What `raw` means is the same in a text that is cut off where no piece starts. -/
theorem opens_raw_cut (previous : Option Token) (some : after ≠ [])
    (refused : piece? after = none) :
    opensRaw previous (kept ++ after) = opensRaw previous kept := by
  rw [opens_raw_eq, opens_raw_eq, assigns_cut some refused]

end

/-! ## Turns on a text that is cut off -/

namespace Scan

/-- The lexer comes from one place to the next by a turn. -/
def Turns (scan next : Scan) : Prop := scan.rest ≠ [] ∧ scan.turn = .ok next

/-- The lexer comes from one place to another by turns. -/
abbrev Comes : Scan → Scan → Prop := Relation.ReflTransGen Turns

/-- A place with another text left. -/
def cut (scan : Scan) (kept : List Char) : Scan := { scan with rest := kept }

variable {scan next stopped : Scan} {kept after : List Char}

/-- A piece is taken off a text that is cut off behind it, where no piece starts, in the same
way. -/
theorem take_cut {piece : Piece} (read : piece? scan.rest = some piece) (some : after ≠ [])
    (refused : piece? after = none) (left : (scan.take piece).rest = kept ++ after) :
    ∃ taken, scan.rest = taken ++ (scan.take piece).rest ∧
      (scan.cut (taken ++ kept)).turn = .ok ((scan.take piece).cut kept) := by
  have whole := (piece_worded read).1
  have nonempty := piece_nonempty read
  unfold take at left ⊢
  cases kind : piece.kind with
  | lineEnd | gap =>
    simp only [kind] at left ⊢
    refine ⟨piece.text, whole, ?_⟩
    simp [turn, cut, piece_cut read left, take, kind]
  | token word =>
    simp only [kind] at left ⊢
    split at left
    · rename_i opens
      obtain ⟨taken, behind⟩ := run_cut left
      have lined : piece.rest = (piece.rest.takeWhile inLine ++ kept) ++ after := by
        rw [List.append_assoc, ← left, List.takeWhile_append_dropWhile]
      have same : opensRaw scan.read.getLast? (piece.rest.takeWhile inLine ++ kept ++ after) =
          opensRaw scan.read.getLast? (piece.rest.takeWhile inLine ++ kept) :=
        opens_raw_cut _ some refused
      rw [← lined] at same
      rw [same] at opens
      refine ⟨piece.text ++ piece.rest.takeWhile inLine, ?_, ?_⟩
      · rw [if_pos (by rwa [same]), List.append_assoc, List.takeWhile_append_dropWhile, ← whole]
      · rw [if_pos (by rwa [same]), List.append_assoc]
        simp [turn, cut, piece_cut read lined, take, kind, opens, taken, behind]
    · rename_i ordinary
      have same : opensRaw scan.read.getLast? (kept ++ after) =
          opensRaw scan.read.getLast? kept := opens_raw_cut _ some refused
      change piece.rest = kept ++ after at left
      rw [← left] at same
      refine ⟨piece.text, ?_, ?_⟩
      · rw [if_neg ordinary, ← whole]
      · rw [if_neg ordinary]
        rw [same] at ordinary
        simp [turn, cut, piece_cut read left, take, kind, ordinary]

/-- A turn takes a piece off the text. -/
theorem turns_piece (turned : scan.Turns next) :
    ∃ piece, piece? scan.rest = some piece ∧ next = scan.take piece := by
  obtain ⟨filled, done⟩ := turned
  unfold turn at done
  split at done
  · split at done
    · rename_i empty
      exact absurd empty filled
    · split at done <;> cases done
  · rename_i piece read
    cases done
    exact ⟨piece, read, rfl⟩

/-- A turn is taken on a text that is cut off behind it, where no piece starts, as well. -/
theorem turn_cut (turned : scan.Turns next) (some : after ≠ []) (refused : piece? after = none)
    (left : next.rest = kept ++ after) :
    ∃ taken, scan.Takes next taken ∧ (scan.cut (taken ++ kept)).Turns (next.cut kept) := by
  obtain ⟨taken, takes⟩ := turn_takes turned.1 turned.2
  refine ⟨taken, takes, by simp [cut, takes.nonempty], ?_⟩
  obtain ⟨piece, read, rfl⟩ := turns_piece turned
  obtain ⟨same, whole, again⟩ := take_cut read some refused left
  rw [takes.text] at whole
  rw [List.append_cancel_right whole]
  exact again

/-- The lexer comes as far on a text that is cut off where no piece starts, and there it is through.

Proof: induction on the turns, from the last to the first. -/
theorem comes_cut (comes : scan.Comes stopped) (some : stopped.rest ≠ [])
    (refused : piece? stopped.rest = none) :
    ∃ before, scan.rest = before ++ stopped.rest ∧
      stopped.location = scan.location.through before ∧
      (scan.cut before).outcome = .ok ⟨stopped.read, stopped.location⟩ := by
  induction comes using Relation.ReflTransGen.head_induction_on with
  | refl =>
    refine ⟨[], rfl, rfl, ?_⟩
    simp [outcome, cut, tokenize_end, pure, Except.pure, bind, Except.bind]
  | head turned _ inductionHypothesis =>
    obtain ⟨kept, left, behind, read⟩ := inductionHypothesis
    obtain ⟨taken, takes, again⟩ := turn_cut turned some refused left
    refine ⟨taken ++ kept, ?_, ?_, ?_⟩
    · rw [takes.text, left, List.append_assoc]
    · rw [behind, takes.location, through_append]
    · rw [turn_outcome again.1, again.2]
      exact read

/-- A loop that ends with a fault has stopped at a place where no piece starts.

Proof: induction on the turns. -/
theorem loop_stops {turns : Nat} {fault : SyntaxError}
    (ended : scan.loop turns = some (.error fault)) :
    ∃ stopped, scan.Comes stopped ∧ stopped.rest ≠ [] ∧ piece? stopped.rest = none ∧
      fault.location = stopped.location := by
  induction turns generalizing scan with
  | zero => cases ended
  | succ turns inductionHypothesis =>
    rw [loop] at ended
    by_cases empty : scan.rest = []
    · rw [if_pos empty] at ended
      cases ended
    · rw [if_neg empty] at ended
      cases turned : scan.turn with
      | error first =>
        rw [turned] at ended
        cases ended
        refine ⟨scan, .refl, empty, ?_, turn_refused turned⟩
        cases read : piece? scan.rest with
        | none => rfl
        | some piece =>
          rw [turn, read] at turned
          cases turned
      | ok next =>
        rw [turned] at ended
        obtain ⟨stopped, comes, filled, refused, here⟩ := inductionHypothesis ended
        exact ⟨stopped, .head ⟨empty, turned⟩ comes, filled, refused, here⟩

end Scan

/-- There is at most one place that the lexer comes to where no lexeme starts: it goes no further
from there, and behind every place before a lexeme was taken. -/
theorem stops_once {scan first second : Scan} (one : scan.Comes first) (other : scan.Comes second)
    (refused : StartsNone first.rest) (stays : StartsNone second.rest) : first = second := by
  have next_of {scan next : Scan} (turned : scan.Turns next) : ¬StartsNone scan.rest := by
    intro none
    obtain ⟨piece, read, _⟩ := Scan.turns_piece turned
    rw [(starts_none_iff turned.1).mp none] at read
    cases read
  have unique : Relator.RightUnique Scan.Turns := by
    intro scan next again turned another
    exact Except.ok.inj (turned.2.symm.trans another.2)
  have still {first second : Scan} (comes : first.Comes second) (none : StartsNone first.rest) :
      first = second := by
    rcases comes.cases_head with same | ⟨next, turned, _⟩
    · exact same
    · exact absurd none (next_of turned)
  rcases one.total_of_right_unique unique other with comes | comes
  · exact still comes refused
  · exact (still comes stays).symm

/-- If the lexer refuses a text, it has stopped where no lexeme starts, and the text before that
place is read to its end, with the tokens that were read when it stopped. -/
theorem tokenize_stops {text source : String} {fault : SyntaxError}
    (refused : tokenize text source = .error fault) :
    ∃ stopped before, (Scan.start text source).Comes stopped ∧ StartsNone stopped.rest ∧
      text.toList = before ++ stopped.rest ∧ fault.location = stopped.location ∧
      stopped.location = (Location.start source).through before ∧
      tokenize (String.ofList before) source = .ok ⟨stopped.read, stopped.location⟩ := by
  have ended := tokenize_follows (Nat.lt_succ_self text.toList.length) source
  rw [refused] at ended
  obtain ⟨stopped, comes, some, none, here⟩ := Scan.loop_stops ended
  obtain ⟨before, whole, behind, read⟩ := Scan.comes_cut comes some none
  have again : (Scan.start text source).cut before = Scan.start (String.ofList before) source := by
    simp [Scan.start, Scan.cut]
  rw [again, Scan.start_outcome] at read
  exact ⟨stopped, before, comes, refused_starts_none some none, whole, here, behind, read⟩

end Stencil.Template
