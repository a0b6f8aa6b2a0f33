import Stencil.Proofs.Code.Pathnames
import Stencil.Proofs.StatusTable.Naming

/-!
# The runs that a name is made of

A text has runs of ASCII letters and digits, with other characters in front of
them, between them and behind them. An upper snake case name is these runs in
capitals with one underscore between two of them, behind one more underscore if
there is no run or the first starts with a digit (`upper_snake_written`).

The runs of such a name are the capitals of the runs it was made of
(`runs_canonical`). So the name of a name is that name, and two texts have one
name exactly if their runs have the same capitals.

`Runs` describes the runs of a text where they stand; `runs` computes them. What
holds of upper snake case names is proved by induction on the description.
-/

namespace Stencil.StatusTable.Naming

open Code

/-- The runs of letters and digits of a text: what stands between its other characters, the empty
pieces left out. -/
def runs (cs : List Char) : List (List Char) :=
  (cs.splitOnP fun c => !c.isAlphanum).filter (· ≠ [])

/-- Letters in capitals. -/
def capitals (cs : List Char) : List Char := cs.map Char.toUpper

/-- Runs with one underscore between two of them. -/
def joined (runs : List (List Char)) : List Char := ['_'].intercalate runs

/-- Whether a name of some runs can start with the first of them: there is one, and it does not start
with a digit. -/
def opens : List (List Char) → Bool
  | (first :: _) :: _ => !first.isDigit
  | _ => false

/-- The name that some runs make. -/
def ofRuns (runs : List (List Char)) : List Char :=
  (if opens runs then [] else ['_']) ++ joined (runs.map capitals)

/-- The upper snake case name of a text, from its runs. -/
def canonical (text : String) : String := String.ofList (ofRuns (runs text.toList))

/-- The texts with certain runs. The rules cut a text into its maximal runs and what is between
them, and say nothing of names. -/
inductive Runs : List Char → List (List Char) → Prop
  /-- There are no letters or digits. -/
  | gap {gap : List Char} (others : ∀ c ∈ gap, isWord c = false) : Runs gap []
  /-- The first run stands behind other characters. It ends where the text ends or one of them
  stands. -/
  | run {gap run rest : List Char} {runs : List (List Char)}
      (others : ∀ c ∈ gap, isWord c = false) (any : run ≠ []) (words : ∀ c ∈ run, isWord c = true)
      (ends : ∀ c ∈ rest.head?, isWord c = false) (behind : Runs rest runs) :
      Runs (gap ++ run ++ rest) (run :: runs)

variable {cs gap run rest : List Char} {found : List (List Char)}

/-! ## Finding the runs -/

/-- Other characters in front of a text give it no runs. -/
theorem runs_gap (others : ∀ c ∈ gap, isWord c = false) (cs : List Char) :
    runs (gap ++ cs) = runs cs := by
  induction gap with
  | nil => rfl
  | cons c rest inductionHypothesis =>
    rw [List.forall_mem_cons] at others
    have other : (!c.isAlphanum) = true := by
      rw [Bool.not_eq_true']
      exact others.1
    rw [← inductionHypothesis others.2, List.cons_append, runs,
      List.splitOnP_cons_eq_if_modifyHead, if_pos other]
    rfl

/-- A run in front of a text that goes on with another character is the first of its runs. -/
theorem runs_run (any : run ≠ []) (words : ∀ c ∈ run, isWord c = true)
    (ends : ∀ c ∈ rest.head?, isWord c = false) : runs (run ++ rest) = run :: runs rest := by
  have inside : ∀ c ∈ run, (!c.isAlphanum) = false := by
    intro c member
    rw [Bool.not_eq_false']
    exact words c member
  cases rest with
  | nil =>
    rw [List.append_nil, runs, List.splitOnP_eq_singleton inside]
    simp [runs, any]
  | cons c behind =>
    have other : (!c.isAlphanum) = true := by
      rw [Bool.not_eq_true']
      exact ends c rfl
    have apart : runs (c :: behind) = runs behind :=
      @runs_gap [c] (List.forall_mem_singleton.mpr (ends c rfl)) behind
    rw [apart, runs, List.splitOnP_append_cons_of_forall_mem inside _ other, List.filter_cons,
      if_pos (by simpa using any)]
    rfl

/-- The runs of a text are computed. -/
theorem runs_eq (has : Runs cs found) : runs cs = found := by
  induction has with
  | gap others =>
    have none := runs_gap others []
    rw [List.append_nil] at none
    rw [none]
    rfl
  | run others any words ends _ inductionHypothesis =>
    rw [List.append_assoc, runs_gap others, runs_run any words ends, inductionHypothesis]

/-- Another character in front of a text leaves its runs as they are. -/
theorem Runs.behind_other {c : Char} (other : isWord c = false) (has : Runs cs found) :
    Runs (c :: cs) found := by
  cases has with
  | gap others => exact .gap (List.forall_mem_cons.mpr ⟨other, others⟩)
  | @run gap _ _ _ others any words ends behind =>
    exact @Runs.run (c :: gap) _ _ _ (List.forall_mem_cons.mpr ⟨other, others⟩) any words ends behind

/-- A letter or digit in front of a text starts a run, or lengthens the run that the text starts
with. -/
theorem Runs.behind_word {c : Char} (word : isWord c = true) (has : Runs cs found) :
    ∃ longer, Runs (c :: cs) longer := by
  have alone : ∀ d ∈ [c], isWord d = true := List.forall_mem_singleton.mpr word
  cases has with
  | gap others =>
    have ends : ∀ d ∈ cs.head?, isWord d = false :=
      fun d first => others d (List.mem_of_mem_head? first)
    exact ⟨_, @Runs.run [] [c] _ _ (List.forall_mem_nil _) (List.cons_ne_nil c []) alone ends
      (.gap others)⟩
  | @run gap run rest runs others any words ends behind =>
    cases gap with
    | nil =>
      have longer : ∀ d ∈ c :: run, isWord d = true := List.forall_mem_cons.mpr ⟨word, words⟩
      exact ⟨_, @Runs.run [] (c :: run) _ _ (List.forall_mem_nil _) (List.cons_ne_nil c run) longer
        ends behind⟩
    | cons first others' =>
      have apart : ∀ d ∈ (first :: others' ++ run ++ rest).head?, isWord d = false := by
        rintro d ⟨⟩
        exact others _ List.mem_cons_self
      exact ⟨_, @Runs.run [] [c] _ _ (List.forall_mem_nil _) (List.cons_ne_nil c []) alone apart
        (.run others any words ends behind)⟩

/-- Every text has the runs that are computed. -/
theorem runs_found (cs : List Char) : Runs cs (runs cs) := by
  have some : ∃ found, Runs cs found := by
    induction cs with
    | nil => exact ⟨[], .gap (List.forall_mem_nil _)⟩
    | cons c rest inductionHypothesis =>
      obtain ⟨found, has⟩ := inductionHypothesis
      cases word : isWord c with
      | true => exact has.behind_word word
      | false => exact ⟨found, has.behind_other word⟩
  obtain ⟨found, has⟩ := some
  rwa [runs_eq has]

/-- A run of letters and digits. -/
def IsRun (run : List Char) : Prop := run ≠ [] ∧ ∀ c ∈ run, isWord c = true

/-- The runs of a text are runs of letters and digits. -/
theorem Runs.each (has : Runs cs found) : ∀ run ∈ found, IsRun run := by
  induction has with
  | gap _ => exact List.forall_mem_nil _
  | run _ any words _ _ inductionHypothesis =>
    exact List.forall_mem_cons.mpr ⟨⟨any, words⟩, inductionHypothesis⟩

/-! ## Collapsing and trimming -/

/-- Nothing is written for other characters behind an underscore. -/
theorem collapse_gap (others : ∀ c ∈ gap, isWord c = false) (cs : List Char) :
    collapse true (gap ++ cs) = collapse true cs := by
  induction gap with
  | nil => rfl
  | cons c rest inductionHypothesis =>
    rw [List.forall_mem_cons] at others
    rw [List.cons_append, collapse, if_neg (by rw [others.1]; exact Bool.false_ne_true), if_pos rfl]
    exact inductionHypothesis others.2

/-- A run is kept. -/
theorem collapse_run (written : Bool) (any : run ≠ []) (words : ∀ c ∈ run, isWord c = true)
    (cs : List Char) : collapse written (run ++ cs) = run ++ collapse false cs := by
  induction run generalizing written with
  | nil => exact absurd rfl any
  | cons c rest inductionHypothesis =>
    rw [List.forall_mem_cons] at words
    rw [List.cons_append, collapse, if_pos words.1, List.cons_append]
    by_cases last : rest = []
    · rw [last]
      rfl
    · rw [inductionHypothesis false last words.2]

/-- With no underscore written, one may be written in front. -/
theorem collapse_front (cs : List Char) :
    ∃ front, (∀ c ∈ front, c = '_') ∧ collapse false cs = front ++ collapse true cs ∧
      ((∃ c ∈ cs.head?, isWord c = false) → front = ['_']) := by
  cases cs with
  | nil =>
    refine ⟨[], List.forall_mem_nil _, rfl, ?_⟩
    rintro ⟨c, none, _⟩
    cases none
  | cons c rest =>
    by_cases word : isWord c = true
    · refine ⟨[], List.forall_mem_nil _, ?_, ?_⟩
      · rw [collapse, collapse, if_pos word, if_pos word, List.nil_append]
      · rintro ⟨d, ⟨⟩, other⟩
        rw [word] at other
        cases other
    · refine ⟨['_'], List.forall_mem_singleton.mpr rfl, ?_, fun _ => rfl⟩
      rw [collapse, collapse, if_neg word, if_neg word, if_neg Bool.false_ne_true, if_pos rfl]
      rfl

/-- Runs behind a run are joined to it with an underscore. -/
theorem joined_cons (run : List Char) (any : found ≠ []) :
    joined (run :: found) = run ++ '_' :: joined found := by
  rw [joined, List.intercalate_cons_of_ne_nil any, List.append_assoc]
  rfl

/-- Collapsing joins the runs of a text and may leave an underscore behind them. The induction is on
the runs where they stand: what is behind a run is written behind an underscore. -/
theorem collapse_joined (has : Runs cs found) :
    ∃ back, (∀ c ∈ back, c = '_') ∧ collapse true cs = joined found ++ back := by
  induction has with
  | gap others =>
    have none := collapse_gap others []
    rw [List.append_nil] at none
    exact ⟨[], List.forall_mem_nil _, none⟩
  | @run gap run rest runs others any words ends behind inductionHypothesis =>
    obtain ⟨back, underscores, inner⟩ := inductionHypothesis
    rw [List.append_assoc, collapse_gap others, collapse_run true any words]
    cases rest with
    | nil =>
      have none : runs = [] := by rw [← runs_eq behind]; rfl
      exact ⟨[], List.forall_mem_nil _, by rw [none]; simp [joined, collapse]⟩
    | cons c others' =>
      obtain ⟨front, _, outer, marked⟩ := collapse_front (c :: others')
      rw [outer, marked ⟨c, rfl, ends c rfl⟩, inner]
      by_cases none : runs = []
      · refine ⟨'_' :: back, List.forall_mem_cons.mpr ⟨rfl, underscores⟩, ?_⟩
        rw [none]
        simp [joined]
      · refine ⟨back, underscores, ?_⟩
        rw [joined_cons run none]
        simp

/-- Runs that are joined make a text that starts with the first of them. -/
theorem joined_head (run : List Char) (any : run ≠ []) (behind : List (List Char)) :
    (joined (run :: behind)).head? = run.head? :=
  Path.intercalate_head any behind

/-- Runs that are joined make a text that ends in a letter or digit. -/
theorem joined_last (any : found ≠ []) (each : ∀ run ∈ found, IsRun run) :
    ∃ last, (joined found).getLast? = some last ∧ isWord last = true := by
  induction found with
  | nil => exact absurd rfl any
  | cons run rest inductionHypothesis =>
    rw [List.forall_mem_cons] at each
    by_cases none : rest = []
    · subst none
      refine ⟨run.getLast each.1.1, ?_, each.1.2 _ (List.getLast_mem each.1.1)⟩
      rw [joined, List.intercalate_singleton]
      exact List.getLast?_eq_some_getLast each.1.1
    · obtain ⟨last, ends, word⟩ := inductionHypothesis none each.2
      refine ⟨last, ?_, word⟩
      rw [joined_cons run none, List.getLast?_append, List.getLast?_cons, ends]
      rfl

/-- No letter or digit is an underscore. -/
theorem word_apart {c : Char} (word : isWord c = true) : c ≠ '_' := by
  rintro rfl
  cases word

/-- Underscores around a text that does not start or end with one are trimmed. -/
theorem trim_around {front body back : List Char} (before : ∀ c ∈ front, c = '_')
    (behind : ∀ c ∈ back, c = '_') (first : ∀ c ∈ body.head?, c ≠ '_')
    (last : ∀ c ∈ body.getLast?, c ≠ '_') : trim (front ++ body ++ back) = body := by
  have kept (cs : List Char) (head : ∀ c ∈ cs.head?, c ≠ '_') :
      cs.dropWhile (· = '_') = cs := by
    cases cs with
    | nil => rfl
    | cons c rest => exact List.dropWhile_cons_of_neg (by simpa using head c rfl)
  have all {cs : List Char} (underscores : ∀ c ∈ cs, c = '_') : ∀ c ∈ cs, decide (c = '_') = true :=
    fun c member => decide_eq_true (underscores c member)
  have reversed : ∀ c ∈ back.reverse, c = '_' := fun c member => behind c (List.mem_reverse.mp member)
  rw [trim, List.append_assoc, List.dropWhile_append_of_pos (all before)]
  cases body with
  | nil =>
    rw [List.nil_append, ← List.append_nil back, List.dropWhile_append_of_pos (all behind)]
    rfl
  | cons c rest =>
    have front : (c :: rest ++ back).dropWhile (· = '_') = c :: rest ++ back :=
      kept _ (by simpa using first)
    rw [front, List.reverse_append, List.dropWhile_append_of_pos (all reversed), kept,
      List.reverse_reverse]
    rw [List.head?_reverse]
    exact last

/-- Collapsing and trimming a text joins its runs. -/
theorem trim_collapse (cs : List Char) : trim (collapse false cs) = joined (runs cs) := by
  have each := (runs_found cs).each
  obtain ⟨back, behind, inner⟩ := collapse_joined (runs_found cs)
  obtain ⟨front, before, outer, _⟩ := collapse_front cs
  rw [outer, inner, ← List.append_assoc]
  apply trim_around before behind
  · intro c first
    cases found : runs cs with
    | nil =>
      rw [found] at first
      cases first
    | cons run rest =>
      rw [found] at first each
      have isRun := each run List.mem_cons_self
      rw [joined_head run isRun.1] at first
      exact word_apart (isRun.2 c (List.mem_of_mem_head? first))
  · intro c last
    by_cases none : runs cs = []
    · rw [none] at last
      cases last
    · obtain ⟨d, ends, word⟩ := joined_last none each
      rw [ends] at last
      cases last
      exact word_apart word

/-! ## Capitals -/

/-- The capital of a letter or digit is a letter or digit, its own capital, and a digit only if it
was. -/
theorem word_capital {c : Char} (word : isWord c = true) :
    isWord c.toUpper = true ∧ c.toUpper.toUpper = c.toUpper ∧ c.toUpper.isDigit = c.isDigit := by
  have each : ∀ n < 0x80, isWord (Char.ofNat n) = true →
      isWord (Char.ofNat n).toUpper = true ∧
        (Char.ofNat n).toUpper.toUpper = (Char.ofNat n).toUpper ∧
        (Char.ofNat n).toUpper.isDigit = (Char.ofNat n).isDigit := by decide
  have known := each c.toNat (word_ascii word)
  rw [Char.ofNat_toNat] at known
  exact known word

/-- The capitals of a run are a run. -/
theorem run_capitals (isRun : IsRun run) : IsRun (capitals run) := by
  constructor
  · simpa [capitals] using isRun.1
  · intro c member
    obtain ⟨source, among, rfl⟩ := List.mem_map.mp member
    exact (word_capital (isRun.2 source among)).1

/-- The capitals of a run are their own capitals. -/
theorem capitals_again (isRun : IsRun run) : capitals (capitals run) = capitals run := by
  rw [capitals, capitals, List.map_map]
  exact List.map_congr_left fun c member => (word_capital (isRun.2 c member)).2.1

/-- The capitals of joined runs are their joined capitals. -/
theorem capitals_joined (found : List (List Char)) :
    capitals (joined found) = joined (found.map capitals) := by
  induction found with
  | nil => rfl
  | cons run rest inductionHypothesis =>
    by_cases none : rest = []
    · rw [none]
      simp [joined]
    · have more : rest.map capitals ≠ [] := by simpa using none
      rw [List.map_cons, joined_cons run none, joined_cons _ more, ← inductionHypothesis, capitals,
        List.map_append]
      rfl

/-- An upper snake case name is made of the runs of the text. -/
theorem upper_snake_written (cs : List Char) : upperSnakeChars cs = ofRuns (runs cs) := by
  have each := (runs_found cs).each
  have upper : (joined (runs cs)).map Char.toUpper = joined ((runs cs).map capitals) :=
    capitals_joined (runs cs)
  unfold upperSnakeChars ofRuns
  rw [trim_collapse, upper]
  cases found : runs cs with
  | nil => rfl
  | cons run behind =>
    rw [found] at each
    have isRun := each run List.mem_cons_self
    obtain ⟨c, others, rfl⟩ := List.exists_cons_of_ne_nil isRun.1
    have head : (joined (((c :: others) :: behind).map capitals)).head? = some c.toUpper :=
      joined_head (capitals (c :: others)) (run_capitals isRun).1 _
    obtain ⟨tail, written⟩ := List.head?_eq_some_iff.mp head
    have same : c.toUpper.isDigit = c.isDigit := (word_capital (isRun.2 c List.mem_cons_self)).2.2
    rw [written, opens]
    dsimp only
    rw [same]
    cases c.isDigit <;> rfl

/-- An upper snake case name is the name that the runs of the text make. -/
theorem upper_snake_eq (text : String) : upperSnakeText text = canonical text :=
  congrArg String.ofList (upper_snake_written text.toList)

/-! ## Names of names -/

/-- Joined runs, behind other characters, have these runs. -/
theorem runs_joined (each : ∀ run ∈ found, IsRun run) (others : ∀ c ∈ gap, isWord c = false) :
    Runs (gap ++ joined found) found := by
  induction found generalizing gap with
  | nil =>
    have none : gap ++ joined [] = gap := List.append_nil gap
    rw [none]
    exact .gap others
  | cons run rest inductionHypothesis =>
    rw [List.forall_mem_cons] at each
    have underscore : ∀ c ∈ ['_'], isWord c = false := List.forall_mem_singleton.mpr rfl
    by_cases none : rest = []
    · have alone : gap ++ joined [run] = gap ++ run ++ [] := by simp [joined]
      rw [none, alone]
      exact .run others each.1.1 each.1.2 (by simp) (.gap (List.forall_mem_nil _))
    · rw [joined_cons run none, ← List.append_assoc]
      apply Runs.run others each.1.1 each.1.2
      · rintro c ⟨⟩
        rfl
      · exact inductionHypothesis each.2 underscore

/-- The runs of an upper snake case name are the capitals of the runs that it was made of. -/
theorem runs_canonical (text : String) :
    runs (canonical text).toList = (runs text.toList).map capitals := by
  have each : ∀ run ∈ (runs text.toList).map capitals, IsRun run := by
    intro run member
    obtain ⟨source, among, rfl⟩ := List.mem_map.mp member
    exact run_capitals ((runs_found text.toList).each source among)
  rw [canonical, String.toList_ofList, ofRuns]
  apply runs_eq
  apply runs_joined each
  cases opens (runs text.toList) with
  | true => exact List.forall_mem_nil _
  | false => exact List.forall_mem_singleton.mpr rfl

/-- A name of runs in capitals is the name of these runs. -/
theorem of_runs_capitals (each : ∀ run ∈ found, IsRun run) :
    ofRuns (found.map capitals) = ofRuns found := by
  have again : (found.map capitals).map capitals = found.map capitals := by
    rw [List.map_map]
    exact List.map_congr_left fun run member => capitals_again (each run member)
  have same : opens (found.map capitals) = opens found := by
    cases found with
    | nil => rfl
    | cons run rest =>
      have isRun := each run List.mem_cons_self
      obtain ⟨c, others, rfl⟩ := List.exists_cons_of_ne_nil isRun.1
      exact congrArg (!·) (word_capital (isRun.2 c List.mem_cons_self)).2.2
  rw [ofRuns, ofRuns, again, same]

/-- Two texts have one upper snake case name exactly if their runs have the same capitals. -/
theorem canonical_eq_iff (text other : String) :
    canonical text = canonical other ↔
      (runs text.toList).map capitals = (runs other.toList).map capitals := by
  constructor
  · intro same
    rw [← runs_canonical, same, runs_canonical]
  · intro same
    rw [canonical, canonical, ← of_runs_capitals (runs_found text.toList).each, same,
      of_runs_capitals (runs_found other.toList).each]

/-- The name of an upper snake case name is that name. -/
theorem canonical_again (text : String) : canonical (canonical text) = canonical text := by
  rw [canonical, runs_canonical, of_runs_capitals (runs_found text.toList).each, canonical]

/-- In upper snake case a text is named by its runs of letters and digits in capitals, joined by
single underscores, behind one more underscore exactly if there is no run or the first starts with a
digit. Such a name starts with a capital or an underscore, goes on with capitals, digits and
underscores, and is no reserved word; its name is itself; and two texts have one name exactly if
their runs are equal but for small letters and capitals.

Proof: going over the text once gives the name that its runs make (`upper_snake_eq`). The runs of
such a name are the runs that it is made of, in capitals, so it is its own name, and texts with one
name have the same runs in capitals (`canonical_eq_iff`). No reserved word is one, as each has a
small letter. -/
theorem upper_snake_canonical (text : String) :
    Runs text.toList (runs text.toList) ∧
    upperSnake.apply (.text text) = .ok (.text (canonical text)) ∧
    (∃ first rest, (canonical text).toList = first :: rest ∧
      (first.isUpper = true ∨ first = '_') ∧
      ∀ c ∈ rest, c.isUpper = true ∨ c.isDigit = true ∨ c = '_') ∧
    canonical text ∉ reservedWords ∧
    upperSnake.apply (.text (canonical text)) = .ok (.text (canonical text)) ∧
    ∀ other : String, upperSnake.apply (.text text) = upperSnake.apply (.text other) ↔
      (runs text.toList).map capitals = (runs other.toList).map capitals := by
  have applied (text : String) : upperSnake.apply (.text text) = .ok (.text (canonical text)) := by
    rw [← upper_snake_eq]
    rfl
  refine ⟨runs_found text.toList, applied text, ?_, ?_, ?_, ?_⟩
  · rw [← upper_snake_eq, upperSnakeText, String.toList_ofList]
    obtain ⟨first, rest, chars, noDigit, capitals⟩ := upper_snake_chars text.toList
    refine ⟨first, rest, chars, ?_, ?_⟩
    · have capital := capitals first List.mem_cons_self
      rw [isCapital, noDigit] at capital
      simpa using capital
    · intro c member
      have capital := capitals c (List.mem_cons_of_mem _ member)
      simpa [isCapital, or_assoc] using capital
  · rw [← upper_snake_eq]
    exact upper_snake_unreserved text
  · rw [applied, canonical_again]
  · intro other
    rw [applied, applied, ← canonical_eq_iff]
    simp

end Stencil.StatusTable.Naming
