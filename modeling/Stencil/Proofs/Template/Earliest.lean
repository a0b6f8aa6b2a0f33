import Mathlib.Order.Bounds.Basic
import Stencil.Proofs.Template.Completing
import Stencil.Proofs.Template.Descent

/-!
# Faults are found at the earliest token

Tokens that are refused are refused at an index. The machine has taken what
stands before it, which can be completed (`taken_completes`), and does not take
what is in sight there, whatever is behind. So no accepted tokens start as these
do up to the index, and the index is the least such.

Where a fault is reported is a matter of its cause (`Tokens.Blames`): most faults
are reported at that index, and some at an earlier token that opened what is
left open. Which token that is follows from the account that the state keeps of
the tokens taken (`State.Reads`), one phase at a time.
-/

namespace Stencil.Template

/-- Other tokens are the same up to an index, the end of the text included. -/
def Tokens.AgreeTo (tokens others : Tokens) (index : Nat) : Prop :=
  ∀ place ≤ index, others.sight place = tokens.sight place

/-- No accepted tokens start as these do up to an index. It is a property of the accepted lists
alone: nothing is said of the machine, nor of where a fault is reported. -/
def Tokens.RuledOut (tokens : Tokens) (index : Nat) : Prop :=
  ∀ others forms, tokens.AgreeTo others index → parseTokens others ≠ .ok forms

/-- Which place a fault of tokens that are ruled out at an index is reported at. A fault about what
was expected, a closing brace, a raw line without text and a keyword are reported at the index. A
word without an equals sign is reported where it stands, an open parenthesis or brace where it was
opened, and a point at its dollar sign. -/
def Tokens.Blames (tokens : Tokens) (index place : Nat) : Cause → Prop
  | .expectedOperator _ _ found | .expectedName _ found | .expectedStatement found
  | .expectedValue found => place = index ∧ found = (tokens.sight index).described
  | .unmatchedClosingBrace => place = index ∧ (tokens.sight index).isOp "\x7d" = true
  | .emptyRaw => place = index ∧ ∃ location, tokens.sight index = .token ⟨.raw, "", location⟩
  | .unknownStatement text =>
    (∃ location, tokens.sight place = .token (word text location)) ∧
      (text ∈ keywords ∧ place = index ∨
        text ∉ keywords ∧ place + 1 = index ∧ (tokens.sight index).isOp "=" = false)
  | .unmatchedParenthesis =>
    (tokens.sight place).isOp "(" = true ∧ place < index ∧
      (∀ inner, place < inner → inner < index → ∃ token, tokens.sight inner = .token token ∧
        (token.kind = .name ∨ token.isOp "," = true)) ∧
      (tokens.sight index).isOp ")" = false
  | .unmatchedOpeningBrace =>
    (tokens.sight place).isOp "\x7b" = true ∧ place < index ∧ index = tokens.items.length ∧
      ∃ forms, Derives (tokens.items.drop (place + 1)) forms
  | .pointWithoutParenthesis =>
    (tokens.sight place).isOp "$" = true ∧ place + 1 = index ∧
      (tokens.sight index).isOp "(" = false
  | .pointWithoutName =>
    (tokens.sight place).isOp "$" = true ∧ (tokens.sight (place + 1)).isOp "(" = true ∧
      place + 2 = index ∧ (tokens.sight index).name? = none
  | .pointUnclosed =>
    (tokens.sight place).isOp "$" = true ∧ (tokens.sight (place + 1)).isOp "(" = true ∧
      (tokens.sight (place + 2)).name?.isSome = true ∧ place + 3 = index ∧
      (tokens.sight index).isOp ")" = false
  | _ => False

/-- A fault of tokens that are ruled out at an index is reported at the token that it blames. For
each sort of fault it says which token that is, and what stands there. -/
def Tokens.Reports (tokens : Tokens) (index : Nat) (fault : SyntaxError) : Prop :=
  ∃ place ≤ index, fault.location = (tokens.sight place).location ∧
    tokens.Blames index place fault.cause

variable {tokens others : Tokens} {index : Nat} {fault : SyntaxError}

/-! ## Where the machine stops -/

/-- A token is in sight where it stands. -/
theorem sight_token_iff {token : Token} :
    tokens.sight index = .token token ↔ tokens.items[index]? = some token := by
  unfold Tokens.sight
  constructor
  · intro here
    split at here
    · rename_i found there
      cases here
      exact there
    · cases here
  · intro there
    rw [there]

/-- Tokens that agree before an index have the same front. -/
theorem take_agreeing (inside : index ≤ tokens.items.length)
    (agree : ∀ place < index, others.sight place = tokens.sight place) :
    others.items.take index = tokens.items.take index := by
  apply List.ext_getElem?
  intro place
  rw [List.getElem?_take, List.getElem?_take]
  split
  · rename_i before
    have there : tokens.items[place]? = some tokens.items[place] :=
      List.getElem?_eq_getElem (by omega)
    rw [there, ← sight_token_iff, agree place before]
    exact sight_token_iff.mpr there
  · rfl

/-- What is read is read on from where the machine has come. -/
theorem parse_taken {state : State}
    (taken : State.start.run (tokens.items.take index) = .ok state) :
    parseTokens tokens = tokens.readOn state index := by
  have whole : State.start.run tokens.items = state.run (tokens.items.drop index) := by
    have parted := State.run_append (tokens.items.drop index) taken
    rwa [List.take_append_drop] at parted
  unfold Tokens.readOn
  rw [← whole]
  rfl

/-- The machine has taken what stands before an index and does not take what is in sight there. -/
def Tokens.StopsAt (tokens : Tokens) (index : Nat) (fault : SyntaxError) : Prop :=
  ∃ state, State.start.run (tokens.items.take index) = .ok state ∧
    state.step (tokens.sight index) = .error fault

/-- Tokens that are refused are refused at one of them, or at the end of the text. -/
theorem stops_somewhere (refused : parseTokens tokens = .error fault) :
    ∃ index ≤ tokens.items.length, tokens.StopsAt index fault := by
  rcases bind_error refused with early | ⟨state, taken, late⟩
  · obtain ⟨before, token, behind, state, whole, taken, failed⟩ := fold_error early
    refine ⟨before.length, by simp [whole], state, ?_, ?_⟩
    · rw [whole, List.take_left]
      exact taken
    · have there : tokens.items[before.length]? = some token := by
        rw [whole, List.getElem?_append_right (Nat.le_refl _), Nat.sub_self]
        rfl
      rw [sight_token_iff.mpr there]
      exact failed
  · refine ⟨tokens.items.length, Nat.le_refl _, state, ?_, ?_⟩
    · rw [List.take_length]
      exact taken
    · rcases bind_error late with failed | ⟨last, _, done⟩
      · unfold Tokens.sight
        rw [List.getElem?_eq_none (Nat.le_refl _)]
        exact failed
      · cases done

/-- What is refused at an index is refused there whatever is behind it. -/
theorem refused_alike (stops : tokens.StopsAt index fault) (inside : index ≤ tokens.items.length)
    (agree : tokens.AgreeTo others index) : parseTokens others = .error fault := by
  obtain ⟨state, taken, failed⟩ := stops
  have same := take_agreeing inside fun place before => agree place (Nat.le_of_lt before)
  rw [← same] at taken
  rw [← agree index (Nat.le_refl _)] at failed
  rw [parse_taken taken]
  exact read_on_error failed

/-- What stands before the index is the front of accepted tokens. -/
theorem completed_before {place : Nat} (stops : tokens.StopsAt index fault)
    (inside : index ≤ tokens.items.length) (before : place < index) :
    ¬ tokens.RuledOut place := by
  intro ruledOut
  obtain ⟨state, taken, _⟩ := stops
  obtain ⟨forms, parsed⟩ := taken_completes taken tokens.stop
  apply ruledOut _ forms _ parsed
  intro other upTo
  have there : tokens.items[other]? = some tokens.items[other] :=
    List.getElem?_eq_getElem (by omega)
  rw [sight_token_iff.mpr there, sight_token_iff, List.getElem?_append_left (by simp; omega),
    List.getElem?_take, if_pos (by omega)]
  exact there

/-- The index where the machine stops is the least one that rules all accepted tokens out. -/
theorem stops_least (stops : tokens.StopsAt index fault) (inside : index ≤ tokens.items.length) :
    IsLeast {place | tokens.RuledOut place} index := by
  constructor
  · intro others forms agree parsed
    rw [refused_alike stops inside agree] at parsed
    cases parsed
  · intro place ruledOut
    by_contra less
    exact completed_before stops inside (Nat.lt_of_not_le less) ruledOut

/-! ## What a fault is reported at -/

section

/-- A fault at the index is reported where one looks. -/
theorem reports_here {cause : Cause} (blames : tokens.Blames index index cause) :
    tokens.Reports index ⟨cause, (tokens.sight index).location⟩ :=
  ⟨index, Nat.le_refl _, rfl, blames⟩

/-- A fault at the index is reported at the token there. -/
theorem reports_at {cause : Cause} {token : Token} (here : tokens.sight index = .token token)
    (blames : tokens.Blames index index cause) : tokens.Reports index ⟨cause, token.location⟩ := by
  have reported := reports_here blames
  rwa [here] at reported

/-- An operator that is required and not there is missed at the index. -/
theorem reports_op {text context : String} {next : State}
    (failed : requireOp text context (tokens.sight index) next = .error fault) :
    tokens.Reports index fault := by
  unfold requireOp at failed
  split at failed
  · cases failed
  · cases failed
    exact reports_here ⟨rfl, rfl⟩

/-- A name that is required and not there is missed at the index. -/
theorem reports_name {context : String} {next : String → State}
    (failed : requireName context (tokens.sight index) next = .error fault) :
    tokens.Reports index fault := by
  unfold requireName at failed
  split at failed
  · cases failed
  · cases failed
    exact reports_here ⟨rfl, rfl⟩

/-- A value that is required and not there is missed at the index. -/
theorem reports_value {state : State} {slot : Slot}
    (failed : state.readValue slot (tokens.sight index) = .error fault) :
    tokens.Reports index fault := by
  obtain rfl : fault = ⟨.expectedValue (tokens.sight index).described,
      (tokens.sight index).location⟩ := by
    revert failed
    cases tokens.sight index with
    | stop stop =>
      intro failed
      cases failed
      rfl
    | token token =>
      obtain ⟨kind, text, location⟩ := token
      intro failed
      unfold State.readValue at failed
      simp only at failed
      split at failed
      · cases failed
      · cases kind with
        | name =>
          simp only at failed
          split at failed
          · cases failed
          · split at failed <;> cases failed
            rfl
        | raw | op =>
          cases failed
          rfl
        | _ => cases failed
  exact reports_here ⟨rfl, rfl⟩

variable {before behind : List Token}

/-- The tokens at the back of those taken are in sight before the index. -/
theorem sight_behind (whole : tokens.items.take index = before ++ behind) (offset : Nat)
    {token : Token} (there : behind[offset]? = some token) :
    tokens.sight (before.length + offset) = .token token := by
  have taken : (tokens.items.take index)[before.length + offset]? = some token := by
    rw [whole, List.getElem?_append_right (by omega), Nat.add_sub_cancel_left]
    exact there
  rw [List.getElem?_take] at taken
  split at taken
  · exact sight_token_iff.mpr taken
  · cases taken

/-- The tokens taken are as many as the index says. -/
theorem length_taken (inside : index ≤ tokens.items.length)
    (whole : tokens.items.take index = before ++ behind) :
    before.length + behind.length = index := by
  have lengths := congrArg List.length whole
  rw [List.length_take, List.length_append] at lengths
  omega

/-- Separated parameters are names and commas. -/
theorem separated_kinds {parameters : List Token} {names : List String}
    (separated : Separated parameters names) :
    ∀ token ∈ parameters, token.kind = .name ∨ token.isOp "," = true := by
  induction separated with
  | nothing => simp
  | more tokens names name place comma _ _ inductionHypothesis =>
    intro token member
    rcases List.mem_append.mp member with earlier | last
    · exact inductionHypothesis token earlier
    rcases (by simpa using last : token = _ ∨ token = _) with rfl | rfl
    · exact .inl rfl
    · exact .inr rfl

/-- The token that stands behind others among those taken is in sight where they end. -/
theorem sight_first {token : Token} (whole : tokens.items.take index = before ++ token :: behind) :
    tokens.sight before.length = .token token :=
  sight_behind whole 0 rfl

/-- A fault is reported at a token taken before. -/
theorem reports_taken {token : Token} {cause : Cause} (inside : index ≤ tokens.items.length)
    (whole : tokens.items.take index = before ++ token :: behind)
    (blames : tokens.Blames index before.length cause) :
    tokens.Reports index ⟨cause, token.location⟩ := by
  have lengths := length_taken inside whole
  rw [List.length_cons] at lengths
  refine ⟨before.length, by omega, ?_, blames⟩
  rw [sight_first whole]
  rfl

/-- Where parameters are not closed, their parenthesis is reported. -/
theorem reports_parenthesis {opening : Location} {parameters : List Token}
    (inside : index ≤ tokens.items.length)
    (whole : tokens.items.take index = before ++ mark "(" opening :: parameters)
    (kinds : ∀ token ∈ parameters, token.kind = .name ∨ token.isOp "," = true)
    (unclosed : (tokens.sight index).isOp ")" = false) :
    tokens.Reports index ⟨.unmatchedParenthesis, opening⟩ := by
  have opened : (tokens.sight before.length).isOp "(" = true := by
    rw [sight_first whole]
    rfl
  have lengths := length_taken inside whole
  rw [List.length_cons] at lengths
  apply reports_taken inside whole
  refine ⟨opened, by omega, ?_, unclosed⟩
  intro inner further earlier
  obtain ⟨offset, rfl⟩ : ∃ offset, inner = before.length + (offset + 1) :=
    ⟨inner - before.length - 1, by omega⟩
  have there : parameters[offset]? = some parameters[offset] :=
    List.getElem?_eq_getElem (by omega)
  exact ⟨parameters[offset], sight_behind whole _ there, kinds _ (List.getElem_mem _)⟩

/-- Where a body is not closed at the end of the text, its brace is reported. -/
theorem reports_brace {opening : Location} {forms : List Form}
    (whole : tokens.items = before ++ mark "\x7b" opening :: behind)
    (derived : Derives behind forms) :
    tokens.Reports tokens.items.length ⟨.unmatchedOpeningBrace, opening⟩ := by
  have taken : tokens.items.take tokens.items.length = before ++ mark "\x7b" opening :: behind := by
    rw [List.take_length, whole]
  have opened : (tokens.sight before.length).isOp "\x7b" = true := by
    rw [sight_first taken]
    rfl
  have rest : tokens.items.drop (before.length + 1) = behind := by
    rw [whole, ← List.drop_drop, List.drop_left]
    rfl
  apply reports_taken (Nat.le_refl _) taken
  refine ⟨opened, by simp [whole], rfl, forms, ?_⟩
  rw [rest]
  exact derived

end

section

variable {forms : List Form} {levels : List Level} {before : List Token}

/-- A token that no statement starts with is reported where it stands. -/
theorem reports_start {state : State} {token : Token} (here : tokens.sight index = .token token)
    (failed : state.begin (.token token) = .error fault) : tokens.Reports index fault := by
  simp only [State.begin] at failed
  split at failed
  · rename_i closes
    cases opened : state.levels with
    | nil =>
      rw [opened] at failed
      cases failed
      exact reports_at here ⟨rfl, by rw [here]; exact closes⟩
    | cons level levels =>
      rw [opened] at failed
      cases header : level.header <;> (simp only [header] at failed; cases failed)
  split at failed
  · cases failed
  obtain ⟨kind, text, location⟩ := token
  cases kind with
  | raw =>
    simp only at failed
    split at failed
    · rename_i empty
      cases failed
      obtain rfl : text = "" := by simpa using empty
      exact reports_at here ⟨rfl, location, here⟩
    · cases failed
  | name =>
    simp only at failed
    split at failed
    · cases failed
    split at failed
    · cases failed
    split at failed
    · cases failed
    split at failed
    · rename_i reserved
      cases failed
      exact reports_at here ⟨⟨location, here⟩, .inl ⟨List.contains_iff_mem.mp reserved, rfl⟩⟩
    · cases failed
  | _ =>
    cases failed
    exact reports_at here ⟨rfl, by rw [here]⟩

/-- A statement that does not start is reported at the index, and a body that is not closed at its
brace. -/
theorem reports_begin {state : State} (inside : index ≤ tokens.items.length)
    (reads : state.Reads (tokens.items.take index)) (ready : state.phase = .ready)
    (failed : state.begin (tokens.sight index) = .error fault) : tokens.Reports index fault := by
  obtain ⟨forms, levels, phase⟩ := state
  obtain ⟨outer, read, part, spine, derived, covers, whole⟩ := reads
  cases ready
  obtain rfl : part = [] := covers
  cases here : tokens.sight index with
  | stop stop =>
    obtain ⟨atEnd, rfl, _⟩ := drop_of_stop here
    obtain rfl : index = tokens.items.length := by omega
    rw [here] at failed
    rw [List.take_length, List.append_nil] at whole
    cases spine with
    | outermost => cases failed
    | inside earlier statements head level levels _ _ _ =>
      cases failed
      rw [List.append_assoc] at whole
      exact reports_brace whole derived
  | token token =>
    rw [here] at failed
    exact reports_start here failed

/-- Where a parameter or the closing parenthesis is missed, one of them is reported, the parenthesis
where it was opened. -/
theorem reports_parameter {location opening : Location} {name : String} {args names : List String}
    {parameters : List Token} (inside : index ≤ tokens.items.length)
    (arranged : tokens.items.take index = before ++ mark "(" opening :: parameters)
    (separated : Separated parameters names)
    (failed : State.step ⟨forms, levels, .parameter location name opening args⟩
      (tokens.sight index) = .error fault) : tokens.Reports index fault := by
  simp only [State.step] at failed
  by_cases closed : (tokens.sight index).isOp ")" = true
  · rw [if_pos closed] at failed
    cases failed
  rw [if_neg closed] at failed
  rcases ite_eq_iff.mp failed with ⟨_, unmatched⟩ | ⟨_, missed⟩
  · cases unmatched
    exact reports_parenthesis inside arranged (separated_kinds separated) (by simpa using closed)
  · exact reports_name missed

/-- Behind a parameter a brace is reported where it stands, and anything else at the parenthesis
that it leaves open. -/
theorem reports_after_parameter {location opening position : Location} {name arg : String}
    {args names : List String} {parameters : List Token} (inside : index ≤ tokens.items.length)
    (arranged : tokens.items.take index =
      before ++ mark "(" opening :: (parameters ++ [word arg position]))
    (separated : Separated parameters names)
    (failed : State.step ⟨forms, levels, .afterParameter location name opening args⟩
      (tokens.sight index) = .error fault) : tokens.Reports index fault := by
  have kinds : ∀ token ∈ parameters ++ [word arg position],
      token.kind = .name ∨ token.isOp "," = true := by
    intro token member
    rcases List.mem_append.mp member with earlier | last
    · exact separated_kinds separated token earlier
    · obtain rfl := List.mem_singleton.mp last
      exact .inl rfl
  simp only [State.step] at failed
  by_cases comma : (tokens.sight index).isOp "," = true
  · rw [if_pos comma] at failed
    cases failed
  rw [if_neg comma] at failed
  by_cases closed : (tokens.sight index).isOp ")" = true
  · rw [if_pos closed] at failed
    cases failed
  rw [if_neg closed] at failed
  split at failed
  · rename_i here
    cases failed
    exact reports_at here ⟨rfl, by rw [here]⟩
  · cases failed
    exact reports_parenthesis inside arranged kinds (by simpa using closed)

/-- A word without an equals sign behind it is reported. -/
theorem reports_assignment {location : Location} {target : String}
    (inside : index ≤ tokens.items.length)
    (arranged : tokens.items.take index = before ++ [word target location])
    (named : target ∉ keywords)
    (failed : State.step ⟨forms, levels, .assignment location target⟩ (tokens.sight index) =
      .error fault) : tokens.Reports index fault := by
  simp only [State.step] at failed
  split at failed
  · cases failed
  · rename_i unsigned
    cases failed
    apply reports_taken inside arranged
    have next := length_taken inside arranged
    exact ⟨⟨location, sight_first arranged⟩, .inr ⟨named, next, by simpa using unsigned⟩⟩

/-- A dollar sign without a parenthesis behind it is reported. -/
theorem reports_point_open {marker : Location} {place : Place}
    (inside : index ≤ tokens.items.length)
    (arranged : tokens.items.take index = before ++ [mark "$" marker])
    (failed : State.step ⟨forms, levels, .pointOpen marker place⟩ (tokens.sight index) =
      .error fault) : tokens.Reports index fault := by
  simp only [State.step] at failed
  split at failed
  · cases failed
  · rename_i unopened
    cases failed
    apply reports_taken inside arranged
    refine ⟨?_, length_taken inside arranged, by simpa using unopened⟩
    rw [sight_first arranged]
    rfl

/-- A point without a name is reported at its dollar sign. -/
theorem reports_point_name {marker opening : Location} {place : Place}
    (inside : index ≤ tokens.items.length)
    (arranged : tokens.items.take index = before ++ [mark "$" marker, mark "(" opening])
    (failed : State.step ⟨forms, levels, .pointName marker place⟩ (tokens.sight index) =
      .error fault) : tokens.Reports index fault := by
  simp only [State.step] at failed
  split at failed
  · cases failed
  · rename_i unnamed
    cases failed
    apply reports_taken inside arranged
    refine ⟨?_, ?_, length_taken inside arranged, unnamed⟩
    · rw [sight_first arranged]
      rfl
    · rw [sight_behind arranged 1 rfl]
      rfl

/-- A point that is not closed is reported at its dollar sign. -/
theorem reports_point_close {marker opening position : Location} {place : Place} {name : String}
    (inside : index ≤ tokens.items.length)
    (arranged : tokens.items.take index =
      before ++ [mark "$" marker, mark "(" opening, word name position])
    (named : name ∉ keywords)
    (failed : State.step ⟨forms, levels, .pointClose marker place name⟩ (tokens.sight index) =
      .error fault) : tokens.Reports index fault := by
  simp only [State.step] at failed
  split at failed
  · split at failed <;> cases failed
  · rename_i unclosed
    cases failed
    apply reports_taken inside arranged
    refine ⟨?_, ?_, ?_, length_taken inside arranged, by simpa using unclosed⟩
    · rw [sight_first arranged]
      rfl
    · rw [sight_behind arranged 1 rfl]
      rfl
    · rw [sight_behind arranged 2 rfl]
      simp [Sight.name?, named]

end

/-- Whatever the machine does not take is reported at the index, or at the token taken before that
opened what is left open. Between two statements this is decided by the statement that does not
start; inside one, the phase knows which tokens it stands behind. By the phase in which the machine
stops and the token that it sees there. -/
theorem reports_stop (stops : tokens.StopsAt index fault) (inside : index ≤ tokens.items.length) :
    tokens.Reports index fault := by
  obtain ⟨state, taken, failed⟩ := stops
  have empty : State.start.Reads [] := ⟨[], [], [], .outermost, .nothing, rfl, rfl⟩
  have reads := reads_run empty _ taken
  have settled := reads_settle reads
  rw [List.nil_append] at reads settled
  obtain ⟨forms, levels, phase⟩ := state
  obtain ⟨outer, read, part, spine, derived, covers, whole⟩ := reads
  cases phase with
  | ready => exact reports_begin inside settled rfl failed
  | functionName | conditionLeft => exact reports_name failed
  | functionOpen | functionColon | functionBody | conditionOperator | conditionColon | thenBody
  | elseColon | elseBody => exact reports_op failed
  | value slot => exact reports_value failed
  | parameter location name opening args =>
    obtain ⟨place, parameters, named, separated, rfl⟩ := covers
    have arranged : tokens.items.take index = (outer ++ read ++ [word "def" location,
        word name place]) ++ mark "(" opening :: parameters := by
      simpa using whole
    exact reports_parameter inside arranged separated failed
  | afterParameter location name opening args =>
    obtain ⟨place, parameters, names, arg, position, named, separated, argNamed, rfl, rfl⟩ := covers
    have arranged : tokens.items.take index = (outer ++ read ++ [word "def" location,
        word name place]) ++ mark "(" opening :: (parameters ++ [word arg position]) := by
      simpa using whole
    exact reports_after_parameter inside arranged separated failed
  | afterThen | afterSplice =>
    simp only [State.step] at failed
    split at failed
    · cases failed
    · exact reports_begin inside settled rfl failed
  | assignment location target =>
    obtain ⟨named, rfl⟩ := covers
    exact reports_assignment inside whole named failed
  | pointOpen marker position =>
    obtain ⟨before, covered, rfl⟩ := covers
    have arranged : tokens.items.take index = (outer ++ read ++ before) ++ [mark "$" marker] := by
      simpa using whole
    exact reports_point_open inside arranged failed
  | pointName marker position =>
    obtain ⟨before, opening, covered, rfl⟩ := covers
    have arranged : tokens.items.take index =
        (outer ++ read ++ before) ++ [mark "$" marker, mark "(" opening] := by
      simpa using whole
    exact reports_point_name inside arranged failed
  | pointClose marker position name =>
    obtain ⟨before, opening, place, covered, named, rfl⟩ := covers
    have arranged : tokens.items.take index =
        (outer ++ read ++ before) ++ [mark "$" marker, mark "(" opening, word name place] := by
      simpa using whole
    exact reports_point_close inside arranged named failed

/-! ## Refused tokens -/

/-- Reading by descent refuses with the same fault, whatever stands behind the index. -/
theorem descent_refused_alike {turns : Nat} (stops : tokens.StopsAt index fault)
    (inside : index ≤ tokens.items.length) (agree : tokens.AgreeTo others index)
    (enough : others.items.length < turns) :
    ∃ last, (Descent.template others turns []).run.run 0 = some (.error fault, last) := by
  obtain ⟨last, _, ran⟩ := Descent.template_follows enough
  rw [refused_alike stops inside agree] at ran
  exact ⟨last, ran⟩

/-- Tokens that are refused are refused at the least index up to which no accepted tokens agree with
them. The machine has taken what stands before the index and nothing else, and the fault is the same
whatever stands behind it, for the machine and for reading by descent. It is reported at the token
that it blames, at the index or before.

Proof: the machine looks at one token at a time, so what it does up to an index is the same for all
tokens that agree so far (`refused_alike`). Whatever it has taken can be completed to tokens that
are accepted, and what it refuses cannot, so the index where it stops is the least
(`stops_least`). -/
theorem refused_earliest (refused : parseTokens tokens = .error fault) :
    ∃ index ≤ tokens.items.length,
      IsLeast {place | tokens.RuledOut place} index ∧ tokens.StopsAt index fault ∧
      (∀ others, tokens.AgreeTo others index → parseTokens others = .error fault ∧
        ∀ turns, others.items.length < turns →
          ∃ last, (Descent.template others turns []).run.run 0 = some (.error fault, last)) ∧
      tokens.Reports index fault := by
  obtain ⟨index, inside, stops⟩ := stops_somewhere refused
  refine ⟨index, inside, stops_least stops inside, stops, ?_, reports_stop stops inside⟩
  intro others agree
  constructor
  · exact refused_alike stops inside agree
  · intro turns enough
    exact descent_refused_alike stops inside agree enough

/-- A conditional whose body opens a function and does not close its parameters. -/
def unclosedParameters : Tokens where
  items := [word "if" ⟨"t", 1, 1⟩, word "x" ⟨"t", 1, 4⟩, mark "==" ⟨"t", 1, 6⟩,
    mark "$" ⟨"t", 1, 9⟩, mark "(" ⟨"t", 1, 10⟩, word "v" ⟨"t", 1, 11⟩, mark ")" ⟨"t", 1, 12⟩,
    mark ":" ⟨"t", 1, 13⟩, mark "\x7b" ⟨"t", 1, 15⟩, word "def" ⟨"t", 2, 3⟩, word "f" ⟨"t", 2, 7⟩,
    mark "(" ⟨"t", 2, 8⟩, word "a" ⟨"t", 2, 9⟩, mark "," ⟨"t", 2, 10⟩, mark "\x7b" ⟨"t", 2, 12⟩,
    mark "\x7d" ⟨"t", 3, 1⟩]
  stop := ⟨"t", 3, 2⟩

/-- The parenthesis of the parameters is reported, and what makes it wrong is the brace behind. -/
theorem unclosed_parameters_earliest :
    parseTokens unclosedParameters = .error ⟨.unmatchedParenthesis, ⟨"t", 2, 8⟩⟩ ∧
    ∃ index ≤ unclosedParameters.items.length,
      IsLeast {place | unclosedParameters.RuledOut place} index ∧
      unclosedParameters.StopsAt index ⟨.unmatchedParenthesis, ⟨"t", 2, 8⟩⟩ ∧
      (∀ others, unclosedParameters.AgreeTo others index →
        parseTokens others = .error ⟨.unmatchedParenthesis, ⟨"t", 2, 8⟩⟩ ∧
        ∀ turns, others.items.length < turns →
          ∃ last, (Descent.template others turns []).run.run 0 =
            some (.error ⟨.unmatchedParenthesis, ⟨"t", 2, 8⟩⟩, last)) ∧
      unclosedParameters.Reports index ⟨.unmatchedParenthesis, ⟨"t", 2, 8⟩⟩ :=
  ⟨by rfl, refused_earliest (by rfl)⟩

end Stencil.Template
