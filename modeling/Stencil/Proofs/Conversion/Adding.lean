import Stencil.Conversion.Table
import Stencil.Proofs.Conversion.Sameness
import Stencil.Proofs.Outcome

/-!
# Adding rules

What a rule table finds after rules were added to it one by one. A rule that is
added is found for its pair; what was found before is found with the same
function, since another function is refused (`adding_keeps`, `adding_finds`).
The pairs of the table are those added, each at its first occurrence
(`adding_keys`).

A pair of a row and the pair of the row's rule may be written differently, but
they are the same. That is all that the theory asks of a table (`Row.Sound`).
-/

namespace Stencil.Conversion

open Code

/-- A row with a declared pair and a rule for the same. -/
structure Row.Sound {φ : Type} (known : Pair → Prop) (row : Row φ) : Prop where
  key : known row.key
  first : row.key.origin.isSome
  pair : known row.rule.pair
  declared : row.rule.pair.origin.isSome
  same : row.rule.pair.same row.key = true

/-- The pairs of a list behind others, each at its first occurrence: where it is the same as none
before. -/
def gathered (seen pairs : List Pair) : List Pair :=
  pairs.foldl (fun seen pair => if seen.any pair.same then seen else seen ++ [pair]) seen

variable {φ : Type} {known : Pair → Prop}

/-- A rule is added whose pair is known and declared. -/
structure Rule.Sound (known : Pair → Prop) (rule : Rule φ) : Prop where
  pair : known rule.pair
  declared : rule.pair.origin.isSome

namespace Table

variable {rows : List (Row φ)} {rule : Rule φ}

/-- A rule that is placed makes no row unsound. -/
theorem place_sound (sound : ∀ row ∈ rows, row.Sound known) (fits : rule.Sound known) :
    ∀ row ∈ place rule rows, row.Sound known := by
  induction rows with
  | nil =>
    intro row member
    rw [place, List.mem_singleton] at member
    subst member
    exact ⟨fits.pair, fits.declared, fits.pair, fits.declared, same_refl fits.declared⟩
  | cons head rest inductionHypothesis =>
    have first := sound head (by simp)
    have behind := inductionHypothesis fun row member => sound row (.tail _ member)
    intro row member
    rw [place] at member
    split at member
    · rename_i same
      rcases List.mem_cons.mp member with rfl | old
      · exact ⟨first.key, first.first, fits.pair, fits.declared, same⟩
      · exact sound row (.tail _ old)
    · rcases List.mem_cons.mp member with rfl | old
      · exact first
      · exact behind row old

/-- The keys of sound rows are known. -/
theorem rows_known (sound : ∀ row ∈ rows, row.Sound known) : ∀ row ∈ rows, known row.key :=
  fun row member => (sound row member).key

/-- A placed rule is found for its pair, and all else is found as before. -/
theorem find_place (keys : Keys known) (knows : ∀ row ∈ rows, known row.key)
    (fits : known rule.pair) {pair : Pair} (asked : known pair) :
    find? pair (place rule rows) = if pair.same rule.pair then some rule else find? pair rows := by
  induction rows with
  | nil =>
    rw [place, find?, List.find?_cons]
    cases pair.same rule.pair <;> rfl
  | cons head rest inductionHypothesis =>
    have key := knows head (by simp)
    have behind := inductionHypothesis fun row member => knows row (.tail _ member)
    rw [place]
    by_cases here : rule.pair.same head.key = true
    · -- The row is that of the rule's pair, so a pair is the same as both or as none.
      rw [if_pos here, find?, find?, List.find?_cons, List.find?_cons]
      have both : pair.same head.key = pair.same rule.pair := by
        rw [Bool.eq_iff_iff]
        constructor
        · intro same
          exact same_trans keys asked key fits same (same_symm keys fits key here)
        · intro same
          exact same_trans keys asked fits key same here
      rw [both]
      cases pair.same rule.pair <;> rfl
    · rw [if_neg here, find?, List.find?_cons, find?, List.find?_cons]
      cases same : pair.same head.key with
      | false => exact behind
      | true =>
        have other : pair.same rule.pair ≠ true := fun again =>
          here (same_trans keys fits asked key (same_symm keys asked fits again) same)
        rw [if_neg other]

/-- A placed rule gets a new row if its pair was the same as that of no row. -/
theorem place_keys (rule : Rule φ) (rows : List (Row φ)) :
    (place rule rows).map Row.key =
      if (rows.map Row.key).any rule.pair.same then rows.map Row.key
      else rows.map Row.key ++ [rule.pair] := by
  induction rows with
  | nil => rfl
  | cons head rest inductionHypothesis =>
    rw [place, List.map_cons, List.any_cons]
    cases same : rule.pair.same head.key with
    | true => rfl
    | false =>
      rw [Bool.false_or]
      simp only [Bool.false_eq_true, if_false, List.map_cons, inductionHypothesis]
      split <;> rfl

/-- The same pairs find the same rule. -/
theorem find_same (keys : Keys known) (knows : ∀ row ∈ rows, known row.key) {pair other : Pair}
    (asked : known pair) (again : known other) (same : pair.same other = true) :
    find? pair rows = find? other rows := by
  induction rows with
  | nil => rfl
  | cons head rest inductionHypothesis =>
    have key := knows head (by simp)
    have behind := inductionHypothesis fun row member => knows row (.tail _ member)
    have both : pair.same head.key = other.same head.key := by
      rw [Bool.eq_iff_iff]
      constructor
      · exact same_trans keys again asked key (same_symm keys asked again same)
      · exact same_trans keys asked again key same
    rw [find?, find?, List.find?_cons, List.find?_cons, both]
    cases other.same head.key with
    | true => rfl
    | false => exact behind

/-- What is found is the rule of a row of the pair. -/
theorem find_some {pair : Pair} {held : Rule φ} (found : find? pair rows = some held) :
    ∃ row ∈ rows, row.rule = held ∧ pair.same row.key = true := by
  obtain ⟨row, first, rfl⟩ := Option.map_eq_some_iff.mp found
  exact ⟨row, List.mem_of_find?_eq_some first, rfl, by simpa using List.find?_some first⟩

/-- A rule is resolved if its pair can be a key and finds it. -/
theorem resolve_ok_iff {table : Table φ} {pair : Pair} {rule : Rule φ} :
    table.resolve pair = .ok rule ↔ pair.checkKey = .ok () ∧ find? pair table.rows = some rule := by
  rw [resolve, get?]
  cases pair.checkKey with
  | error fault =>
    constructor
    · intro resolved
      cases resolved
    · rintro ⟨fit, _⟩
      cases fit
  | ok done =>
    cases find? pair table.rows with
    | none =>
      constructor
      · intro resolved
        cases resolved
      · rintro ⟨_, found⟩
        cases found
    | some held =>
      constructor
      · intro resolved
        cases resolved
        exact ⟨rfl, rfl⟩
      · rintro ⟨_, found⟩
        cases found
        rfl

variable [DecidableEq φ] {table after : Table φ}

/-- What adding a rule does: the key is checked, then the function that is found for it. -/
theorem add_eq (table : Table φ) (rule : Rule φ) :
    table.add rule = match rule.pair.checkKey with
      | .error fault => .error fault
      | .ok _ => match find? rule.pair table.rows with
        | none => .ok { table with rows := place rule table.rows }
        | some held =>
          if held.function = rule.function then .ok { table with rows := place rule table.rows }
          else .error (table.duplicate rule.pair) := by
  unfold add get?
  cases rule.pair.checkKey with
  | error fault => rfl
  | ok done =>
    cases find? rule.pair table.rows with
    | none => rfl
    | some held =>
      by_cases equal : held.function = rule.function
      · simp [equal, bind, Except.bind, pure, Except.pure]
      · simp [equal, bind, Except.bind, pure, Except.pure, throw, throwThe, MonadExceptOf.throw]

/-- A rule is added if its pair can be a key and no other function is found for it. -/
theorem add_ok (added : table.add rule = .ok after) :
    (∀ held, find? rule.pair table.rows = some held → held.function = rule.function) ∧
      after = { table with rows := place rule table.rows } := by
  rw [add_eq] at added
  split at added
  · cases added
  · split at added
    · rename_i none
      cases added
      refine ⟨fun held is => ?_, rfl⟩
      rw [none] at is
      cases is
    · rename_i held found
      split at added
      · rename_i equal
        cases added
        refine ⟨fun other is => ?_, rfl⟩
        rw [found] at is
        cases is
        exact equal
      · cases added

/-- A rule is refused if its pair can be no key, or if another function is found for it. -/
theorem add_error {fault : Fault} (refused : table.add rule = .error fault) :
    rule.pair.checkKey = .error fault ∨
      fault = table.duplicate rule.pair ∧
        ∃ held, find? rule.pair table.rows = some held ∧ held.function ≠ rule.function := by
  rw [add_eq] at refused
  split at refused
  · rename_i other unfit
    cases refused
    exact .inl unfit
  · split at refused
    · cases refused
    · rename_i held found
      split at refused
      · cases refused
      · rename_i different
        cases refused
        exact .inr ⟨rfl, held, found, different⟩

/-! ## Rules added one by one -/

variable {rules : List (Rule φ)}

/-- Rows stay sound. -/
theorem adding_sound (added : rules.foldlM add table = .ok after)
    (sound : ∀ row ∈ table.rows, row.Sound known) (fit : ∀ rule ∈ rules, rule.Sound known) :
    ∀ row ∈ after.rows, row.Sound known := by
  induction rules generalizing table with
  | nil =>
    cases added
    exact sound
  | cons rule rest inductionHypothesis =>
    obtain ⟨middle, first, behind⟩ := bind_ok added
    obtain ⟨_, rfl⟩ := add_ok first
    exact inductionHypothesis behind (place_sound sound (fit rule (by simp)))
      fun other member => fit other (.tail _ member)

/-- After a rule was added it is found for its pair, and all else is found as before. -/
theorem add_finds (keys : Keys known) (added : table.add rule = .ok after)
    (sound : ∀ row ∈ table.rows, row.Sound known) (fits : rule.Sound known) {pair : Pair}
    (asked : known pair) :
    find? pair after.rows = if pair.same rule.pair then some rule else find? pair table.rows := by
  obtain ⟨_, rfl⟩ := add_ok added
  exact find_place keys (rows_known sound) fits.pair asked

/-- What was found is found with the same function. -/
theorem adding_keeps (keys : Keys known) (added : rules.foldlM add table = .ok after)
    (sound : ∀ row ∈ table.rows, row.Sound known) (fit : ∀ rule ∈ rules, rule.Sound known)
    {pair : Pair} (asked : known pair) {held : Rule φ} (found : find? pair table.rows = some held) :
    ∃ later, find? pair after.rows = some later ∧ later.function = held.function := by
  induction rules generalizing table held with
  | nil =>
    cases added
    exact ⟨held, found, rfl⟩
  | cons rule rest inductionHypothesis =>
    obtain ⟨middle, first, behind⟩ := bind_ok added
    have fits := fit rule (by simp)
    have finds := add_finds keys first sound fits asked
    obtain ⟨equal, rfl⟩ := add_ok first
    have more := place_sound sound fits
    have others : ∀ other ∈ rest, other.Sound known := fun other member => fit other (.tail _ member)
    by_cases same : pair.same rule.pair = true
    · rw [if_pos same] at finds
      rw [find_same keys (rows_known sound) asked fits.pair same] at found
      obtain ⟨later, known, function⟩ := inductionHypothesis behind more others finds
      exact ⟨later, known, function.trans (equal held found).symm⟩
    · rw [if_neg same, found] at finds
      exact inductionHypothesis behind more others finds

/-- An added rule's function is found for its pair. -/
theorem adding_finds (keys : Keys known) (added : rules.foldlM add table = .ok after)
    (sound : ∀ row ∈ table.rows, row.Sound known) (fit : ∀ rule ∈ rules, rule.Sound known) :
    ∀ rule ∈ rules, ∃ later, find? rule.pair after.rows = some later ∧
      later.function = rule.function := by
  induction rules generalizing table with
  | nil => simp
  | cons rule rest inductionHypothesis =>
    obtain ⟨middle, first, behind⟩ := bind_ok added
    have fits := fit rule (by simp)
    have finds := add_finds keys first sound fits fits.pair
    rw [if_pos (same_refl fits.declared)] at finds
    obtain ⟨_, rfl⟩ := add_ok first
    have more := place_sound sound fits
    have others : ∀ other ∈ rest, other.Sound known := fun other member => fit other (.tail _ member)
    intro other member
    rcases List.mem_cons.mp member with rfl | later
    · exact adding_keeps keys behind more others fits.pair finds
    · exact inductionHypothesis behind more others other later

/-- What is found was found before or was added. -/
theorem adding_source (keys : Keys known) (added : rules.foldlM add table = .ok after)
    (sound : ∀ row ∈ table.rows, row.Sound known) (fit : ∀ rule ∈ rules, rule.Sound known)
    {pair : Pair} (asked : known pair) {later : Rule φ} (found : find? pair after.rows = some later) :
    find? pair table.rows = some later ∨ later ∈ rules ∧ pair.same later.pair = true := by
  induction rules generalizing table with
  | nil =>
    cases added
    exact .inl found
  | cons rule rest inductionHypothesis =>
    obtain ⟨middle, first, behind⟩ := bind_ok added
    have fits := fit rule (by simp)
    have finds := add_finds keys first sound fits asked
    obtain ⟨_, rfl⟩ := add_ok first
    have source := inductionHypothesis behind (place_sound sound fits)
      fun other member => fit other (.tail _ member)
    rcases source with old | ⟨member, same⟩
    · rw [finds] at old
      split at old
      · rename_i same
        cases old
        exact .inr ⟨by simp, same⟩
      · exact .inl old
    · exact .inr ⟨.tail _ member, same⟩

/-- The pairs of a table are those added, each at its first occurrence. -/
theorem adding_keys (added : rules.foldlM add table = .ok after) :
    after.keys = gathered table.keys (rules.map Rule.pair) ∧ after.role = table.role := by
  induction rules generalizing table with
  | nil =>
    cases added
    exact ⟨rfl, rfl⟩
  | cons rule rest inductionHypothesis =>
    obtain ⟨middle, first, behind⟩ := bind_ok added
    obtain ⟨_, rfl⟩ := add_ok first
    obtain ⟨keys, role⟩ := inductionHypothesis behind
    refine ⟨?_, role⟩
    rw [keys, List.map_cons]
    simp only [gathered, List.foldl_cons, Table.keys, place_keys]

end Table

/-- First occurrences are no twice the same. -/
theorem gathered_once {seen pairs : List Pair}
    (once : seen.Pairwise fun key later => later.same key = false) :
    (gathered seen pairs).Pairwise fun key later => later.same key = false := by
  induction pairs generalizing seen with
  | nil => exact once
  | cons pair rest inductionHypothesis =>
    rw [gathered, List.foldl_cons]
    split
    · exact inductionHypothesis once
    · rename_i fresh
      refine inductionHypothesis (List.pairwise_append.mpr ⟨once, by simp, ?_⟩)
      intro key member later is
      rw [List.mem_singleton.mp is]
      rw [List.any_eq_true] at fresh
      simpa using fun same => fresh ⟨key, member, same⟩

/-- Two known pairs are the same. -/
structure Twins (known : Pair → Prop) (pair other : Pair) : Prop where
  left : known pair
  right : known other
  same : pair.same other = true

/-- Whether a pair was seen is the same for its twin among the twins of what was seen. -/
theorem any_twins (keys : Keys known) {seen others : List Pair} {pair other : Pair}
    (before : List.Forall₂ (Twins known) seen others) (twins : Twins known pair other) :
    seen.any pair.same = others.any other.same := by
  induction before with
  | nil => rfl
  | @cons first second _ _ both _ inductionHypothesis =>
    have head : pair.same first = other.same second := by
      rw [Bool.eq_iff_iff]
      constructor
      · intro same
        have back := same_symm keys twins.left twins.right twins.same
        exact same_trans keys twins.right both.left both.right
          (same_trans keys twins.right twins.left both.left back same) both.same
      · intro same
        have back := same_symm keys both.left both.right both.same
        exact same_trans keys twins.left both.right both.left
          (same_trans keys twins.left twins.right both.right twins.same same) back
    rw [List.any_cons, List.any_cons, head, inductionHypothesis]

/-- Lists of twins have twins at the same first occurrences. -/
theorem gathered_twins (keys : Keys known) {seen others pairs more : List Pair}
    (before : List.Forall₂ (Twins known) seen others)
    (twins : List.Forall₂ (Twins known) pairs more) :
    List.Forall₂ (Twins known) (gathered seen pairs) (gathered others more) := by
  induction twins generalizing seen others with
  | nil => exact before
  | cons both rest inductionHypothesis =>
    rw [gathered, gathered, List.foldl_cons, List.foldl_cons, any_twins keys before both]
    split
    · exact inductionHypothesis before
    · exact inductionHypothesis (List.rel_append before (.cons both .nil))

end Stencil.Conversion
