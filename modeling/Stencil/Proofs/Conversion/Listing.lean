import Stencil.Proofs.Conversion.Adding

/-!
# What a rule table lists

Rules are offered to a table one after the other, and the table takes or refuses each
(`Table.filled`). It then has the pairs of the offers that can be keys, each at its first
occurrence, and one rule beside each (`Table.Orderly`). Whatever is asked of it agrees with
that list (`Table.Answers`), and a rule that was once found for a pair is found with the same
function after any further offers (`filled_keeps`).

Pairs count as one if they are the same, which is coarser than being written alike: a rule that
is taken again under another form of its pair stands beside the first form. Of two pairs that were
declared in one place it is only asked that they are one pair (`Single`); where they were declared
tells such a pair from others if its marks are not the same as themselves.
-/

namespace Stencil.Conversion

/-- Pairs that were declared in one place are one pair. Pairs without such a place, which are
written by hand, may be any. -/
def Single (known : Pair → Prop) : Prop :=
  ∀ first second, known first → known second → first.origin.isSome →
    first.origin = second.origin → first = second

/-- Known pairs that can be keys. -/
def Fitting (known : Pair → Prop) (pair : Pair) : Prop := known pair ∧ pair.checkKey = .ok ()

/-- Whether a pair can be a key. -/
def Pair.fit (pair : Pair) : Bool := pair.checkKey.isOk

variable {φ : Type} {known : Pair → Prop}

namespace Table

/-- A rule stands beside a key that a pair is the same as. Pairs are compared as keys are, so a pair
may be listed under another spelling of its own. -/
def Lists (table : Table φ) (pair : Pair) (rule : Rule φ) : Prop :=
  ∃ key, (key, rule) ∈ table.keys.zip table.rules ∧ pair.same key = true

/-- A pair is the same as no key. -/
def Lacks (table : Table φ) (pair : Pair) : Prop := ∀ key ∈ table.keys, pair.same key = false

/-- A rule stands beside the key that is its pair, perhaps in another form. -/
def Beside (key : Pair) (rule : Rule φ) : Prop := rule.pair = key ∨ rule.pair.same key = true

variable [DecidableEq φ]

/-- A table that was offered a rule: it takes the rule, or refuses it and stays as it is. -/
def offered (table : Table φ) (rule : Rule φ) : Table φ :=
  match table.add rule with
  | .ok after => after
  | .error _ => table

/-- A table that was offered rules one by one. -/
def filled (table : Table φ) (offers : List (Rule φ)) : Table φ := offers.foldl offered table

/-- The keys of a table are the pairs that were offered and can be keys, each at its first
occurrence. One of the offered rules stands beside each, and no pair is the same as two keys. -/
structure Orderly (known : Pair → Prop) (offers : List (Rule φ)) (table : Table φ) : Prop where
  keys : table.keys = gathered [] ((offers.map Rule.pair).filter Pair.fit)
  rules : List.Forall₂ (fun key rule => rule ∈ offers ∧ Beside key rule) table.keys table.rules
  size : table.size = table.keys.length
  once : table.keys.Pairwise fun key other => ∀ pair, Fitting known pair →
    pair.same key = true → pair.same other = false

/-- What is asked of a table about a pair is answered by what it lists. All questions that the
program puts to a table are here, each with the answer that the list of rules gives. -/
structure Answers (table : Table φ) (pair : Pair) : Prop where
  found : ∀ rule, table.get? pair = .ok (some rule) ↔ table.Lists pair rule
  unfound : table.get? pair = .ok none ↔ table.Lacks pair
  contained : table.contains pair = .ok true ↔ ∃ rule, table.Lists pair rule
  lacking : table.contains pair = .ok false ↔ table.Lacks pair
  resolved : ∀ rule, table.resolve pair = .ok rule ↔ table.Lists pair rule
  missing : ∀ fault, table.resolve pair = .error fault ↔
    table.Lacks pair ∧ fault = .missingRule table.role pair.input.label pair.output.label
  refused : ∀ rule : Rule φ, rule.pair = pair → ∀ fault, table.add rule = .error fault ↔
    fault = table.duplicate pair ∧ ∃ held, table.Lists pair held ∧ held.function ≠ rule.function

end Table

/-! ## Keys -/

/-- Known pairs that can be keys are told apart as keys are. -/
theorem fitting_keys (single : Single known) : Keys (Fitting known) where
  hashable _ fits := fits.2
  single first second left right := single first second left.1 right.1

/-- A pair is fit if nothing keeps it from being a key. -/
theorem fit_iff (pair : Pair) : pair.fit = true ↔ pair.checkKey = .ok () := by
  rw [Pair.fit]
  cases pair.checkKey <;> simp [Except.isOk, Except.toBool]

/-- First occurrences are those seen before, or pairs of the list. -/
theorem mem_gathered {seen pairs : List Pair} {pair : Pair} (member : pair ∈ gathered seen pairs) :
    pair ∈ seen ∨ pair ∈ pairs := by
  induction pairs generalizing seen with
  | nil => exact .inl member
  | cons head rest inductionHypothesis =>
    rw [gathered, List.foldl_cons] at member
    split at member
    · exact (inductionHypothesis member).imp_right (.tail _)
    · rcases inductionHypothesis member with before | behind
      · rcases List.mem_append.mp before with old | new
        · exact .inl old
        · exact .inr (List.mem_singleton.mp new ▸ List.mem_cons_self)
      · exact .inr (.tail _ behind)

namespace Table

variable {table : Table φ} {pair : Pair} {rule : Rule φ}

/-- A rule is listed if it is that of a row whose key the pair is the same as. -/
theorem lists_iff :
    table.Lists pair rule ↔ ∃ row ∈ table.rows, row.rule = rule ∧ pair.same row.key = true := by
  have rows : table.keys.zip table.rules = table.rows.map fun row => (row.key, row.rule) := by
    rw [keys, rules, List.zip_map']
  simp only [Lists, rows, List.mem_map, Prod.mk.injEq]
  constructor
  · rintro ⟨_, ⟨row, member, rfl, is⟩, same⟩
    exact ⟨row, member, is, same⟩
  · rintro ⟨row, member, is, same⟩
    exact ⟨row.key, ⟨row, member, rfl, is⟩, same⟩

/-- A pair is absent if no rule is found for it. -/
theorem lacks_iff : table.Lacks pair ↔ find? pair table.rows = none := by
  rw [Lacks, keys, List.forall_mem_map, find?, Option.map_eq_none_iff, List.find?_eq_none]
  exact forall₂_congr fun row _ => by rw [Bool.not_eq_true]

/-- Where no pair is the same as two keys, a rule that is listed for a pair is found for it. -/
theorem find_listed {rows : List (Row φ)}
    (once : rows.Pairwise fun row other => pair.same row.key = true → pair.same other.key = false)
    {row : Row φ} (member : row ∈ rows) (same : pair.same row.key = true) :
    find? pair rows = some row.rule := by
  induction rows with
  | nil => cases member
  | cons head rest inductionHypothesis =>
    obtain ⟨apart, behind⟩ := List.pairwise_cons.mp once
    rw [find?, List.find?_cons]
    rcases List.mem_cons.mp member with rfl | later
    · rw [same]
      rfl
    · cases first : pair.same head.key with
      | true =>
        rw [apart row later first] at same
        cases same
      | false => exact inductionHypothesis behind later

/-- What is looked up, for a pair that can be a key. -/
theorem get_eq (fit : pair.checkKey = .ok ()) (table : Table φ) :
    table.get? pair = .ok (find? pair table.rows) := by
  rw [get?, fit]
  rfl

/-- What is resolved, for a pair that can be a key. -/
theorem resolve_eq (fit : pair.checkKey = .ok ()) (table : Table φ) :
    table.resolve pair = match find? pair table.rows with
      | some rule => .ok rule
      | none => .error (.missingRule table.role pair.input.label pair.output.label) := by
  rw [resolve, get_eq fit]
  cases find? pair table.rows <;> rfl

/-- A rule stays beside its key where another is placed. -/
theorem place_beside {rows : List (Row φ)} {given : Rule φ → Prop}
    (beside : ∀ row ∈ rows, given row.rule ∧ Beside row.key row.rule) (offered : given rule) :
    ∀ row ∈ place rule rows, given row.rule ∧ Beside row.key row.rule := by
  induction rows with
  | nil =>
    intro row member
    cases List.mem_singleton.mp member
    exact ⟨offered, .inl rfl⟩
  | cons head rest inductionHypothesis =>
    have behind := inductionHypothesis fun row member => beside row (.tail _ member)
    intro row member
    rw [place] at member
    split at member
    · rename_i same
      rcases List.mem_cons.mp member with rfl | old
      · exact ⟨offered, .inr same⟩
      · exact beside row (.tail _ old)
    · rcases List.mem_cons.mp member with rfl | old
      · exact beside row List.mem_cons_self
      · exact behind row old

variable [DecidableEq φ]

/-! ## One offer -/

/-- What an offer does: the rule is placed, or the table stays as it is because the pair can be no
key or another function is found for it. -/
theorem offered_cases (table : Table φ) (rule : Rule φ) :
    (rule.pair.checkKey = .ok () ∧
      (∀ held, find? rule.pair table.rows = some held → held.function = rule.function) ∧
      table.offered rule = { table with rows := place rule table.rows }) ∨
    (table.offered rule = table ∧ (rule.pair.fit = false ∨
      ∃ held, find? rule.pair table.rows = some held)) := by
  unfold offered
  cases added : table.add rule with
  | ok after =>
    obtain ⟨equal, is⟩ := add_ok added
    refine .inl ⟨?_, equal, is⟩
    rw [add_eq] at added
    split at added
    · cases added
    · assumption
  | error fault =>
    refine .inr ⟨rfl, ?_⟩
    rcases add_error added with unfit | ⟨_, held, found, _⟩
    · left
      rw [Pair.fit, unfit]
      rfl
    · exact .inr ⟨held, found⟩

/-- An offer adds its pair to the keys if it can be a key and is the same as none. -/
theorem offered_keys (table : Table φ) (rule : Rule φ) :
    (table.offered rule).keys = gathered table.keys ([rule.pair].filter Pair.fit) := by
  rcases offered_cases table rule with ⟨fit, _, is⟩ | ⟨is, unfit | ⟨held, found⟩⟩
  · rw [is, keys, place_keys, List.filter_cons_of_pos ((fit_iff _).mpr fit)]
    rfl
  · rw [is, List.filter_cons_of_neg (by simp [unfit])]
    rfl
  · -- The pair is the same as a key, so it is no first occurrence.
    obtain ⟨row, member, _, same⟩ := find_some found
    have seen : table.keys.any rule.pair.same = true :=
      List.any_eq_true.mpr ⟨row.key, List.mem_map_of_mem member, same⟩
    rw [is]
    cases fit : rule.pair.fit with
    | true =>
      rw [List.filter_cons_of_pos fit, gathered, List.filter_nil, List.foldl_cons, if_pos seen]
      rfl
    | false =>
      rw [List.filter_cons_of_neg (by simp [fit])]
      rfl

/-- What was found is found with the same function after an offer. -/
theorem offered_keeps (keys : Keys known) (knows : ∀ row ∈ table.rows, known row.key)
    (offer : rule.pair.checkKey = .ok () → known rule.pair) (asked : known pair) {held : Rule φ}
    (found : find? pair table.rows = some held) :
    ∃ later, find? pair (table.offered rule).rows = some later ∧
      later.function = held.function := by
  rcases offered_cases table rule with ⟨fit, equal, is⟩ | ⟨is, _⟩
  · have given := offer fit
    rw [is, find_place keys knows given asked]
    split
    · rename_i same
      rw [find_same keys knows asked given same] at found
      exact ⟨rule, rfl, (equal held found).symm⟩
    · exact ⟨held, found, rfl⟩
  · exact ⟨held, by rw [is, found], rfl⟩

/-- The role of a table stays. -/
theorem offered_role (table : Table φ) (rule : Rule φ) :
    (table.offered rule).role = table.role := by
  rcases offered_cases table rule with ⟨_, _, is⟩ | ⟨is, _⟩ <;> rw [is]

/-! ## Any number of offers -/

variable {offers : List (Rule φ)}

/-- The keys of a table are those it had and the pairs that were offered, each at its first
occurrence. -/
theorem filled_keys (table : Table φ) (offers : List (Rule φ)) :
    (table.filled offers).keys =
      gathered table.keys ((offers.map Rule.pair).filter Pair.fit) := by
  induction offers generalizing table with
  | nil => rfl
  | cons rule rest inductionHypothesis =>
    have split : (rule :: rest).map Rule.pair = [rule.pair] ++ rest.map Rule.pair := rfl
    rw [filled, List.foldl_cons, ← filled, inductionHypothesis, offered_keys, split,
      List.filter_append, gathered, gathered, gathered, List.foldl_append]

/-- The role of a table stays, whatever is offered. -/
theorem filled_role (table : Table φ) (offers : List (Rule φ)) :
    (table.filled offers).role = table.role := by
  induction offers generalizing table with
  | nil => rfl
  | cons rule rest inductionHypothesis =>
    exact (inductionHypothesis (table.offered rule)).trans (offered_role table rule)

/-- Every rule of a table that was empty at first was offered, and stands beside its key. -/
theorem filled_beside (offers : List (Rule φ)) {given : Rule φ → Prop}
    (beside : ∀ row ∈ table.rows, given row.rule ∧ Beside row.key row.rule)
    (all : ∀ rule ∈ offers, given rule) :
    ∀ row ∈ (table.filled offers).rows, given row.rule ∧ Beside row.key row.rule := by
  induction offers generalizing table with
  | nil => exact beside
  | cons rule rest inductionHypothesis =>
    have next : ∀ row ∈ (table.offered rule).rows, given row.rule ∧ Beside row.key row.rule := by
      rcases offered_cases table rule with ⟨_, _, is⟩ | ⟨is, _⟩
      · rw [is]
        exact place_beside beside (all rule List.mem_cons_self)
      · rwa [is]
    exact inductionHypothesis next fun other member => all other (.tail _ member)

/-- The keys of a table stay known if those are that are offered. -/
theorem filled_knows (knows : ∀ key ∈ table.keys, Fitting known key)
    (all : ∀ rule ∈ offers, known rule.pair) :
    ∀ key ∈ (table.filled offers).keys, Fitting known key := by
  intro key member
  rw [filled_keys] at member
  rcases mem_gathered member with old | new
  · exact knows key old
  · obtain ⟨listed, fit⟩ := List.mem_filter.mp new
    obtain ⟨rule, offer, rfl⟩ := List.mem_map.mp listed
    exact ⟨all rule offer, (fit_iff _).mp fit⟩

/-- What was found is found with the same function after any offers. -/
theorem filled_keeps (single : Single known) (knows : ∀ key ∈ table.keys, Fitting known key)
    (all : ∀ rule ∈ offers, known rule.pair) (asked : Fitting known pair) {held : Rule φ}
    (found : find? pair table.rows = some held) :
    ∃ later, find? pair (table.filled offers).rows = some later ∧
      later.function = held.function := by
  induction offers generalizing table held with
  | nil => exact ⟨held, found, rfl⟩
  | cons rule rest inductionHypothesis =>
    have offer := all rule List.mem_cons_self
    obtain ⟨middle, there, same⟩ := offered_keeps (fitting_keys single)
      (fun row member => knows row.key (List.mem_map_of_mem member)) (fun fit => ⟨offer, fit⟩)
      asked found
    have further : ∀ key ∈ (table.filled [rule]).keys, Fitting known key :=
      filled_knows knows (List.forall_mem_singleton.mpr offer)
    obtain ⟨later, last, again⟩ := inductionHypothesis further
      (fun other member => all other (.tail _ member)) there
    exact ⟨later, last, again.trans same⟩

/-- What a table lists in the order of the offers. -/
theorem filled_orderly (single : Single known) (role : String)
    (all : ∀ rule ∈ offers, known rule.pair) :
    Orderly known offers ((Table.empty role).filled offers) := by
  have keys := fitting_keys single
  have made := filled_keys (Table.empty role) offers
  have knows : ∀ key ∈ ((Table.empty role).filled offers).keys, Fitting known key :=
    filled_knows (List.forall_mem_nil _) all
  have beside : ∀ row ∈ ((Table.empty role).filled offers).rows,
      row.rule ∈ offers ∧ Beside row.key row.rule :=
    filled_beside offers (List.forall_mem_nil _) fun _ member => member
  refine ⟨made, ?_, by simp [Table.size, Table.keys], ?_⟩
  · rw [Table.keys, Table.rules, List.forall₂_map_left_iff, List.forall₂_map_right_iff,
      List.forall₂_same]
    exact beside
  · -- A pair that is the same as two keys would make them the same.
    have apart : ((Table.empty role).filled offers).keys.Pairwise
        fun key later => later.same key = false := by
      rw [made]
      exact gathered_once List.Pairwise.nil
    refine apart.imp_of_mem fun {key other} here there apart pair fits same => ?_
    by_contra again
    rw [Bool.not_eq_false] at again
    have both := same_trans keys (knows other there) fits (knows key here)
      (same_symm keys fits (knows other there) again) same
    rw [apart] at both
    cases both

/-- An orderly table answers by what it lists. Every answer goes back to what is found for the pair,
and in an orderly table that is what the table lists. -/
theorem orderly_answers {offers : List (Rule φ)} (orderly : Orderly known offers table)
    (fits : Fitting known pair) : table.Answers pair := by
  have fit := fits.2
  have found (rule : Rule φ) : find? pair table.rows = some rule ↔ table.Lists pair rule := by
    rw [lists_iff]
    constructor
    · intro is
      obtain ⟨row, member, held, same⟩ := find_some is
      exact ⟨row, member, held, same⟩
    · rintro ⟨row, member, rfl, same⟩
      exact find_listed ((List.pairwise_map.mp orderly.once).imp fun apart => apart pair fits)
        member same
  have some : (find? pair table.rows).isSome ↔ ∃ rule, table.Lists pair rule := by
    rw [Option.isSome_iff_exists]
    exact exists_congr found
  have contains : table.contains pair = .ok (find? pair table.rows).isSome := by
    rw [Table.contains, get_eq fit]
    rfl
  constructor
  · intro rule
    rw [get_eq fit, ← found, Except.ok.injEq]
  · rw [get_eq fit, lacks_iff, Except.ok.injEq]
  · rw [contains, Except.ok.injEq, some]
  · rw [contains, Except.ok.injEq, Option.isSome_eq_false_iff, Option.isNone_iff_eq_none, lacks_iff]
  · intro rule
    rw [resolve_ok_iff, found, and_iff_right fit]
  · intro fault
    rw [resolve_eq fit, lacks_iff]
    cases find? pair table.rows with
    | none => simp [eq_comm]
    | some held => simp
  · rintro rule rfl fault
    constructor
    · intro refused
      rcases add_error refused with unfit | ⟨is, held, there, differ⟩
      · rw [fit] at unfit
        cases unfit
      · exact ⟨is, held, (found held).mp there, differ⟩
    · rintro ⟨rfl, held, there, differ⟩
      rw [add_eq, fit, (found held).mpr there]
      simp only [if_neg differ]

omit [DecidableEq φ] in
/-- A list of required pairs is refused for the first that is not resolved. The induction is on the
pairs. -/
theorem require_error_iff (table : Table φ) (pairs : List Pair) (fault : Fault) :
    table.require pairs = .error fault ↔ ∃ before pair behind, pairs = before ++ pair :: behind ∧
      (∀ earlier ∈ before, ∃ rule, table.resolve earlier = .ok rule) ∧
      table.resolve pair = .error fault := by
  induction pairs with
  | nil =>
    rw [require]
    constructor
    · intro refused
      cases refused
    · rintro ⟨before, pair, behind, is, _⟩
      simp at is
  | cons head rest inductionHypothesis =>
    rw [require]
    cases resolved : table.resolve head with
    | error first =>
      constructor
      · intro refused
        cases refused
        exact ⟨[], head, rest, rfl, List.forall_mem_nil _, resolved⟩
      · rintro ⟨before, pair, behind, is, earlier, failed⟩
        cases before with
        | nil =>
          cases is
          rw [resolved] at failed
          cases failed
          rfl
        | cons other more =>
          cases is
          obtain ⟨rule, done⟩ := earlier head List.mem_cons_self
          rw [resolved] at done
          cases done
    | ok rule =>
      rw [ok_bind rfl, inductionHypothesis]
      constructor
      · rintro ⟨before, pair, behind, rfl, earlier, failed⟩
        exact ⟨head :: before, pair, behind, rfl,
          List.forall_mem_cons.mpr ⟨⟨rule, resolved⟩, earlier⟩, failed⟩
      · rintro ⟨before, pair, behind, is, earlier, failed⟩
        cases before with
        | nil =>
          cases is
          rw [resolved] at failed
          cases failed
        | cons other more =>
          cases is
          exact ⟨more, pair, behind, rfl, fun item member => earlier item (.tail _ member), failed⟩

omit [DecidableEq φ] in
/-- A list of required pairs is accepted if all are resolved. -/
theorem require_ok_iff (table : Table φ) (pairs : List Pair) :
    table.require pairs = .ok () ↔ ∀ pair ∈ pairs, ∃ rule, table.resolve pair = .ok rule := by
  induction pairs with
  | nil => exact iff_of_true rfl (List.forall_mem_nil _)
  | cons head rest inductionHypothesis =>
    rw [require, List.forall_mem_cons]
    cases table.resolve head with
    | error fault =>
      constructor
      · intro done
        cases done
      · rintro ⟨⟨rule, is⟩, _⟩
        cases is
    | ok rule =>
      rw [ok_bind rfl, inductionHypothesis]
      exact (and_iff_right ⟨rule, rfl⟩).symm

/-- Whatever is asked about a pair that can be no key is refused for that. -/
theorem unfit_refused {fault : Fault} (unfit : pair.checkKey = .error fault) (table : Table φ) :
    table.get? pair = .error fault ∧ table.contains pair = .error fault ∧
      table.resolve pair = .error fault ∧
      ∀ rule : Rule φ, rule.pair = pair → table.add rule = .error fault := by
  have looked : table.get? pair = .error fault := by
    rw [get?, unfit]
    rfl
  refine ⟨looked, ?_, ?_, ?_⟩
  · rw [contains, looked]
    rfl
  · rw [resolve, looked]
    rfl
  · rintro rule rfl
    rw [add_eq, unfit]

end Table

/-- A table that was empty at first, after any offers. It has one rule for each pair that was
offered and can be a key, in the order in which the pairs were first offered, and all that is asked
of it agrees with that. A rule is refused if another function stands there for its pair, and only
then, and the table stays as it is. A list of required pairs is refused for the first that is
absent. A rule that was resolved for a pair is resolved with the same function after any further
offers.

Proof: by induction on the offers, each of which adds a row behind the others, changes nothing, or
is refused (`filled_orderly`). No row is moved or replaced, so what was found once is found with the
same function from then on (`filled_keeps`). Keys are compared by what they hold, as `single`
asks. -/
theorem offers_kept (single : Single known) [DecidableEq φ] (role : String)
    {offers : List (Rule φ)} (all : ∀ rule ∈ offers, known rule.pair) :
    let table := (Table.empty role).filled offers
    table.role = role ∧ table.Orderly known offers ∧
    (∀ pair, Fitting known pair → table.Answers pair) ∧
    (∀ pair fault, pair.checkKey = .error fault →
      table.get? pair = .error fault ∧ table.contains pair = .error fault ∧
        table.resolve pair = .error fault ∧
        ∀ rule : Rule φ, rule.pair = pair → table.add rule = .error fault) ∧
    (∀ pairs, table.require pairs = .ok () ↔
      ∀ pair ∈ pairs, ∃ rule, table.resolve pair = .ok rule) ∧
    (∀ pairs fault, table.require pairs = .error fault ↔
      ∃ before pair behind, pairs = before ++ pair :: behind ∧
        (∀ earlier ∈ before, ∃ rule, table.resolve earlier = .ok rule) ∧
        table.resolve pair = .error fault) ∧
    (∀ rule fault, table.add rule = .error fault → table.offered rule = table) ∧
    ∀ pair rule, known pair → table.resolve pair = .ok rule →
      ∀ more : List (Rule φ), (∀ rule ∈ more, known rule.pair) →
        ∃ later, (table.filled more).resolve pair = .ok later ∧
          later.function = rule.function := by
  intro table
  have orderly : table.Orderly known offers := Table.filled_orderly single role all
  have knows : ∀ key ∈ table.keys, Fitting known key :=
    Table.filled_knows (List.forall_mem_nil _) all
  refine ⟨Table.filled_role _ offers, orderly, fun pair fits => Table.orderly_answers orderly fits,
    fun pair fault unfit => Table.unfit_refused unfit table, table.require_ok_iff,
    table.require_error_iff, ?_, ?_⟩
  · intro rule fault refused
    rw [Table.offered, refused]
  · intro pair rule asked resolved more further
    obtain ⟨fit, found⟩ := Table.resolve_ok_iff.mp resolved
    obtain ⟨later, there, same⟩ := Table.filled_keeps single knows further ⟨asked, fit⟩ found
    exact ⟨later, Table.resolve_ok_iff.mpr ⟨fit, there⟩, same⟩

/-- Two forms of a mark are offered with one function and a third with another, which is refused; a
mark that is not the same as itself has a row of its own. Every form of the mark is resolved with
the first function from then on. -/
theorem mixed_marks_kept :
    let one : Pair := .ofTags (.mark (.int 1)) (.kind "str")
    let yes : Pair := .ofTags (.mark (.bool true)) (.kind "str")
    let real : Pair := .ofTags (.mark (.float (.finite false 1 0))) (.kind "str")
    let odd : Pair := ⟨.mark (.float .nan), .kind "str", some ⟨0, 0⟩⟩
    let known : Pair → Prop := fun pair => pair.origin = none ∨ pair = odd
    let offers : List (Rule Nat) := [⟨one, 7, "A"⟩, ⟨yes, 7, "B"⟩, ⟨real, 8, "C"⟩, ⟨odd, 9, "D"⟩]
    let table := (Table.empty "T").filled offers
    Single known ∧ (∀ rule ∈ offers, known rule.pair) ∧ table.keys = [one, odd] ∧
      table.rules = [⟨yes, 7, "B"⟩, ⟨odd, 9, "D"⟩] ∧
      table.add ⟨real, 8, "C"⟩ = .error (table.duplicate real) ∧
      ∀ more : List (Rule Nat), (∀ rule ∈ more, known rule.pair) →
        ∃ later, (table.filled more).resolve real = .ok later ∧ later.function = 7 := by
  intro one yes real odd known offers table
  have single : Single known := by
    intro first second left right declared same
    rcases left with plain | rfl
    · rw [plain] at declared
      cases declared
    · rcases right with plain | rfl
      · rw [plain] at same
        cases same
      · rfl
  have all : ∀ rule ∈ offers, known rule.pair := by
    simp [offers, known, one, yes, real, Pair.ofTags]
  obtain ⟨_, _, answers, _, _, _, _, stays⟩ := offers_kept single "T" all
  have there : table.resolve real = .ok ⟨yes, 7, "B"⟩ := rfl
  refine ⟨single, all, rfl, rfl, ?_, stays real _ (.inl rfl) there⟩
  have answer := answers real ⟨.inl rfl, rfl⟩
  exact (answer.refused ⟨real, 8, "C"⟩ rfl _).mpr
    ⟨rfl, _, (answer.resolved _).mp there, by decide⟩

end Stencil.Conversion
