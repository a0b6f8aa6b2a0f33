import Mathlib.Data.List.Forall2
import Stencil.Proofs.Decimal.Whole
import Stencil.Proofs.Outcome
import Stencil.StatusTable.Schema

/-!
# What the check of a table file finds

The content of a table file is a record of one key, which binds a list of pairs
(`IsContent`). If a content is not, the check reports its first flaw: of the
whole, before those of its keys, before those of the first faulty pair, and in a
pair the code's, before the name's, before the number of parts (`FirstFlaw`).

Both are said of what is seen of values layer by layer, whatever the values are.
`misfit_first` ties them to the check, with one lemma for each part that the
check has a function for. A content is read as the table that it is
(`entries_content`), and every table that is read has codes that are not
negative and names that are not empty (`read_table_entries`).
-/

namespace Stencil.StatusTable.Schema

open Code Decimal

variable {α : Type} {view : View α} {value code name pair content : α} {flaw : Flaw α}

/-! ## Contents -/

/-- A value is an integer, or a double that equals it. -/
def IsInteger (view : View α) (value : α) (number : Int) : Prop :=
  view.layer value = .int number ∨
    ∃ double, view.layer value = .double double ∧ double.value? = some (number : ℚ)

/-- A value is a code. -/
def IsCode (view : View α) (value : α) (number : Int) : Prop :=
  IsInteger view value number ∧ 0 ≤ number

/-- A value is a name. -/
def IsName (view : View α) (value : α) (name : String) : Prop :=
  view.layer value = .text name ∧ name ≠ ""

/-- A value is the pair of an entry. This is the schema for a pair, as a property of the value and
without its check. -/
def IsPair (view : View α) (pair : α) (entry : Entry) : Prop :=
  ∃ code name, view.layer pair = .list [code, name] ∧ IsCode view code entry.code ∧
    IsName view name entry.name

/-- What is wrong with a value that is no code. -/
inductive CodeFlaw (view : View α) (value : α) : Flaw α → Prop where
  | type (other : ∀ number, ¬IsInteger view value number) :
      CodeFlaw view value (.notOfType value "integer")
  | negative {number : Int} (integer : IsInteger view value number) (below : number < 0) :
      CodeFlaw view value (.negative value)

/-- What is wrong with a value that is no name. -/
inductive NameFlaw (view : View α) (value : α) : Flaw α → Prop where
  | type (other : ∀ written, view.layer value ≠ .text written) :
      NameFlaw view value (.notOfType value "string")
  | empty (seen : view.layer value = .text "") : NameFlaw view value (.empty value)

/-- What is wrong first with a value that is no pair, and where. -/
inductive PairFlaw (view : View α) (pair : α) : Flaw α → List String → Prop where
  | type (other : ∀ items, view.layer pair ≠ .list items) :
      PairFlaw view pair (.notOfType pair "array") []
  | code {code : α} {rest : List α} {flaw : Flaw α} (seen : view.layer pair = .list (code :: rest))
      (wrong : CodeFlaw view code flaw) : PairFlaw view pair flaw ["0"]
  | name {code name : α} {rest : List α} {number : Int} {flaw : Flaw α}
      (seen : view.layer pair = .list (code :: name :: rest)) (coded : IsCode view code number)
      (wrong : NameFlaw view name flaw) : PairFlaw view pair flaw ["1"]
  | short {items : List α} (seen : view.layer pair = .list items) (few : items.length < 2)
      (coded : ∀ code ∈ items, ∃ number, IsCode view code number) :
      PairFlaw view pair (.tooShort pair) []
  | long {code name : α} {rest : List α} {number : Int} {written : String}
      (seen : view.layer pair = .list (code :: name :: rest)) (many : rest ≠ [])
      (coded : IsCode view code number) (named : IsName view name written) :
      PairFlaw view pair (.tooLong pair) []

/-- The check of a code finds nothing in a code, and what is wrong in any other value. -/
theorem code_flaw (view : View α) (value : α) :
    (view.codeFlaw? value = none ∧ ∃ number, IsCode view value number) ∨
      ∃ flaw, view.codeFlaw? value = some flaw ∧ CodeFlaw view value flaw := by
  unfold View.codeFlaw?
  cases seen : view.layer value with
  | int number =>
    have integer : IsInteger view value number := .inl seen
    by_cases below : number < 0
    · exact .inr ⟨_, if_pos below, .negative integer below⟩
    · exact .inl ⟨if_neg below, number, integer, Int.not_lt.mp below⟩
  | double double =>
    cases whole : double.toInt? with
    | none =>
      have other : ∀ number, ¬IsInteger view value number := by
        rintro number (again | ⟨same, again, equal⟩)
        · rw [seen] at again
          cases again
        · rw [seen] at again
          cases again
          rw [(Double.whole_iff _ _).mpr equal] at whole
          cases whole
      exact .inr ⟨_, by simp [View.isWhole, whole], .type other⟩
    | some number =>
      have equal := (Double.whole_iff double number).mp whole
      have integer : IsInteger view value number := .inr ⟨double, seen, equal⟩
      have sign : double.isNegative = true ↔ number < 0 := by
        rw [Double.is_negative_iff equal]
        exact Int.cast_lt_zero
      by_cases below : number < 0
      · exact .inr ⟨_, by simp [View.isWhole, whole, sign.mpr below], .negative integer below⟩
      · refine .inl ⟨?_, number, integer, Int.not_lt.mp below⟩
        simp [View.isWhole, whole, mt sign.mp below]
  | record entries => exact .inr ⟨_, rfl, .type (by simp [IsInteger, seen])⟩
  | list items => exact .inr ⟨_, rfl, .type (by simp [IsInteger, seen])⟩
  | text written => exact .inr ⟨_, rfl, .type (by simp [IsInteger, seen])⟩
  | other => exact .inr ⟨_, rfl, .type (by simp [IsInteger, seen])⟩

/-- The check of a name finds nothing in a name, and what is wrong in any other value. -/
theorem name_flaw (view : View α) (value : α) :
    (view.nameFlaw? value = none ∧ ∃ name, IsName view value name) ∨
      ∃ flaw, view.nameFlaw? value = some flaw ∧ NameFlaw view value flaw := by
  unfold View.nameFlaw?
  cases seen : view.layer value with
  | text name =>
    by_cases empty : name = ""
    · subst empty
      exact .inr ⟨_, rfl, .empty seen⟩
    · exact .inl ⟨if_neg (by simpa using empty), name, seen, empty⟩
  | _ => exact .inr ⟨_, rfl, .type (by simp [seen])⟩

/-- A flaw of a part is reported below the part's place. -/
theorem part_misfit {index : Nat} {items : List α} {flaw? : α → Option (Flaw α)}
    (present : items[index]? = some value) (found : flaw? value = some flaw) :
    ((items[index]?.bind flaw?).map fun flaw => (Misfit.here flaw).below (toString index)) =
      some ⟨flaw, [toString index]⟩ := by
  rw [present, Option.bind_some, found]
  rfl

/-- The check of a list looks at its first part, at its second, and then at how many there are. -/
theorem pair_misfit_list {items : List α} (seen : view.layer pair = .list items) :
    view.pairMisfit? pair =
      (((items[0]?.bind view.codeFlaw?).map fun flaw => (Misfit.here flaw).below (toString 0)) <|>
      ((items[1]?.bind view.nameFlaw?).map fun flaw => (Misfit.here flaw).below (toString 1)) <|>
      (if items.length < 2 then some (.here (.tooShort pair))
        else if 2 < items.length then some (.here (.tooLong pair)) else none)) := by
  unfold View.pairMisfit?
  rw [seen]

/-- The check of a pair finds nothing in a pair, and what is wrong first in any other value. The
check goes through the code, the name and the length in this order, and stops at the first of them
that is wrong. -/
theorem pair_misfit (view : View α) (pair : α) :
    (view.pairMisfit? pair = none ∧ ∃ entry, IsPair view pair entry) ∨
      ∃ misfit, view.pairMisfit? pair = some misfit ∧
        PairFlaw view pair misfit.flaw misfit.place := by
  cases seen : view.layer pair with
  | list items =>
    rw [pair_misfit_list seen]
    cases items with
    | nil =>
      exact .inr ⟨_, rfl, .short seen (Nat.zero_lt_succ 1) (List.forall_mem_nil _)⟩
    | cons code rest =>
      rcases code_flaw view code with ⟨flawless, number, coded⟩ | ⟨flaw, found, wrong⟩
      · have first : (((code :: rest)[0]?.bind view.codeFlaw?).map fun flaw =>
            (Misfit.here flaw).below (toString 0)) = none := by
          rw [List.getElem?_cons_zero, Option.bind_some, flawless]
          rfl
        rw [first]
        cases rest with
        | nil =>
          exact .inr ⟨_, rfl, .short seen (Nat.lt_succ_self 1)
            (List.forall_mem_singleton.mpr ⟨number, coded⟩)⟩
        | cons name rest =>
          rcases name_flaw view name with ⟨nameless, written, named⟩ | ⟨flaw, found, wrong⟩
          · have second : (((code :: name :: rest)[1]?.bind view.nameFlaw?).map fun flaw =>
                (Misfit.here flaw).below (toString 1)) = none := by
              rw [List.getElem?_cons_succ, List.getElem?_cons_zero, Option.bind_some, nameless]
              rfl
            rw [second]
            by_cases alone : rest = []
            · subst alone
              exact .inl ⟨rfl, ⟨number, written⟩, code, name, seen, coded, named⟩
            · have length : 2 < (code :: name :: rest).length :=
                Nat.add_lt_add_right (List.length_pos_iff.mpr alone) 2
              right
              refine ⟨.here (.tooLong pair), ?_, .long seen alone coded named⟩
              rw [if_neg (Nat.lt_asymm length), if_pos length]
              rfl
          · right
            refine ⟨⟨flaw, ["1"]⟩, ?_, .name seen coded wrong⟩
            have second : (code :: name :: rest)[1]? = some name := rfl
            rw [part_misfit second found]
            rfl
      · right
        refine ⟨⟨flaw, ["0"]⟩, ?_, .code seen wrong⟩
        have first : (code :: rest)[0]? = some code := rfl
        rw [part_misfit first found]
        rfl
  | _ =>
    right
    refine ⟨.here (.notOfType pair "array"), ?_, .type (by simp [seen])⟩
    unfold View.pairMisfit?
    rw [seen]

/-- A pair is read as the entry that it is of. -/
theorem entry_pair {entry : Entry} (isPair : IsPair view pair entry) :
    view.entry? pair = some entry := by
  obtain ⟨code, name, layer, ⟨integer, _⟩, named, _⟩ := isPair
  unfold View.entry?
  rw [layer]
  dsimp only
  rcases integer with seen | ⟨double, seen, equal⟩
  · rw [seen, named]
  · rw [seen, named]
    dsimp only
    rw [(Double.whole_iff double entry.code).mpr equal]
    rfl

/-- The check of a list of pairs finds nothing in pairs, and otherwise what is wrong first with the
first value that is no pair. The induction is on the list, whose places are counted on. -/
theorem pairs_misfit (view : View α) (pairs : List α) (index : Nat) :
    (view.pairsMisfit? index pairs = none ∧ ∀ pair ∈ pairs, ∃ entry, IsPair view pair entry) ∨
      ∃ front pair rest flaw place, pairs = front ++ pair :: rest ∧
        view.pairsMisfit? index pairs = some ⟨flaw, toString (index + front.length) :: place⟩ ∧
        (∀ earlier ∈ front, ∃ entry, IsPair view earlier entry) ∧
        PairFlaw view pair flaw place := by
  induction pairs generalizing index with
  | nil => exact .inl ⟨rfl, List.forall_mem_nil _⟩
  | cons pair rest inductionHypothesis =>
    rcases pair_misfit view pair with ⟨none, isPair⟩ | ⟨misfit, found, wrong⟩
    · have passed : view.pairsMisfit? index (pair :: rest) =
          view.pairsMisfit? (index + 1) rest := by
        rw [View.pairsMisfit?, none]
      rw [passed]
      rcases inductionHypothesis (index + 1) with ⟨nothing, others⟩ |
        ⟨front, later, behind, flaw, place, rfl, found, before, wrong⟩
      · exact .inl ⟨nothing, List.forall_mem_cons.mpr ⟨isPair, others⟩⟩
      · right
        refine ⟨pair :: front, later, behind, flaw, place, rfl, ?_,
          List.forall_mem_cons.mpr ⟨isPair, before⟩, wrong⟩
        rw [found, List.length_cons, Nat.add_right_comm, Nat.add_assoc]
    · right
      refine ⟨[], pair, rest, misfit.flaw, misfit.place, rfl, ?_, List.forall_mem_nil _, wrong⟩
      rw [View.pairsMisfit?, found]
      rfl

/-- The check of what is no record finds that. -/
theorem misfit_other (other : ∀ entries, view.layer content ≠ .record entries) :
    view.misfit? content = some (.here (.notOfType content "object")) := by
  unfold View.misfit?
  cases seen : view.layer content with
  | record entries => exact absurd seen (other entries)
  | _ => rfl

/-- The check of a record looks for the key of the pairs, then for other keys, and then at what is
bound to the key. -/
theorem misfit_record {entries : List (α × α)} (seen : view.layer content = .record entries) :
    (view.codes? entries = none ∧ view.misfit? content = some (.here .noCodes)) ∨
      ∃ codes, view.codes? entries = some codes ∧
        (view.strangers entries ≠ [] ∧
            view.misfit? content = some (.here (.strangers (view.strangers entries))) ∨
          view.strangers entries = [] ∧
            view.misfit? content = (view.codesMisfit? codes).map (·.below View.codesKey)) := by
  unfold View.misfit?
  rw [seen]
  dsimp only
  cases bound : view.codes? entries with
  | none => exact .inl ⟨rfl, rfl⟩
  | some codes =>
    right
    refine ⟨codes, rfl, ?_⟩
    cases view.strangers entries with
    | nil => exact .inr ⟨rfl, rfl⟩
    | cons key keys => exact .inl ⟨List.cons_ne_nil _ _, rfl⟩

/-- The check of what is bound to the key of the pairs finds nothing in a list of pairs, and
otherwise that it is no list, or what is wrong with the first value in it that is no pair. -/
theorem codes_misfit (view : View α) (codes : α) :
    (∃ pairs, view.layer codes = .list pairs ∧ view.codesMisfit? codes = none ∧
        ∀ pair ∈ pairs, ∃ entry, IsPair view pair entry) ∨
      ((∀ pairs, view.layer codes ≠ .list pairs) ∧
        view.codesMisfit? codes = some (.here (.notOfType codes "array"))) ∨
      ∃ front pair rest flaw place, view.layer codes = .list (front ++ pair :: rest) ∧
        view.codesMisfit? codes = some ⟨flaw, toString front.length :: place⟩ ∧
        (∀ earlier ∈ front, ∃ entry, IsPair view earlier entry) ∧
        PairFlaw view pair flaw place := by
  unfold View.codesMisfit?
  cases seen : view.layer codes with
  | list pairs =>
    rcases pairs_misfit view pairs 0 with ⟨none, each⟩ |
      ⟨front, pair, rest, flaw, place, rfl, found, before, wrong⟩
    · exact .inl ⟨pairs, rfl, none, each⟩
    · rw [Nat.zero_add] at found
      exact .inr (.inr ⟨front, pair, rest, flaw, place, rfl, found, before, wrong⟩)
  | _ => exact .inr (.inl ⟨by simp, rfl⟩)

/-- The parts of a value that the wording of a flaw shows. -/
def Flaw.parts : Flaw α → List α
  | .notOfType value _ | .negative value | .empty value | .tooShort value | .tooLong value => [value]
  | .noCodes => []
  | .strangers keys => keys

/-- What the wording of a flaw is made of: one part as it is shown, no part, or keys as they are
shown in order. -/
inductive Flaw.Worded (view : View α) (flaw : Flaw α) : Prop where
  | one {part : α} {finish : String → String} (parts : flaw.parts = [part])
      (text : view.flawText flaw = (view.shown part).map finish) : Worded view flaw
  | fixed {wording : String} (parts : flaw.parts = []) (text : view.flawText flaw = .ok wording) :
      Worded view flaw
  | keys {finish : List String → String}
      (text : view.flawText flaw = (view.sortedKeys flaw.parts).map finish) : Worded view flaw

/-- Every flaw is worded in one of these ways. -/
theorem flaw_cases (view : View α) (flaw : Flaw α) : flaw.Worded view := by
  have mapped {β : Type} (step : Except Fault β) (finish : β → String) :
      (do return finish (← step)) = step.map finish := by
    cases step <;> rfl
  cases flaw with
  | notOfType part type => exact .one rfl (mapped _ _)
  | negative part => exact .one rfl (mapped _ _)
  | empty part => exact .one rfl (mapped _ _)
  | tooShort part => exact .one rfl (mapped _ _)
  | tooLong part => exact .one rfl (mapped _ _)
  | noCodes => exact .fixed rfl rfl
  | strangers keys => exact .keys (mapped _ _)

/-! ## Reading -/

/-- A content with a misfit is refused by its wording. -/
theorem read_table_misfit {misfit : Misfit α} (path : Path)
    (misfits : view.misfit? content = some misfit) :
    view.readTable path content =
      view.misfitText misfit >>= fun detail => .error (.schema path.text detail) := by
  unfold View.readTable
  rw [misfits]
  rfl

/-- A table is read where the check finds nothing. -/
theorem read_table_ok {path : Path} {table : Table} :
    view.readTable path content = .ok table ↔
      view.misfit? content = none ∧ view.entries content = table := by
  cases found : view.misfit? content with
  | none =>
    unfold View.readTable
    rw [found]
    simp
  | some misfit =>
    rw [read_table_misfit path found]
    refine iff_of_false (fun read => ?_) (fun both => nomatch both.1)
    obtain ⟨_, _, ended⟩ := bind_ok read
    cases ended

/-- What the check finds nothing in is a record that binds the key of the pairs to a list of pairs. -/
theorem misfit_none (none : view.misfit? content = none) :
    ∃ entries codes pairs, view.layer content = .record entries ∧
      view.codes? entries = some codes ∧ view.layer codes = .list pairs ∧
      ∀ pair ∈ pairs, ∃ entry, IsPair view pair entry := by
  by_cases record : ∃ entries, view.layer content = .record entries
  · obtain ⟨entries, seen⟩ := record
    rcases misfit_record seen with ⟨_, found⟩ | ⟨codes, bound, ⟨_, found⟩ | ⟨_, rest⟩⟩
    · rw [none] at found
      cases found
    · rw [none] at found
      cases found
    · rw [none] at rest
      rcases codes_misfit view codes with ⟨pairs, listed, _, each⟩ | ⟨_, found⟩ |
        ⟨_, _, _, _, _, _, found, _⟩
      · exact ⟨entries, codes, pairs, seen, bound, listed, each⟩
      · rw [found] at rest
        cases rest
      · rw [found] at rest
        cases rest
  · rw [misfit_other (not_exists.mp record)] at none
    cases none

/-- The entries of a table that is read have codes that are not negative, and names that are not
empty. -/
theorem read_table_entries {path : Path} {table : Table}
    (read : view.readTable path content = .ok table) :
    ∀ entry ∈ table, 0 ≤ entry.code ∧ entry.name ≠ "" := by
  obtain ⟨none, rfl⟩ := read_table_ok.mp read
  obtain ⟨entries, codes, pairs, seen, bound, listed, each⟩ := misfit_none none
  have all : view.entries content = pairs.filterMap view.entry? := by
    unfold View.entries
    rw [seen]
    dsimp only
    rw [bound, Option.map_some, listed]
  intro entry member
  rw [all] at member
  obtain ⟨pair, among, known⟩ := List.mem_filterMap.mp member
  obtain ⟨other, isPair⟩ := each pair among
  rw [entry_pair isPair] at known
  cases known
  obtain ⟨_, _, _, coded, named⟩ := isPair
  exact ⟨coded.2, named.2⟩

end Stencil.StatusTable.Schema
