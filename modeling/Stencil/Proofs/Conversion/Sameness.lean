import Mathlib.Tactic.FieldSimp
import Mathlib.Tactic.Ring
import Stencil.Conversion.Tag
import Stencil.Proofs.Decimal.Whole

/-!
# Sameness of keys

Values that can be keys are the same exactly if they have one mold, a form in
which numbers of all kinds are told apart by their value alone. So sameness is
symmetric and transitive there; not-a-number has no mold and is not the same as
itself.
-/

namespace Stencil

namespace Code

/-- A form in which values that can be keys are told apart. -/
inductive Mold where
  | none
  | number (value : ℚ)
  | infinite (negative : Bool)
  | text (value : String)
  | bytes (value : List UInt8)
  | tuple (items : List Mold)
  | literal (text : Mold)
  | reference (name : Mold)
  | equals (lhs rhs : Mold)
  | object (ref : Ref)

/-- Whether a mold is that of a number. -/
def Mold.isNumber : Mold → Bool
  | number _ | infinite _ => true
  | _ => false

/-- The mold of a number. -/
@[simp] def Value.Number.mold? : Value.Number → Option Mold
  | .int value => some (.number value)
  | .float (.finite s m q) => some (.number (Decimal.Double.ratio s m q))
  | .float (.infinite s) => some (.infinite s)
  | .float .nan => Option.none

mutual

/-- The mold of a value, if it has one. -/
@[simp] def Value.mold? : Value → Option Mold
  | .none => some .none
  | .bool value => some (.number (if value then 1 else 0))
  | .int value => some (.number value)
  | .float value => (Number.float value).mold?
  | .text value => some (.text value)
  | .bytes value => some (.bytes value)
  | .tuple items => (moldAll? items).map .tuple
  | .literal inner => inner.mold?.map .literal
  | .reference inner => inner.mold?.map .reference
  | .equals lhs rhs => lhs.mold?.bind fun left => rhs.mold?.map fun right => .equals left right
  | .declared _ inner => inner.mold?
  | .object ref => some (.object ref)
  | .list _ | .dict _ => Option.none

/-- The molds of values, if they all have one. -/
@[simp] def Value.moldAll? : List Value → Option (List Mold)
  | [] => some []
  | item :: rest => item.mold?.bind fun first => (moldAll? rest).map (first :: ·)

end

/-- Two outcomes are there and the same. -/
def Agree {α : Type} (first second : Option α) : Prop := ∃ x, first = some x ∧ second = some x

/-- Outcomes that are there agree if they are the same. -/
@[simp] theorem agree_some {α : Type} (first second : α) :
    Agree (some first) (some second) ↔ first = second := by
  simp [Agree, eq_comm]

/-- Nothing agrees with no outcome. -/
@[simp] theorem not_agree_none {α : Type} (first : Option α) : ¬Agree first none := by
  simp [Agree]

/-- No outcome agrees with nothing. -/
@[simp] theorem not_none_agree {α : Type} (second : Option α) : ¬Agree none second := by
  simp [Agree]

/-- What agrees with an outcome is that outcome. -/
theorem some_agree {α : Type} (first : α) (second : Option α) :
    Agree (some first) second ↔ second = some first := by
  simp [Agree]

/-- What agrees with the image of an outcome is the image. -/
theorem map_agree {α β : Type} (form : α → β) (first : Option α) (second : Option β) :
    Agree (first.map form) second ↔ ∃ x, first = some x ∧ second = some (form x) := by
  cases first <;> simp [Agree]

/-- Pairs of outcomes agree if both parts do. -/
theorem agree_both {α β γ : Type} {form : α → β → γ}
    (injective : ∀ a b c d, form a c = form b d → a = b ∧ c = d)
    (first second : Option α) (third fourth : Option β) :
    Agree (first.bind fun a => third.map (form a)) (second.bind fun b => fourth.map (form b)) ↔
      Agree first second ∧ Agree third fourth := by
  cases first with
  | none => simp
  | some a =>
    cases second with
    | none => simp
    | some b =>
      cases third with
      | none => simp
      | some c =>
        cases fourth with
        | none => simp
        | some d =>
          simp only [Option.bind_some, Option.map_some, agree_some]
          constructor
          · exact injective a b c d
          · rintro ⟨rfl, rfl⟩
            rfl

/-- There is no first outcome and none in its place if there is neither. -/
theorem or_else_none_iff {α : Type} {first second : Option α} :
    (first <|> second) = none ↔ first = none ∧ second = none := by
  cases first <;> simp

/-- Numbers are the same if they have one mold. The cases are those of the two numbers: an integer
and a floating number are the same where the latter is whole and has the integer's value. -/
theorem number_same_iff (a b : Value.Number) : a.same b = true ↔ Agree a.mold? b.mold? := by
  -- An infinite double and one that is no number equal no finite number.
  have apart {p : Prop} (not : ¬p) : false = true ↔ p := iff_of_false Bool.false_ne_true not
  cases a with
  | int a =>
    cases b with
    | int b => simp [Value.Number.same]
    | float b =>
      cases b with
      | finite s m q =>
        simp only [Value.Number.same, Value.Number.mold?, beq_iff_eq, Decimal.Double.to_int_iff,
          agree_some, Mold.number.injEq]
        exact eq_comm
      | _ => exact apart (by simp)
  | float a =>
    cases a with
    | finite s m q =>
      cases b with
      | int b => simp [Value.Number.same, Decimal.Double.to_int_iff]
      | float b =>
        cases b with
        | finite t n r =>
          simp only [Value.Number.same, Value.Number.mold?, Decimal.Double.same_finite_iff,
            agree_some, Mold.number.injEq]
        | _ => exact apart (by simp)
    | infinite s =>
      cases b with
      | int b => exact apart (by simp)
      | float b =>
        cases b with
        | infinite t => simp [Value.Number.same, Decimal.Double.same]
        | _ => exact apart (by simp)
    | nan =>
      cases b with
      | int b => exact apart (by simp)
      | float b => cases b <;> exact apart (by simp)

/-- A value under declared kinds has the same mold. -/
theorem mold_plain (value : Value) : value.plain.mold? = value.mold? := by
  cases value with
  | declared kind inner =>
    rw [Value.plain, Value.mold?]
    exact mold_plain inner
  | _ => rw [Value.plain]; all_goals simp

/-- No declared kind is left on the value under them. -/
theorem plain_not_declared (value inner : Value) (kind : DeclaredKind) :
    value.plain ≠ .declared kind inner := by
  cases value with
  | declared other under =>
    rw [Value.plain]
    exact plain_not_declared under inner kind
  | _ => rw [Value.plain]; all_goals simp

/-- The mold of a number is a number's. -/
theorem number_mold {number : Value.Number} {mold : Mold} (has : number.mold? = some mold) :
    mold.isNumber = true := by
  cases number with
  | int value =>
    cases has
    rfl
  | float value => cases value <;> cases has <;> rfl

/-- A value under no declared kind that is no number has no number's mold. -/
theorem other_mold {value : Value} {mold : Mold} (other : value.number? = none)
    (bare : ∀ kind inner, value ≠ .declared kind inner) (has : value.mold? = some mold) :
    mold.isNumber = false := by
  cases value with
  | bool | int | float => cases other
  | declared kind inner => exact absurd rfl (bare kind inner)
  | none | text | bytes | object =>
    rw [Value.mold?] at has
    cases has
    rfl
  | list | dict =>
    rw [Value.mold?] at has
    cases has
  | tuple | literal | reference =>
    rw [Value.mold?] at has
    obtain ⟨inner, _, rfl⟩ := Option.map_eq_some_iff.mp has
    rfl
  | equals =>
    rw [Value.mold?] at has
    obtain ⟨left, _, has⟩ := Option.bind_eq_some_iff.mp has
    obtain ⟨right, _, rfl⟩ := Option.map_eq_some_iff.mp has
    rfl

/-- A value that is a number has the mold of that number. -/
theorem mold_number {value : Value} {number : Value.Number} (is : value.number? = some number) :
    value.mold? = number.mold? := by
  cases value with
  | bool value => cases is; cases value <;> simp
  | int value => cases is; rw [Value.mold?, Value.Number.mold?]
  | float value => cases is; rw [Value.mold?]
  | _ => cases is

/-- A value is the same number as another exactly if they have one mold. -/
theorem number_agrees (number : Value.Number) (other : Value) :
    other.plain.number?.any number.same = true ↔ Agree number.mold? other.mold? := by
  rw [← mold_plain other]
  cases is : other.plain.number? with
  | some value =>
    rw [mold_number is]
    exact number_same_iff number value
  | none =>
    refine iff_of_false Bool.false_ne_true ?_
    rintro ⟨mold, first, second⟩
    have no := other_mold is (fun kind inner => plain_not_declared other inner kind) second
    rw [number_mold first] at no
    cases no

/-- A value with a mold, under its declared kinds. -/
def Mold.Shows (mold : Mold) (plain : Value) : Prop :=
  match mold with
  | .number _ | .infinite _ => True
  | .none => plain = .none
  | .text held => plain = .text held
  | .bytes held => plain = .bytes held
  | .tuple molds => ∃ items, plain = .tuple items ∧ Value.moldAll? items = some molds
  | .literal mold => ∃ inner, plain = .literal inner ∧ inner.mold? = some mold
  | .reference mold => ∃ inner, plain = .reference inner ∧ inner.mold? = some mold
  | .equals left right => ∃ lhs rhs, plain = .equals lhs rhs ∧ lhs.mold? = some left ∧
      rhs.mold? = some right
  | .object ref => plain = .object ref

/-- A mold shows what a value is made of. -/
theorem mold_shows {value : Value} {mold : Mold} (has : value.mold? = some mold) :
    mold.Shows value.plain := by
  cases value with
  | declared kind inner =>
    rw [Value.mold?] at has
    rw [Value.plain]
    exact mold_shows has
  | none | text | bytes | object | bool | int =>
    rw [Value.mold?] at has
    cases has
    simp [Mold.Shows, Value.plain]
  | float value =>
    rw [Value.mold?] at has
    have number := number_mold has
    cases mold <;> trivial
  | list | dict =>
    rw [Value.mold?] at has
    cases has
  | tuple | literal | reference =>
    rw [Value.mold?] at has
    obtain ⟨inner, known, rfl⟩ := Option.map_eq_some_iff.mp has
    exact ⟨_, by simp [Value.plain], known⟩
  | equals lhs rhs =>
    rw [Value.mold?] at has
    obtain ⟨left, knownLeft, has⟩ := Option.bind_eq_some_iff.mp has
    obtain ⟨right, knownRight, rfl⟩ := Option.map_eq_some_iff.mp has
    exact ⟨lhs, rhs, by simp [Value.plain], knownLeft, knownRight⟩

/-- Unless it is a number's, a mold is that of the values that it shows. -/
theorem mold_iff {value : Value} {mold : Mold} (other : mold.isNumber = false) :
    value.mold? = some mold ↔ mold.Shows value.plain := by
  refine ⟨mold_shows, fun shown => ?_⟩
  rw [← mold_plain value]
  cases mold with
  | number | infinite => cases other
  | none | text | bytes | object =>
    rw [show value.plain = _ from shown, Value.mold?]
  | tuple | literal | reference =>
    obtain ⟨inner, plain, known⟩ := shown
    rw [plain, Value.mold?, known]
    rfl
  | equals =>
    obtain ⟨lhs, rhs, plain, left, right⟩ := shown
    rw [plain, Value.mold?, left, right]
    rfl

/-- A form that is no number's agrees with the molds of the values that it shows. -/
theorem form_agree {α : Type} {form : α → Mold} (other : ∀ inner, (form inner).isNumber = false)
    {held : Option α} {value : Value} :
    Agree (held.map form) value.mold? ↔
      ∃ inner, held = some inner ∧ (form inner).Shows value.plain := by
  rw [map_agree]
  exact exists_congr fun inner => and_congr_right' (mold_iff (other inner))

mutual

/-- A value that can be a key is the same as another exactly if they have one mold. The cases are
those of the value; the other one is looked at under its declared kinds. -/
theorem same_iff (value other : Value) (key : value.unhashable? = none) :
    value.same other = true ↔ Agree value.mold? other.mold? := by
  cases value with
  | bool | int | float =>
    rw [mold_number rfl]
    simp only [Value.same]
    exact number_agrees _ other
  | declared kind inner =>
    have under : inner.unhashable? = none := by
      cases inner <;> simp_all [Value.unhashable?]
    simp only [Value.same, Value.mold?]
    exact same_iff inner other under
  | list | dict => simp [Value.unhashable?] at key
  | none =>
    simp only [Value.same, Value.mold?]
    rw [some_agree, mold_iff rfl, Mold.Shows]
    split
    · rename_i plain
      exact iff_of_true rfl plain
    · rename_i apart
      exact iff_of_false Bool.false_ne_true apart
  | text | bytes | object =>
    simp only [Value.same, Value.mold?]
    rw [some_agree, mold_iff rfl, Mold.Shows]
    split
    · rename_i plain
      rw [beq_iff_eq, plain]
      constructor
      · rintro rfl
        rfl
      · rintro ⟨⟩
        rfl
    · rename_i apart
      exact iff_of_false Bool.false_ne_true (apart _)
  | tuple items =>
    rw [Value.unhashable?] at key
    simp only [Value.same, Value.mold?]
    rw [form_agree fun _ => rfl]
    simp only [Mold.Shows]
    split
    · rename_i others plain
      rw [same_items_iff items others key, plain]
      simp [Agree]
    · rename_i apart
      simp only [Bool.false_eq_true, false_iff]
      rintro ⟨molds, _, others, plain, _⟩
      exact apart others plain
  | literal inner | reference inner =>
    rw [Value.unhashable?] at key
    simp only [Value.same, Value.mold?]
    rw [form_agree fun _ => rfl]
    simp only [Mold.Shows]
    split
    · rename_i written plain
      rw [same_iff inner written key, plain]
      simp [Agree]
    · rename_i apart
      simp only [Bool.false_eq_true, false_iff]
      rintro ⟨mold, _, written, plain, _⟩
      exact apart written plain
  | equals lhs rhs =>
    rw [Value.unhashable?, or_else_none_iff] at key
    simp only [Value.same, Value.mold?]
    split
    · rename_i left right plain
      rw [← mold_plain other, plain, Value.mold?, Bool.and_eq_true, same_iff lhs left key.1,
        same_iff rhs right key.2]
      exact (agree_both (fun _ _ _ _ => Mold.equals.inj) _ _ _ _).symm
    · rename_i apart
      refine iff_of_false Bool.false_ne_true ?_
      rintro ⟨mold, first, second⟩
      obtain ⟨left, _, first⟩ := Option.bind_eq_some_iff.mp first
      obtain ⟨right, _, rfl⟩ := Option.map_eq_some_iff.mp first
      obtain ⟨a, b, plain, _⟩ := mold_shows second
      exact apart a b plain

/-- Values that can be keys are the same one by one as others exactly if they have the same molds. -/
theorem same_items_iff (items others : List Value) (keys : Value.unhashableIn? items = none) :
    Value.sameItems items others = true ↔ Agree (Value.moldAll? items) (Value.moldAll? others) := by
  match items, others with
  | [], [] => simp [Value.sameItems]
  | [], other :: more =>
    simp only [Value.sameItems, Value.moldAll?]
    cases other.mold? <;> cases Value.moldAll? more <;> simp
  | item :: rest, [] =>
    simp only [Value.sameItems, Value.moldAll?]
    cases item.mold? <;> cases Value.moldAll? rest <;> simp
  | item :: rest, other :: more =>
    rw [Value.unhashableIn?, or_else_none_iff] at keys
    rw [Value.sameItems, Bool.and_eq_true, same_iff item other keys.1,
      same_items_iff rest more keys.2, Value.moldAll?, Value.moldAll?]
    exact (agree_both (fun _ _ _ _ => List.cons.inj) _ _ _ _).symm

end

end Code

namespace Conversion

open Code

/-- A form in which tags that can be keys are told apart. -/
inductive Stamp where
  | kind (name : String)
  | declared (kind : DeclaredKind)
  | mark (mold : Mold)

/-- The stamp of a tag, if it has one. -/
def Tag.stamp? : Tag → Option Stamp
  | kind name => some (.kind name)
  | declared held => some (.declared held)
  | mark value => value.mold?.map .mark

/-- Both ends of two pairs have one stamp. -/
def Pair.Alike (first second : Pair) : Prop :=
  Agree first.input.stamp? second.input.stamp? ∧ Agree first.output.stamp? second.output.stamp?

/-- Pairs that can be keys, where pairs of one origin are one. -/
structure Keys (known : Pair → Prop) : Prop where
  hashable : ∀ pair, known pair → pair.checkKey = .ok ()
  single : ∀ first second, known first → known second → first.origin.isSome →
    first.origin = second.origin → first = second

/-- What agrees in one order agrees in the other. -/
theorem agree_symm {α : Type} {first second : Option α} (agree : Agree first second) :
    Agree second first := by
  obtain ⟨x, left, right⟩ := agree
  exact ⟨x, right, left⟩

/-- What agrees with the same agrees. -/
theorem agree_trans {α : Type} {first second third : Option α} (left : Agree first second)
    (right : Agree second third) : Agree first third := by
  obtain ⟨x, known, middle⟩ := left
  obtain ⟨y, again, last⟩ := right
  rw [middle] at again
  cases again
  exact ⟨x, known, last⟩

/-- Tags that can be keys are the same exactly if they have one stamp. -/
theorem tag_same_iff (tag other : Tag) (key : tag.unhashable? = none) :
    tag.same other = true ↔ Agree tag.stamp? other.stamp? := by
  cases tag with
  | kind | declared =>
    cases other with
    | mark held => simp [Tag.same, Tag.stamp?, some_agree]
    | _ => simp [Tag.same, Tag.stamp?]
  | mark value =>
    cases other with
    | mark held =>
      rw [Tag.same, Tag.stamp?, Tag.stamp?, same_iff value held key]
      cases value.mold? <;> cases held.mold? <;> simp
    | _ => simp [Tag.same, Tag.stamp?, map_agree]

/-- A pair can be a key if both ends can. -/
theorem check_key_iff (pair : Pair) :
    pair.checkKey = .ok () ↔ pair.input.unhashable? = none ∧ pair.output.unhashable? = none := by
  rw [Pair.checkKey, ← or_else_none_iff]
  cases pair.input.unhashable? <|> pair.output.unhashable? <;> simp

/-- Pairs that can be keys are the same if they have one origin or both their ends are alike. -/
theorem pair_same_iff {first second : Pair} (key : first.checkKey = .ok ()) :
    first.same second = true ↔
      (first.origin.isSome ∧ first.origin = second.origin) ∨ first.Alike second := by
  obtain ⟨input, output⟩ := (check_key_iff first).mp key
  rw [Pair.same, Bool.or_eq_true, Bool.and_eq_true, Bool.and_eq_true, beq_iff_eq,
    tag_same_iff _ _ input, tag_same_iff _ _ output]
  rfl

section

variable {known : Pair → Prop} (keys : Keys known) {first second third : Pair}
include keys

/-- Sameness of keys is symmetric. -/
theorem same_symm (left : known first) (right : known second) (same : first.same second = true) :
    second.same first = true := by
  rw [pair_same_iff (keys.hashable _ left)] at same
  rw [pair_same_iff (keys.hashable _ right)]
  rcases same with ⟨some, origin⟩ | ⟨input, output⟩
  · exact .inl ⟨origin ▸ some, origin.symm⟩
  · exact .inr ⟨agree_symm input, agree_symm output⟩

/-- Sameness of keys is transitive. Pairs of one origin are one pair. -/
theorem same_trans (left : known first) (middle : known second) (right : known third)
    (same : first.same second = true) (again : second.same third = true) :
    first.same third = true := by
  rcases (pair_same_iff (keys.hashable _ left)).mp same with ⟨some, origin⟩ | ⟨input, output⟩
  · rw [keys.single first second left middle some origin]
    exact again
  · rcases (pair_same_iff (keys.hashable _ middle)).mp again with ⟨some, origin⟩ | ⟨inner, outer⟩
    · rw [← keys.single second third middle right some origin]
      exact same
    · exact (pair_same_iff (keys.hashable _ left)).mpr
        (.inr ⟨agree_trans input inner, agree_trans output outer⟩)

end

/-- A pair that was declared is the same as itself. -/
theorem same_refl {pair : Pair} (declared : pair.origin.isSome) : pair.same pair = true := by
  simp [Pair.same, declared]

end Conversion

end Stencil
