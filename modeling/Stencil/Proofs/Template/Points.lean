import Mathlib.Data.List.Basic
import Stencil.Proofs.Template.Exactness
import Stencil.Proofs.Template.Meaning

/-!
# The points of a template

The points of a template are collected from its forms. They are also to be seen in
its tokens: `$`, `(`, a name and `)` next to each other, wherever they stand. So
nothing that looks like a point counts inside a comment, a string or a raw line,
which are no tokens or one each, and none is forgotten, however deep the statement
is that it stands in.

That both are the same, in the same order and with the same repeats, follows the
derivation of the tokens (`points_derived`). A template lists each of these names
once, in the order of their first occurrences (`compiled_points`).
-/

namespace Stencil.Template

/-- The name of the point that tokens start with: it stands in parentheses behind a dollar sign. -/
def pointAhead? : List Token → Option String
  | marker :: opening :: name :: closing :: _ =>
    if marker.isOp "$" ∧ opening.isOp "(" ∧ name.kind = .name ∧ closing.isOp ")" then
      some name.text
    else none
  | _ => none

/-- The names of all points in tokens, in the order they are written, with repeats. Tokens are
looked at four at a time, without parsing them. -/
def pointNames : List Token → List String
  | [] => []
  | token :: rest => (pointAhead? (token :: rest)).toList ++ pointNames rest

/-- Tokens show the names of some points, whatever tokens are behind them. -/
def Shows (tokens : List Token) (names : List String) : Prop :=
  ∀ more, pointNames (tokens ++ more) = names ++ pointNames more

variable {tokens more : List Token} {names others : List String} {token : Token}

/-! ## Points in tokens -/

/-- No tokens show no points. -/
theorem shows_nothing : Shows [] [] := fun _ => rfl

/-- Tokens behind tokens show their points behind those. -/
theorem shows_append (first : Shows tokens names) (second : Shows more others) :
    Shows (tokens ++ more) (names ++ others) := by
  intro behind
  rw [List.append_assoc, first, second, List.append_assoc]

/-- A point starts with a dollar sign. -/
theorem point_ahead_none (other : token.isOp "$" = false) (rest : List Token) :
    pointAhead? (token :: rest) = none := by
  unfold pointAhead?
  split
  · rename_i same
    cases same
    rw [if_neg]
    simp [other]
  · rfl

/-- Tokens without dollar signs show no points. -/
theorem shows_none (others : ∀ token ∈ tokens, token.isOp "$" = false) : Shows tokens [] := by
  intro more
  induction tokens with
  | nil => rfl
  | cons token rest inductionHypothesis =>
    obtain ⟨first, behind⟩ := List.forall_mem_cons.mp others
    rw [List.cons_append, pointNames, point_ahead_none first]
    exact inductionHypothesis behind

/-- Tokens that start with ones without dollar signs show the points of the others. -/
theorem shows_behind (before : List Token) (others : ∀ token ∈ before, token.isOp "$" = false)
    (behind : Shows more names) : Shows (before ++ more) names :=
  shows_append (shows_none others) behind

/-- Tokens that end with ones without dollar signs show the points of the others. -/
theorem shows_before (first : Shows tokens names)
    (others : ∀ token ∈ more, token.isOp "$" = false) : Shows (tokens ++ more) names := by
  simpa using shows_append first (shows_none others)

/-- The tokens of a point show its name. -/
theorem shows_point (name : String) (marker opening place closing : Location) :
    Shows (pointTokens name marker opening place closing) [name] := by
  intro more
  let inner := [mark "(" opening, word name place, mark ")" closing]
  have ahead : pointAhead? (mark "$" marker :: (inner ++ more)) = some name := by
    simp [inner, pointAhead?, Token.isOp]
  have plain : Shows inner [] := shows_none (by simp [inner, Token.isOp])
  change pointNames (mark "$" marker :: (inner ++ more)) = _
  rw [pointNames, ahead, plain]
  rfl

/-- The tokens of a value show the name that it leaves open. -/
theorem shows_operand {operand : Operand} (valued : OperandTokens tokens operand) :
    Shows tokens operand.points := by
  cases valued with
  | point name marker opening place closing => exact shows_point name marker opening place closing
  | string | number | constant | reference =>
    exact shows_none (List.forall_mem_singleton.mpr rfl)

/-- There is no dollar sign among parameters. -/
theorem parameters_plain {args : List String} (listed : Parameters tokens args) :
    ∀ token ∈ tokens, token.isOp "$" = false := by
  induction listed with
  | nothing => exact List.forall_mem_nil _
  | last => exact List.forall_mem_singleton.mpr rfl
  | more _ _ _ _ _ _ _ inductionHypothesis =>
    exact List.forall_mem_cons.mpr ⟨rfl, List.forall_mem_cons.mpr ⟨rfl, inductionHypothesis⟩⟩

/-- The tokens of a function before its body show no points. -/
theorem shows_function_head {location : Location} {name : String} {args : List String}
    (headed : FunctionHead tokens location name args) : Shows tokens [] := by
  obtain ⟨place, opening, parameters, closing, colon, _, listed, rfl⟩ := headed
  refine shows_none ?_
  simp only [List.forall_mem_cons, List.forall_mem_append]
  exact ⟨rfl, rfl, rfl, parameters_plain listed, rfl, rfl, List.forall_mem_nil _⟩

/-- The tokens of a condition show the name that the compared value leaves open. -/
theorem shows_condition_head {location : Location} {lhs : String} {rhs : Operand}
    (headed : ConditionHead tokens location lhs rhs) : Shows tokens rhs.points := by
  obtain ⟨place, comparison, value, colon, _, valued, rfl⟩ := headed
  have compared : Shows (value ++ [mark ":" colon]) rhs.points :=
    shows_before (shows_operand valued) (List.forall_mem_singleton.mpr rfl)
  exact shows_behind [word "if" location, word lhs place, mark "==" comparison]
    (by simp [Token.isOp]) compared

/-- The tokens of a body show the points between its braces. -/
theorem shows_body (inner : Shows tokens names) (opening closing : Location) :
    Shows (bodyTokens opening tokens closing) names :=
  shows_behind [mark "\x7b" opening] (List.forall_mem_singleton.mpr rfl)
    (shows_before inner (List.forall_mem_singleton.mpr rfl))

/-- The points of forms are those that their tokens show.

Proof: induction on the derivation. A statement's tokens are put together from ones without dollar
signs, the tokens of a value or a point, and those of bodies; the names that it leaves open are put
together the same way. -/
theorem points_derived {forms : List Form} (derived : Derives tokens forms) :
    Shows tokens (Form.pointsOf forms) := by
  induction derived with
  | nothing => exact shows_nothing
  | function opening closing headed _ _ inner behind =>
    rw [Form.pointsOf, Form.points]
    exact shows_append
      (shows_append (shows_function_head headed) (shows_body inner opening closing)) behind
  | conditional opening closing headed _ _ inner behind =>
    rw [Form.pointsOf, Form.points, Form.pointsOf, List.append_nil]
    exact shows_append
      (shows_append (shows_condition_head headed) (shows_body inner opening closing)) behind
  | alternative opening closing divider colon opening' closing' headed _ _ _ inner other behind =>
    rw [Form.pointsOf, Form.points]
    have otherwise := shows_behind [word "else" divider, mark ":" colon]
      (by simp [Token.isOp]) (shows_body other opening' closing')
    exact shows_append (shows_append
      (shows_append (shows_condition_head headed) (shows_body inner opening closing)) otherwise)
      behind
  | result location valued _ behind =>
    exact shows_append (shows_behind [word "return" location]
      (List.forall_mem_singleton.mpr rfl) (shows_operand valued)) behind
  | assign target location sign _ valued _ behind =>
    exact shows_append (shows_behind [word target location, mark "=" sign]
      (by simp [Token.isOp]) (shows_operand valued)) behind
  | raw text location _ _ behind =>
    exact shows_behind [⟨.raw, text, location⟩] (List.forall_mem_singleton.mpr rfl)
      behind
  | splice name marker opening place closing _ _ behind =>
    exact shows_append (shows_point name marker opening place closing) behind
  | sequence name marker opening place closing star _ _ behind =>
    rw [List.append_cons]
    exact shows_append (shows_before (shows_point name marker opening place closing)
      (List.forall_mem_singleton.mpr rfl)) behind

/-! ## First occurrences -/

/-- The names of a list at their first occurrences stand in the order of these. Going through the
list, a name that is new stands behind all names that have been seen. -/
theorem distinct_ordered (names : List String) :
    (distinct names).Pairwise fun first second => names.idxOf first < names.idxOf second := by
  -- What has been seen are the names before, in the order of their first occurrences there.
  have step (rest : List String) : ∀ before seen : List String,
      (∀ name, name ∈ seen ↔ name ∈ before) →
      seen.Pairwise (fun first second => before.idxOf first < before.idxOf second) →
      (rest.foldl (fun seen name => if seen.contains name then seen else seen ++ [name])
        seen).Pairwise fun first second =>
          (before ++ rest).idxOf first < (before ++ rest).idxOf second := by
    induction rest with
    | nil =>
      intro before seen same ordered
      simpa using ordered
    | cons name rest inductionHypothesis =>
      intro before seen same ordered
      have kept : seen.Pairwise fun first second =>
          (before ++ [name]).idxOf first < (before ++ [name]).idxOf second := by
        refine ordered.imp_of_mem fun {first second} firstSeen secondSeen less => ?_
        rwa [List.idxOf_append_of_mem ((same first).mp firstSeen),
          List.idxOf_append_of_mem ((same second).mp secondSeen)]
      rw [List.foldl_cons, List.append_cons]
      by_cases known : name ∈ seen
      · rw [if_pos (List.contains_iff_mem.mpr known)]
        refine inductionHypothesis _ _ (fun other => ?_) kept
        have there : name ∈ before := (same name).mp known
        rw [same, List.mem_append, List.mem_singleton]
        exact ⟨.inl, fun found => found.elim id fun is => is ▸ there⟩
      · rw [if_neg (by simpa using known)]
        refine inductionHypothesis _ _ (fun other => ?_) ?_
        · simp [same]
        · have new : name ∉ before := fun there => known ((same name).mpr there)
          refine List.pairwise_append.mpr ⟨kept, List.pairwise_singleton _ _, ?_⟩
          intro first firstSeen last is
          obtain rfl := List.mem_singleton.mp is
          have there : first ∈ before := (same first).mp firstSeen
          rw [List.idxOf_append_of_mem there, List.idxOf_append_of_notMem new]
          exact Nat.lt_of_lt_of_le (List.idxOf_lt_length_of_mem there) (Nat.le_add_right _ _)
  exact step names [] [] (fun _ => Iff.rfl) .nil

/-! ## Compiled templates -/

/-- A template that is compiled has the forms of the text, and they fit its kind. -/
theorem compiled_parts {kind : Kind} {text name : String} {template : Template}
    (compiled : Template.compile kind text name = .ok template) :
    ∃ forms, parse text name = .ok forms ∧ Template.misfit? kind name forms = none ∧
      template = ⟨name, kind, forms⟩ := by
  obtain ⟨forms, parsed, done⟩ := bind_ok compiled
  split at done
  · cases done
  · rename_i fit
    cases done
    exact ⟨forms, parsed, fit, rfl⟩

/-- The points of a compiled template are those in the tokens of its text, each of them once and in
the order of their first occurrences. -/
theorem compiled_points {kind : Kind} {text name : String} {template : Template}
    (compiled : Template.compile kind text name = .ok template) :
    ∃ tokens, tokenize text name = .ok tokens ∧
      (∀ point, point ∈ template.points ↔ point ∈ pointNames tokens.items) ∧
      template.points.Pairwise fun first second =>
        (pointNames tokens.items).idxOf first < (pointNames tokens.items).idxOf second := by
  obtain ⟨forms, parsed, _, rfl⟩ := compiled_parts compiled
  obtain ⟨tokens, cut, read⟩ := bind_ok parsed
  have shown : pointNames tokens.items = Form.pointsOf forms := by
    simpa [pointNames] using points_derived (derives_of_parse read) []
  refine ⟨tokens, cut, fun point => ?_, ?_⟩
  · rw [shown]
    exact mem_distinct point _
  · rw [shown]
    exact distinct_ordered _

end Stencil.Template
