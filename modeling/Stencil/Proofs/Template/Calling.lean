import Stencil.Proofs.Template.Needing

/-!
# Which names a call takes

A call gives values by name. It is refused if a name that the template asks for is
missing, and else if it is given one that the template does not ask for; the
refusal names all of them. If the names are exactly those asked for, the call
builds what the template says, and what it can fail with then is no refusal of
names (`call_takes`).

One name is not the caller's to give: the template itself goes by it, so a value
for it is refused as a second one. A text may have a point of that name all the
same, and then no call can be made that the template takes (`self_never_taken`).
-/

namespace Stencil.Template

open Code

variable {template : Template} {bindings : Bindings} {names asked : List String}

/-! ## Names that are refused -/

/-- Sorted names that are all different ascend. -/
theorem sorted_ascends (unique : names.Nodup) :
    (names.mergeSort fun first second => first ≤ second).Pairwise (· < ·) := by
  have sorted : (names.mergeSort fun first second => first ≤ second).Pairwise (· ≤ ·) := by
    simpa only [decide_eq_true_eq] using
      @List.pairwise_mergeSort String (fun first second => decide (first ≤ second))
        (fun first second third => by simpa only [decide_eq_true_eq] using String.le_trans)
        (fun first second => by simpa using String.le_total first second) names
  have apart : (names.mergeSort fun first second => first ≤ second).Pairwise (· ≠ ·) :=
    (List.mergeSort_perm names _).nodup_iff.mpr unique
  exact (sorted.and apart).imp fun ⟨below, other⟩ => Std.lt_of_le_of_ne below other

/-- Points without values are refused first, in the order that the template lists them in. -/
theorem misnamed_missing (free : "self" ∉ names)
    (missing : ∃ point ∈ template.points, point ∉ names) :
    template.misnamed? names = some (.missingPoints template.name
      (template.points.filter fun point => !names.contains point)) := by
  obtain ⟨point, member, absent⟩ := missing
  have some : template.points.filter (fun point => !names.contains point) ≠ [] :=
    List.ne_nil_of_mem (List.mem_filter.mpr ⟨member, by simpa using absent⟩)
  have other : names.contains "self" = false := by simpa using free
  simp only [Template.misnamed?, other, Bool.false_eq_true, if_false]
  rw [if_pos some]

/-- Names that are no points are refused if all points have values. -/
theorem misnamed_unexpected (free : "self" ∉ names)
    (bound : ∀ point ∈ template.points, point ∈ names)
    (unexpected : ∃ name ∈ names, name ∉ template.points) :
    template.misnamed? names = some (.unexpectedPoints template.name
      ((names.filter fun name => !template.points.contains name).mergeSort
        fun first second => first ≤ second)) := by
  obtain ⟨name, member, unknown⟩ := unexpected
  have none : template.points.filter (fun point => !names.contains point) = [] :=
    List.filter_eq_nil_iff.mpr fun point listed => by simpa using bound point listed
  have some : names.filter (fun name => !template.points.contains name) ≠ [] :=
    List.ne_nil_of_mem (List.mem_filter.mpr ⟨member, by simpa using unknown⟩)
  have other : names.contains "self" = false := by simpa using free
  simp only [Template.misnamed?, other, none, Bool.false_eq_true, if_false, ne_eq,
    not_true_eq_false]
  rw [if_pos some]

/-- A value for the template itself is refused, whatever the other names are. -/
theorem misnamed_self (template : Template) (given : "self" ∈ names) :
    template.misnamed? names = some .selfGivenTwice := by
  have contained : names.contains "self" = true := by simpa using given
  simp only [Template.misnamed?, contained, if_true]

/-! ## Calls -/

/-- A call does what is said of its names. -/
theorem call_refused {fault : Fault}
    (misnamed : template.misnamed? (bindings.map Prod.fst) = some fault) :
    template.call bindings = throw fault := by
  rw [call_eq, misnamed]

/-- A call whose names are the points builds what the template says. -/
theorem call_builds (free : "self" ∉ bindings.map Prod.fst)
    (exact : ∀ name, name ∈ bindings.map Prod.fst ↔ name ∈ template.points) :
    template.call bindings = template.build bindings := by
  have named : template.misnamed? (bindings.map Prod.fst) = none :=
    not_misnamed (fun name => (exact name).trans (mem_distinct name _)) free
  rw [call_eq, named]

/-- What building fails with is no refusal of names, if the points have values. -/
theorem build_not_refused (bound : ∀ point ∈ template.points, point ∈ bindings.map Prod.fst)
    {store after : Store} {fault : Fault}
    (failed : (template.build bindings).Fails store fault after) :
    fault.family ≠ .templateArgument := by
  have boundRead : ∀ point ∈ template.points, (bindings.read.lookup point).isSome := by
    intro point member
    obtain ⟨binding, given, rfl⟩ := List.mem_map.mp (bound point member)
    rw [read_lookup, Option.isSome_map, List.lookup_isSome_iff]
    exact ⟨binding, given, beq_self_eq_true _⟩
  cases build_raises template boundRead store fault after failed with
  | notStatement | notIterable | endless => exact Family.noConfusion
  | ending member ended =>
    obtain ⟨binding, _, rfl⟩ := List.mem_map.mp member
    cases ended

/-- How a call takes names where some are asked for. Missing ones are refused first, in the order
of what is asked for, and then unexpected ones, sorted. Names that are exactly those asked for reach
what is built, and this is the only case in which the call is not refused for its names. -/
structure Takes (template : Template) (asked : List String) (bindings : Bindings) : Prop where
  missing : (∃ point ∈ asked, point ∉ bindings.map Prod.fst) → ∃ missing,
    template.call bindings = throw (.missingPoints template.name missing) ∧
    (∀ point, point ∈ missing ↔ point ∈ asked ∧ point ∉ bindings.map Prod.fst) ∧
    missing.Pairwise fun first second => asked.idxOf first < asked.idxOf second
  unexpected : (∀ point ∈ asked, point ∈ bindings.map Prod.fst) →
    (∃ name ∈ bindings.map Prod.fst, name ∉ asked) → ∃ unexpected,
      template.call bindings = throw (.unexpectedPoints template.name unexpected) ∧
      (∀ name, name ∈ unexpected ↔ name ∈ bindings.map Prod.fst ∧ name ∉ asked) ∧
      unexpected.Pairwise (· < ·)
  reaches : (∀ name, name ∈ bindings.map Prod.fst ↔ name ∈ asked) →
    template.call bindings = template.build bindings
  refused : ∀ store, (∃ fault after, (template.call bindings).Fails store fault after ∧
    fault.family = .templateArgument) ↔ ¬∀ name, name ∈ bindings.map Prod.fst ↔ name ∈ asked

/-- A call takes names as the template lists them, if no value is given for the template itself. A
call looks for missing names first, in the order of the list, and for unexpected ones then, in the
order of their spelling. -/
theorem takes_listed (listed : ∀ point, point ∈ template.points ↔ point ∈ asked)
    (ordered : template.points.Pairwise fun first second =>
      asked.idxOf first < asked.idxOf second)
    (unique : (bindings.map Prod.fst).Nodup) (free : "self" ∉ bindings.map Prod.fst) :
    Takes template asked bindings := by
  have missing (absent : ∃ point ∈ asked, point ∉ bindings.map Prod.fst) :
      template.call bindings = throw (.missingPoints template.name
        (template.points.filter fun point => !(bindings.map Prod.fst).contains point)) := by
    simp only [← listed] at absent
    exact call_refused (misnamed_missing free absent)
  have unexpected (bound : ∀ point ∈ asked, point ∈ bindings.map Prod.fst)
      (unknown : ∃ name ∈ bindings.map Prod.fst, name ∉ asked) :
      template.call bindings = throw (.unexpectedPoints template.name
        (((bindings.map Prod.fst).filter fun name => !template.points.contains name).mergeSort
          fun first second => first ≤ second)) := by
    simp only [← listed] at bound unknown
    exact call_refused (misnamed_unexpected free bound unknown)
  have reaches (same : ∀ name, name ∈ bindings.map Prod.fst ↔ name ∈ asked) :
      template.call bindings = template.build bindings :=
    call_builds free fun name => (same name).trans (listed name).symm
  refine ⟨fun absent => ⟨_, missing absent, fun point => ?_, ordered.filter _⟩,
    fun bound unknown => ⟨_, unexpected bound unknown, fun name => ?_, ?_⟩, reaches,
    fun store => ⟨?_, fun other => ?_⟩⟩
  · simp [listed]
  · simp [listed]
  · exact sorted_ascends (unique.filter _)
  · rintro ⟨fault, after, failed, refusal⟩ same
    rw [reaches same] at failed
    exact build_not_refused (fun point member => (same point).mpr ((listed point).mp member))
      failed refusal
  · by_cases bound : ∀ point ∈ asked, point ∈ bindings.map Prod.fst
    · have unknown : ∃ name ∈ bindings.map Prod.fst, name ∉ asked := by
        by_contra none
        simp only [not_exists, not_and, not_not] at none
        exact other fun name => ⟨none name, bound name⟩
      rw [unexpected bound unknown]
      exact ⟨_, store, rfl, rfl⟩
    · have absent : ∃ point ∈ asked, point ∉ bindings.map Prod.fst := by
        simpa only [not_forall, exists_prop] using bound
      rw [missing absent]
      exact ⟨_, store, rfl, rfl⟩

/-- Every template can be called with exactly its own names, but for one: a call takes names as the
points in the tokens of the text ask for them, unless one of the names given is the one that the
template itself goes by. Then the call is refused for that, whether or not there is such a point.

Proof: a call compares the names that it is given with the template's list before it builds
anything, and the list is that of the points in the tokens (`compiled_points`, `takes_listed`). A
value for the template itself is refused even before that, as the call already has one
(`misnamed_self`). -/
theorem call_takes {kind : Kind} {text name : String} {template : Template}
    (compiled : Template.compile kind text name = .ok template) {bindings : Bindings}
    (unique : (bindings.map Prod.fst).Nodup) :
    ∃ tokens, tokenize text name = .ok tokens ∧
      ("self" ∉ bindings.map Prod.fst → Takes template (pointNames tokens.items) bindings) ∧
      ("self" ∈ bindings.map Prod.fst → template.call bindings = throw .selfGivenTwice) := by
  obtain ⟨tokens, cut, listed, ordered⟩ := compiled_points compiled
  exact ⟨tokens, cut, takes_listed listed ordered unique,
    fun given => call_refused (misnamed_self template given)⟩

/-- A template with two points that is called with one of them and another name, with both and two
other names, and with exactly both. -/
theorem nested_points_taken :
    nestedPoints.call [("y", .none), ("x", .int 1)] = throw (.missingPoints "t" ["z"]) ∧
      nestedPoints.call [("y", .none), ("z", .list []), ("b", .none), ("x", .int 1)] =
        throw (.unexpectedPoints "t" ["b", "y"]) ∧
      nestedPoints.call [("z", .list []), ("x", .int 1)] =
        nestedPoints.build [("z", .list []), ("x", .int 1)] := by
  have sorted : (["y", "b"].mergeSort fun first second => first ≤ second) = ["b", "y"] := by
    simp [List.mergeSort, List.MergeSort.Internal.splitInTwo]
  refine ⟨call_refused (by decide), ?_, ?_⟩
  · rw [← sorted]
    exact call_refused (misnamed_unexpected (by decide) (by decide)
      ⟨"y", by decide, by decide⟩)
  let bindings : Bindings := [("z", .list []), ("x", .int 1)]
  have unique : (bindings.map Prod.fst).Nodup := by decide
  obtain ⟨tokens, cut, takes, _⟩ := call_takes nested_points_compiled unique
  obtain ⟨_, same, listed, _⟩ := compiled_points nested_points_compiled
  obtain rfl := Except.ok.inj (cut.symm.trans same)
  have two : nestedPoints.points = ["x", "z"] := by decide
  refine (takes (by decide)).reaches fun name => ?_
  rw [← listed, two]
  simp [bindings, or_comm]

/-- A point whose name is the one that templates themselves go by. -/
def selfPoint : Template :=
  ⟨"t", .statements, [.result (.point "self" ⟨"t", 1, 8⟩) ⟨"t", 1, 1⟩]⟩

/-- A call with exactly the names of its template that does not reach what is built. -/
theorem self_never_taken :
    Template.compile .statements "return $(self)" "t" = .ok selfPoint ∧
      selfPoint.points = ["self"] ∧
      ∀ store value, (selfPoint.call [("self", value)]).Fails store .selfGivenTwice store ∧
        Fault.selfGivenTwice.family ≠ .templateArgument := by
  have cut : (tokenize "return $(self)" "t").toOption =
      some ⟨[word "return" ⟨"t", 1, 1⟩, mark "$" ⟨"t", 1, 8⟩, mark "(" ⟨"t", 1, 9⟩,
        word "self" ⟨"t", 1, 10⟩, mark ")" ⟨"t", 1, 14⟩], ⟨"t", 1, 15⟩⟩ := by decide +kernel
  exact ⟨compiled_of_tokens cut rfl rfl, rfl, fun store value => ⟨rfl, Family.noConfusion⟩⟩

end Stencil.Template
