import Mathlib.Data.List.Induction
import Stencil.Proofs.Code.Drafts
import Stencil.Proofs.Code.Mentions
import Stencil.Proofs.Code.Standing

/-!
# The course of a construction

Two things hold after every step. All objects stand in loose bundles, whatever
values bodies are fed with (`standing_run`). And the store has what the draft of
the construction says: each label's body has the label's statements, and the
iterators have come as far (`written_run`). The second needs that bodies are fed
from what was there at the start: what a construction is fed with is not made by
it.
-/

namespace Stencil.Code

variable {Label : Type} [DecidableEq Label]

/-- The store of a construction has what its draft says, besides what was there at the start. -/
structure Written (steps : List (Step Label)) (start store : Store) : Prop where
  grown : start.Grown store
  beyond : store.WalksOver start.blocks.size
  walks : store.walks = (drafted start (servings steps)).walks
  bodies : ∀ label ∈ created steps, store.blocks[start.blocks.size + number steps label]? =
    some ((drafted start (servings steps)).bodies label)
  blank : ∀ label ∉ created steps, (drafted start (servings steps)).bodies label = []

variable {steps : List (Step Label)} {step : Step Label} {ground : Nat} {site : Site Label}
  {start store after : Store} {loose : List (Bundle Label)} {label : Label}

/-! ## Bodies -/

/-- Every object that was made takes statements into its own body. -/
theorem body_of (standing : Standing steps ground site loose) (orderly : Orderly steps)
    (made : label ∈ created steps) :
    ∃ ref, site.named label = .object ref ∧ (∀ id, ref ≠ .cell id) ∧
      (Build.bodyOf? ref).Yields site.store (some (ground + number steps label)) site.store := by
  obtain ⟨part, above, rfl, stands, _⟩ := standing_part standing orderly made
  cases stands with
  | @module _ label name making stored =>
    refine ⟨.module (number steps label), ?_, by simp, ?_⟩
    · rw [Site.named, Bundle.label, (standing.calls label).1 name making]
    · exact Build.bind_yields (Build.module_body_yields stored) (Build.pure_yields _ _)
  | @package _ label name modules packages making stored root inner =>
    refine ⟨.package (shelf steps label), ?_, by simp, ?_⟩
    · rw [Site.named, Bundle.label, (standing.calls label).2 name making]
    · refine Build.bind_yields (Build.package_root_yields stored) ?_
      exact Build.bind_yields (Build.module_body_yields root) (Build.pure_yields _ _)

/-- Giving a value back changes nothing more. -/
theorem then_return {α β : Type} (step : Build α) (value : β) (store : Store) :
    ((do let _ ← step; return value : Build β).run.run store).2 = (step.run.run store).2 := by
  rw [ExceptT.run_bind, StateT.run_bind]
  obtain ⟨outcome, after⟩ := step.run.run store
  cases outcome <;> rfl

/-- What is put onto an object is put into its body. -/
theorem push_onto_run {ref : Ref} {block : Nat}
    (body : (Build.bodyOf? ref).Yields store (some block) store) (value : Value) :
    ((Build.pushOnto (.object ref) value).run.run store).2 =
      ((Build.push block value).run.run store).2 := by
  rw [push_onto_eq body]
  exact then_return (Build.push block value) (Value.object ref) store

/-- What an object is extended by its body is extended by, unless it is a growing list. -/
theorem extend_onto_run {ref : Ref} {block : Nat} (notCell : ∀ id, ref ≠ .cell id)
    (body : (Build.bodyOf? ref).Yields store (some block) store) (values : Value) :
    ((Build.extendOnto (.object ref) values).run.run store).2 =
      ((Build.extend block values).run.run store).2 := by
  rw [extend_onto_eq notCell body]
  exact then_return (Build.extend block values) (Value.object ref) store

/-- A step that feeds a body does so to the label's body, and to nothing else. -/
theorem after_serving (standing : Standing steps ground site loose)
    (orderly : Orderly (steps ++ [step])) {given : Label × Feed}
    (served : step.serving? = some given) :
    site.after step =
      ⟨((given.2.act (ground + number steps given.1)).run.run site.store).2, site.refs⟩ := by
  have ready := ready_last orderly
  cases step with
  | push label value =>
    cases served
    obtain ⟨ref, named, _, body⟩ := body_of standing (orderly_before orderly) ready
    rw [Site.after, named, Site.doing, push_onto_run body]
    rfl
  | extend label values =>
    cases served
    obtain ⟨ref, named, notCell, body⟩ := body_of standing (orderly_before orderly) ready
    rw [Site.after, named, Site.doing, extend_onto_run notCell body]
    rfl
  | _ => cases served

/-- Feeding a body leaves modules and packages, and makes no body. -/
theorem feed_frame (store : Store) (block : Nat) (feed : Feed) :
    ((feed.act block).run.run store).2.modules = store.modules ∧
      ((feed.act block).run.run store).2.packages = store.packages ∧
      ((feed.act block).run.run store).2.blocks.size = store.blocks.size := by
  rcases feed_outcome store block feed with fed | ⟨_, same⟩
  · have others := fed_others store block feed
    have bodies : (store.fed block feed).blocks.size = store.blocks.size := by
      unfold Store.fed
      cases feed.walk? <;> exact Array.size_modify
    rw [fed]
    refine ⟨?_, ?_, bodies⟩ <;> rw [others]
  · rw [same]
    exact ⟨rfl, rfl, rfl⟩

/-- After every step the objects that were made stand in loose bundles. The induction is on the
steps, the last one apart. -/
theorem standing_run (bare : start.Bare) (orderly : Orderly steps) :
    ∃ loose, Standing steps start.blocks.size (construct start steps) loose := by
  induction steps using List.reverseRecOn with
  | nil => exact ⟨[], standing_start start ⟨bare.modules, bare.packages⟩⟩
  | append_singleton steps step inductionHypothesis =>
    obtain ⟨loose, standing⟩ := inductionHypothesis (orderly_before orderly)
    rw [construct_append]
    have fed {given : Label × Feed} (served : step.serving? = some given)
        (makes : step.creation? = none) (quiet : step.attached? = none) :
        Standing (steps ++ [step]) start.blocks.size ((construct start steps).after step) loose := by
      rw [after_serving standing orderly served]
      obtain ⟨modules, packages, bodies⟩ := feed_frame (construct start steps).store
        (start.blocks.size + number steps given.1) given.2
      exact standing_same standing makes quiet modules packages bodies
    cases step with
    | module label name => exact ⟨_, standing_module standing orderly⟩
    | package label name => exact ⟨_, standing_package standing orderly⟩
    | push label value => exact ⟨loose, fed rfl rfl rfl⟩
    | extend label values => exact ⟨loose, fed rfl rfl rfl⟩
    | attach sort parent child =>
      obtain ⟨bundles, after, kept, run, _⟩ := standing_attach standing orderly
      exact ⟨bundles, run ▸ kept⟩

/-! ## Texts -/

omit [DecidableEq Label] in
/-- What a last step feeds a body with is served last. -/
theorem servings_append (steps : List (Step Label)) (step : Step Label) :
    servings (steps ++ [step]) = servings steps ++ step.serving?.toList := by
  rw [servings, List.filterMap_append]
  cases step <;> rfl

/-- Nothing has been written at the start. -/
theorem written_start (beyond : start.WalksOver start.blocks.size) :
    Written ([] : List (Step Label)) start start :=
  { grown := ⟨⟨rfl, fun _ _ => rfl⟩, rfl, rfl⟩
    beyond := beyond
    walks := rfl
    bodies := fun _ member => by cases member
    blank := fun _ _ => rfl }

/-- A step that feeds no body writes nothing: what it makes is empty, and older bodies stay. Labels
that are new have an empty body in the draft as in the store. -/
theorem written_unfed (written : Written steps start store) (orderly : Orderly (steps ++ [step]))
    (unfed : step.serving? = none)
    (size : store.blocks.size = start.blocks.size + (created steps).length)
    (older : ∀ id < store.blocks.size, after.blocks[id]? = store.blocks[id]?)
    (fresh : ∀ label, step.creation? = some label →
      after.blocks[start.blocks.size + number (steps ++ [step]) label]? = some [])
    (others : after = { store with
      blocks := after.blocks, modules := after.modules, packages := after.packages }) :
    Written (steps ++ [step]) start after := by
  have unserved : servings (steps ++ [step]) = servings steps := by
    rw [servings_append, unfed]
    exact List.append_nil _
  have walks : after.walks = store.walks := by rw [others]
  constructor
  · constructor
    · constructor
      · rw [others, written.grown.cells]
      · intro id inside
        rw [older id (by omega), written.grown.blocks id inside]
    · rw [others, written.grown.statements]
    · rw [others, written.grown.templates]
  · intro id walk come
    rw [walks] at come
    exact written.beyond id walk come
  · rw [walks, unserved, written.walks]
  · intro label member
    rw [unserved]
    rw [created_append, List.mem_append, Option.mem_toList] at member
    rcases member with old | new
    · have inside : number steps label < (created steps).length := List.idxOf_lt_length_of_mem old
      rw [number_append old, older _ (by omega), written.bodies label old]
    · rw [fresh label new, written.blank label (creation_fresh orderly new)]
  · intro label absent
    rw [created_append, List.mem_append, not_or] at absent
    rw [unserved, written.blank label absent.1]

/-- A step that feeds a body writes what its draft writes. The body of the step's label takes what
the draft gives it, since what is fed looks at older bodies and at iterators alone, and on these the
store and the draft agree. All other bodies and iterators are as before. -/
theorem written_served (written : Written steps start store) {given : Label × Feed}
    (served : step.serving? = some given) (made : given.1 ∈ created steps)
    (beyond : given.2.Over start.blocks.size) :
    Written (steps ++ [step]) start
      ((given.2.act (start.blocks.size + number steps given.1)).run.run store).2 := by
  have draft : drafted start (servings (steps ++ [step])) =
      (drafted start (servings steps)).serving start given := by
    rw [servings_append, served]
    exact List.foldl_append
  have same : created (steps ++ [step]) = created steps := by
    rw [created_append]
    cases step <;> cases served <;> exact List.append_nil _
  have newer : start.blocks.size ≤ start.blocks.size + number steps given.1 := Nat.le_add_right _ _
  -- The body is fed with the same as its draft.
  have eaten : store.intake given.2 = (drafted start (servings steps)).intake start given.2 := by
    rw [Draft.intake, ← written.walks]
    have older : Store.Older start.blocks.size { start with walks := store.walks } store :=
      ⟨written.grown.cells, written.grown.blocks⟩
    exact intake_alike older written.beyond beyond fun _ _ => rfl
  simp only [feed_run (clear_of_over written.beyond beyond newer)]
  have others := fed_others store (start.blocks.size + number steps given.1) given.2
  constructor
  · constructor
    · constructor
      · rw [others, written.grown.cells]
      · intro id inside
        rw [fed_blocks, if_neg (by omega), written.grown.blocks id inside]
    · rw [others, written.grown.statements]
    · rw [others, written.grown.templates]
  · exact fed_walks_over written.beyond _ _
  · apply Array.ext_getElem?
    intro id
    rw [draft, fed_walks, serving_walks, eaten, written.walks]
  · intro label member
    rw [same] at member
    rw [draft, number_append member, fed_blocks, written.bodies label member, eaten]
    simp only [Draft.serving, Function.update_apply]
    by_cases own : label = given.1
    · subst own
      simp
    · have apart : number steps given.1 ≠ number steps label := fun equal =>
        own (number_inj made equal).symm
      rw [if_neg own, if_neg (by omega)]
  · intro label absent
    rw [same] at absent
    have apart : label ≠ given.1 := fun equal => absent (equal ▸ made)
    simp only [draft, Draft.serving, Function.update_apply, if_neg apart]
    exact written.blank label absent

/-- Every construction writes its draft, if what it feeds bodies with was there at the start. The
induction is on the steps, the last one apart. -/
theorem written_run (bare : start.Bare) (orderly : Orderly steps)
    (walks : start.WalksOver start.blocks.size)
    (beyond : ∀ given ∈ servings steps, given.2.Over start.blocks.size) :
    Written steps start (construct start steps).store := by
  induction steps using List.reverseRecOn with
  | nil => exact written_start walks
  | append_singleton steps step inductionHypothesis =>
    have before := orderly_before orderly
    have overAll := beyond
    simp only [servings_append, List.mem_append, Option.mem_toList] at beyond
    have written := inductionHypothesis before fun given member => beyond given (.inl member)
    obtain ⟨loose, standing⟩ := standing_run bare before
    have ready := ready_last orderly
    have size := standing.bodyCount
    rw [construct_append]
    have fed {given : Label × Feed} (served : step.serving? = some given)
        (made : given.1 ∈ created steps) :
        Written (steps ++ [step]) start ((construct start steps).after step).store := by
      rw [after_serving standing orderly served]
      exact written_served written served made (beyond given (.inr served))
    have made {label : Label} (makes : step.creation? = some label) (unfed : step.serving? = none)
        {after : Store} (bodies : after.blocks = (construct start steps).store.blocks.push [])
        (others : after = { (construct start steps).store with
          blocks := after.blocks, modules := after.modules, packages := after.packages }) :
        Written (steps ++ [step]) start after := by
      refine written_unfed written orderly unfed size ?_ ?_ others
      · intro id inside
        rw [bodies, Array.getElem?_push, if_neg (Nat.ne_of_lt inside)]
      · intro other again
        rw [bodies, (number_fresh standing orderly again).2]
        exact Array.getElem?_push_size
    cases step with
    | module label name => exact made rfl rfl (by rw [after_module]) (by rw [after_module])
    | package label name => exact made rfl rfl (by rw [after_package]) (by rw [after_package])
    | push label value => exact fed rfl ready
    | extend label values => exact fed rfl ready
    | attach sort parent child =>
      obtain ⟨bundles, after, _, run, others⟩ := standing_attach standing orderly
      rw [run]
      refine written_unfed written orderly rfl size ?_ ?_ ?_
      · intro id _
        rw [others]
      · intro label makes
        cases makes
      · rw [others]

end Stencil.Code
