import Mathlib.Logic.Basic
import Mathlib.Data.Multiset.AddSub

namespace Ublk.Machine

/-! # Statements that may fail

A sequence of statements on a state, ended by the first one that fails. The state a failed
statement leaves is kept, as that is what a clean-up finds.
-/

variable {State Step : Type}

abbrev Fallible (State Step : Type) := State → State × Option Step

def Fallible.skip : Fallible State Step := fun state => (state, none)

def Fallible.andThen (first second : Fallible State Step) : Fallible State Step := fun state =>
  match first state with
  | (middle, none) => second middle
  | (middle, some step) => (middle, some step)

/-- From a state with `pre`, the statement completes with `post`, or a step fails with
`failed`. -/
def Triple (pre : State → Prop) (statement : Fallible State Step) (post : State → Prop)
    (failed : Step → State → Prop) : Prop :=
  ∀ state, pre state →
    match statement state with
    | (after, none) => post after
    | (after, some step) => failed step after

variable {pre mid post : State → Prop} {failed : Step → State → Prop} {first second : Fallible State Step}

theorem Triple.skip (weaker : ∀ state, pre state → post state) : Triple pre Fallible.skip post failed :=
  weaker

theorem Triple.weaken {post' : State → Prop} {failed' : Step → State → Prop}
    (triple : Triple pre first post failed) (completes : ∀ state, post state → post' state)
    (fails : ∀ step state, failed step state → failed' step state) : Triple pre first post' failed' := by
  intro state start
  have ended := triple state start
  split at ended
  · exact completes _ ended
  · exact fails _ _ ended

theorem Triple.andThen (left : Triple pre first mid failed) (right : Triple mid second post failed) :
    Triple pre (first.andThen second) post failed := by
  intro state start
  have completed := left state start
  rw [Fallible.andThen]
  split at completed
  · rename_i middle _
    exact right middle completed
  · exact completed

/-! ## How far a sequence gets

A plan lists the steps in their order, each with what it produces; `none` when it fails.
-/

variable {Item : Type}

/-- The first step that fails. -/
def firstFailing (plan : List (Step × Option Item)) : Option Step :=
  (plan.find? fun planned => planned.2.isNone).map Prod.fst

/-- What the steps before it have produced; all of them, when none fails. -/
def producedBefore (plan : List (Step × Option Item)) : List Item :=
  (plan.takeWhile fun planned => planned.2.isSome).filterMap Prod.snd

theorem firstFailing_append (first second : List (Step × Option Item)) :
    firstFailing (first ++ second) = (firstFailing first).or (firstFailing second) := by
  rw [firstFailing, List.find?_append, Option.map_or]
  rfl

theorem producedBefore_append (first second : List (Step × Option Item)) :
    producedBefore (first ++ second) =
      producedBefore first ++ if (firstFailing first).isNone then producedBefore second else [] := by
  induction first with
  | nil => rfl
  | cons planned rest ih =>
      obtain ⟨step, product⟩ := planned
      cases product with
      | none => rfl
      | some item => exact congrArg (List.cons item) ih

/-- From every state, the statement goes as far as the plan does, and `made` grows by what
the plan has produced there. -/
def Enacts (made : State → Multiset Item) (statement : Fallible State Step)
    (plan : List (Step × Option Item)) : Prop :=
  ∀ state, (statement state).2 = firstFailing plan ∧
    made (statement state).1 = made state + (producedBefore plan : Multiset Item)

variable {made : State → Multiset Item} {firstPlan secondPlan : List (Step × Option Item)}

theorem Enacts.skip : Enacts made Fallible.skip ([] : List (Step × Option Item)) :=
  fun state => ⟨rfl, (Multiset.add_zero (made state)).symm⟩

theorem Enacts.andThen (left : Enacts made first firstPlan) (right : Enacts made second secondPlan) :
    Enacts made (first.andThen second) (firstPlan ++ secondPlan) := by
  intro state
  obtain ⟨ends, grown⟩ := left state
  rw [Fallible.andThen, firstFailing_append, producedBefore_append, ← ends]
  split
  · rename_i middle same
    obtain ⟨laterEnds, laterGrown⟩ := right middle
    rw [same] at grown ⊢
    refine ⟨laterEnds, ?_⟩
    rw [laterGrown, grown, Multiset.add_assoc, Multiset.coe_add]
    rfl
  · rename_i middle step same
    rw [same] at grown ⊢
    exact ⟨rfl, by simpa using grown⟩

end Ublk.Machine
