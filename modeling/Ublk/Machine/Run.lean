import Mathlib.Logic.Relation

namespace Ublk.Machine

/-! # Runs of a partial step function

A system is an initial state and an executable step: `step state action` is
the state after `action`, or `none` when the action is not enabled. What the
environment of a system may do is not part of the step: `permits` restricts
the actions of a run, and each result names the restriction it needs.
-/

universe u v w

structure System (State : Type u) (Action : Type v) where
  initial : State
  step : State → Action → Option State

variable {State : Type u} {Action : Type v}

/-- The states of all runs whose every action is permitted where it is taken. -/
inductive Reachable (system : System State Action) (permits : State → Action → Prop) :
    State → Prop where
  | initial : Reachable system permits system.initial
  | next {before after : State} {action : Action}
      (reached : Reachable system permits before) (permitted : permits before action)
      (taken : system.step before action = some after) :
      Reachable system permits after

inductive Steps (system : System State Action) (permits : State → Action → Prop) :
    State → State → Prop where
  | refl {state : State} : Steps system permits state state
  | cons {before middle after : State} {action : Action}
      (permitted : permits before action)
      (taken : system.step before action = some middle)
      (rest : Steps system permits middle after) :
      Steps system permits before after

variable {system : System State Action} {permits : State → Action → Prop}

theorem Steps.one {before after : State} (action : Action)
    (permitted : permits before action) (taken : system.step before action = some after) :
    Steps system permits before after :=
  .cons permitted taken .refl

theorem Steps.trans {first second third : State}
    (left : Steps system permits first second) (right : Steps system permits second third) :
    Steps system permits first third := by
  induction left with
  | refl => exact right
  | cons permitted taken _ ih => exact .cons permitted taken (ih right)

theorem Reachable.steps {before after : State}
    (reached : Reachable system permits before) (run : Steps system permits before after) :
    Reachable system permits after := by
  induction run with
  | refl => exact reached
  | cons permitted taken _ ih => exact ih (reached.next permitted taken)

theorem Reachable.weaken {weaker : State → Action → Prop} {state : State}
    (implied : ∀ {state action}, permits state action → weaker state action)
    (reached : Reachable system permits state) : Reachable system weaker state := by
  induction reached with
  | initial => exact .initial
  | next _ permitted taken ih => exact ih.next (implied permitted) taken

/-- The rule for a property of every state of every run. The step obligation may
use that the state before it is reachable, so earlier invariants are at hand. -/
theorem Reachable.invariant (property : State → Prop)
    (start : property system.initial)
    (kept : ∀ {before after action}, Reachable system permits before → property before →
      permits before action → system.step before action = some after → property after)
    {state : State} (reached : Reachable system permits state) : property state := by
  induction reached with
  | initial => exact start
  | next reached permitted taken ih => exact kept reached ih permitted taken

/-- The rule for a property of everything that a run records. -/
theorem Reachable.recorded {Event : Type w} (history : State → List Event) (property : Event → Prop)
    (start : history system.initial = [])
    (kept : ∀ {before after action}, system.step before action = some after →
      ∃ events, history after = history before ++ events ∧ ∀ event ∈ events, property event)
    {state : State} (reached : Reachable system permits state) :
    ∀ event ∈ history state, property event := by
  induction reached with
  | initial => simp [start]
  | next _ _ taken ih =>
      obtain ⟨events, grown, added⟩ := kept taken
      intro event member
      rw [grown] at member
      rcases List.mem_append.mp member with old | new
      · exact ih event old
      · exact added event new

/-- Run a list of actions, checking that each is permitted where it is taken. -/
def replay (system : System State Action) (permits : State → Action → Prop)
    [∀ state action, Decidable (permits state action)] : State → List Action → Option State
  | state, [] => some state
  | state, action :: rest =>
      if permits state action then
        match system.step state action with
        | some after => replay system permits after rest
        | none => none
      else none

theorem replay_steps [∀ state action, Decidable (permits state action)]
    {actions : List Action} {before after : State}
    (ran : replay system permits before actions = some after) :
    Steps system permits before after := by
  induction actions generalizing before with
  | nil => cases ran; exact .refl
  | cons action rest ih =>
      simp only [replay] at ran
      split at ran
      · rename_i permitted
        cases taken : system.step before action with
        | none => simp [taken] at ran
        | some middle =>
            simp only [taken] at ran
            exact .cons permitted taken (ih ran)
      · contradiction

/-- A run that evaluates to a state with a decidable property exhibits a
reachable state with it. -/
theorem exists_of_replay (system : System State Action) (permits : State → Action → Prop)
    [∀ state action, Decidable (permits state action)] (actions : List Action)
    (property : State → Prop)
    [DecidablePred property]
    (ran : (replay system permits system.initial actions).any (fun state => decide (property state)) = true) :
    ∃ state, Reachable system permits state ∧ property state := by
  cases result : replay system permits system.initial actions with
  | none => simp [result] at ran
  | some state =>
      simp only [result, Option.any_some, decide_eq_true_eq] at ran
      exact ⟨state, Reachable.initial.steps (replay_steps result), ran⟩

end Ublk.Machine
