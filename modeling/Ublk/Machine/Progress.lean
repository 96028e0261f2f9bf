import Ublk.Machine.Run
import Mathlib.Algebra.BigOperators.Ring.Finset

namespace Ublk.Machine

/-! # Runs that come to an end

An effort measures the work a system has left. Every step costs one unit and some
actions, those of the environment, pay in new work. A run is then no longer than
the effort it started with and what its actions paid, and a run that nothing pays
for comes to a state where no permitted action is enabled.
-/

universe u v

variable {State : Type u} {Action : Type v} {system : System State Action}
variable {permits : State → Action → Prop}

/-- A run with the list of its actions. -/
inductive Path (system : System State Action) (permits : State → Action → Prop) :
    State → List Action → State → Prop where
  | nil {state : State} : Path system permits state [] state
  | cons {before middle after : State} {action : Action} {actions : List Action}
      (permitted : permits before action)
      (taken : system.step before action = some middle)
      (rest : Path system permits middle actions after) :
      Path system permits before (action :: actions) after

/-- No permitted action is enabled. -/
def Final (system : System State Action) (permits : State → Action → Prop) (state : State) : Prop :=
  ∀ action, permits state action → system.step state action = none

theorem Final.weaken {weaker : State → Action → Prop} {state : State}
    (implied : ∀ {action}, permits state action → weaker state action)
    (final : Final system weaker state) : Final system permits state :=
  fun action permitted => final action (implied permitted)

theorem Path.of_replay [∀ state action, Decidable (permits state action)]
    {actions : List Action} {before after : State}
    (ran : replay system permits before actions = some after) :
    Path system permits before actions after := by
  induction actions generalizing before with
  | nil => cases ran; exact .nil
  | cons action rest ih =>
      simp only [replay] at ran
      split at ran
      · rename_i permitted
        cases taken : system.step before action with
        | none => simp [taken] at ran
        | some middle =>
            simp only [taken] at ran
            exact .cons permitted taken (ih ran)
      · contradiction

/-- What one step costs and pays, along a whole run. -/
theorem Path.effort_le (effort : State → Nat) (pays : Action → Nat)
    (costs : ∀ {before after action}, Reachable system permits before → permits before action →
      system.step before action = some after → effort after + 1 ≤ effort before + pays action)
    {before after : State} {actions : List Action} (reached : Reachable system permits before)
    (path : Path system permits before actions after) :
    actions.length + effort after ≤ effort before + (actions.map pays).sum := by
  induction path with
  | nil => simp
  | cons permitted taken _ ih =>
      have first := costs reached permitted taken
      have later := ih (reached.next permitted taken)
      rw [List.length_cons, List.map_cons, List.sum_cons]
      omega

/-- Whatever is scheduled, the permitted steps come to an end within `bound` of them,
and where they end `rests` holds. -/
structure ComesToRest (system : System State Action) (permits : State → Action → Prop)
    (bound : Nat) (rests : State → Prop) (state : State) : Prop where
  ends : ∃ actions after, Path system permits state actions after ∧ Final system permits after
  within : ∀ {actions after}, Path system permits state actions after → actions.length ≤ bound
  rest : ∀ {actions after}, Path system permits state actions after →
    Final system permits after → rests after

section Rest

variable (effort : State → Nat) {holds rests : State → Prop}
  (kept : ∀ {before after action}, holds before → permits before action →
    system.step before action = some after → holds after ∧ effort after < effort before)
include kept

theorem exists_final {state : State} (here : holds state) :
    ∃ actions after, Path system permits state actions after ∧ Final system permits after := by
  induction left : effort state using Nat.strongRecOn generalizing state with
  | ind bound ih =>
      by_cases final : Final system permits state
      · exact ⟨[], state, .nil, final⟩
      · simp only [Final, not_forall] at final
        obtain ⟨action, permitted, enabled⟩ := final
        obtain ⟨middle, taken⟩ := Option.ne_none_iff_exists'.mp enabled
        obtain ⟨stays, less⟩ := kept here permitted taken
        obtain ⟨actions, after, path, stuck⟩ := ih (effort middle) (left ▸ less) stays rfl
        exact ⟨action :: actions, after, .cons permitted taken path, stuck⟩

theorem Path.lowers {before after : State} {actions : List Action} (here : holds before)
    (path : Path system permits before actions after) :
    holds after ∧ actions.length + effort after ≤ effort before := by
  induction path with
  | nil => exact ⟨here, by simp⟩
  | cons permitted taken _ ih =>
      obtain ⟨stays, less⟩ := kept here permitted taken
      obtain ⟨last, bounded⟩ := ih stays
      exact ⟨last, by rw [List.length_cons]; omega⟩

/-- The rule for a system whose permitted steps all lower the effort. -/
theorem comesToRest (ends : ∀ {state}, holds state → Final system permits state → rests state)
    {state : State} (here : holds state) :
    ComesToRest system permits (effort state) rests state where
  ends := exists_final effort kept here
  within := fun path => by
    have bounded := (path.lowers effort kept here).2
    omega
  rest := fun path final => ends (path.lowers effort kept here).1 final

end Rest

end Ublk.Machine
