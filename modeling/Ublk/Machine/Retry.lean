import Mathlib.Data.List.Basic

namespace Ublk.Machine

/-! # Bounded retries

A function that asks to be called again is called once, and then at most a fixed number of
times more with a pause before each call. Calls leave events and a state behind them, also
when they end by an error.
-/

variable {Event State Error : Type}

structure Attempt (Event State Error Result : Type) where
  events : List Event
  state : State
  result : Except Error Result

variable (fn : Nat → State → Attempt Event State Error Bool) (pause : Event)

/-- The loop behind the first call, with the number of calls that are left. -/
def retryLoop : Nat → Nat → State → Attempt Event State Error Bool
  | 0, _, state => ⟨[], state, .ok false⟩
  | left + 1, attempt, state =>
      match fn attempt state with
      | ⟨events, state, .ok false⟩ =>
          let later := retryLoop left (attempt + 1) state
          ⟨pause :: events ++ later.events, later.state, later.result⟩
      | ⟨events, state, result⟩ => ⟨pause :: events, state, result⟩

def retries (maxRetry : Nat) (state : State) : Attempt Event State Error Bool :=
  match fn 0 state with
  | ⟨events, state, .ok false⟩ =>
      let later := retryLoop fn pause maxRetry 1 state
      ⟨events ++ later.events, later.state, later.result⟩
  | outcome => outcome

/-- A call that asks for another one and leaves the state as it was. -/
def Again (state : State) (attempt : Nat) : Prop :=
  (fn attempt state).result = .ok false ∧ (fn attempt state).state = state

/-- The events of `count` calls behind the first one. -/
def later (state : State) (attempt count : Nat) : List Event :=
  (List.range count).flatMap fun i => pause :: (fn (attempt + i) state).events

variable {fn pause} {state : State}

theorem later_succ (attempt count : Nat) : later fn pause state attempt (count + 1) =
    pause :: (fn attempt state).events ++ later fn pause state (attempt + 1) count := by
  rw [later, later, List.range_succ_eq_map, List.flatMap_cons, List.flatMap_map, Nat.add_zero]
  simp only [Nat.succ_eq_add_one, Nat.add_assoc, Nat.add_comm 1]

theorem retryLoop_again {left attempt : Nat} (again : Again fn state attempt) :
    retryLoop fn pause (left + 1) attempt state =
      ⟨pause :: (fn attempt state).events ++ (retryLoop fn pause left (attempt + 1) state).events,
        (retryLoop fn pause left (attempt + 1) state).state,
        (retryLoop fn pause left (attempt + 1) state).result⟩ := by
  obtain ⟨result, same⟩ := again
  rw [retryLoop]
  generalize fn attempt state = outcome at *
  obtain ⟨events, state, result⟩ := outcome
  cases result
  cases same
  rfl

theorem retryLoop_stops {left attempt : Nat} (stops : (fn attempt state).result ≠ .ok false) :
    retryLoop fn pause (left + 1) attempt state =
      ⟨pause :: (fn attempt state).events, (fn attempt state).state, (fn attempt state).result⟩ := by
  rw [retryLoop]
  generalize fn attempt state = outcome at *
  obtain ⟨events, state, result⟩ := outcome
  match result with
  | .ok false => exact absurd rfl stops
  | .ok true => rfl
  | .error err => rfl

theorem again_behind {attempt count : Nat} (again : ∀ i < count + 1, Again fn state (attempt + i)) :
    ∀ i < count, Again fn state (attempt + 1 + i) := by
  intro i less
  have one := again (i + 1) (by omega)
  rwa [Nat.add_comm i 1, ← Nat.add_assoc] at one

theorem retryLoop_decided {count : Nat} :
    ∀ {left attempt : Nat}, count < left → (∀ i < count, Again fn state (attempt + i)) →
      (fn (attempt + count) state).result ≠ .ok false →
      retryLoop fn pause left attempt state =
        ⟨later fn pause state attempt (count + 1), (fn (attempt + count) state).state,
          (fn (attempt + count) state).result⟩ := by
  induction count with
  | zero =>
      intro left attempt enough _ stops
      obtain ⟨left, rfl⟩ : ∃ rest, left = rest + 1 := ⟨left - 1, by omega⟩
      rw [Nat.add_zero] at stops ⊢
      rw [retryLoop_stops stops, later_succ]
      simp [later]
  | succ count ih =>
      intro left attempt enough again stops
      obtain ⟨left, rfl⟩ : ∃ rest, left = rest + 1 := ⟨left - 1, by omega⟩
      have next : attempt + (count + 1) = attempt + 1 + count := by omega
      have here : Again fn state attempt := again 0 (by omega)
      rw [next] at stops ⊢
      rw [retryLoop_again here, ih (by omega) (again_behind again) stops, later_succ attempt (count + 1)]

theorem retryLoop_exhausted : ∀ {left attempt : Nat}, (∀ i < left, Again fn state (attempt + i)) →
    retryLoop fn pause left attempt state = ⟨later fn pause state attempt left, state, .ok false⟩ := by
  intro left
  induction left with
  | zero =>
      intro attempt _
      rfl
  | succ left ih =>
      intro attempt again
      have here : Again fn state attempt := again 0 (by omega)
      rw [retryLoop_again here, ih (again_behind again), later_succ]

theorem retries_again {maxRetry : Nat} (again : Again fn state 0) :
    retries fn pause maxRetry state =
      ⟨(fn 0 state).events ++ (retryLoop fn pause maxRetry 1 state).events,
        (retryLoop fn pause maxRetry 1 state).state, (retryLoop fn pause maxRetry 1 state).result⟩ := by
  obtain ⟨result, same⟩ := again
  rw [retries]
  generalize fn 0 state = outcome at *
  obtain ⟨events, state, result⟩ := outcome
  cases result
  cases same
  rfl

/-- The first call that does not ask for another one decides. -/
theorem retries_decided {maxRetry count : Nat} (most : count ≤ maxRetry)
    (again : ∀ attempt < count, Again fn state attempt) (stops : (fn count state).result ≠ .ok false) :
    retries fn pause maxRetry state =
      ⟨(fn 0 state).events ++ later fn pause state 1 count, (fn count state).state,
        (fn count state).result⟩ := by
  cases count with
  | zero =>
      rw [retries]
      generalize fn 0 state = outcome at *
      obtain ⟨events, state, result⟩ := outcome
      match result with
      | .ok false => exact absurd rfl stops
      | .ok true => simp [later]
      | .error err => simp [later]
  | succ count =>
      rw [Nat.add_comm] at stops ⊢
      have behind : ∀ i < count, Again fn state (1 + i) := fun i less => again (1 + i) (by omega)
      rw [retries_again (again 0 (by omega)), retryLoop_decided (by omega) behind stops, Nat.add_comm 1 count]

/-- Without such a call, all calls are made and none succeeds. -/
theorem retries_exhausted {maxRetry : Nat} (again : ∀ attempt ≤ maxRetry, Again fn state attempt) :
    retries fn pause maxRetry state =
      ⟨(fn 0 state).events ++ later fn pause state 1 maxRetry, state, .ok false⟩ := by
  have behind : ∀ i < maxRetry, Again fn state (1 + i) := fun i less => again (1 + i) (by omega)
  rw [retries_again (again 0 (by omega)), retryLoop_exhausted behind]

end Ublk.Machine
