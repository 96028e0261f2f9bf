import Mathlib.Data.List.Basic

namespace Ublk.Data

/-! # The last write to a field

Events that may each write a field, and what the field holds after all of them.
-/

variable {State Event Value : Type}

/-- The value of the last event that writes one. -/
def lastWrite (write : Event → Option Value) : List Event → Option Value
  | [] => none
  | event :: rest => (lastWrite write rest).or (write event)

variable {write : Event → Option Value} {step : State → Event → State}

/-- A field that every step either overwrites or keeps holds the last value written. -/
theorem foldl_lastWrite (field : State → Value) (events : List Event) (state : State)
    (one : ∀ state, ∀ event ∈ events, field (step state event) = (write event).getD (field state)) :
    field (events.foldl step state) = (lastWrite write events).getD (field state) := by
  induction events generalizing state with
  | nil => rfl
  | cons event rest ih =>
      have first := one state event List.mem_cons_self
      have behind := ih (step state event) fun state event member =>
        one state event (List.mem_cons_of_mem _ member)
      rw [List.foldl_cons, behind, first, lastWrite]
      cases lastWrite write rest with
      | none => rfl
      | some value => rfl

theorem lastWrite_map {Other : Type} (convert : Value → Other) (events : List Event) :
    lastWrite (fun event => (write event).map convert) events = (lastWrite write events).map convert := by
  induction events with
  | nil => rfl
  | cons event rest ih => rw [lastWrite, lastWrite, ih, Option.map_or]

end Ublk.Data
