import Mathlib.Data.List.Induction

namespace Ublk.Machine

/-! # Laws on the order of events

A law says which events may follow a sequence of events. A history obeys it when
every event was allowed by those before it, so that "only after" and "at most once"
are statements about one event and the events in front of it.
-/

universe u

variable {Event : Type u} {allowed : List Event → Event → Prop} {history : List Event} {event : Event}

def Guarded (allowed : List Event → Event → Prop) (history : List Event) : Prop :=
  ∀ front event back, history = front ++ event :: back → allowed front event

theorem guarded_nil : Guarded allowed [] := by
  intro front event back split
  simp at split

theorem Guarded.snoc (guarded : Guarded allowed history) (now : allowed history event) :
    Guarded allowed (history ++ [event]) := by
  intro front other back split
  rcases List.eq_nil_or_concat back with rfl | ⟨rest, last, rfl⟩
  · obtain ⟨rfl, same⟩ := List.append_inj' split rfl
    cases same
    exact now
  · have inner : history ++ [event] = (front ++ other :: rest) ++ [last] := by simpa using split
    exact guarded front other rest (List.append_inj' inner rfl).1

/-- Whatever an event needs in front of it has happened. -/
theorem Guarded.of_mem (guarded : Guarded allowed history) (member : event ∈ history) :
    ∃ front, front ⊆ history ∧ allowed front event := by
  obtain ⟨front, back, split⟩ := List.append_of_mem member
  exact ⟨front, by simp [split], guarded front event back split⟩

theorem Guarded.append {more : List Event} (guarded : Guarded allowed history)
    (free : ∀ front, ∀ event ∈ more, allowed front event) : Guarded allowed (history ++ more) := by
  induction more using List.reverseRecOn with
  | nil => simpa using guarded
  | append_singleton rest last ih =>
      rw [← List.append_assoc]
      exact (ih fun front event member => free front event (List.mem_append_left _ member)).snoc
        (free _ last (by simp))

end Ublk.Machine
