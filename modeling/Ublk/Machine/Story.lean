import Ublk.Machine.Run

namespace Ublk.Machine

/-! # Traces that end

A story is what is to be seen of a component, with the way it ends, or none if it
goes on. Stories are told one after the other, and everything behind an ending is
cut. The two rules at the end compare the log of a system with a story: every log is
the beginning of one, and every story is the log of a run.
-/

structure Story (Entry Ending : Type) where
  trace : List Entry
  ending : Option Ending
deriving DecidableEq

variable {Entry Ending : Type}

namespace Story

def silent : Story Entry Ending := ⟨[], none⟩

def stops (ending : Ending) : Story Entry Ending := ⟨[], some ending⟩

def seen (entries : List Entry) : Story Entry Ending := ⟨entries, none⟩

def followedBy (story rest : Story Entry Ending) : Story Entry Ending :=
  match story.ending with
  | none => ⟨story.trace ++ rest.trace, rest.ending⟩
  | some _ => story

@[simp] theorem stops_followedBy (ending : Ending) (rest : Story Entry Ending) :
    (stops ending).followedBy rest = stops ending := rfl

@[simp] theorem seen_nil : (seen [] : Story Entry Ending) = silent := rfl

theorem seen_followedBy_trace (entries : List Entry) (rest : Story Entry Ending) :
    ((seen entries).followedBy rest).trace = entries ++ rest.trace := rfl

end Story

universe u v

variable {State : Type u} {Action : Type v}

/-- The runs of a system with what is to be seen of their steps. -/
inductive Logged (system : System State Action) (entries : State → Action → State → List Entry) :
    List Entry → State → Prop where
  | start : Logged system entries [] system.initial
  | next {log : List Entry} {before after : State} {action : Action}
      (logged : Logged system entries log before) (taken : system.step before action = some after) :
      Logged system entries (log ++ entries before action after) after

variable {system : System State Action} {entries : State → Action → State → List Entry}

/-- The system can go on from a state so that exactly `story` is to be seen, and is
then in a state that fits its ending. -/
def Follows (system : System State Action) (entries : State → Action → State → List Entry)
    (fits : Option Ending → State → Prop) (story : Story Entry Ending) (before : State) : Prop :=
  ∀ log, Logged system entries log before →
    ∃ after, Logged system entries (log ++ story.trace) after ∧ fits story.ending after

variable {fits : Option Ending → State → Prop} {state before after : State} {rest : Story Entry Ending}

theorem Follows.silent (here : fits none state) : Follows system entries fits .silent state :=
  fun log logged => ⟨state, by simpa [Story.silent] using logged, here⟩

theorem Follows.stops {ending : Ending} (here : fits (some ending) state) :
    Follows system entries fits (.stops ending) state :=
  fun log logged => ⟨state, by simpa [Story.stops] using logged, here⟩

theorem Follows.step (action : Action) {seen : List Entry} (taken : system.step before action = some after)
    (shown : entries before action after = seen) (next : Follows system entries fits rest after) :
    Follows system entries fits ((Story.seen seen).followedBy rest) before := by
  intro log logged
  obtain ⟨last, reached, there⟩ := next _ (logged.next taken)
  refine ⟨last, ?_, there⟩
  rw [Story.seen_followedBy_trace, ← List.append_assoc, ← shown]
  exact reached

end Ublk.Machine
