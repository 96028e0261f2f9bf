import Ublk.Queue.Batch.Wakeup

namespace Ublk.Queue.Batch

open Ublk.Machine

variable {config : Config} {state after : State}

/-! # The end of the fetch

The adaptors behind the fetch sender stop the workers on a value and on an
error. Nothing listens for the stopped channel, so a fetch that ends there leaves
the workers asleep and `run()` waiting for them.
-/

/-- The fetch is over, `run()` waits for the scope, a worker sleeps, and nothing
can happen any more. -/
def Hung (config : Config) (state : State) : Prop :=
  state.fetch ≠ none ∧ state.result = none ∧
    (∃ tag < config.queueDepth, (state.workers tag).pc = .waiting) ∧
    ∀ action, step config state action = none

/-- Whether a worker has nothing to do until somebody notifies it. -/
def Worker.idle (worker : Worker) : Bool :=
  match worker.pc with
  | .waiting | .ended _ => true
  | _ => false

def FlusherPc.idle : FlusherPc → Bool
  | .waiting | .ended _ => true
  | _ => false

/-- No coroutine is runnable and no command or completion is outstanding. -/
def Quiet (config : Config) (state : State) : Prop :=
  state.fetchRing.completions = [] ∧ state.flusher.idle = true ∧
    (∀ tag < config.queueDepth, (state.workers tag).idle = true) ∧
    ∃ tag < config.queueDepth, (state.workers tag).isEnded = false

instance : Decidable (Quiet config state) :=
  inferInstanceAs (Decidable (_ ∧ _ ∧ _ ∧ _))

/-- In a quiet state the queue does nothing on its own: only a delivery or the
end of the fetch can go on from there. -/
theorem Quiet.no_move {action : Action} (quiet : Quiet config state)
    (side : queueSide action = true) :
    ¬ Move config state action after := by
  obtain ⟨seen, flusher, workers, tag, inside, alive⟩ := quiet
  have worker {other : Nat} {pc : WorkerPc} (bound : other < config.queueDepth)
      (at' : (state.workers other).pc = pc) : pc = .waiting ∨ ∃ err, pc = .ended err := by
    have idle := workers other bound
    simp only [Worker.idle, at'] at idle
    cases pc <;> simp_all
  intro moved
  cases moved with
  | deliver => simp [queueSide] at side
  | fetchCb called => simp [FetchRing.fetchCb, seen] at called
  | turn bound pc => rcases pc with pc | pc <;> simpa using worker bound pc
  | registered bound pc => simpa using worker bound pc
  | registerFailed bound pc => simpa using worker bound pc
  | handled bound pc => simpa using worker bound pc
  | handledRegistered bound pc => simpa using worker bound pc
  | unregistered bound pc => simpa using worker bound pc
  | unregisterFailed bound pc => simpa using worker bound pc
  | submit pc => simp [FlusherPc.idle, pc] at flusher
  | flusherLeaves pc => simp [FlusherPc.idle, pc] at flusher
  | flusherSleeps pc => simp [FlusherPc.idle, pc] at flusher
  | flushed pc => simp [FlusherPc.idle, pc] at flusher
  | flushFailed pc => simp [FlusherPc.idle, pc] at flusher
  | accepted pc => simp [FlusherPc.idle, pc] at flusher
  | refused pc => simp [FlusherPc.idle, pc] at flusher
  | fetchEnded => simp [queueSide] at side
  | fetchStopped => simp [queueSide] at side
  | returned _ _ ended => simp [ended tag inside] at alive

theorem Quiet.stuck {action : Action} (quiet : Quiet config state)
    (side : queueSide action = true) :
    step config state action = none := by
  cases taken : step config state action with
  | none => rfl
  | some after => exact absurd (step_move taken) (quiet.no_move side)

/-- After the end of the fetch a quiet state is final. -/
theorem Quiet.final (quiet : Quiet config state) (finished : state.fetch ≠ none) (action : Action) :
    step config state action = none := by
  cases action with
  | deliver requests => simp [step, deliver, finished]
  | fetchEnd ended => simp [step, fetchEnd, finished]
  | _ => exact quiet.stuck rfl

theorem fetch_not_stopped {action : Action} (before : state.fetch ≠ some .stopped)
    (permitted : fetchNotStopped action = true) (moved : Move config state action after) :
    after.fetch ≠ some .stopped := by
  cases moved with
  | turn _ _ turn => rwa [turn.frame.fetch]
  | handled _ _ turn => rwa [turn.frame.fetch]
  | unregistered _ _ turn => rwa [turn.frame.fetch]
  | fetchEnded _ _ delivered => simpa using delivered
  | fetchStopped => simp [fetchNotStopped] at permitted
  | _ => exact before

theorem fetch_not_stopped_reachable {permits : State → Action → Prop}
    (permitted : ∀ {state action}, permits state action → fetchNotStopped action = true)
    (reached : Reachable (batchIoQueue config) permits state) : state.fetch ≠ some .stopped := by
  refine reached.invariant (fun state => state.fetch ≠ some .stopped) ?_ ?_
  · simp [batchIoQueue, initial]
  · intro _ _ _ _ before allowed taken
    exact fetch_not_stopped before (permitted allowed) (step_move taken)

/-- The ends of the fetch that pass the adaptors set the stop flag, and nothing
else does. -/
def StopFlag (state : State) : Prop :=
  state.workerStopped = true ↔ ∃ ended, state.fetch = some ended ∧ ended ≠ .stopped

namespace StopFlag

theorem frame {tag : Nat} (frame : WorkerFrame tag state after) (flag : StopFlag state) :
    StopFlag after := by
  rw [StopFlag, frame.workerStopped, frame.fetch]
  exact flag

theorem move {action : Action} (flag : StopFlag state) (moved : Move config state action after) :
    StopFlag after := by
  cases moved with
  | turn _ _ turn => exact flag.frame turn.frame
  | registerFailed => exact flag.frame (endWorker_frame _ _ _)
  | handled _ _ turn => exact StopFlag.frame turn.frame flag
  | unregistered _ _ turn => exact StopFlag.frame turn.frame flag
  | unregisterFailed => exact flag.frame (endWorker_frame _ _ _)
  | fetchEnded _ _ delivered => exact ⟨fun _ => ⟨_, rfl, delivered⟩, fun _ => rfl⟩
  | fetchStopped active =>
      have running : ¬ state.workerStopped = true := fun stopped => by
        obtain ⟨_, finished, _⟩ := flag.mp stopped
        simp [active] at finished
      exact ⟨fun stopped => absurd stopped running, fun ⟨_, finished, passed⟩ => by simp_all⟩
  | _ => exact flag

theorem reachable {permits : State → Action → Prop}
    (reached : Reachable (batchIoQueue config) permits state) :
    StopFlag state := by
  refine reached.invariant _ ?_ fun _ flag _ taken => flag.move (step_move taken)
  simp [StopFlag, batchIoQueue, initial]

end StopFlag

/-- An end of the fetch by a value or an error shuts the queue down: the stop
flag is set, no worker sleeps, and `run()` does not hang. -/
theorem fetch_end_shuts_down
    (reached : Reachable (batchIoQueue config) (fun _ action => fetchNotStopped action = true) state)
    (finished : state.fetch ≠ none) :
    state.workerStopped = true ∧ (∀ tag < config.queueDepth, (state.workers tag).pc ≠ .waiting) ∧
      ¬ Hung config state := by
  have passed : state.fetch ≠ some .stopped := fetch_not_stopped_reachable (fun allowed => allowed) reached
  have stopped : state.workerStopped = true := by
    cases ended : state.fetch with
    | none => exact absurd ended finished
    | some how =>
        exact (StopFlag.reachable reached).mpr ⟨how, ended, fun same => passed (same ▸ ended)⟩
  have notified : ∀ tag < config.queueDepth, (state.workers tag).pc ≠ .waiting :=
    fun tag inside waiting => by
    have asleep := ((Awake.reachable reached).workers tag inside).1 waiting
    simp [stopped] at asleep
  refine ⟨stopped, notified, ?_⟩
  rintro ⟨_, _, ⟨tag, inside, waiting⟩, _⟩
  exact notified tag inside waiting

theorem fetch_end_shuts_down_oneTag :
    ∃ state, Reachable (batchIoQueue oneTag) (fun _ action => fetchNotStopped action = true) state ∧
      state.fetch ≠ none ∧ state.workerStopped = true ∧ (state.workers 0).pc ≠ .waiting ∧
      ¬ Hung oneTag state := by
  obtain ⟨state, reached, finished⟩ :=
    exists_of_replay (batchIoQueue oneTag) (fun _ action => fetchNotStopped action = true)
      (oneTagAsleep ++ [.fetchEnd (.error enodev)]) (fun state => state.fetch ≠ none)
      (by decide)
  obtain ⟨stopped, notified, alive⟩ := fetch_end_shuts_down reached finished
  exact ⟨state, reached, finished, stopped, notified 0 (by decide), alive⟩

/-- The caller's stop token ends the fetch of `oneTag` while everything sleeps. -/
def oneTagStopped : List Action := oneTagAsleep ++ [.fetchEnd .stopped]

theorem stopped_fetch_hangs :
    ∃ state, Reachable (batchIoQueue oneTag) (fun _ _ => True) state ∧ state.fetch = some .stopped ∧
      state.workerStopped = false ∧ Hung oneTag state := by
  obtain ⟨state, reached, finished, running, waits, asleep, quiet⟩ :=
    exists_of_replay (batchIoQueue oneTag) (fun _ _ => True) oneTagStopped
      (fun state => state.fetch = some .stopped ∧ state.workerStopped = false ∧
        state.result = none ∧ (state.workers 0).pc = .waiting ∧ Quiet oneTag state) (by decide)
  have ended : state.fetch ≠ none := by simp [finished]
  exact ⟨state, reached, finished, running, ended, waits, ⟨0, by decide, asleep⟩, quiet.final ended⟩

end Ublk.Queue.Batch
