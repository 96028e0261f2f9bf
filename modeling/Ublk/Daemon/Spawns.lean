import Ublk.Queue.Spawns

namespace Ublk.Daemon

open Ublk.Machine Ublk.Queue

/-! # The tasks of `daemon::run`

`daemon_run_t::invoke` makes a loop for each queue, opens the device and spawns one task
for each queue, on the threads of their loops.
-/

variable {queues : Nat}

inductive DaemonStep (queues : Nat) where
  | devInfo
  | reserve
  | affinity (qId : Fin queues)
  | ioLoop (qId : Fin queues)
  | path
  | openDevice
  | errs
  | task (qId : Fin queues)
  | spawn (qId : Fin queues)
  | rethrow
deriving DecidableEq, Repr

/-- What is done before the first spawn. -/
def daemonSetup (queues : Nat) : List (DaemonStep queues) :=
  [.devInfo, .reserve] ++ (List.finRange queues).flatMap (fun qId => [.affinity qId, .ioLoop qId]) ++
    [.path, .openDevice, .errs]

/-- `daemon_run_t::invoke`. -/
def daemonBody (queues : Nat) : List (Statement (DaemonStep queues) (Fin queues)) :=
  (daemonSetup queues).map .call ++ spawnLoop .task .spawn (List.finRange queues) ++ [.join, .call .rethrow]

/-- The steps in front of the first spawn or behind the join. -/
def DaemonStep.joined : DaemonStep queues → Bool
  | .task qId => qId.val == 0
  | .spawn qId => qId.val == 0
  | _ => true

theorem daemonBody_exposed (step : DaemonStep queues) :
    Exposed step (daemonBody queues) [] ↔ step.joined = false := by
  rw [daemonBody, exposed_append, exposed_append, unjoinedAfter_calls, exposed_spawnLoop_finRange,
    or_iff_right (not_exposed_calls _)]
  cases step with
  | task qId => simp [Exposed, DaemonStep.joined]
  | spawn qId => simp [Exposed, DaemonStep.joined]
  | _ => simp [Exposed, DaemonStep.joined]

/-- Whichever step throws, for every depth and every number of queues: exactly the steps in
front of the first spawn and behind the join leave no task in the scope. -/
theorem spawned_tasks_joined_iff (depth queues : Nat) :
    (∀ step : IoQueueStep depth,
      (∀ state, InScope (ioQueueBody depth) state → state.thrown = some step → state.unjoined = []) ↔
        step.joined = true) ∧
    (∀ step : BatchStep depth,
      (∀ state, InScope (batchBody depth) state → state.thrown = some step → state.unjoined = []) ↔
        step.joined = true) ∧
    ∀ step : DaemonStep queues,
      (∀ state, InScope (daemonBody queues) state → state.thrown = some step → state.unjoined = []) ↔
        step.joined = true := by
  refine ⟨?_, ?_, ?_⟩
  · intro step
    rw [joined_iff_not_exposed, ioQueueBody_exposed, Bool.not_eq_false]
  · intro step
    rw [joined_iff_not_exposed, batchBody_exposed, Bool.not_eq_false]
  · intro step
    rw [joined_iff_not_exposed, daemonBody_exposed, Bool.not_eq_false]

/-- The ring of fetch buffers cannot be registered: the flusher and the worker of a queue of
one tag are left running, and `run()` destroys what they refer to. In the same way the
second spawn of a queue of two tags and of a daemon with two queues leave the first task. -/
theorem spawned_tasks_abandoned :
    (∃ state, InScope (batchBody 1) state ∧ state.thrown = some .bufferQueue ∧ state.unjoined ≠ [] ∧
      state.running = state.unjoined) ∧
    (∃ state, InScope (ioQueueBody 2) state ∧ state.thrown = some (.spawn 1) ∧ state.unjoined ≠ [] ∧
      state.running = state.unjoined) ∧
    ∃ state, InScope (daemonBody 2) state ∧ state.thrown = some (.spawn 1) ∧ state.unjoined ≠ [] ∧
      state.running = state.unjoined :=
  ⟨InScope.exposed_throws .initial ((batchBody_exposed _).mpr rfl),
    InScope.exposed_throws .initial ((ioQueueBody_exposed _).mpr rfl),
    InScope.exposed_throws .initial ((daemonBody_exposed _).mpr rfl)⟩

end Ublk.Daemon
