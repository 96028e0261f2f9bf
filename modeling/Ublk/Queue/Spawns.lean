import Ublk.Machine.Scope

namespace Ublk.Queue

open Ublk.Machine

/-! # The tasks of `run()`

Both queues spawn their workers into a `simple_counting_scope` that is a local of `run()`,
as are the things the workers refer to. Here a body is the sequence of its statements that
may throw, with a step for each of them.
-/

variable {depth : Nat}

/-- The steps of `IoQueue::run`: `task` makes the coroutine of a tag, `spawn` starts it. -/
inductive IoQueueStep (depth : Nat) where
  | initQueue
  | errs
  | task (tag : Fin depth)
  | spawn (tag : Fin depth)
  | rethrow
deriving DecidableEq, Repr

/-- `IoQueue::run`. -/
def ioQueueBody (depth : Nat) : List (Statement (IoQueueStep depth) (Fin depth)) :=
  [.call .initQueue, .call .errs] ++ spawnLoop .task .spawn (List.finRange depth) ++
    [.join, .call .rethrow]

inductive BatchTask (depth : Nat) where
  | flusher
  | worker (tag : Fin depth)
deriving DecidableEq, Repr

inductive BatchStep (depth : Nat) where
  | initQueue
  | prepIoCmds
  | workers
  | workerErrs
  | task (task : BatchTask depth)
  | spawn (task : BatchTask depth)
  | bufferQueue
  | push (index : Fin 2)
  | rethrow
deriving DecidableEq, Repr

/-- `BatchIoQueue::run` up to the flusher. -/
def batchStart (depth : Nat) : List (Statement (BatchStep depth) (BatchTask depth)) :=
  [.call .initQueue, .call .prepIoCmds, .call .workers, .call .workerErrs,
    .call (.task .flusher), .spawn (.spawn .flusher) .flusher]

/-- `BatchIoQueue::run`: the ring of fetch buffers is made between the spawns and the join. -/
def batchBody (depth : Nat) : List (Statement (BatchStep depth) (BatchTask depth)) :=
  batchStart depth ++ spawnLoop .task .spawn ((List.finRange depth).map .worker) ++
    [.call .bufferQueue, .call (.push 0), .call (.push 1), .join, .call .rethrow]

/-- The steps in front of the first spawn or behind the join. -/
def IoQueueStep.joined : IoQueueStep depth → Bool
  | .initQueue => true
  | .errs => true
  | .task tag => tag.val == 0
  | .spawn tag => tag.val == 0
  | .rethrow => true

def BatchStep.joined : BatchStep depth → Bool
  | .initQueue => true
  | .prepIoCmds => true
  | .workers => true
  | .workerErrs => true
  | .task made => made == .flusher
  | .spawn started => started == .flusher
  | .bufferQueue => false
  | .push _ => false
  | .rethrow => true

theorem ioQueueBody_exposed (step : IoQueueStep depth) :
    Exposed step (ioQueueBody depth) [] ↔ step.joined = false := by
  rw [ioQueueBody, exposed_append, exposed_append, unjoinedAfter, unjoinedAfter, unjoinedAfter,
    exposed_spawnLoop_finRange]
  cases step with
  | initQueue => simp [Exposed, IoQueueStep.joined]
  | errs => simp [Exposed, IoQueueStep.joined]
  | task tag => simp [Exposed, IoQueueStep.joined]
  | spawn tag => simp [Exposed, IoQueueStep.joined]
  | rethrow => simp [Exposed, IoQueueStep.joined]

theorem batchBody_exposed (step : BatchStep depth) :
    Exposed step (batchBody depth) [] ↔ step.joined = false := by
  have flusher : unjoinedAfter (batchStart depth) [] = [.flusher] := rfl
  rw [batchBody, exposed_append, exposed_append, flusher, exposed_spawnLoop_occupied (by simp)]
  cases step with
  | initQueue => simp [Exposed, batchStart, BatchStep.joined]
  | prepIoCmds => simp [Exposed, batchStart, BatchStep.joined]
  | workers => simp [Exposed, batchStart, BatchStep.joined]
  | workerErrs => simp [Exposed, batchStart, BatchStep.joined]
  | task made => cases made <;> simp [Exposed, batchStart, BatchStep.joined]
  | spawn started => cases started <;> simp [Exposed, batchStart, BatchStep.joined]
  | bufferQueue => simp [Exposed, batchStart, BatchStep.joined, unjoinedAfter, unjoinedAfter_spawnLoop]
  | push index =>
      have either : 0 = index ∨ 1 = index := by omega
      simpa [Exposed, batchStart, BatchStep.joined, unjoinedAfter, unjoinedAfter_spawnLoop] using either
  | rethrow => simp [Exposed, batchStart, BatchStep.joined]

end Ublk.Queue
