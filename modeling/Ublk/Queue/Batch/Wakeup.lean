import Ublk.Queue.Batch.Environment
import Ublk.Data.Count

namespace Ublk.Queue.Batch

open Ublk.Data Ublk.Machine

variable {config : Config} {state after : State} {tag : Nat}

/-! # No lost wake-up

A worker sleeps only with its flag down and the queue running, and a woken one
finds its flag up; the flusher sleeps only with nothing pending and workers left.
Neither depends on what the driver delivers or answers.
-/

/-- How many workers have not ended. -/
def runningCount (config : Config) (workers : Nat → Worker) : Nat :=
  (List.range config.queueDepth).countP fun tag => !(workers tag).isEnded

def WorkerAwake (stopped : Bool) (worker : Worker) : Prop :=
  (worker.pc = .waiting → worker.flag = false ∧ stopped = false) ∧
    (worker.pc = .notified → stopped = false → worker.flag = true)

structure Awake (config : Config) (state : State) : Prop where
  workers : ∀ tag < config.queueDepth, WorkerAwake state.workerStopped (state.workers tag)
  flusher : state.flusher = .waiting → state.pending = 0 ∧ 0 < state.runningWorkers
  running : state.runningWorkers = runningCount config state.workers

@[simp] theorem notify_isEnded (worker : Worker) : worker.notify.isEnded = worker.isEnded := by
  obtain ⟨flag, pc⟩ := worker
  cases pc <;> rfl

@[simp] theorem notify_flag (worker : Worker) : worker.notify.flag = worker.flag := by
  rw [Worker.notify]
  split <;> rfl

theorem notify_pc_ne_waiting (worker : Worker) : worker.notify.pc ≠ .waiting := by
  rw [Worker.notify]
  split <;> simp_all

theorem notify_pc_of_ne {worker : Worker} (awake : worker.pc ≠ .waiting) :
    worker.notify = worker := by
  rw [Worker.notify]
  split
  · contradiction
  · rfl

theorem Worker.alive_at {worker : Worker} {pc : WorkerPc} (here : worker.pc = pc)
    (alive : ({ worker with pc } : Worker).isEnded = false) : worker.isEnded = false := by
  subst here
  exact alive

theorem FlusherPc.notify_ne_waiting (pc : FlusherPc) : pc.notify ≠ .waiting := by
  cases pc <;> simp [FlusherPc.notify]

/-- What `fetch_cb` leaves of a worker: flagged and notified if its tag was read. -/
theorem foldl_flagWorker (tags : List Nat) (workers : Nat → Worker) (tag : Nat) :
    (tags.foldl flagWorker workers) tag =
      if tag ∈ tags then ({ workers tag with flag := true } : Worker).notify else workers tag := by
  induction tags generalizing workers with
  | nil => simp
  | cons first rest ih =>
      rw [List.foldl_cons, ih]
      by_cases same : tag = first
      · subst same
        simp only [flagWorker, Function.update_self, List.mem_cons, true_or, ↓reduceIte]
        split
        · rw [Worker.notify]
          cases (workers tag).pc <;> rfl
        · rfl
      · simp only [flagWorker, Function.update_of_ne same, List.mem_cons, same, false_or]

theorem runningCount_congr {old new : Nat → Worker}
    (same : ∀ tag < config.queueDepth, (new tag).isEnded = (old tag).isEnded) :
    runningCount config new = runningCount config old :=
  countP_range_congr fun tag inside => by rw [same tag inside]

theorem publish_pc {res : BitVec 32} {zoneLba : BitVec 64} :
    ((publish config tag res zoneLba state).workers tag).pc = .scheduled := by
  simp [publish, State.setWorker]

namespace Awake

theorem setWorker {worker : Worker} (awake : Awake config state)
    (ready : WorkerAwake state.workerStopped worker)
    (same : worker.isEnded = (state.workers tag).isEnded) :
    Awake config (state.setWorker tag worker) where
  workers := by
    intro other inside
    simp only [State.setWorker]
    by_cases equal : other = tag
    · subst equal
      rw [Function.update_self]
      exact ready
    · rw [Function.update_of_ne equal]
      exact awake.workers other inside
  flusher := awake.flusher
  running := by
    rw [show (state.setWorker tag worker).runningWorkers = state.runningWorkers from rfl,
      awake.running]
    refine (runningCount_congr fun other _ => ?_).symm
    simp only [State.setWorker]
    by_cases equal : other = tag
    · subst equal
      rw [Function.update_self, same]
    · rw [Function.update_of_ne equal]

theorem record {event : Event} (awake : Awake config state) : Awake config (state.record event) :=
  ⟨awake.workers, awake.flusher, awake.running⟩

theorem endWorker {err : Option QueueError} (awake : Awake config state)
    (inside : tag < config.queueDepth)
    (alive : (state.workers tag).isEnded = false) : Awake config (endWorker tag err state) where
  workers := by
    intro other otherInside
    simp only [Batch.endWorker, State.setWorker]
    by_cases equal : other = tag
    · subst equal
      rw [Function.update_self]
      exact ⟨fun waiting => by simp at waiting, fun notified => by simp at notified⟩
    · rw [Function.update_of_ne equal]
      exact awake.workers other otherInside
  flusher := by
    -- The last worker leaves a sleeping flusher no reason to sleep on, so it is woken.
    simp only [Batch.endWorker, State.setWorker]
    intro waiting
    split at waiting
    · exact absurd waiting (FlusherPc.notify_ne_waiting _)
    · exact ⟨(awake.flusher waiting).1, by omega⟩
  running := by
    have counted : runningCount config (Batch.endWorker tag err state).workers + 1 =
        runningCount config state.workers := by
      refine countP_range_drop inside (by simp [alive]) ?_ fun other different => ?_
      · simp only [Batch.endWorker, State.setWorker, Function.update_self, Worker.isEnded,
          Bool.not_true]
      · simp only [Batch.endWorker, State.setWorker, Function.update_of_ne different]
    have before := awake.running
    simp only [Batch.endWorker, State.setWorker] at counted ⊢
    omega

theorem beginRequest (awake : Awake config state)
    (alive : (state.workers tag).isEnded = false) :
    Awake config (beginRequest config tag state) := by
  simp only [Batch.beginRequest]
  split
  · apply record
    exact awake.record.setWorker (by simp [WorkerAwake]) alive.symm
  · exact awake.record.setWorker (by simp [WorkerAwake]) alive.symm

theorem turn (awake : Awake config state) (inside : tag < config.queueDepth)
    (alive : (state.workers tag).isEnded = false) (turn : Turn config tag state after) :
    Awake config after := by
  cases turn with
  | sleep running down =>
      refine awake.setWorker ⟨fun _ => ⟨down, running⟩, fun notified => by simp at notified⟩ ?_
      simpa [Worker.isEnded] using alive.symm
  | leave => exact awake.endWorker inside alive
  | serve => exact awake.beginRequest alive

theorem publish {res : BitVec 32} {zoneLba : BitVec 64} (awake : Awake config state)
    (alive : (state.workers tag).isEnded = false) :
    Awake config (publish config tag res zoneLba state) := by
  have scheduled : Awake config (state.setWorker tag { state.workers tag with pc := .scheduled }) :=
    awake.setWorker (by simp [WorkerAwake]) alive.symm
  refine ⟨scheduled.workers, ?_, scheduled.running⟩
  -- A sleeping flusher saw no pending result, so the slot is 0 and it is woken.
  simp only [Batch.publish, State.setWorker]
  intro waiting
  split at waiting
  · exact absurd waiting (FlusherPc.notify_ne_waiting _)
  · rename_i used
    exact absurd (awake.flusher waiting).1 used

theorem fetchCb {fetchRing : FetchRing} {tags : List Nat} {history : List Event}
    (awake : Awake config state) :
    Awake config { state with fetchRing, workers := tags.foldl flagWorker state.workers, history } where
  workers := by
    intro tag inside
    simp only [foldl_flagWorker]
    split
    · exact ⟨fun waiting => absurd waiting (notify_pc_ne_waiting _), fun _ _ => by simp⟩
    · exact awake.workers tag inside
  flusher := awake.flusher
  running := by
    refine awake.running.trans (runningCount_congr fun tag _ => ?_).symm
    simp only [foldl_flagWorker]
    split
    · rw [notify_isEnded]
      rfl
    · rfl

theorem fetchEnded {ended : FetchEnd} (awake : Awake config state) :
    Awake config
      { state with
        fetch := some ended
        workerStopped := true
        workers := fun tag =>
          if tag < config.queueDepth then (state.workers tag).notify else state.workers tag } where
  workers := by
    intro tag inside
    simp only [inside, ↓reduceIte]
    exact ⟨fun waiting => absurd waiting (notify_pc_ne_waiting _),
      fun _ running => by simp at running⟩
  flusher := awake.flusher
  running := by
    refine awake.running.trans (runningCount_congr fun tag inside => ?_).symm
    simp only [inside, ↓reduceIte, notify_isEnded]

theorem initial : Awake config (initial config) where
  workers := fun tag _ => by simp [Batch.initial, WorkerAwake]
  flusher := fun waiting => by simp [Batch.initial] at waiting
  running := by
    simp only [Batch.initial, runningCount, Worker.isEnded, Bool.not_false]
    simp [List.countP_true]

theorem move {action : Action} (awake : Awake config state)
    (moved : Move config state action after) :
    Awake config after := by
  cases moved with
  | deliver => exact ⟨awake.workers, awake.flusher, awake.running⟩
  | fetchCb => exact awake.fetchCb
  | turn inside pc turn =>
      refine awake.turn inside ?_ turn
      rcases pc with pc | pc <;> simp [Worker.isEnded, pc]
  | registered inside pc =>
      exact awake.setWorker (by simp [WorkerAwake]) (by simp [Worker.isEnded, pc])
  | registerFailed inside pc => exact awake.endWorker inside (by simp [Worker.isEnded, pc])
  | handled inside pc turn =>
      refine (awake.record.publish ?_).turn inside (by simp [Worker.isEnded, publish_pc]) turn
      simp [Worker.isEnded, State.record, pc]
  | handledRegistered inside pc =>
      exact (awake.record.setWorker (by simp [WorkerAwake]) (by simp [Worker.isEnded, State.record, pc])).record
  | unregistered inside pc turn =>
      refine (awake.publish ?_).turn inside (by simp [Worker.isEnded, publish_pc]) turn
      simp [Worker.isEnded, pc]
  | unregisterFailed inside pc => exact awake.endWorker inside (by simp [Worker.isEnded, pc])
  | submit => exact ⟨awake.workers, fun waiting => by simp at waiting, awake.running⟩
  | flusherLeaves => exact ⟨awake.workers, fun waiting => by simp at waiting, awake.running⟩
  | flusherSleeps _ none busy =>
      exact ⟨awake.workers, fun _ => ⟨none, Nat.pos_of_ne_zero busy⟩, awake.running⟩
  | flushed => exact ⟨awake.workers, fun waiting => by simp at waiting, awake.running⟩
  | flushFailed => exact ⟨awake.workers, fun waiting => by simp at waiting, awake.running⟩
  | accepted => exact ⟨awake.workers, fun waiting => by simp at waiting, awake.running⟩
  | refused => exact ⟨awake.workers, fun waiting => by simp at waiting, awake.running⟩
  | fetchEnded => exact awake.fetchEnded
  | fetchStopped => exact ⟨awake.workers, awake.flusher, awake.running⟩
  | returned => exact ⟨awake.workers, awake.flusher, awake.running⟩

/-- As long as a worker has not ended, some are counted as running. -/
theorem running_pos (awake : Awake config state) (inside : tag < config.queueDepth)
    (alive : (state.workers tag).isEnded = false) : 0 < state.runningWorkers := by
  rw [awake.running, runningCount, List.countP_pos_iff]
  exact ⟨tag, List.mem_range.mpr inside, by simp [alive]⟩

theorem reachable {permits : State → Action → Prop}
    (reached : Reachable (batchIoQueue config) permits state) : Awake config state :=
  reached.invariant _ initial fun _ awake _ taken => awake.move (step_move taken)

end Awake

/-- Whether a worker at a resume point goes past the wait instead of suspending. -/
def passesWait (state : State) (tag : Nat) : Bool :=
  match (state.workers tag).pc with
  | .notified => true
  | .scheduled => state.workerStopped || (state.workers tag).flag
  | _ => false

/-- The state in which the step of a worker reaches the wait: at once when the
worker resumes, behind the publication of a result otherwise. -/
def atWait (config : Config) (state : State) : Action → Option (Nat × State)
  | .workerRun tag => some (tag, state)
  | .handled tag outcome =>
      match (state.workers tag).pc with
      | .handling false =>
          some (tag, publish config tag (wrapHandleIo outcome).1 (wrapHandleIo outcome).2
            (state.record (.tag tag (.handleIo ⟨config.qId, tag, state.iod tag, config.getBuf tag⟩ outcome))))
      | _ => none
  | .unregistered tag .ok =>
      match (state.workers tag).pc with
      | .unregistering res zoneLba => some (tag, publish config tag res zoneLba state)
      | _ => none
  | _ => none

theorem passesWait_of_scheduled (pc : (state.workers tag).pc = .scheduled)
    (passes : passesWait state tag = true) (running : state.workerStopped = false) :
    (state.workers tag).flag = true := by
  simpa [passesWait, pc, running] using passes

/-- No lost wake-up, in every state of every run, whatever the driver and the
handler do and however the fetch ends. -/
theorem no_lost_wakeup (reached : Reachable (batchIoQueue config) (fun _ _ => True) state) :
    (∀ tag < config.queueDepth, (state.workers tag).pc = .waiting →
      (state.workers tag).flag = false ∧ state.workerStopped = false) ∧
    (state.flusher = .waiting → state.pending = 0 ∧ 0 < state.runningWorkers) ∧
    state.runningWorkers = runningCount config state.workers ∧
    (∀ action tag waiter, tag < config.queueDepth → atWait config state action = some (tag, waiter) →
      passesWait waiter tag = true → waiter.workerStopped = false → (waiter.workers tag).flag = true) := by
  have awake := Awake.reachable reached
  refine ⟨fun tag inside => (awake.workers tag inside).1, awake.flusher, awake.running, ?_⟩
  intro action tag waiter inside found passes running
  cases action with
  | workerRun other =>
      simp only [atWait, Option.some.injEq, Prod.mk.injEq] at found
      obtain ⟨rfl, rfl⟩ := found
      cases pc : (state.workers other).pc with
      | notified => exact (awake.workers other inside).2 pc running
      | scheduled => exact passesWait_of_scheduled pc passes running
      | _ => simp [passesWait, pc] at passes
  | handled other outcome =>
      simp only [atWait] at found
      split at found
      · simp only [Option.some.injEq, Prod.mk.injEq] at found
        obtain ⟨rfl, rfl⟩ := found
        exact passesWait_of_scheduled publish_pc passes running
      · contradiction
  | unregistered other answer =>
      cases answer with
      | error code => simp [atWait] at found
      | ok =>
          simp only [atWait] at found
          split at found
          · simp only [Option.some.injEq, Prod.mk.injEq] at found
            obtain ⟨rfl, rfl⟩ := found
            exact passesWait_of_scheduled publish_pc passes running
          · contradiction
  | _ => simp [atWait] at found

theorem no_lost_wakeup_oneTag :
    ∃ state, Reachable (batchIoQueue oneTag) (fun _ _ => True) state ∧
      (state.workers 0).pc = .waiting ∧ (state.workers 0).flag = false ∧
      state.flusher = .waiting ∧ state.pending = 0 ∧ 0 < state.runningWorkers := by
  obtain ⟨state, reached, worker, flusher⟩ :=
    exists_of_replay (batchIoQueue oneTag) (fun _ _ => True) oneTagAsleep
      (fun state => (state.workers 0).pc = .waiting ∧ state.flusher = .waiting) (by decide)
  have awake := no_lost_wakeup reached
  obtain ⟨pending, running⟩ := awake.2.1 flusher
  exact ⟨state, reached, worker, (awake.1 0 (by decide) worker).1, flusher, pending, running⟩

end Ublk.Queue.Batch
