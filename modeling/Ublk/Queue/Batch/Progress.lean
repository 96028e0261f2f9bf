import Ublk.Machine.Progress
import Ublk.Queue.Batch.Loss
import Mathlib.Algebra.BigOperators.Ring.Finset
import Mathlib.Algebra.Order.BigOperators.Group.Finset

namespace Ublk.Queue.Batch

open Ublk.Data Ublk.Machine

variable {config : Config} {state after : State} {tag : Nat}

/-! # The queue comes to rest

Each delivered tag is worth a bounded number of steps of the queue: `fetch_cb`, the
stations of its worker, its slot and the `COMMIT` it rides in. The weights fall by
one at least with every step, so the queue cannot spin, and when nothing is left to
do every request it was given has been answered.
-/

/-- The steps a worker may still cause from where it is suspended, those of the slot
it fills and of the flusher it wakes included. -/
def WorkerPc.effort : WorkerPc → Nat
  | .waiting => 0
  | .ended _ => 0
  | .scheduled => 2
  | .notified => 2
  | .registering => 8
  | .handling ioBuf => if ioBuf then 7 else 6
  | .unregistering _ _ => 6

def Worker.effort (worker : Worker) : Nat := worker.pc.effort + if worker.flag then 7 else 0

def FlusherPc.effort : FlusherPc → Nat
  | .waiting => 0
  | .ended _ => 0
  | .scheduled => 1
  | .committed _ _ => 2
  | .committing _ _ => 3

def Delivery.effort (delivery : Delivery) : Nat := 9 * delivery.tags.length + 1

def workersEffort (config : Config) (workers : Nat → Worker) : Nat :=
  ∑ tag ∈ Finset.range config.queueDepth, (workers tag).effort

def ringEffort (fetchRing : FetchRing) : Nat := (fetchRing.backlog.map Delivery.effort).sum

/-- The end of the fetch may notify every worker. -/
def fetchEffort (config : Config) : Option FetchEnd → Nat
  | none => 2 * config.queueDepth + 1
  | some _ => 0

/-- `run()` returns once. -/
def resultEffort : Option RunResult → Nat
  | none => 1
  | some _ => 0

def effort (config : Config) (state : State) : Nat :=
  workersEffort config state.workers + state.flusher.effort + 3 * state.pending +
    ringEffort state.fetchRing + fetchEffort config state.fetch + resultEffort state.result

/-- What the driver adds with a delivery. -/
def pays : Action → Nat
  | .deliver requests => 9 * requests.length + 2
  | _ => 0

@[simp] theorem effort_waiting : WorkerPc.waiting.effort = 0 := rfl
@[simp] theorem effort_ended (err : Option QueueError) : (WorkerPc.ended err).effort = 0 := rfl
@[simp] theorem effort_scheduled : WorkerPc.scheduled.effort = 2 := rfl
@[simp] theorem effort_notified : WorkerPc.notified.effort = 2 := rfl
@[simp] theorem effort_registering : WorkerPc.registering.effort = 8 := rfl
@[simp] theorem effort_handling (ioBuf : Bool) :
    (WorkerPc.handling ioBuf).effort = if ioBuf then 7 else 6 := rfl
@[simp] theorem effort_unregistering (res : BitVec 32) (zoneLba : BitVec 64) :
    (WorkerPc.unregistering res zoneLba).effort = 6 := rfl

theorem FlusherPc.effort_notify (pc : FlusherPc) : pc.notify.effort ≤ pc.effort + 1 := by
  cases pc <;> simp [FlusherPc.notify, FlusherPc.effort]

theorem Worker.effort_notify (worker : Worker) : worker.notify.effort ≤ worker.effort + 2 := by
  by_cases waiting : worker.pc = .waiting
  · simp only [Worker.notify, waiting, Worker.effort, effort_waiting, effort_notified]
    omega
  · rw [notify_pc_of_ne waiting]
    omega

theorem Worker.effort_flag (worker : Worker) :
    ({ worker with flag := true } : Worker).notify.effort ≤ worker.effort + 9 := by
  have notified := Worker.effort_notify { worker with flag := true }
  have raised : ({ worker with flag := true } : Worker).effort ≤ worker.effort + 7 := by
    simp only [Worker.effort, ↓reduceIte]
    omega
  omega

theorem workersEffort_update (inside : tag < config.queueDepth) (workers : Nat → Worker)
    (worker : Worker) :
    workersEffort config (Function.update workers tag worker) + (workers tag).effort =
      workersEffort config workers + worker.effort :=
  sum_range_update inside Worker.effort workers worker

theorem workersEffort_flagged (config : Config) (tags : List Nat) (workers : Nat → Worker) :
    workersEffort config (tags.foldl flagWorker workers) ≤
      workersEffort config workers + 9 * tags.length := by
  induction tags generalizing workers with
  | nil => simp
  | cons first rest ih =>
      rw [List.foldl_cons, List.length_cons]
      have later := ih (flagWorker workers first)
      have here : workersEffort config (flagWorker workers first) ≤ workersEffort config workers + 9 := by
        by_cases inside : first < config.queueDepth
        · have replaced := workersEffort_update inside workers (Worker.notify ⟨true, (workers first).pc⟩)
          have flagged := (workers first).effort_flag
          simp only [flagWorker]
          omega
        · -- A tag beyond the depth names no worker of the sum.
          apply Nat.le_add_right_of_le
          apply Finset.sum_le_sum
          intro other member
          have different : other ≠ first := fun same => inside (same ▸ Finset.mem_range.mp member)
          rw [flagWorker, Function.update_of_ne different]
      omega

theorem workersEffort_notified (config : Config) (workers : Nat → Worker) :
    workersEffort config
        (fun tag => if tag < config.queueDepth then (workers tag).notify else workers tag) ≤
      workersEffort config workers + 2 * config.queueDepth := by
  calc ∑ tag ∈ Finset.range config.queueDepth,
        (if tag < config.queueDepth then (workers tag).notify else workers tag).effort
      ≤ ∑ tag ∈ Finset.range config.queueDepth, ((workers tag).effort + 2) := by
        apply Finset.sum_le_sum
        intro tag member
        rw [if_pos (Finset.mem_range.mp member)]
        exact Worker.effort_notify _
    _ = workersEffort config workers + 2 * config.queueDepth := by
        rw [Finset.sum_add_distrib, Finset.sum_const_nat fun _ _ => rfl, Finset.card_range, workersEffort]
        omega

theorem effort_setWorker (inside : tag < config.queueDepth) (state : State) (worker : Worker) :
    effort config (state.setWorker tag worker) + (state.workers tag).effort =
      effort config state + worker.effort := by
  have replaced := workersEffort_update inside state.workers worker
  simp only [effort, State.setWorker]
  omega

theorem effort_endWorker (inside : tag < config.queueDepth) (state : State) (err : Option QueueError) :
    effort config (endWorker tag err state) + (state.workers tag).pc.effort ≤ effort config state + 1 := by
  have replaced := workersEffort_update inside state.workers { state.workers tag with pc := .ended err }
  have woken := state.flusher.effort_notify
  simp only [effort, endWorker, State.setWorker, Worker.effort, effort_ended] at replaced ⊢
  split <;> omega

/-- Taking the flag down pays for the stations of the request. -/
theorem effort_beginRequest (inside : tag < config.queueDepth) (state : State)
    (up : (state.workers tag).flag = true) :
    effort config (beginRequest config tag state) + (state.workers tag).pc.effort ≤
      effort config state + 1 := by
  simp only [beginRequest]
  split
  · have replaced := effort_setWorker inside state { flag := false, pc := .registering }
    simp only [Worker.effort, up, ↓reduceIte, effort_registering, Bool.false_eq_true] at replaced
    change effort config (state.setWorker tag _) + _ ≤ _
    omega
  · have replaced := effort_setWorker inside state { flag := false, pc := .handling false }
    simp only [Worker.effort, up, ↓reduceIte, effort_handling, Bool.false_eq_true] at replaced
    change effort config (state.setWorker tag _) + _ ≤ _
    omega

/-- A worker that passes the wait of a running queue was flagged. -/
theorem Turn.effort (inside : tag < config.queueDepth)
    (awake : WorkerAwake state.workerStopped (state.workers tag))
    (pc : (state.workers tag).pc = .scheduled ∨ (state.workers tag).pc = .notified)
    (turn : Turn config tag state after) : effort config after + 1 ≤ effort config state := by
  have resumes : (state.workers tag).pc.effort = 2 := by
    rcases pc with pc | pc <;> simp [pc]
  cases turn with
  | sleep =>
      have replaced := effort_setWorker inside state ⟨(state.workers tag).flag, .waiting⟩
      simp only [Worker.effort, effort_waiting] at replaced ⊢
      omega
  | leave =>
      have ended := effort_endWorker inside state none
      omega
  | serve running woken =>
      have up : (state.workers tag).flag = true :=
        woken.elim (fun notified => awake.2 notified running) id
      have served := effort_beginRequest inside state up
      omega

/-- The slot and the flusher it may wake were part of the worker's effort. -/
theorem effort_publish {res : BitVec 32} {zoneLba : BitVec 64} (inside : tag < config.queueDepth)
    (state : State) (due : (state.workers tag).pc.effort = 6) :
    effort config (publish config tag res zoneLba state) ≤ effort config state := by
  have replaced := workersEffort_update inside state.workers { state.workers tag with pc := .scheduled }
  have woken := state.flusher.effort_notify
  have wrapped : (state.pending + 1) % 2 ^ 16 ≤ state.pending + 1 := Nat.mod_le _ _
  simp only [effort, publish, State.setWorker, Worker.effort, effort_scheduled] at replaced ⊢
  split <;> omega

theorem effort_finish {res : BitVec 32} {zoneLba : BitVec 64} {history : List Event}
    (awake : Awake config state) (inside : tag < config.queueDepth)
    (alive : (state.workers tag).isEnded = false) (due : (state.workers tag).pc.effort = 6)
    (turn : Turn config tag (publish config tag res zoneLba { state with history }) after) :
    effort config after + 1 ≤ effort config state := by
  have recorded : Awake config { state with history } :=
    ⟨awake.workers, awake.flusher, awake.running⟩
  have published : effort config (publish config tag res zoneLba { state with history }) ≤
      effort config state := effort_publish inside { state with history } due
  have turned := turn.effort inside ((recorded.publish alive).workers tag inside) (.inl publish_pc)
  omega

/-- Every step but a delivery leaves less to do. -/
theorem effort_move {action : Action} (awake : Awake config state)
    (ring : RingInStep config state.fetchRing) (moved : Move config state action after) :
    effort config after + 1 ≤ effort config state + pays action := by
  obtain ⟨reader, writer, inStep⟩ := ring
  cases moved with
  | deliver _ _ delivered =>
      obtain ⟨_, tags, backlog⟩ := inStep.deliver delivered
      simp only [effort, ringEffort, backlog, List.map_append, List.sum_append, List.map_cons,
        List.map_nil, List.sum_cons, List.sum_nil, Delivery.effort, tags, List.length_map, pays]
      omega
  | fetchCb called =>
      rename_i read fetchRing
      have flagged := workersEffort_flagged config read.tags state.workers
      have backlog := (inStep.fetchCb called).2.1
      simp only [effort, ringEffort, backlog, List.map_cons, List.sum_cons, Delivery.effort, pays]
      omega
  | turn inside pc turn => exact turn.effort inside (awake.workers _ inside) pc
  | registered inside pc =>
      rename_i worker
      have replaced := effort_setWorker inside state { state.workers worker with pc := .handling true }
      simp only [Worker.effort, pc, effort_registering, effort_handling, ↓reduceIte] at replaced
      simp only [pays]
      omega
  | registerFailed inside pc =>
      rename_i worker code
      have ended := effort_endWorker inside state (some (.system code ""))
      simp only [pc, effort_registering] at ended
      simp only [pays]
      omega
  | handled inside pc turn =>
      exact effort_finish awake inside (by simp [Worker.isEnded, pc]) (by simp [pc]) turn
  | handledRegistered inside pc =>
      rename_i worker outcome
      have replaced := effort_setWorker inside state { state.workers worker with
        pc := .unregistering (wrapHandleIo outcome).1 (wrapHandleIo outcome).2 }
      simp only [Worker.effort, pc, effort_handling, effort_unregistering, ↓reduceIte] at replaced
      change effort config (state.setWorker worker _) + 1 ≤ _
      simp only [pays]
      omega
  | unregistered inside pc turn =>
      exact effort_finish awake inside (by simp [Worker.isEnded, pc]) (by simp [pc]) turn
  | unregisterFailed inside pc =>
      rename_i worker code res zoneLba
      have ended := effort_endWorker inside state (some (.system code ""))
      simp only [pc, effort_unregistering] at ended
      simp only [pays]
      omega
  | submit pc filled =>
      simp only [effort, pc, FlusherPc.effort, pays]
      omega
  | fetchEnded active =>
      have notified := workersEffort_notified config state.workers
      simp only [effort, active, fetchEffort, pays]
      omega
  | fetchStopped active =>
      simp only [effort, active, fetchEffort, pays]
      omega
  | returned _ running =>
      simp only [effort, running, resultEffort, pays]
      omega
  | flusherLeaves pc | flusherSleeps pc | flushed pc | flushFailed pc | accepted pc | refused pc =>
      simp only [effort, pc, FlusherPc.effort, pays]
      omega

theorem effort_initial : effort config (batchIoQueue config).initial = 4 * config.queueDepth + 3 := by
  have workers : workersEffort config (fun _ => ⟨false, .scheduled⟩) = config.queueDepth * 2 := by
    rw [workersEffort, Finset.sum_const, Finset.card_range]
    rfl
  simp only [effort, batchIoQueue, initial, workers, FlusherPc.effort, ringEffort, FetchRing.initial, FetchRing.push,
    FetchRing.backlog, FetchRing.backlogFrom, List.map_nil, List.sum_nil, fetchEffort, resultEffort]
  omega

theorem pays_queueSide {action : Action} (side : queueSide action = true) : pays action = 0 := by
  cases action <;> first | rfl | simp [queueSide] at side

theorem effort_step {permits : State → Action → Prop} {action : Action}
    (reached : Reachable (batchIoQueue config) permits state)
    (taken : (batchIoQueue config).step state action = some after) :
    effort config after + 1 ≤ effort config state + pays action :=
  effort_move (Awake.reachable reached) (RingInStep.reachable reached) (step_move taken)

/-- No run of the queue spins: whatever the driver answers, the handler returns and
the scheduler picks, a run takes at most nine steps for each tag it was delivered, two for
each delivery, and a constant for starting and stopping. -/
theorem run_length_le {actions : List Action}
    (path : Path (batchIoQueue config) (fun _ _ => True) (batchIoQueue config).initial actions state) :
    actions.length ≤ 4 * config.queueDepth + 3 + (actions.map pays).sum := by
  have bounded := path.effort_le (effort config) pays
    (fun reached _ taken => effort_step reached taken) .initial
  rw [effort_initial] at bounded
  omega

theorem run_length_le_oneTag :
    ∃ state, Path (batchIoQueue oneTag) (fun _ _ => True) (batchIoQueue oneTag).initial oneTagFilled state ∧
      oneTagFilled.length ≤ 4 * 1 + 3 + (9 * 1 + 2) := by
  have ran : (replay (batchIoQueue oneTag) (fun _ _ => True) (batchIoQueue oneTag).initial
      oneTagFilled).isSome := by decide
  obtain ⟨state, done⟩ := Option.isSome_iff_exists.mp ran
  have path := Path.of_replay done
  exact ⟨state, path, run_length_le path⟩

/-! ## What is left when nothing is left to do -/

/-- What the queue does on its own with a driver that refuses nothing. -/
def obliged (state : State) (action : Action) : Prop :=
  queueSide action = true ∧ refusesNothing state action = true

/-- Every coroutine has suspended in a wait or ended, and no command is in flight. -/
theorem idle_of_final (final : Final (batchIoQueue config) obliged state) :
    state.fetchRing.completions = [] ∧ state.flusher.idle = true ∧
      ∀ tag < config.queueDepth, (state.workers tag).idle = true := by
  refine ⟨?_, ?_, fun tag inside => ?_⟩
  · cases seen : state.fetchRing.completions with
    | nil => rfl
    | cons completion rest =>
        have stuck := final .fetchCb ⟨rfl, rfl⟩
        simp only [batchIoQueue, step, fetchCb, FetchRing.fetchCb, seen] at stuck
        split at stuck
        · rename_i called
          split at called <;> simp at called
        · simp at stuck
  · cases flusher : state.flusher with
    | waiting => rfl
    | ended err => rfl
    | scheduled => simpa [batchIoQueue, step, flusherRun, flusher] using final .flusherRun ⟨rfl, rfl⟩
    | committed nr answer =>
        simpa [batchIoQueue, step, flusherRun, flusher] using final .flusherRun ⟨rfl, rfl⟩
    | committing index nr =>
        have stuck := final (.commitAnswer (.accepted nr)) ⟨rfl, by simp [refusesNothing, registersSucceed,
          unregistersSucceed, commitsInFull, flusher]⟩
        simp [batchIoQueue, step, commitAnswer, flusher] at stuck
  · cases pc : (state.workers tag).pc with
    | waiting => simp [Worker.idle, pc]
    | ended err => simp [Worker.idle, pc]
    | scheduled =>
        simpa [batchIoQueue, step, inside, workerRun, pc] using final (.workerRun tag) ⟨rfl, rfl⟩
    | notified =>
        simpa [batchIoQueue, step, inside, workerRun, pc] using final (.workerRun tag) ⟨rfl, rfl⟩
    | registering =>
        simpa [batchIoQueue, step, inside, registered, pc] using final (.registered tag .ok) ⟨rfl, rfl⟩
    | handling ioBuf =>
        have stuck := final (.handled tag (.value (.int32 0))) ⟨rfl, rfl⟩
        simp only [batchIoQueue, step, inside, ↓reduceIte, handled, pc] at stuck
        split at stuck <;> simp at stuck
    | unregistering res zoneLba =>
        simpa [batchIoQueue, step, inside, unregistered, pc] using
          final (.unregistered tag .ok) ⟨rfl, rfl⟩

/-- A worker ends by leaving a stopped queue or by a refused command. -/
theorem Turn.alive {worker : Nat} (turn : Turn config worker state after)
    (running : state.workerStopped = false) (alive : (state.workers tag).isEnded = false) :
    (after.workers tag).isEnded = false := by
  by_cases same : tag = worker
  · subst same
    cases turn with
    | sleep => simp [State.setWorker, Worker.isEnded]
    | leave stopped => simp [running] at stopped
    | serve =>
        simp only [beginRequest]
        split <;> simp [State.setWorker, State.record, Worker.isEnded]
  · rw [turn.frame.others tag same]
    exact alive

theorem setWorker_alive {worker : Nat} {flag : Bool} {pc : WorkerPc}
    (stays : (⟨flag, pc⟩ : Worker).isEnded = false) (alive : (state.workers tag).isEnded = false) :
    ((state.setWorker worker ⟨flag, pc⟩).workers tag).isEnded = false := by
  by_cases same : tag = worker
  · subst same
    simpa [State.setWorker] using stays
  · simpa [State.setWorker, Function.update_of_ne same] using alive

theorem Move.alive {action : Action} (moved : Move config state action after)
    (obliging : refusesNothing state action = true) (goesOn : fetchGoesOn action = true)
    (running : state.workerStopped = false) (alive : (state.workers tag).isEnded = false) :
    (after.workers tag).isEnded = false := by
  cases moved with
  | fetchCb called =>
      simp only [foldl_flagWorker]
      split
      · rw [notify_isEnded]
        exact alive
      · exact alive
  | turn _ _ turn => exact turn.alive running alive
  | registered => exact setWorker_alive rfl alive
  | registerFailed => simp [refusesNothing, registersSucceed] at obliging
  | handled _ _ turn => exact turn.alive running (setWorker_alive rfl alive)
  | handledRegistered => exact setWorker_alive rfl alive
  | unregistered _ _ turn => exact turn.alive running (setWorker_alive rfl alive)
  | unregisterFailed => simp [refusesNothing, unregistersSucceed] at obliging
  | fetchEnded => simp [fetchGoesOn] at goesOn
  | fetchStopped => simp [fetchGoesOn] at goesOn
  | _ => exact alive

theorem Move.fetch {action : Action} (moved : Move config state action after)
    (goesOn : fetchGoesOn action = true) : after.fetch = state.fetch := by
  cases moved with
  | turn _ _ turn => exact turn.frame.fetch
  | handled _ _ turn => exact turn.frame.fetch
  | unregistered _ _ turn => exact turn.frame.fetch
  | fetchEnded => simp [fetchGoesOn] at goesOn
  | fetchStopped => simp [fetchGoesOn] at goesOn
  | _ => rfl

/-- While the driver refuses nothing and the fetch goes on, the queue runs and no
worker ends. -/
theorem workers_stay {permits : State → Action → Prop}
    (permitted : ∀ {state action}, permits state action →
      refusesNothing state action = true ∧ fetchGoesOn action = true)
    (reached : Reachable (batchIoQueue config) permits state) :
    state.fetch = none ∧ ∀ tag < config.queueDepth, (state.workers tag).isEnded = false := by
  induction reached with
  | initial => exact ⟨rfl, fun tag inside => rfl⟩
  | next before allowed taken ih =>
      obtain ⟨active, alive⟩ := ih
      obtain ⟨obliging, goesOn⟩ := permitted allowed
      have moved := step_move taken
      refine ⟨(moved.fetch goesOn).trans active, fun tag inside => ?_⟩
      refine moved.alive obliging goesOn (Bool.eq_false_iff.mpr fun stopped => ?_) (alive tag inside)
      obtain ⟨_, finished, _⟩ := (StopFlag.reachable before).mp stopped
      simp [active] at finished

/-- Nothing the queue was given is on its way: the driver owns every tag again, each
request was handled and committed, and the workers sleep. -/
structure AtRest (config : Config) (state : State) : Prop where
  held : ∀ tag < config.queueDepth, state.held tag = true
  answered : ∀ tag < config.queueDepth, phase config tag state.history = .idle
  asleep : ∀ tag < config.queueDepth, state.workers tag = ⟨false, .waiting⟩
  pending : state.pending = 0

theorem waiting_of_idle {worker : Worker} (idle : worker.idle = true)
    (alive : worker.isEnded = false) : worker.pc = .waiting := by
  simp only [Worker.idle] at idle
  simp only [Worker.isEnded] at alive
  cases pc : worker.pc <;> simp_all

/-- The driver does as it is expected to while the queue runs. -/
def cooperates (state : State) (action : Action) : Prop :=
  ownedOnly state action = true ∧ refusesNothing state action = true ∧ fetchGoesOn action = true

instance (action : Action) : Decidable (cooperates state action) :=
  inferInstanceAs (Decidable (_ ∧ _ ∧ _))

theorem cooperates_of_obliged {action : Action} (allowed : obliged state action) :
    cooperates state action := by
  obtain ⟨side, obliging⟩ := allowed
  cases action <;> first | exact ⟨rfl, obliging, rfl⟩ | simp [queueSide] at side

theorem atRest_of_final (reached : Reachable (batchIoQueue config) cooperates state)
    (final : Final (batchIoQueue config) obliged state) : AtRest config state := by
  obtain ⟨seen, flusherIdle, workersIdle⟩ := idle_of_final final
  obtain ⟨active, alive⟩ := workers_stay (fun allowed => allowed.2) reached
  have awake := Awake.reachable reached
  have orderly : Orderly config state := Orderly.reachable (fun {_ action} allowed =>
    ⟨allowed.2.1, by cases action <;> first | rfl | simp [cooperates, fetchGoesOn] at allowed⟩) reached
  have phases : Phases config state := Phases.reachable (fun allowed => allowed.1) reached
  have waiting {tag : Nat} (inside : tag < config.queueDepth) : (state.workers tag).pc = .waiting :=
    waiting_of_idle (workersIdle tag inside) (alive tag inside)
  have asleep {tag : Nat} (inside : tag < config.queueDepth) : state.workers tag = ⟨false, .waiting⟩ := by
    have down := ((awake.workers tag inside).1 (waiting inside)).1
    rw [← down, ← waiting inside]
  have empty : state.pending = 0 := by
    cases flusher : state.flusher with
    | waiting => exact (awake.flusher flusher).1
    | ended err => exact (orderly.flushed (by simp [flusher, FlusherPc.isEnded])).1
    | _ => simp [flusher, FlusherPc.idle] at flusherIdle
  have held {tag : Nat} (inside : tag < config.queueDepth) : state.held tag = true := by
    have one : owners config state tag = 1 := by
      rw [owners_reachable (fun allowed => ⟨allowed.1, allowed.2.1⟩) reached tag, share,
        if_pos inside]
    obtain ⟨place, here⟩ := place_exists one
    cases place with
    | driver => exact here
    | ring => simp [At, FetchRing.unseen, FetchRing.backlog, seen, FetchRing.backlogFrom] at here
    | flagged => simp [At, asleep inside] at here
    | processing => simp [At, asleep inside, Worker.processing] at here
    | pendingSlot slot => simp [At, empty] at here
    | commitSlot slot =>
        obtain ⟨_, _, flight, _⟩ := here
        simp [flight, FlusherPc.idle] at flusherIdle
  exact ⟨fun tag inside => held inside, fun tag inside => phases.fits tag .driver (held inside),
    fun tag inside => asleep inside, empty⟩

/-- The queue drains. However the coroutines and the completions of their commands
are scheduled, from any state of a run with a cooperating driver the queue has done
what it can after at most `effort` steps, and every request it was given has been
answered then. -/
theorem queue_drains (reached : Reachable (batchIoQueue config) cooperates state) :
    ComesToRest (batchIoQueue config) obliged (effort config state) (AtRest config) state := by
  refine comesToRest (effort config) (fun {_ _ action} before allowed taken => ⟨?_, ?_⟩)
    atRest_of_final reached
  · exact before.next (cooperates_of_obliged allowed) taken
  · have costs := effort_step before taken
    rw [pays_queueSide allowed.1] at costs
    omega

theorem queue_drains_twoTags :
    ∃ state, Reachable (batchIoQueue twoTags) cooperates state ∧
      (state.index = 1 ∧ state.pending = 2 ∧ state.held 0 = false ∧ state.held 1 = false) ∧
      ComesToRest (batchIoQueue twoTags) obliged (effort twoTags state) (AtRest twoTags) state := by
  obtain ⟨state, reached, busy⟩ :=
    exists_of_replay (batchIoQueue twoTags) cooperates twoTagsFlipped
      (fun state => state.index = 1 ∧ state.pending = 2 ∧ state.held 0 = false ∧ state.held 1 = false)
      (by decide +kernel)
  exact ⟨state, reached, busy, queue_drains reached⟩

theorem goesOn_of_queueSide {action : Action} (side : queueSide action = true) :
    fetchGoesOn action = true ∧ fetchNotStopped action = true := by
  cases action <;> first | exact ⟨rfl, rfl⟩ | simp [queueSide] at side

/-- With the stop flag set, whatever is not running any more has ended. -/
theorem returned_of_final (awake : Awake config state) (stopped : state.workerStopped = true)
    (finished : state.fetch ≠ none)
    (final : Final (batchIoQueue config) (fun _ action => queueSide action = true) state) :
    state.result ≠ none := by
  obtain ⟨_, flusherIdle, workersIdle⟩ := idle_of_final (final.weaken fun allowed => allowed.1)
  have workers : ∀ tag < config.queueDepth, (state.workers tag).isEnded = true := by
    intro tag inside
    cases ended : (state.workers tag).isEnded with
    | true => rfl
    | false =>
        have asleep := (awake.workers tag inside).1 (waiting_of_idle (workersIdle tag inside) ended)
        simp [stopped] at asleep
  have flusher : state.flusher.isEnded = true := by
    cases pc : state.flusher with
    | ended err => rfl
    | waiting =>
        have busy := (awake.flusher pc).2
        rw [awake.running, runningCount, List.countP_pos_iff] at busy
        obtain ⟨tag, member, running⟩ := busy
        simp [workers tag (List.mem_range.mp member)] at running
    | _ => simp [pc, FlusherPc.idle] at flusherIdle
  intro unreturned
  obtain ⟨ended, fetch⟩ := Option.ne_none_iff_exists'.mp finished
  have stuck := final .runReturn rfl
  have guard : (∀ tag < config.queueDepth, (state.workers tag).isEnded = true) ∧
      state.flusher.isEnded = true := ⟨workers, flusher⟩
  simp only [batchIoQueue, step, runReturn, fetch, unreturned] at stuck
  rw [if_pos guard] at stuck
  cases stuck

/-- The states of a run in which the fetch has ended by a value or an error. -/
def Stopping (config : Config) (state : State) : Prop :=
  Reachable (batchIoQueue config) (fun _ action => fetchNotStopped action = true) state ∧
    state.fetch ≠ none

theorem Stopping.stopped (stopping : Stopping config state) : state.workerStopped = true := by
  obtain ⟨reached, finished⟩ := stopping
  obtain ⟨ended, fetch⟩ := Option.ne_none_iff_exists'.mp finished
  have passed := fetch_not_stopped_reachable (fun allowed => allowed) reached
  exact (StopFlag.reachable reached).mpr ⟨ended, fetch, fun same => passed (same ▸ fetch)⟩

theorem Stopping.step {action : Action} (stopping : Stopping config state)
    (side : queueSide action = true) (taken : (batchIoQueue config).step state action = some after) :
    Stopping config after ∧ effort config after < effort config state := by
  obtain ⟨reached, finished⟩ := stopping
  obtain ⟨goesOn, passes⟩ := goesOn_of_queueSide side
  have costs := effort_step reached taken
  rw [pays_queueSide side] at costs
  refine ⟨⟨reached.next passes taken, ?_⟩, by omega⟩
  rw [(step_move taken).fetch goesOn]
  exact finished

/-- `run()` returns. Once the fetch has ended by a value or an error, whatever the
driver answers to the commands still in flight and whatever the handler does, the
queue stops after at most `effort` steps, and only because `run()` has returned. -/
theorem run_returns
    (reached : Reachable (batchIoQueue config) (fun _ action => fetchNotStopped action = true) state)
    (finished : state.fetch ≠ none) :
    ComesToRest (batchIoQueue config) (fun _ action => queueSide action = true)
      (effort config state) (fun state => state.result ≠ none) state := by
  have stopping : Stopping config state := ⟨reached, finished⟩
  apply comesToRest (effort config) Stopping.step _ stopping
  intro after holds final
  exact returned_of_final (Awake.reachable holds.1) holds.stopped holds.2 final

theorem run_returns_oneTag :
    ∃ state, Reachable (batchIoQueue oneTag) (fun _ action => fetchNotStopped action = true) state ∧
      state.fetch ≠ none ∧ state.pending = 1 ∧
      ComesToRest (batchIoQueue oneTag) (fun _ action => queueSide action = true)
        (effort oneTag state) (fun state => state.result ≠ none) state := by
  obtain ⟨state, reached, finished, filled⟩ :=
    exists_of_replay (batchIoQueue oneTag) (fun _ action => fetchNotStopped action = true)
      (oneTagFilled ++ [.fetchEnd (.error enodev)])
      (fun state => state.fetch ≠ none ∧ state.pending = 1) (by decide)
  exact ⟨state, reached, finished, filled, run_returns reached finished⟩

/-- The driver has no more requests: nothing is delivered, and the fetch may end. -/
def windsDown : Action → Bool
  | .deliver _ => false
  | .fetchEnd .stopped => false
  | _ => true

theorem windsDown_of_queueSide {action : Action} (side : queueSide action = true) :
    windsDown action = true := by
  cases action <;> first | rfl | simp [queueSide] at side

theorem windsDown_passes {action : Action} (winds : windsDown action = true) :
    pays action = 0 ∧ fetchNotStopped action = true := by
  cases action with
  | deliver => simp [windsDown] at winds
  | fetchEnd ended => cases ended <;> first | exact ⟨rfl, rfl⟩ | simp [windsDown] at winds
  | _ => exact ⟨rfl, rfl⟩

/-- A queue that gets no more requests stops only when `run()` has returned, since the
fetch can always end. -/
theorem returned_of_windsDown
    (reached : Reachable (batchIoQueue config) (fun _ action => fetchNotStopped action = true) state)
    (final : Final (batchIoQueue config) (fun _ action => windsDown action = true) state) :
    state.result ≠ none := by
  have onItsOwn : Final (batchIoQueue config) (fun _ action => queueSide action = true) state :=
    final.weaken windsDown_of_queueSide
  have finished : state.fetch ≠ none := by
    intro active
    have seen := (idle_of_final (onItsOwn.weaken fun allowed => allowed.1)).1
    have stuck := final (.fetchEnd (.value 0)) rfl
    simp [batchIoQueue, step, fetchEnd, active, seen] at stuck
  have stopping : Stopping config state := ⟨reached, finished⟩
  exact returned_of_final (Awake.reachable reached) stopping.stopped finished onItsOwn

end Ublk.Queue.Batch
