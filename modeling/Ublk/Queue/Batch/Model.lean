import Ublk.Machine.Run
import Ublk.Queue.FetchRing
import Ublk.Queue.Trace
import Mathlib.Logic.Function.Basic

namespace Ublk.Queue.Batch

open Ublk.Data Ublk.Machine

/-! # `BatchIoQueue::run`

The coroutines of a queue run on one thread and give up control only at
`co_await`, so one step is what a coroutine does between two suspensions. A
notified waiter is runnable and resumes at some later step; a command of the
queue stays in flight until the driver answers it. The state is that of `run()`
after `PREP` succeeded and the tasks were spawned. `history` records what
happened, for the statements only: no step reads it.
-/

/-- Where `worker_` is suspended. `scheduled` is the loop head, reached through
the scheduler; `notified` resumes behind the wait. -/
inductive WorkerPc where
  | scheduled
  | waiting
  | notified
  | registering
  | handling (ioBuf : Bool)
  | unregistering (res : BitVec 32) (zoneLba : BitVec 64)
  | ended (err : Option QueueError)
deriving DecidableEq, Repr

structure Worker where
  flag : Bool
  pc : WorkerPc
deriving DecidableEq, Repr

/-- `Futex::notify_one` resumes the suspended waiter, if there is one. -/
def Worker.notify (worker : Worker) : Worker :=
  match worker.pc with
  | .waiting => { worker with pc := .notified }
  | _ => worker

/-- The driver's answer to `COMMIT_IO_CMDS`: how many leading elements it
accepted, reported in bytes, or an error after accepting none. -/
inductive CommitAnswer where
  | accepted (count : Nat)
  | error (code : Int)
deriving DecidableEq, Repr

/-- Where `flusher_` is suspended; `scheduled` again leads to the loop head. -/
inductive FlusherPc where
  | scheduled
  | waiting
  | committing (index nr : Nat)
  | committed (nr : Nat) (answer : CommitAnswer)
  | ended (err : Option QueueError)
deriving DecidableEq, Repr

/-- How the multishot fetch sender completed. -/
inductive FetchEnd where
  | value (res : Int)
  | error (code : Int)
  | stopped
deriving DecidableEq, Repr

inductive RunResult where
  | done
  | error (err : QueueError)
  | stopped
deriving DecidableEq, Repr

inductive Event where
  | wrote (delivery : Delivery)
  | read (delivery : Delivery)
  | tag (tag : Nat) (event : TagEvent)
deriving DecidableEq, Repr

/-- The locals of `run()`, the buffers, and what the driver holds. -/
structure State where
  memory : Memory
  index : Nat
  pending : Nat
  flusher : FlusherPc
  workers : Nat → Worker
  workerStopped : Bool
  runningWorkers : Nat
  fetchRing : FetchRing
  fetch : Option FetchEnd
  iod : Nat → IoDesc
  held : Nat → Bool
  result : Option RunResult
  history : List Event

def FlusherPc.notify : FlusherPc → FlusherPc
  | .waiting => .scheduled
  | pc => pc

namespace State

def setWorker (state : State) (tag : Nat) (worker : Worker) : State :=
  { state with workers := Function.update state.workers tag worker }

def record (state : State) (event : Event) : State :=
  { state with history := state.history ++ [event] }

end State

variable (config : Config)

/-- A worker task is over, by return or by an exception: the completion adaptors
of `run()` keep the error and count the worker out. -/
def endWorker (tag : Nat) (err : Option QueueError) (state : State) : State :=
  { state.setWorker tag { state.workers tag with pc := .ended err } with
    runningWorkers := state.runningWorkers - 1
    flusher := if state.runningWorkers - 1 = 0 then state.flusher.notify else state.flusher }

/-- Behind the stop check: the flag is taken down and the request is handed to
the handler, after its buffer was registered where that is needed. -/
def beginRequest (tag : Nat) (state : State) : State :=
  let iod := state.iod tag
  let state := state.record (.tag tag (.delivered iod))
  let ioBuf := needIoBuf config.flags iod.opFlags
  if ioBuf then
    (state.setWorker tag { flag := false, pc := .registering }).record
      (.tag tag (.registerIoBuf (ioBufCmd config.qId tag tag)))
  else state.setWorker tag { flag := false, pc := .handling false }

def afterWait (tag : Nat) (state : State) : State :=
  if state.workerStopped then endWorker tag none state else beginRequest config tag state

def loopHead (tag : Nat) (state : State) : State :=
  if !state.workerStopped && !(state.workers tag).flag then
    state.setWorker tag { state.workers tag with pc := .waiting }
  else afterWait config tag state

/-- The end of the loop body: the result goes into the next free slot, and the
worker of slot 0 wakes the flusher. The worker is back at the loop head. -/
def publish (tag : Nat) (res : BitVec 32) (zoneLba : BitVec 64) (state : State) : State :=
  let curIndex := state.index
  let slot := state.pending
  { state.setWorker tag { state.workers tag with pc := .scheduled } with
    memory := writeSlot config state.memory curIndex slot tag (state.iod tag) res zoneLba
    pending := (slot + 1) % 2 ^ 16
    flusher := if slot = 0 then state.flusher.notify else state.flusher }

def finishRequest (tag : Nat) (res : BitVec 32) (zoneLba : BitVec 64) (state : State) : State :=
  loopHead config tag (publish config tag res zoneLba state)

def flushLoopHead (state : State) : State :=
  let nr := state.pending
  if nr > 0 then
    let curIndex := state.index
    { state with index := 1 - state.index, pending := 0, flusher := .committing curIndex nr }
  else if state.runningWorkers = 0 then { state with flusher := .ended none }
  else { state with flusher := .waiting }

/-- The check of the byte count behind `commit_io_cmds`. -/
def flushAfterCommit (nr : Nat) (answer : CommitAnswer) (state : State) : State :=
  match answer with
  | .error code => { state with flusher := .ended (some (.system code "")) }
  | .accepted count =>
      if count * config.commitElementSize ≠ nr * config.commitElementSize then
        { state with flusher := .ended (some (.runtime "commit_io_cmds returned unexpected byte count")) }
      else { state with flusher := .scheduled }

/-- The loop of `fetch_cb` over the tags it reads. -/
def flagWorker (workers : Nat → Worker) (tag : Nat) : Nat → Worker :=
  Function.update workers tag ({ workers tag with flag := true } : Worker).notify

/-- The slots the driver accepted, in the order of the buffer. -/
def acceptedElems (memory : Memory) (index count : Nat) : List Elem :=
  (List.range count).map (elemAt config memory index)

def commitEvent (state : State) (elem : Elem) : Event :=
  .tag elem.tag (.commit (elem.commitView config.flags config.getBatchFlags (state.iod elem.tag)))

/-- `run()` behind the join: the first worker error by tag, then the flusher's,
then the way the fetch ended. A stopped fetch completes `when_all` as stopped. -/
def verdict (state : State) (fetchEnd : FetchEnd) : RunResult :=
  let workerErr := (List.range config.queueDepth).findSome? fun tag =>
    match (state.workers tag).pc with
    | .ended err => err
    | _ => none
  let flusherErr := match state.flusher with
    | .ended err => err
    | _ => none
  let byFetch (res : Int) : RunResult :=
    match workerErr, flusherErr with
    | some err, _ => .error err
    | none, some err => .error err
    | none, none =>
        if res ≠ ublkIoResAbort then .error (.system (-res) "fetch_io_cmds") else .done
  match fetchEnd with
  | .value res => byFetch res
  | .error code => byFetch (-code)
  | .stopped => .stopped

def Worker.isEnded (worker : Worker) : Bool :=
  match worker.pc with
  | .ended _ => true
  | _ => false

def FlusherPc.isEnded : FlusherPc → Bool
  | .ended _ => true
  | _ => false

inductive Action where
  | deliver (requests : List (Nat × IoDesc))
  | fetchCb
  | workerRun (tag : Nat)
  | registered (tag : Nat) (answer : Answer)
  | handled (tag : Nat) (outcome : IoOutcome)
  | unregistered (tag : Nat) (answer : Answer)
  | flusherRun
  | commitAnswer (answer : CommitAnswer)
  | fetchEnd (fetchEnd : FetchEnd)
  | runReturn
deriving DecidableEq, Repr

/-- The driver writes the descriptors of some requests and their tags. -/
def deliver (requests : List (Nat × IoDesc)) (state : State) : Option State :=
  if state.fetch = none ∧ ∀ request ∈ requests, request.1 < config.queueDepth then
    match state.fetchRing.deliver config.fetchBufTags (requests.map Prod.fst) with
    | none => none
    | some (written, fetchRing) =>
        some { state with
          fetchRing
          iod := fun tag => (requests.lookup tag).getD (state.iod tag)
          held := fun tag => state.held tag && !(requests.map Prod.fst).contains tag
          history := state.history ++ [.wrote written] }
  else none

def fetchCb (state : State) : Option State :=
  match state.fetchRing.fetchCb with
  | none => none
  | some (read, fetchRing) =>
      some { state with
        fetchRing
        workers := read.tags.foldl flagWorker state.workers
        history := state.history ++ [.read read] }

def workerRun (tag : Nat) (state : State) : Option State :=
  match (state.workers tag).pc with
  | .scheduled => some (loopHead config tag state)
  | .notified => some (afterWait config tag state)
  | _ => none

def registered (tag : Nat) (answer : Answer) (state : State) : Option State :=
  match (state.workers tag).pc, answer with
  | .registering, .ok => some (state.setWorker tag { state.workers tag with pc := .handling true })
  | .registering, .error code => some (endWorker tag (some (.system code "")) state)
  | _, _ => none

def handled (tag : Nat) (outcome : IoOutcome) (state : State) : Option State :=
  match (state.workers tag).pc with
  | .handling ioBuf =>
      let ioData : IoData := { qId := config.qId, tag, iod := state.iod tag, buf := config.getBuf tag }
      let (res, zoneLba) := wrapHandleIo outcome
      let state := state.record (.tag tag (.handleIo ioData outcome))
      if ioBuf then
        some ((state.setWorker tag { state.workers tag with pc := .unregistering res zoneLba }).record
          (.tag tag (.unregisterIoBuf (ioBufCmd config.qId tag tag))))
      else some (finishRequest config tag res zoneLba state)
  | _ => none

def unregistered (tag : Nat) (answer : Answer) (state : State) : Option State :=
  match (state.workers tag).pc, answer with
  | .unregistering res zoneLba, .ok => some (finishRequest config tag res zoneLba state)
  | .unregistering _ _, .error code => some (endWorker tag (some (.system code "")) state)
  | _, _ => none

def flusherRun (state : State) : Option State :=
  match state.flusher with
  | .scheduled => some (flushLoopHead state)
  | .committed nr answer => some (flushAfterCommit config nr answer state)
  | _ => none

/-- The driver reads the elements it accepts from the buffer and owns their tags
again; whatever it does not accept stays undone. -/
def commitAnswer (answer : CommitAnswer) (state : State) : Option State :=
  match state.flusher with
  | .committing index nr =>
      match answer with
      | .accepted count =>
          if count ≤ nr then
            let elems := acceptedElems config state.memory index count
            some { state with
              flusher := .committed nr (.accepted count)
              held := fun tag => state.held tag || (elems.map Elem.tag).contains tag
              history := state.history ++ elems.map (commitEvent config state) }
          else none
      | .error code => some { state with flusher := .committed nr (.error code) }
  | _ => none

/-- The last completion of the multishot fetch comes behind all others. Value and
error pass through the adaptors that stop the workers; stopped passes them by. -/
def fetchEnd (fetchEnd : FetchEnd) (state : State) : Option State :=
  if state.fetch = none ∧ state.fetchRing.completions = [] then
    let state := { state with fetch := some fetchEnd }
    match fetchEnd with
    | .stopped => some state
    | _ =>
        some { state with
          workerStopped := true
          workers := fun tag =>
            if tag < config.queueDepth then (state.workers tag).notify else state.workers tag }
  else none

def runReturn (state : State) : Option State :=
  match state.fetch, state.result with
  | some fetchEnd, none =>
      if (∀ tag < config.queueDepth, (state.workers tag).isEnded = true) ∧ state.flusher.isEnded = true then
        some { state with result := some (verdict config state fetchEnd) }
      else none
  | _, _ => none

/-- Tags name workers of the queue; the driver and the code use no others. -/
def step (state : State) : Action → Option State
  | .deliver requests => deliver config requests state
  | .fetchCb => fetchCb state
  | .workerRun tag => if tag < config.queueDepth then workerRun config tag state else none
  | .registered tag answer => if tag < config.queueDepth then registered tag answer state else none
  | .handled tag outcome =>
      if tag < config.queueDepth then handled config tag outcome state else none
  | .unregistered tag answer =>
      if tag < config.queueDepth then unregistered config tag answer state else none
  | .flusherRun => flusherRun config state
  | .commitAnswer answer => commitAnswer config answer state
  | .fetchEnd ended => fetchEnd config ended state
  | .runReturn => runReturn config state

/-- The loop before `PREP` has filled `commit_buf_[0]`, the driver owns every
tag, and all tasks wait for the scheduler. -/
def initial : State where
  memory := (List.range config.queueDepth).foldl (fun memory tag => setResult config memory 0 tag tag 0) fun _ => 0
  index := 0
  pending := 0
  flusher := .scheduled
  workers := fun _ => { flag := false, pc := .scheduled }
  workerStopped := false
  runningWorkers := config.queueDepth
  fetchRing := .initial
  fetch := none
  iod := fun _ => default
  held := fun tag => decide (tag < config.queueDepth)
  result := none
  history := []

def batchIoQueue : System State Action where
  initial := initial config
  step := step config

/-! ## What a step can do -/

/-- What a worker does from the head of its loop, or from behind the wait, to its
next suspension. -/
inductive Turn (tag : Nat) (state : State) : State → Prop where
  | sleep (running : state.workerStopped = false) (down : (state.workers tag).flag = false) :
      Turn tag state (state.setWorker tag { state.workers tag with pc := .waiting })
  | leave (stopped : state.workerStopped = true) : Turn tag state (endWorker tag none state)
  | serve (running : state.workerStopped = false)
      (woken : (state.workers tag).pc = .notified ∨ (state.workers tag).flag = true) :
      Turn tag state (beginRequest config tag state)

/-- The steps with their guards, one constructor for each way a step goes. -/
inductive Move (state : State) : Action → State → Prop where
  | deliver {requests : List (Nat × IoDesc)} {written : Delivery} {fetchRing : FetchRing}
      (active : state.fetch = none)
      (inside : ∀ request ∈ requests, request.1 < config.queueDepth)
      (delivered : state.fetchRing.deliver config.fetchBufTags (requests.map Prod.fst) =
        some (written, fetchRing)) :
      Move state (.deliver requests)
        { state with
          fetchRing
          iod := fun tag => (requests.lookup tag).getD (state.iod tag)
          held := fun tag => state.held tag && !(requests.map Prod.fst).contains tag
          history := state.history ++ [.wrote written] }
  | fetchCb {read : Delivery} {fetchRing : FetchRing}
      (called : state.fetchRing.fetchCb = some (read, fetchRing)) :
      Move state .fetchCb
        { state with
          fetchRing
          workers := read.tags.foldl flagWorker state.workers
          history := state.history ++ [.read read] }
  | turn {tag : Nat} {after : State} (inside : tag < config.queueDepth)
      (pc : (state.workers tag).pc = .scheduled ∨ (state.workers tag).pc = .notified)
      (turn : Turn config tag state after) :
      Move state (.workerRun tag) after
  | registered {tag : Nat} (inside : tag < config.queueDepth)
      (pc : (state.workers tag).pc = .registering) :
      Move state (.registered tag .ok) (state.setWorker tag { state.workers tag with pc := .handling true })
  | registerFailed {tag : Nat} {code : Int} (inside : tag < config.queueDepth)
      (pc : (state.workers tag).pc = .registering) :
      Move state (.registered tag (.error code)) (endWorker tag (some (.system code "")) state)
  | handled {tag : Nat} {outcome : IoOutcome} {after : State} (inside : tag < config.queueDepth)
      (pc : (state.workers tag).pc = .handling false)
      (turn : Turn config tag
        (publish config tag (wrapHandleIo outcome).1 (wrapHandleIo outcome).2
          (state.record (.tag tag (.handleIo ⟨config.qId, tag, state.iod tag, config.getBuf tag⟩ outcome))))
        after) :
      Move state (.handled tag outcome) after
  | handledRegistered {tag : Nat} {outcome : IoOutcome} (inside : tag < config.queueDepth)
      (pc : (state.workers tag).pc = .handling true) :
      Move state (.handled tag outcome)
        (((state.record (.tag tag (.handleIo ⟨config.qId, tag, state.iod tag, config.getBuf tag⟩ outcome))).setWorker
          tag { state.workers tag with
            pc := .unregistering (wrapHandleIo outcome).1 (wrapHandleIo outcome).2 }).record
          (.tag tag (.unregisterIoBuf (ioBufCmd config.qId tag tag))))
  | unregistered {tag : Nat} {res : BitVec 32} {zoneLba : BitVec 64} {after : State}
      (inside : tag < config.queueDepth) (pc : (state.workers tag).pc = .unregistering res zoneLba)
      (turn : Turn config tag (publish config tag res zoneLba state) after) :
      Move state (.unregistered tag .ok) after
  | unregisterFailed {tag : Nat} {code : Int} {res : BitVec 32} {zoneLba : BitVec 64}
      (inside : tag < config.queueDepth)
      (pc : (state.workers tag).pc = .unregistering res zoneLba) :
      Move state (.unregistered tag (.error code)) (endWorker tag (some (.system code "")) state)
  | submit (pc : state.flusher = .scheduled) (filled : 0 < state.pending) :
      Move state .flusherRun
        { state with index := 1 - state.index, pending := 0, flusher := .committing state.index state.pending }
  | flusherLeaves (pc : state.flusher = .scheduled) (empty : state.pending = 0)
      (idle : state.runningWorkers = 0) :
      Move state .flusherRun { state with flusher := .ended none }
  | flusherSleeps (pc : state.flusher = .scheduled) (empty : state.pending = 0)
      (busy : state.runningWorkers ≠ 0) :
      Move state .flusherRun { state with flusher := .waiting }
  | flushed {nr : Nat} (pc : state.flusher = .committed nr (.accepted nr)) :
      Move state .flusherRun { state with flusher := .scheduled }
  | flushFailed {nr : Nat} {answer : CommitAnswer} {err : QueueError}
      (pc : state.flusher = .committed nr answer) (short : answer ≠ .accepted nr) :
      Move state .flusherRun { state with flusher := .ended (some err) }
  | accepted {index nr count : Nat} (pc : state.flusher = .committing index nr)
      (partly : count ≤ nr) :
      Move state (.commitAnswer (.accepted count))
        { state with
          flusher := .committed nr (.accepted count)
          held := fun tag => state.held tag ||
            ((acceptedElems config state.memory index count).map Elem.tag).contains tag
          history := state.history ++
            (acceptedElems config state.memory index count).map (commitEvent config state) }
  | refused {index nr : Nat} {code : Int} (pc : state.flusher = .committing index nr) :
      Move state (.commitAnswer (.error code)) { state with flusher := .committed nr (.error code) }
  | fetchEnded {ended : FetchEnd} (active : state.fetch = none)
      (seen : state.fetchRing.completions = [])
      (delivered : ended ≠ .stopped) :
      Move state (.fetchEnd ended)
        { state with
          fetch := some ended
          workerStopped := true
          workers := fun tag =>
            if tag < config.queueDepth then (state.workers tag).notify else state.workers tag }
  | fetchStopped (active : state.fetch = none) (seen : state.fetchRing.completions = []) :
      Move state (.fetchEnd .stopped) { state with fetch := some .stopped }
  | returned {ended : FetchEnd} (finished : state.fetch = some ended)
      (running : state.result = none)
      (workers : ∀ tag < config.queueDepth, (state.workers tag).isEnded = true)
      (flusher : state.flusher.isEnded = true) :
      Move state .runReturn { state with result := some (verdict config state ended) }

variable {config}

theorem afterWait_turn {state : State} {tag : Nat}
    (woken : state.workerStopped = false →
      (state.workers tag).pc = .notified ∨ (state.workers tag).flag = true) :
    Turn config tag state (afterWait config tag state) := by
  rw [afterWait]
  split
  · rename_i stopped
    exact .leave stopped
  · rename_i running
    exact .serve (by simpa using running) (woken (by simpa using running))

theorem loopHead_turn (state : State) (tag : Nat) :
    Turn config tag state (loopHead config tag state) := by
  rw [loopHead]
  split
  · rename_i sleeps
    simp only [Bool.and_eq_true, Bool.not_eq_true'] at sleeps
    exact .sleep sleeps.1 sleeps.2
  · rename_i passes
    refine afterWait_turn fun running => .inr ?_
    simpa [running] using passes

theorem workerRun_move {state after : State} {tag : Nat} (inside : tag < config.queueDepth)
    (taken : workerRun config tag state = some after) :
    Move config state (.workerRun tag) after := by
  rw [workerRun] at taken
  split at taken
  · rename_i pc
    cases taken
    exact .turn inside (.inl pc) (loopHead_turn _ _)
  · rename_i pc
    cases taken
    exact .turn inside (.inr pc) (afterWait_turn fun _ => .inl pc)
  · contradiction

theorem registered_move {state after : State} {tag : Nat} {answer : Answer}
    (inside : tag < config.queueDepth)
    (taken : registered tag answer state = some after) :
    Move config state (.registered tag answer) after := by
  simp only [registered] at taken
  split at taken
  · rename_i pc
    cases taken
    exact .registered inside pc
  · rename_i pc
    cases taken
    exact .registerFailed inside pc
  · contradiction

theorem handled_move {state after : State} {tag : Nat} {outcome : IoOutcome}
    (inside : tag < config.queueDepth)
    (taken : handled config tag outcome state = some after) :
    Move config state (.handled tag outcome) after := by
  simp only [handled] at taken
  split at taken
  · rename_i ioBuf pc
    cases ioBuf with
    | false => cases taken; exact .handled inside pc (loopHead_turn _ _)
    | true => cases taken; exact .handledRegistered inside pc
  · contradiction

theorem unregistered_move {state after : State} {tag : Nat} {answer : Answer}
    (inside : tag < config.queueDepth)
    (taken : unregistered config tag answer state = some after) :
    Move config state (.unregistered tag answer) after := by
  simp only [unregistered] at taken
  split at taken
  · rename_i pc
    cases taken
    exact .unregistered inside pc (loopHead_turn _ _)
  · rename_i pc
    cases taken
    exact .unregisterFailed inside pc
  · contradiction

theorem flushLoopHead_move {state : State} (pc : state.flusher = .scheduled) :
    Move config state .flusherRun (flushLoopHead state) := by
  simp only [flushLoopHead]
  split
  · rename_i filled
    exact .submit pc filled
  · rename_i empty
    split
    · rename_i idle
      exact .flusherLeaves pc (by omega) idle
    · rename_i busy
      exact .flusherSleeps pc (by omega) busy

/-- The byte counts agree exactly when the element counts do. -/
theorem flushAfterCommit_move {state : State} {nr : Nat} {answer : CommitAnswer}
    (pc : state.flusher = .committed nr answer) :
    Move config state .flusherRun (flushAfterCommit config nr answer state) := by
  have size := config.commitElementSize_lower
  simp only [flushAfterCommit]
  split
  · exact .flushFailed pc (by simp)
  · rename_i count
    split
    · rename_i short
      refine .flushFailed pc fun full => short ?_
      cases full
      rfl
    · rename_i full
      have same : count = nr := Nat.eq_of_mul_eq_mul_right (by omega) (not_not.mp full)
      exact .flushed (same ▸ pc)

theorem flusherRun_move {state after : State} (taken : flusherRun config state = some after) :
    Move config state .flusherRun after := by
  rw [flusherRun] at taken
  split at taken
  · rename_i pc
    cases taken
    exact flushLoopHead_move pc
  · rename_i pc
    cases taken
    exact flushAfterCommit_move pc
  · contradiction

theorem commitAnswer_move {state after : State} {answer : CommitAnswer}
    (taken : commitAnswer config answer state = some after) :
    Move config state (.commitAnswer answer) after := by
  rw [commitAnswer] at taken
  split at taken
  · rename_i index nr pc
    cases answer with
    | error code => cases taken; exact .refused pc
    | accepted count =>
        simp only at taken
        split at taken
        · rename_i partly
          cases taken
          exact .accepted pc partly
        · contradiction
  · contradiction

theorem fetchEnd_move {state after : State} {ended : FetchEnd}
    (taken : fetchEnd config ended state = some after) :
    Move config state (.fetchEnd ended) after := by
  rw [fetchEnd] at taken
  split at taken
  · rename_i guard
    cases ended with
    | stopped => cases taken; exact .fetchStopped guard.1 guard.2
    | value res => cases taken; exact .fetchEnded guard.1 guard.2 (by simp)
    | error code => cases taken; exact .fetchEnded guard.1 guard.2 (by simp)
  · contradiction

theorem runReturn_move {state after : State} (taken : runReturn config state = some after) :
    Move config state .runReturn after := by
  rw [runReturn] at taken
  split at taken
  · rename_i finished running
    split at taken
    · rename_i guard
      cases taken
      exact .returned finished running guard.1 guard.2
    · contradiction
  · contradiction

theorem step_move {state after : State} {action : Action}
    (taken : step config state action = some after) :
    Move config state action after := by
  cases action with
  | deliver requests =>
      simp only [step, deliver] at taken
      split at taken
      · rename_i guard
        split at taken
        · contradiction
        · rename_i written fetchRing delivered
          cases taken
          exact .deliver guard.1 guard.2 delivered
      · contradiction
  | fetchCb =>
      simp only [step, fetchCb] at taken
      split at taken
      · contradiction
      · rename_i read fetchRing called
        cases taken
        exact .fetchCb called
  | workerRun tag =>
      simp only [step, Option.ite_none_right_eq_some] at taken
      exact workerRun_move taken.1 taken.2
  | registered tag answer =>
      simp only [step, Option.ite_none_right_eq_some] at taken
      exact registered_move taken.1 taken.2
  | handled tag outcome =>
      simp only [step, Option.ite_none_right_eq_some] at taken
      exact handled_move taken.1 taken.2
  | unregistered tag answer =>
      simp only [step, Option.ite_none_right_eq_some] at taken
      exact unregistered_move taken.1 taken.2
  | flusherRun => exact flusherRun_move taken
  | commitAnswer answer => exact commitAnswer_move taken
  | fetchEnd ended => exact fetchEnd_move taken
  | runReturn => exact runReturn_move taken

/-- What a turn of the worker of `tag` leaves alone. -/
structure WorkerFrame (tag : Nat) (before after : State) : Prop where
  memory : after.memory = before.memory
  index : after.index = before.index
  pending : after.pending = before.pending
  flusher : after.flusher = before.flusher ∨ after.flusher = before.flusher.notify
  others : ∀ other, other ≠ tag → after.workers other = before.workers other
  workerStopped : after.workerStopped = before.workerStopped
  fetchRing : after.fetchRing = before.fetchRing
  fetch : after.fetch = before.fetch
  iod : after.iod = before.iod
  held : after.held = before.held
  result : after.result = before.result

theorem setWorker_frame (state : State) (tag : Nat) (worker : Worker) :
    WorkerFrame tag state (state.setWorker tag worker) :=
  ⟨rfl, rfl, rfl, .inl rfl, fun _ different => Function.update_of_ne different _ _, rfl, rfl, rfl, rfl, rfl, rfl⟩

/-- The frame says nothing about the history. -/
theorem WorkerFrame.record {before after : State} {tag : Nat} {first : Event}
    (frame : WorkerFrame tag (before.record first) after) (last : Event) :
    WorkerFrame tag before (after.record last) :=
  ⟨frame.memory, frame.index, frame.pending, frame.flusher, frame.others, frame.workerStopped, frame.fetchRing,
    frame.fetch, frame.iod, frame.held, frame.result⟩

theorem endWorker_frame (state : State) (tag : Nat) (err : Option QueueError) :
    WorkerFrame tag state (endWorker tag err state) where
  memory := rfl
  index := rfl
  pending := rfl
  flusher := by
    simp only [endWorker]
    split
    · exact .inr rfl
    · exact .inl rfl
  others := fun _ different => Function.update_of_ne different _ _
  workerStopped := rfl
  fetchRing := rfl
  fetch := rfl
  iod := rfl
  held := rfl
  result := rfl

theorem beginRequest_frame (state : State) (tag : Nat) :
    WorkerFrame tag state (beginRequest config tag state) := by
  simp only [beginRequest]
  split
  · exact ⟨rfl, rfl, rfl, .inl rfl, fun _ different => Function.update_of_ne different _ _,
      rfl, rfl, rfl, rfl, rfl, rfl⟩
  · exact ⟨rfl, rfl, rfl, .inl rfl, fun _ different => Function.update_of_ne different _ _,
      rfl, rfl, rfl, rfl, rfl, rfl⟩

theorem Turn.frame {state after : State} {tag : Nat} (turn : Turn config tag state after) :
    WorkerFrame tag state after := by
  cases turn with
  | sleep => exact setWorker_frame state tag _
  | leave => exact endWorker_frame state tag none
  | serve => exact beginRequest_frame state tag

end Ublk.Queue.Batch
