import Ublk.Data.Count
import Ublk.Machine.Progress
import Ublk.Queue.Bracket
import Ublk.Queue.Steps

namespace Ublk.Queue.Plain

open Ublk.Data Ublk.Machine

variable {config : Config} {tag : Nat} {state after : State}

/-! # The end of `IoQueue::run`

The plain queue has no stop flag of its own: a worker leaves when a fetching command
comes back negative, which is what the driver answers once the device is stopped. From
then on each worker has at most one turn of its loop to finish, and it commits the
request it holds before it can see the answer that makes it leave.
-/

/-- The steps that a worker has left when every fetching command fails. -/
def Pc.effort : Pc → Nat
  | .start => 2
  | .fetching _ => 1
  | .gettingData _ => 1
  | .serving _ => 6
  | .registering => 5
  | .handling _ => 4
  | .handled _ _ _ => 3
  | .unregistering _ _ => 2
  | .ended _ => 0

/-- The driver has no more requests for the queue. -/
def failsFetches : WorkersAction → Bool
  | .worker _ (.answered reply _) => decide (reply.result < 0)
  | _ => true

/-- The requests a worker has been given, and those it has issued a commit for. -/
def Event.request : Event → Option IoDesc
  | .delivered iod => some iod
  | _ => none

def Event.committed : Event → Option IoDesc
  | .commitAndFetchReq iod _ => some iod
  | _ => none

def State.requests (state : State) : List IoDesc := state.history.filterMap Event.request

def State.commits (state : State) : List IoDesc := state.history.filterMap Event.committed

theorem requests_record (state : State) (event : Event) (pc : Pc) :
    ({ state.record event with pc } : State).requests = state.requests ++ event.request.toList := by
  rw [State.requests, State.record, List.filterMap_append, State.requests]
  cases event <;> rfl

theorem commits_record (state : State) (event : Event) (pc : Pc) :
    ({ state.record event with pc } : State).commits = state.commits ++ event.committed.toList := by
  rw [State.commits, State.record, List.filterMap_append, State.commits]
  cases event <;> rfl

/-- Whether a request has been delivered and not been committed yet. -/
def Pc.holding : Pc → Bool
  | .serving _ | .registering | .handling _ | .handled _ _ _ | .unregistering _ _ => true
  | _ => false

def Pc.failed : Pc → Bool
  | .ended (some _) => true
  | _ => false

/-- A worker commits its requests in the order they come in, each before the next one.
Only a worker that fails may leave one open. -/
def InOrder (state : State) : Prop :=
  state.pc.failed = false →
    state.requests = state.commits ++ if state.pc.holding then [state.iod] else []

theorem InOrder.closed (inOrder : InOrder state) (fine : state.pc.failed = false)
    (idle : state.pc.holding = false) : state.requests = state.commits := by
  simpa [idle] using inOrder fine

theorem InOrder.open (inOrder : InOrder state) (fine : state.pc.failed = false)
    (holding : state.pc.holding = true) : state.requests = state.commits ++ [state.iod] := by
  simpa [holding] using inOrder fine

theorem InOrder.of_closed {pc : Pc} (closed : state.requests = state.commits)
    (idle : pc.holding = false) : InOrder { state with pc } := by
  intro _
  rw [idle, if_neg Bool.false_ne_true, List.append_nil]
  exact closed

theorem Pc.idle_of_fetches {pc : Pc} (fetches : pc.fetches = true) : pc.failed = false ∧ pc.holding = false := by
  cases pc with
  | fetching command => exact ⟨rfl, rfl⟩
  | gettingData command => exact ⟨rfl, rfl⟩
  | _ => cases fetches

theorem delivered_inOrder {pc : Pc} {iod : IoDesc} (closed : state.requests = state.commits)
    (holding : pc.holding = true) : InOrder ⟨pc, iod, state.history ++ [.delivered iod]⟩ := by
  intro _
  have given := requests_record { state with iod } (.delivered iod) pc
  have committed := commits_record { state with iod } (.delivered iod) pc
  simp only [State.record] at given committed
  rw [given, committed, holding, if_pos rfl]
  simp only [Event.request, Event.committed, Option.toList_some, Option.toList_none, List.append_nil]
  exact congrArg (· ++ [iod]) closed

theorem commitAndFetch_inOrder {res : BitVec 32} {zoneLba : BitVec 64}
    (held : state.requests = state.commits ++ [state.iod]) :
    InOrder (commitAndFetch config tag res zoneLba state) := by
  intro _
  rw [commitAndFetch, requests_record, commits_record, held]
  simp [Event.request, Event.committed, Pc.holding]

/-- The other steps keep the request where it is. -/
theorem InOrder.keep {pc : Pc} (inOrder : InOrder state) (fine : state.pc.failed = false)
    (same : pc.holding = state.pc.holding) : InOrder { state with pc } := by
  intro _
  rw [same]
  exact inOrder fine

theorem InOrder.record {pc : Pc} {event : Event} (inOrder : InOrder state)
    (fine : state.pc.failed = false) (same : pc.holding = state.pc.holding)
    (neither : event.request = none ∧ event.committed = none) :
    InOrder { state.record event with pc } := by
  intro _
  rw [requests_record, commits_record, neither.1, neither.2, Option.toList_none, List.append_nil,
    List.append_nil, same]
  exact inOrder fine

theorem Move.inOrder {action : Action} (moved : Move config tag state action after) (inOrder : InOrder state) :
    InOrder after := by
  cases moved with
  | fetch pc | register pc | unregister pc | handled pc =>
      exact inOrder.record (by simp [pc, Pc.failed]) (by simp [pc, Pc.holding]) ⟨rfl, rfl⟩
  | needGetData pc asks =>
      have closed := inOrder.closed (by simp [pc, Pc.failed]) (by simp [pc, Pc.holding])
      intro _
      rw [Plain.needGetData, requests_record, commits_record]
      simp only [Event.request, Event.committed, Option.toList_none, List.append_nil, Pc.holding,
        Bool.false_eq_true, ↓reduceIte]
      exact closed
  | refused pc negative =>
      obtain ⟨fine, idle⟩ := Pc.idle_of_fetches pc
      exact .of_closed (inOrder.closed fine idle) rfl
  | delivered pc delivers =>
      obtain ⟨fine, idle⟩ := Pc.idle_of_fetches pc
      exact delivered_inOrder (inOrder.closed fine idle) rfl
  | begin pc | registered pc => exact inOrder.keep (by simp [pc, Pc.failed]) (by simp [pc, Pc.holding])
  | commit pc goesOn =>
      rcases pc with pc | pc
      · exact commitAndFetch_inOrder (inOrder.open (by simp [pc, Pc.failed]) (by simp [pc, Pc.holding]))
      · exact commitAndFetch_inOrder (inOrder.open (by simp [pc, Pc.failed]) (by simp [pc, Pc.holding]))
  | failed pc fails =>
      intro fine
      cases fine

theorem Pc.effort_of_fetches {pc : Pc} (fetches : pc.fetches = true) : pc.effort = 1 := by
  cases pc with
  | fetching command => rfl
  | gettingData command => rfl
  | _ => cases fetches

/-- Where fetching commands fail, every step of a worker brings it closer to its end. -/
theorem Move.effort {action : Action} (moved : Move config tag state action after)
    (fails : failsFetches (.worker tag action) = true) : after.pc.effort < state.pc.effort := by
  cases moved with
  | fetch pc =>
      simp only [Plain.fetch, pc, Pc.effort]
      decide
  | register pc | begin pc | registered pc | handled pc | unregister pc =>
      simp only [pc, Pc.effort]
      decide
  | @needGetData command reply iod pc asks =>
      simp only [failsFetches, decide_eq_true_eq] at fails
      rw [asks] at fails
      exact absurd fails (by decide)
  | refused pc negative =>
      rw [Pc.effort_of_fetches pc]
      exact Nat.zero_lt_one
  | @delivered reply iod pc delivers =>
      simp only [failsFetches, decide_eq_true_eq] at fails
      exact absurd fails (Int.not_lt.mpr delivers)
  | commit pc goesOn =>
      rcases pc with pc | pc
      · simp only [commitAndFetch, pc, Pc.effort]
        decide
      · simp only [commitAndFetch, pc, Pc.effort]
        decide
  | failed pc goesOn =>
      rcases pc with pc | ⟨res, zoneLba, pc⟩
      · simp only [pc, Pc.effort]
        decide
      · simp only [pc, Pc.effort]
        decide

/-- Each worker waits only for the driver and the handler, so one that has not ended
can go on. -/
theorem exists_step (config : Config) (tag : Nat) (running : state.isEnded = false) :
    ∃ action, failsFetches (.worker tag action) = true ∧
      (step config tag state action).isSome = true := by
  cases pc : state.pc with
  | start => exact ⟨.run, rfl, by simp [step, run, pc]⟩
  | fetching command =>
      exact ⟨.answered (.value (-1)) state.iod, rfl, by
        simp [step, answered, pc, Reply.result, ublkIoResNeedGetData]⟩
  | gettingData command =>
      exact ⟨.answered (.value (-1)) state.iod, rfl, by simp [step, answered, pc]⟩
  | serving ioBuf =>
      refine ⟨.run, rfl, ?_⟩
      cases ioBuf <;> simp [step, run, pc]
  | registering => exact ⟨.registered .ok, rfl, by simp [step, registered, pc]⟩
  | handling ioBuf => exact ⟨.handled (.value (.int32 0)), rfl, by simp [step, handled, pc]⟩
  | handled ioBuf res zoneLba =>
      refine ⟨.run, rfl, ?_⟩
      cases ioBuf <;> simp [step, run, pc]
  | unregistering res zoneLba => exact ⟨.unregistered .ok, rfl, by simp [step, unregistered, pc]⟩
  | ended err => simp [State.isEnded, pc] at running

/-! ## The whole queue -/

def workersEffort (config : Config) (state : Workers) : Nat :=
  ∑ tag ∈ Finset.range config.queueDepth, (state.workers tag).pc.effort +
    if state.result.isNone then 1 else 0

theorem workersStep_effort {before after : Workers} {action : WorkersAction}
    (taken : workersStep config before action = some after) (fails : failsFetches action = true) :
    workersEffort config after < workersEffort config before := by
  cases action with
  | worker tag action =>
      simp only [workersStep, Option.ite_none_right_eq_some] at taken
      obtain ⟨inside, taken⟩ := taken
      split at taken
      · contradiction
      · rename_i worker moved
        cases taken
        have less := (step_move moved).effort fails
        have replaced := sum_range_update inside (fun worker : State => worker.pc.effort) before.workers worker
        simp only [workersEffort]
        omega
  | join =>
      simp only [workersStep, Option.ite_none_right_eq_some] at taken
      obtain ⟨⟨unjoined, _⟩, taken⟩ := taken
      cases taken
      simp [workersEffort, unjoined]

/-- Every worker that has ended without an error has committed all it was given. -/
structure Answered (config : Config) (state : Workers) : Prop where
  returned : state.result ≠ none
  committed : ∀ tag < config.queueDepth, (state.workers tag).pc = .ended none →
    (state.workers tag).requests = (state.workers tag).commits

theorem workers_inOrder {permits : Workers → WorkersAction → Prop} {state : Workers}
    (reached : Reachable (ioQueue config) permits state) (tag : Nat) :
    InOrder (state.workers tag) := by
  induction reached with
  | initial =>
      intro _
      rfl
  | @next before after action _ _ taken ih =>
      cases action with
      | worker other action =>
          simp only [ioQueue, workersStep, Option.ite_none_right_eq_some] at taken
          obtain ⟨_, taken⟩ := taken
          split at taken
          · contradiction
          · rename_i worker moved
            cases taken
            by_cases same : tag = other
            · subst same
              simp only [Function.update_self]
              exact (step_move moved).inOrder ih
            · simp only [Function.update_of_ne same]
              exact ih
      | join =>
          simp only [ioQueue, workersStep, Option.ite_none_right_eq_some] at taken
          obtain ⟨_, taken⟩ := taken
          cases taken
          exact ih

theorem answered_of_final {state : Workers}
    (reached : Reachable (ioQueue config) (fun _ _ => True) state)
    (final : Final (ioQueue config) (fun _ action => failsFetches action = true) state) :
    Answered config state := by
  have ended : ∀ tag < config.queueDepth, (state.workers tag).isEnded = true := by
    intro tag inside
    cases running : (state.workers tag).isEnded with
    | true => rfl
    | false =>
        obtain ⟨action, fails, enabled⟩ := exists_step config tag running
        have stuck := final (.worker tag action) fails
        simp only [ioQueue, workersStep, inside, ↓reduceIte] at stuck
        split at stuck
        · rename_i none
          simp [none] at enabled
        · cases stuck
  constructor
  · intro unjoined
    have stuck := final .join rfl
    simp only [ioQueue, workersStep] at stuck
    rw [if_pos ⟨unjoined, ended⟩] at stuck
    cases stuck
  · intro tag inside pc
    exact (workers_inOrder reached tag).closed (by simp [pc, Pc.failed]) (by simp [pc, Pc.holding])

/-- `IoQueue::run` returns once the driver fails the fetching commands, wherever its
workers are and whatever else they are answered, and drops no request on the way: each
worker that leaves without an error has committed what it was given, in order. -/
theorem stopped_queue_returns {state : Workers}
    (reached : Reachable (ioQueue config) (fun _ _ => True) state) :
    ComesToRest (ioQueue config) (fun _ action => failsFetches action = true)
      (workersEffort config state) (Answered config) state := by
  apply comesToRest (workersEffort config) _ answered_of_final reached
  intro before after action holds fails taken
  exact ⟨holds.next trivial taken, workersStep_effort taken fails⟩

/-- The device is stopped while the first request of tag 0 and the second of tag 1 are with
their handlers. -/
theorem stopped_queue_returns_twoTags :
    ∃ state, Reachable (ioQueue Batch.twoTags) (fun _ _ => True) state ∧
      ((state.workers 0).pc = .handling false ∧ (state.workers 1).pc = .handling false ∧
        (state.workers 1).history.length = 5) ∧
      ComesToRest (ioQueue Batch.twoTags) (fun _ action => failsFetches action = true)
        (workersEffort Batch.twoTags state) (Answered Batch.twoTags) state := by
  obtain ⟨state, reached, busy⟩ :=
    exists_of_replay (ioQueue Batch.twoTags) (fun _ _ => True)
      [.worker 1 .run, .worker 0 .run, .worker 1 (.answered (.value 0) default), .worker 1 .run,
        .worker 1 (.handled (.value (.int32 0))), .worker 0 (.answered (.value 0) default), .worker 1 .run,
        .worker 1 (.answered (.value 0) default), .worker 0 .run, .worker 1 .run]
      (fun state => (state.workers 0).pc = .handling false ∧ (state.workers 1).pc = .handling false ∧
        (state.workers 1).history.length = 5) (by decide +kernel)
  exact ⟨state, reached, busy, stopped_queue_returns reached⟩

theorem workersEffort_initial (config : Config) :
    workersEffort config (ioQueue config).initial = 2 * config.queueDepth + 1 := by
  have workers : ∑ tag ∈ Finset.range config.queueDepth, initial.pc.effort = config.queueDepth * 2 := by
    rw [Finset.sum_const, Finset.card_range]
    rfl
  simp only [workersEffort, ioQueue, workers]
  simp [Nat.mul_comm]

end Ublk.Queue.Plain
