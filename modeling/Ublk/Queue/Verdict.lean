import Ublk.Data.Count
import Ublk.Queue.Bracket
import Ublk.Queue.Batch.Shutdown

namespace Ublk.Queue

open Ublk.Data Ublk.Machine

/-! # The verdict on a run

What the tasks of a queue have come to when they are joined, and which of their errors
`run()` reports: that of the first worker, of the flusher, of the fetch.
-/

/-- A family of tasks, by the error each has ended with. -/
def AllClean (depth : Nat) (ended : Nat → Option (Option QueueError)) : Prop :=
  ∀ tag < depth, ended tag = some none

/-- `err` is the error of the failing task with the smallest tag. -/
def FirstFailure (depth : Nat) (ended : Nat → Option (Option QueueError)) (err : QueueError) : Prop :=
  ∃ tag < depth, ended tag = some (some err) ∧ ∀ earlier < tag, ended earlier = some none

section

variable {depth : Nat} {ended : Nat → Option (Option QueueError)}

/-- The search for an error among tasks that all have ended. -/
theorem search_eq_none (joined : ∀ tag < depth, ended tag ≠ none) :
    (List.range depth).findSome? (fun tag => (ended tag).join) = none ↔ AllClean depth ended := by
  rw [List.findSome?_eq_none_iff]
  simp only [List.mem_range]
  apply forall₂_congr
  intro tag inside
  cases here : ended tag with
  | none => exact absurd here (joined tag inside)
  | some err => simp

theorem search_eq_some (joined : ∀ tag < depth, ended tag ≠ none) {err : QueueError} :
    (List.range depth).findSome? (fun tag => (ended tag).join) = some err ↔ FirstFailure depth ended err := by
  rw [findSome?_range_eq_some]
  refine exists_congr fun tag => and_congr_right fun inside => and_congr Option.join_eq_some_iff ?_
  apply forall₂_congr
  intro earlier before
  cases here : ended earlier with
  | none => exact absurd here (joined earlier (by omega))
  | some err => simp

end

def ofError : Option QueueError → Batch.RunResult
  | some err => .error err
  | none => .done

theorem ofError_ne_stopped (err : Option QueueError) : ofError err ≠ .stopped := by
  cases err <;> simp [ofError]

theorem ofError_eq_done (err : Option QueueError) : ofError err = .done ↔ err = none := by
  cases err <;> simp [ofError]

theorem ofError_eq_error (found : Option QueueError) (err : QueueError) :
    ofError found = .error err ↔ found = some err := by
  cases found <;> simp [ofError]

/-! ## The plain queue -/

namespace Plain

variable {config : Config} {before after : Workers}

def State.ending (state : State) : Option (Option QueueError) :=
  match state.pc with
  | .ended err => some err
  | _ => none

theorem State.isEnded_iff (state : State) : state.isEnded = true ↔ state.ending ≠ none := by
  rw [isEnded, ending]
  cases state.pc <;> simp

theorem State.err_eq (state : State) : state.err = state.ending.join := by
  rw [err, ending]
  cases state.pc <;> rfl

theorem verdict_eq (config : Config) (workers : Nat → State) :
    verdict config workers =
      ofError ((List.range config.queueDepth).findSome? fun tag => (workers tag).ending.join) := by
  simp only [verdict, State.err_eq]
  rfl

def inside (config : Config) : Inside Workers where
  handling := fun state => ∃ tag < config.queueDepth, ∃ ioBuf, (state.workers tag).pc = .handling ioBuf
  handled := fun state =>
    ∃ tag < config.queueDepth, ∃ data outcome, .handleIo data outcome ∈ (state.workers tag).history
  joined := fun state => ∀ tag < config.queueDepth, (state.workers tag).isEnded = true
  clean := fun state => AllClean config.queueDepth fun tag => (state.workers tag).ending
  fails := fun state err => FirstFailure config.queueDepth (fun tag => (state.workers tag).ending) err

/-- Only the join gives a result, and then all workers have ended. -/
theorem workersStep_result {action : WorkersAction} {ended : Batch.RunResult}
    (joining : before.result = none) (taken : workersStep config before action = some after)
    (ends : after.result = some ended) :
    (∀ tag < config.queueDepth, (after.workers tag).isEnded = true) ∧
      ended = verdict config after.workers := by
  cases action with
  | worker tag action =>
      simp only [workersStep, Option.ite_none_right_eq_some] at taken
      obtain ⟨_, taken⟩ := taken
      split at taken
      · contradiction
      · cases taken
        simp [joining] at ends
  | join =>
      simp only [workersStep, Option.ite_none_right_eq_some] at taken
      obtain ⟨⟨_, joined⟩, taken⟩ := taken
      cases taken
      exact ⟨joined, (Option.some.inj ends).symm⟩

theorem inside_sound (config : Config) :
    (inside config).Sound (ioQueue config) Workers.result (fun _ _ => True) where
  fresh := rfl
  idle := by
    rintro ⟨tag, _, ioBuf, pc⟩
    cases pc
  unhandled := by
    rintro ⟨tag, _, data, outcome, member⟩
    cases member
  ends := by
    intro before after action ended _ joining _ taken ends
    obtain ⟨joined, rfl⟩ := workersStep_result joining taken ends
    have all : ∀ tag < config.queueDepth, (after.workers tag).ending ≠ none := fun tag inside =>
      (after.workers tag).isEnded_iff.mp (joined tag inside)
    rw [verdict_eq]
    refine ⟨joined, ?_, ofError_ne_stopped _, ?_, fun err => ?_⟩
    · rintro ⟨tag, inside, ioBuf, pc⟩
      have ended := joined tag inside
      simp [State.isEnded, pc] at ended
    · exact (search_eq_none all).symm.trans (ofError_eq_done _).symm
    · exact (search_eq_some all).symm.trans (ofError_eq_error _ err).symm

end Plain

/-! ## The batched queue -/

namespace Batch

variable {config : Config} {state before after : State}

def Worker.ending (worker : Worker) : Option (Option QueueError) :=
  match worker.pc with
  | .ended err => some err
  | _ => none

def FlusherPc.ending : FlusherPc → Option (Option QueueError)
  | .ended err => some err
  | _ => none

/-- The result that the fetch leaves in `res`; a stopped one leaves none. -/
def FetchEnd.result : FetchEnd → Option Int
  | .value res => some res
  | .error code => some (-code)
  | .stopped => none

def fetchError (res : Int) : Option QueueError :=
  if res ≠ ublkIoResAbort then some (.system (-res) "fetch_io_cmds") else none

def Worker.err (worker : Worker) : Option QueueError :=
  match worker.pc with
  | .ended err => err
  | _ => none

def FlusherPc.err : FlusherPc → Option QueueError
  | .ended err => err
  | _ => none

theorem Worker.err_eq (worker : Worker) : worker.err = worker.ending.join := by
  rw [err, ending]
  cases worker.pc <;> rfl

theorem FlusherPc.err_eq (pc : FlusherPc) : pc.err = pc.ending.join := by
  cases pc <;> rfl

/-- The checks behind `when_all`. -/
def judge (workerErr flusherErr : Option QueueError) (res : Int) : RunResult :=
  match workerErr, flusherErr with
  | some err, _ => .error err
  | none, some err => .error err
  | none, none => if res ≠ ublkIoResAbort then .error (.system (-res) "fetch_io_cmds") else .done

theorem judge_eq (workerErr flusherErr : Option QueueError) (res : Int) :
    judge workerErr flusherErr res = ofError (workerErr.or (flusherErr.or (fetchError res))) := by
  cases workerErr with
  | some err => rfl
  | none =>
      cases flusherErr with
      | some err => rfl
      | none =>
          simp only [judge, Option.none_or, fetchError]
          split <;> rfl

theorem verdict_eq {ended : FetchEnd} {res : Int} (fetched : ended.result = some res) :
    verdict config state ended =
      ofError (((List.range config.queueDepth).findSome? fun tag => (state.workers tag).ending.join).or
        (state.flusher.ending.join.or (fetchError res))) := by
  have judged : verdict config state ended =
      judge ((List.range config.queueDepth).findSome? fun tag => (state.workers tag).err) state.flusher.err res := by
    cases ended with
    | value actual => cases fetched; rfl
    | error code => cases fetched; rfl
    | stopped => cases fetched
  rw [judged, judge_eq, FlusherPc.err_eq]
  simp only [Worker.err_eq]

def inside (config : Config) : Inside State where
  handling := fun state => ∃ tag < config.queueDepth, ∃ ioBuf, (state.workers tag).pc = .handling ioBuf
  handled := fun state => ∃ tag data outcome, .tag tag (.handleIo data outcome) ∈ state.history
  joined := fun state => (∀ tag < config.queueDepth, (state.workers tag).isEnded = true) ∧
    state.flusher.isEnded = true ∧ state.fetch ≠ none
  clean := fun state => AllClean config.queueDepth (fun tag => (state.workers tag).ending) ∧
    state.flusher = .ended none ∧ ∃ ended, state.fetch = some ended ∧ ended.result = some ublkIoResAbort
  fails := fun state err => FirstFailure config.queueDepth (fun tag => (state.workers tag).ending) err ∨
    AllClean config.queueDepth (fun tag => (state.workers tag).ending) ∧
      (state.flusher = .ended (some err) ∨
        state.flusher = .ended none ∧ ∃ ended res, state.fetch = some ended ∧ ended.result = some res ∧
          fetchError res = some err)

/-- Only `run()` itself gives a result, when all tasks have ended. -/
theorem Move.result {action : Action} {ended : RunResult} (moved : Move config before action after)
    (joining : before.result = none) (ends : after.result = some ended) :
    ∃ fetchEnd, after.fetch = some fetchEnd ∧
      (∀ tag < config.queueDepth, (after.workers tag).isEnded = true) ∧ after.flusher.isEnded = true ∧
      ended = verdict config after fetchEnd := by
  cases moved with
  | @returned fetchEnd finished running workers flusher =>
      exact ⟨fetchEnd, finished, workers, flusher, (Option.some.inj ends).symm⟩
  | turn _ _ turn => rw [turn.frame.result, joining] at ends; cases ends
  | handled _ _ turn =>
      rw [turn.frame.result] at ends
      cases joining.symm.trans ends
  | unregistered _ _ turn =>
      rw [turn.frame.result] at ends
      cases joining.symm.trans ends
  | _ => cases joining.symm.trans ends

theorem fetchError_eq_none (res : Int) : fetchError res = none ↔ res = ublkIoResAbort := by
  rw [fetchError]
  split <;> simp_all

theorem Worker.isEnded_iff (worker : Worker) : worker.isEnded = true ↔ worker.ending ≠ none := by
  rw [isEnded, ending]
  cases worker.pc <;> simp

/-- The first of three errors, where the second belongs to a flusher that has ended. -/
theorem first_eq_none {workers : Option QueueError} {flusher : FlusherPc} {res : Int}
    (ended : flusher.isEnded = true) :
    workers.or (flusher.ending.join.or (fetchError res)) = none ↔
      workers = none ∧ flusher = .ended none ∧ res = ublkIoResAbort := by
  rw [Option.or_eq_none_iff, Option.or_eq_none_iff, fetchError_eq_none]
  cases flusher with
  | ended err => simp [FlusherPc.ending]
  | _ => cases ended

theorem first_eq_some {workers : Option QueueError} {flusher : FlusherPc} {res : Int} {err : QueueError}
    (ended : flusher.isEnded = true) :
    workers.or (flusher.ending.join.or (fetchError res)) = some err ↔
      workers = some err ∨ workers = none ∧
        (flusher = .ended (some err) ∨ flusher = .ended none ∧ fetchError res = some err) := by
  rw [Option.or_eq_some_iff, Option.or_eq_some_iff]
  cases flusher with
  | ended err => simp [FlusherPc.ending]
  | _ => cases ended

theorem inside_sound (config : Config) :
    (inside config).Sound (batchIoQueue config) State.result (fun _ action => fetchNotStopped action = true) where
  fresh := rfl
  idle := by
    rintro ⟨tag, _, ioBuf, pc⟩
    cases pc
  unhandled := by
    rintro ⟨tag, data, outcome, member⟩
    cases member
  ends := by
    intro before after action ended reached joining permitted taken ends
    obtain ⟨fetchEnd, finished, joined, flushed, rfl⟩ := (step_move taken).result joining ends
    have passed : after.fetch ≠ some .stopped :=
      fetch_not_stopped_reachable (fun allowed => allowed) (reached.next permitted taken)
    obtain ⟨res, fetched⟩ : ∃ res, fetchEnd.result = some res := by
      cases fetchEnd with
      | value res => exact ⟨res, rfl⟩
      | error code => exact ⟨-code, rfl⟩
      | stopped => exact absurd finished passed
    have all : ∀ tag < config.queueDepth, (after.workers tag).ending ≠ none := fun tag inside =>
      (after.workers tag).isEnded_iff.mp (joined tag inside)
    rw [verdict_eq fetched]
    refine ⟨⟨joined, flushed, by simp [finished]⟩, ?_, ofError_ne_stopped _, ?_, fun err => ?_⟩
    · rintro ⟨tag, inside, ioBuf, pc⟩
      have ended := joined tag inside
      simp [Worker.isEnded, pc] at ended
    · rw [ofError_eq_done, first_eq_none flushed, search_eq_none all]
      simp [inside, finished, fetched]
    · rw [ofError_eq_error, first_eq_some flushed, search_eq_some all, search_eq_none all]
      simp [inside, finished, fetched]

end Batch

/-- In every run of either queue `destroy_queue` is called once at the end of a run that was
initialised and not otherwise, handlers are at work only in between, `run()` ends behind
all its tasks, and its outcome is the one that the order of errors demands. -/
theorem run_bracketed (config : Config) (hooks : Bool) :
    (∀ run, Reachable (bracket ⟨hooks, false⟩ (Plain.ioQueue config) Plain.Workers.result)
        (onBody fun _ _ => True) run → Bracketed ⟨hooks, false⟩ (Plain.inside config) run) ∧
    ∀ run, Reachable (bracket ⟨hooks, true⟩ (Batch.batchIoQueue config) Batch.State.result)
        (onBody fun _ action => Batch.fetchNotStopped action = true) run →
      Bracketed ⟨hooks, true⟩ (Batch.inside config) run := by
  constructor
  · intro run reached
    have sound := Plain.inside_sound config
    exact .of_stands sound (.reachable sound.fresh reached)
  · intro run reached
    have sound := Batch.inside_sound config
    exact .of_stands sound (.reachable sound.fresh reached)

/-- Tag 1 of a plain queue fails while tag 0 is turned away, and the fetch of a batched queue
is refused: both runs end with that error, behind one `destroy_queue`. -/
theorem run_bracketed_failing :
    (∃ run, Reachable (bracket ⟨true, false⟩ (Plain.ioQueue Batch.twoTags) Plain.Workers.result)
        (onBody fun _ _ => True) run ∧
      (run.stage = .ended (.error (.queue (.system 5 "fetch_req"))) ∧ run.destroyed = 1) ∧
      Bracketed ⟨true, false⟩ (Plain.inside Batch.twoTags) run) ∧
    ∃ run, Reachable (bracket ⟨true, true⟩ (Batch.batchIoQueue Batch.twoTags) Batch.State.result)
        (onBody fun _ action => Batch.fetchNotStopped action = true) run ∧
      (run.stage = .ended (.error (.queue (.system 5 "fetch_io_cmds"))) ∧ run.destroyed = 1) ∧
      Bracketed ⟨true, true⟩ (Batch.inside Batch.twoTags) run := by
  constructor
  · obtain ⟨run, reached, failed⟩ :=
      exists_of_replay (bracket ⟨true, false⟩ (Plain.ioQueue Batch.twoTags) Plain.Workers.result)
        (onBody fun _ _ => True)
        [.initEnd .value, .body (.worker 1 .run), .body (.worker 0 .run),
          .body (.worker 1 (.answered (.error 5) default)), .body (.worker 0 (.answered (.error enodev) default)),
          .body .join]
        (fun run => run.stage = .ended (.error (.queue (.system 5 "fetch_req"))) ∧ run.destroyed = 1)
        (by decide +kernel)
    exact ⟨run, reached, failed, (run_bracketed Batch.twoTags true).1 run reached⟩
  · obtain ⟨run, reached, failed⟩ :=
      exists_of_replay (bracket ⟨true, true⟩ (Batch.batchIoQueue Batch.twoTags) Batch.State.result)
        (onBody fun _ action => Batch.fetchNotStopped action = true)
        [.initEnd .value, .prepEnd .ok, .body .flusherRun, .body (.workerRun 0), .body (.workerRun 1),
          .body (.fetchEnd (.error 5)), .body (.workerRun 0), .body (.workerRun 1), .body .flusherRun,
          .body .runReturn]
        (fun run => run.stage = .ended (.error (.queue (.system 5 "fetch_io_cmds"))) ∧ run.destroyed = 1)
        (by decide +kernel)
    exact ⟨run, reached, failed, (run_bracketed Batch.twoTags true).2 run reached⟩

end Ublk.Queue
