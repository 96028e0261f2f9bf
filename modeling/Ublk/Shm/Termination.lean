import Ublk.Data.Count
import Ublk.Machine.Progress
import Ublk.Shm.Run

namespace Ublk.Shm

open Ublk.Data Ublk.Machine

/-! # The end of `shm_server_run`

Once no more clients are accepted, every session has a bounded way to its end, and at
each point of it something can happen next. The measure counts the steps of a session
together with those of the clean-up tasks it has spawned; a step that spawns one pays
for it.
-/

variable {flags : BitVec 32} {path : List UInt8} {session next : Session} {server later : Server}
  {run after : ServerRun}

def CleanupPc.effort : CleanupPc → Nat
  | .scheduled => 4
  | .queryingInfo => 3
  | .unregistering => 2
  | .unregistered => 1
  | .ended => 0

def Pc.effort : Pc → Nat
  | .scheduled => 17
  | .receiving => 16
  | .stating => 15
  | .queryingInfo => 14
  | .registering => 13
  | .registered _ => 12
  | .callingReg => 11
  | .sending _ => 6
  | .awaitingClose _ => 5
  | .ended => 0

def taskEffort : Option Cleanup → Nat
  | some task => task.pc.effort
  | none => 0

def tasksEffort (cleanups : Guard → Option Cleanup) : Nat :=
  taskEffort (cleanups .handle) + taskEffort (cleanups .session)

def Session.effort (session : Session) : Nat := session.pc.effort + tasksEffort session.cleanups

def Server.effort (server : Server) : Nat :=
  (if server.accepting then 1 else 0) + (if server.joined then 0 else 1) +
    ∑ id ∈ Finset.range server.accepted, (server.sessions id).effort

/-! ## One session -/

theorem tasksEffort_update (cleanups : Guard → Option Cleanup) (guard : Guard) (task : Cleanup) :
    tasksEffort (Function.update cleanups guard (some task)) + taskEffort (cleanups guard) =
      tasksEffort cleanups + task.pc.effort := by
  cases guard with
  | handle =>
      simp only [tasksEffort, Function.update_self, taskEffort, ne_eq, reduceCtorEq, not_false_eq_true,
        Function.update_of_ne]
      omega
  | session =>
      simp only [tasksEffort, Function.update_self, taskEffort, ne_eq, reduceCtorEq, not_false_eq_true,
        Function.update_of_ne]
      omega

theorem tasksEffort_cleanup (session : Session) (guard : Guard) :
    tasksEffort (session.cleanup guard).cleanups ≤ tasksEffort session.cleanups + 4 := by
  have updated := tasksEffort_update session.cleanups guard ⟨session.index, session.base, session.size, .scheduled⟩
  simp only [CleanupPc.effort] at updated
  simp only [Session.cleanup]
  omega

theorem effort_setCleanup (session : Session) {guard : Guard} {task : Cleanup} (pc : CleanupPc)
    (spawned : session.cleanups guard = some task) :
    (session.setCleanup guard task pc).effort + task.pc.effort = session.effort + pc.effort := by
  have updated := tasksEffort_update session.cleanups guard { task with pc }
  rw [spawned] at updated
  simp only [taskEffort] at updated
  simp only [Session.effort, Session.setCleanup]
  omega

theorem effort_unmap (session : Session) {guard : Guard} {task : Cleanup} (spawned : session.cleanups guard = some task) :
    (session.unmap guard task).effort + task.pc.effort = session.effort := by
  rw [Session.unmap]
  split
  · exact effort_setCleanup (session.record _) .ended spawned
  · exact effort_setCleanup session .ended spawned

theorem effort_handleEnded (session : Session) (how : Session.HandleEnd) :
    (session.handleEnded how).effort ≤ tasksEffort session.cleanups + 10 := by
  have spawned := tasksEffort_cleanup session .handle
  rw [Session.handleEnded]
  split
  · simp only [Session.effort, Session.record, Pc.effort]
    omega
  · simp only [Session.effort, Session.record, Pc.effort]
    omega

theorem effort_finish (session : Session) (res : BitVec 32) :
    (session.finish res).effort ≤ tasksEffort session.cleanups + 4 := by
  have spawned := tasksEffort_cleanup session .session
  rw [Session.finish]
  split
  · simp only [Session.effort, Session.close, Session.record, Pc.effort]
    omega
  · simp only [Session.effort, Session.close, Session.record, Pc.effort]
    omega

/-- Every step of a session or of one of its tasks is one step less to go. -/
theorem Move.effort {action : Action} (moved : Move flags session action next) : next.effort < session.effort := by
  cases moved with
  | started pc | neverStarted pc | received pc | turnedAway _ pc | mapped pc | regQueried pc | regExecuted pc
  | regObserved pc | resultSent pc | failureSent pc =>
      simp [Session.effort, Session.record, Session.close, pc, Pc.effort]
  | @handleFailed action how size pc =>
      have bounded := effort_handleEnded { session with size } how
      have before : 11 ≤ session.pc.effort := by
        rcases pc with pc | pc | pc | pc <;> simp [pc, Pc.effort]
      simp only [Session.effort] at bounded ⊢
      omega
  | regHandled pc =>
      have bounded := effort_handleEnded (session.record .regShmSucceeded) .value
      have before : 11 = session.pc.effort := by simp [pc, Pc.effort]
      simp only [Session.effort, Session.record] at bounded ⊢
      omega
  | @hungUp action res why pc =>
      have bounded := effort_finish (session.record (.hangup why)) res
      have before : 5 ≤ session.pc.effort := by
        rcases pc with pc | pc <;> simp [pc, Pc.effort]
      simp only [Session.effort, Session.record] at bounded ⊢
      omega
  | cleanupRun spawned pc =>
      have moved := effort_setCleanup session .queryingInfo spawned
      simp only [pc, CleanupPc.effort] at moved
      omega
  | cleanupUnmap spawned pc =>
      have moved := effort_unmap session spawned
      simp only [pc, CleanupPc.effort] at moved
      omega
  | cleanupDropped spawned pc =>
      have moved := effort_setCleanup session .ended spawned
      simp only [pc, CleanupPc.effort] at moved
      omega
  | @cleanupQueried guard task spawned pc =>
      have moved := effort_setCleanup (session.record (.unregister task.index)) .unregistering spawned
      simp only [pc, CleanupPc.effort, Session.effort, Session.record] at moved ⊢
      omega
  | cleanupUnqueried spawned pc =>
      have moved := effort_setCleanup session .ended spawned
      simp only [pc, CleanupPc.effort] at moved
      omega
  | @cleanupExecuted guard task spawned pc =>
      have moved := effort_setCleanup (session.record (.unregistered task.index)) .unregistered spawned
      simp only [pc, CleanupPc.effort, Session.effort, Session.record] at moved ⊢
      omega
  | cleanupRefused spawned pc =>
      have moved := effort_setCleanup session .ended spawned
      simp only [pc, CleanupPc.effort] at moved
      omega
  | @cleanupObserved guard task spawned pc =>
      have moved := effort_unmap (session.record (.handleUnregShm task.index)) spawned
      simp only [pc, CleanupPc.effort, Session.effort, Session.record] at moved ⊢
      omega

/-- Whatever a session waits for can end, with a stop if nothing else does. -/
theorem session_goes_on (flags : BitVec 32) (unfinished : ¬ session.complete) :
    ∃ action, session.step flags action ≠ none ∧ ∀ owner id, driver owner id session action = some owner := by
  by_cases ended : session.pc = .ended
  · simp only [Session.complete, ended, true_and, not_forall] at unfinished
    obtain ⟨guard, task, spawned, busy⟩ := unfinished
    have spawned : session.cleanups guard = some task := spawned
    cases pc : task.pc with
    | scheduled =>
        refine ⟨.cleanupDropped guard, ?_, fun _ _ => rfl⟩
        simp [Session.step, Action.guard, spawned, Session.cleanupStep, pc]
    | queryingInfo =>
        refine ⟨.cleanupQueried guard (some .other), ?_, fun _ _ => rfl⟩
        simp [Session.step, Action.guard, spawned, Session.cleanupStep, pc]
    | unregistering =>
        refine ⟨.cleanupRefused guard .other, ?_, fun _ _ => rfl⟩
        simp [Session.step, Action.guard, spawned, Session.cleanupStep, pc]
    | unregistered =>
        refine ⟨.cleanupObserved guard, ?_, fun _ _ => rfl⟩
        simp [Session.step, Action.guard, spawned, Session.cleanupStep, pc]
    | ended => exact absurd pc busy
  · cases pc : session.pc with
    | scheduled => exact ⟨.neverStarted, by simp [Session.step, Session.neverStarted, pc], fun _ _ => rfl⟩
    | receiving => exact ⟨.received .stopped, by simp [Session.step, Session.received, pc], fun _ _ => rfl⟩
    | stating => exact ⟨.stated .stopped (.ok 0), by simp [Session.step, Session.stated, pc], fun _ _ => rfl⟩
    | queryingInfo => exact ⟨.regQueried .stopped, by simp [Session.step, Session.regQueried, pc], fun _ _ => rfl⟩
    | registering => exact ⟨.regStopped, by simp [Session.step, Session.regFailed, pc], fun _ _ => rfl⟩
    | registered index => exact ⟨.regObserved, by simp [Session.step, Session.regObserved, pc], fun _ _ => rfl⟩
    | callingReg => exact ⟨.regHandled .stopped, by simp [Session.step, Session.regHandled, pc], fun _ _ => rfl⟩
    | sending res => exact ⟨.sent .stopped, by simp [Session.step, Session.sent, pc], fun _ _ => rfl⟩
    | awaitingClose res => exact ⟨.closed .stopped, by simp [Session.step, Session.closed, pc], fun _ _ => rfl⟩
    | ended => exact absurd pc ended

/-! ## The server -/

def ServerAction.windsDown : ServerAction → Bool
  | .accept => false
  | _ => true

theorem Server.effort_lowers {action : ServerAction} (winds : action.windsDown = true)
    (unjoined : server.joined = false) (taken : server.step flags action = some later) :
    later.effort < server.effort := by
  cases Server.step_move taken with
  | accept => cases winds
  | stopAccepting accepting => simp [Server.effort, accepting]
  | @session id action moved owner inside steps driven =>
      have less := steps.effort
      have replaced := sum_range_update inside Session.effort server.sessions moved
      simp only [Server.effort]
      omega
  | join => simp [Server.effort, unjoined]

theorem server_goes_on (flags : BitVec 32) (unjoined : server.joined = false) :
    ∃ action, ServerAction.windsDown action = true ∧ server.step flags action ≠ none := by
  cases accepting : server.accepting with
  | true => exact ⟨.acceptStopped, rfl, by simp [Server.step, Server.stopAccepting, accepting]⟩
  | false =>
      by_cases complete : ∀ id < server.accepted, (server.sessions id).complete
      · refine ⟨.join, rfl, ?_⟩
        simp only [Server.step, Server.join, accepting, unjoined, true_and]
        rw [if_pos complete]
        exact Option.some_ne_none _
      · simp only [not_forall] at complete
        obtain ⟨id, inside, unfinished⟩ := complete
        obtain ⟨action, enabled, undriven⟩ := session_goes_on flags unfinished
        obtain ⟨session, moved⟩ := Option.ne_none_iff_exists'.mp enabled
        refine ⟨.session id action, rfl, ?_⟩
        simp [Server.step, Server.runSession, inside, moved, undriven]

/-! ## The run -/

def ServerRunAction.windsDown : ServerRunAction → Bool
  | .serve action => action.windsDown
  | _ => true

def ServerRun.effort (run : ServerRun) : Nat :=
  match run.stage with
  | .creating => run.server.effort + 4
  | .unlinking _ => run.server.effort + 3
  | .binding _ => run.server.effort + 2
  | .startingToListen _ => run.server.effort + 1
  | .serving _ => run.server.effort
  | .ended _ => 0

theorem ServerRun.effort_lowers {action : ServerRunAction} (stands : Stands flags path run)
    (winds : action.windsDown = true) (taken : run.step flags path action = some after) :
    after.effort < run.effort := by
  cases action with
  | created answer =>
      simp only [step, created] at taken
      split at taken
      · rename_i stage
        split at taken <;> cases taken <;> simp [effort, stage, leave]
      · rename_i stage _
        cases taken
        simp [effort, stage]
      · contradiction
  | unlinked answer =>
      simp only [step, unlinked] at taken
      split at taken
      case h_2 => contradiction
      rename_i stage
      cases answer with
      | done => cases taken; simp [effort, stage]
      | failed code =>
          simp only at taken
          split at taken <;> cases taken <;> simp [effort, stage, leave]
      | stopped => cases taken; simp [effort, stage, leave]
  | bound answer =>
      simp only [step, bound] at taken
      split at taken
      · rename_i stage
        cases taken
        simp [effort, stage]
      · rename_i stage _
        cases taken
        simp [effort, stage, leave]
      · contradiction
  | listening answer =>
      simp only [step, listening] at taken
      split at taken
      · rename_i stage
        cases taken
        simp [effort, stage]
      · rename_i stage _
        cases taken
        simp [effort, stage, leave]
      · contradiction
  | serve action =>
      simp only [step, serve] at taken
      split at taken
      case h_2 => contradiction
      rename_i fd stage
      have here := stands.2
      simp only [stage] at here
      split at taken
      · contradiction
      rename_i server moved
      have less := Server.effort_lowers winds here.2.2 moved
      split at taken
      · cases taken
        simp only [effort, stage, leave]
        omega
      · cases taken
        simpa only [effort, stage] using less

theorem ended_of_final (stands : Stands flags path run)
    (final : Final (shmServerRun flags path) (fun _ action => action.windsDown = true) run) :
    ∃ how, run.stage = .ended how := by
  cases stage : run.stage with
  | ended how => exact ⟨how, rfl⟩
  | creating =>
      have stuck := final (.created .stopped) rfl
      simp [shmServerRun, ServerRun.step, ServerRun.created, stage] at stuck
  | unlinking fd =>
      have stuck := final (.unlinked .stopped) rfl
      simp [shmServerRun, ServerRun.step, ServerRun.unlinked, stage] at stuck
  | binding fd =>
      have stuck := final (.bound .stopped) rfl
      simp [shmServerRun, ServerRun.step, ServerRun.bound, stage] at stuck
  | startingToListen fd =>
      have stuck := final (.listening .stopped) rfl
      simp [shmServerRun, ServerRun.step, ServerRun.listening, stage] at stuck
  | serving fd =>
      have here := stands.2
      simp only [stage] at here
      obtain ⟨action, winds, enabled⟩ := server_goes_on flags here.2.2
      have stuck := final (.serve action) winds
      simp only [shmServerRun, ServerRun.step, ServerRun.serve, stage] at stuck
      split at stuck
      · contradiction
      · split at stuck <;> cases stuck

/-- Once no more clients are accepted, `shm_server_run` returns: whatever its sessions,
clients and clean-up tasks have still to do, every schedule of it ends within `effort` steps,
and only with the run. -/
theorem shm_run_returns (reached : Reachable (shmServerRun flags path) (fun _ _ => True) run) :
    ComesToRest (shmServerRun flags path) (fun _ action => action.windsDown = true) run.effort
      (fun run => ∃ how, run.stage = .ended how) run := by
  apply comesToRest ServerRun.effort _ ended_of_final (Stands.reachable reached)
  intro before after action stands winds taken
  exact ⟨stands.step taken, ServerRun.effort_lowers stands winds taken⟩

/-- A client is being served when the accept loop is stopped. -/
theorem shm_run_returns_oneClient :
    ∃ run, Reachable (shmServerRun 0 [47]) (fun _ _ => True) run ∧ run.stage = .serving 5 ∧
      run.server.accepting = false ∧
      ComesToRest (shmServerRun 0 [47]) (fun _ action => action.windsDown = true) run.effort
        (fun run => ∃ how, run.stage = .ended how) run := by
  obtain ⟨run, reached, serving, stopped⟩ :=
    exists_of_replay (shmServerRun 0 [47]) (fun _ _ => True)
      (ServerRun.listens 5 ++ List.map .serve (Server.registers 0 7 4096 64 ++ [.acceptStopped]))
      (fun run => run.stage = .serving 5 ∧ run.server.accepting = false) (by decide)
  exact ⟨run, reached, serving, stopped, shm_run_returns reached⟩

end Ublk.Shm
