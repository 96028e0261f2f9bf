import Ublk.Daemon.Isolation
import Ublk.Queue.Batch.Progress
import Ublk.Queue.Drain

namespace Ublk.Daemon

open Ublk.Data Ublk.Machine Ublk.Control Ublk.Queue

/-! # The end of `daemon::run`

When the device is stopped the driver fails what fetches requests and delivers nothing
any more. Every queue then runs out of work on its own, and `daemon::run` returns. The
measure is built like the daemon: from those of the queues, of the stages around them in
`run()`, and of the stages of the daemon.
-/

/-! ## A queue inside its bracket -/

section Bracket

variable {Body BodyAction : Type} {shape : Shape} {inner : System Body BodyAction}
  {result : Body → Option Batch.RunResult} {permits : Body → BodyAction → Prop} {run after : Run Body}

def bracketEffort (effort : Body → Nat) (run : Run Body) : Nat :=
  match run.stage with
  | .initializing => effort run.body + 2
  | .preparing => effort run.body + 1
  | .running => effort run.body
  | .ended _ => 0

theorem bracketEffort_lowers {effort : Body → Nat} {action : RunAction BodyAction}
    (lowers : ∀ {body moved}, action = .body moved → inner.step run.body moved = some body →
      effort body < effort run.body)
    (taken : (bracket shape inner result).step run action = some after) :
    bracketEffort effort after < bracketEffort effort run := by
  cases action with
  | initEnd how =>
      simp only [bracket, Run.step, Run.initEnd] at taken
      split at taken
      case h_2 => contradiction
      rename_i stage
      cases how with
      | value =>
          cases taken
          cases prepares : shape.prepares <;> simp [bracketEffort, stage, Run.afterInit, prepares]
      | error err => cases taken; simp [bracketEffort, stage]
      | stopped => cases taken; simp [bracketEffort, stage]
  | prepEnd how =>
      simp only [bracket, Run.step, Run.prepEnd] at taken
      split at taken
      case h_2 => contradiction
      rename_i stage
      cases how with
      | ok => cases taken; simp [bracketEffort, stage]
      | error code => cases taken; simp [bracketEffort, stage, Run.finish]
      | stopped => cases taken; simp [bracketEffort, stage, Run.finish]
  | body moved =>
      simp only [bracket, Run.step, Run.runBody] at taken
      split at taken
      case h_2 => contradiction
      rename_i stage
      split at taken
      · contradiction
      · rename_i body stepped
        have less := lowers rfl stepped
        split at taken
        · cases taken
          simpa [bracketEffort, stage] using less
        · cases taken
          simp only [bracketEffort, stage, Run.finish]
          omega

/-- A bracket stops in front of its end only where the workers stop. -/
theorem bracket_final (final : Final (bracket shape inner result) (onBody permits) run) :
    (∃ outcome, run.stage = .ended outcome) ∨ run.stage = .running ∧ Final inner permits run.body := by
  cases stage : run.stage with
  | initializing =>
      have stuck := final (.initEnd .value) trivial
      simp [bracket, Run.step, Run.initEnd, stage] at stuck
  | preparing =>
      have stuck := final (.prepEnd .ok) trivial
      simp [bracket, Run.step, Run.prepEnd, stage] at stuck
  | ended outcome => exact .inl ⟨outcome, rfl⟩
  | running =>
      refine .inr ⟨rfl, fun action permitted => ?_⟩
      have stuck := final (.body action) permitted
      simp only [bracket, Run.step, Run.runBody, stage] at stuck
      split at stuck
      · assumption
      · split at stuck <;> cases stuck

end Bracket

/-! ## A queue of the daemon -/

/-- The fetch of a batched queue does not end on its stopped channel. -/
def fetchAnswers (_ : QueueRun) : QueueAction → Prop
  | .batch (.body action) => Batch.fetchNotStopped action = true
  | _ => True

/-- The driver has no more requests for the queues. -/
def QueueAction.windsDown : QueueAction → Prop
  | .plain (.body action) => Plain.failsFetches action = true
  | .batch (.body action) => Batch.windsDown action = true
  | _ => True

def queueEffort (config : Config) : QueueRun → Nat
  | .plain run => bracketEffort (Plain.workersEffort config) run
  | .batch run => bracketEffort (Batch.effort config) run

variable {info : DevInfo} {options : Options} {config : Config} {hooks : Bool} {run after : QueueRun}

theorem fetchAnswers_of_windsDown {action : QueueAction} (winds : action.windsDown) :
    fetchAnswers run action := by
  rcases action with action | (how | how | action)
  · trivial
  · trivial
  · trivial
  · exact (Batch.windsDown_passes winds).2

theorem onBody_fetchAnswers {run : Run Batch.State} {action : RunAction Batch.Action}
    (answers : fetchAnswers (.batch run) (.batch action)) :
    onBody (fun _ action => Batch.fetchNotStopped action = true) run action := by
  cases action with
  | body => exact answers
  | _ => trivial

/-- Where a batched queue is inside its bracket. -/
theorem batch_stands {run : Run Batch.State}
    (reached : Reachable (batchQueue hooks config) (fun run action => fetchAnswers (.batch run) (.batch action)) run) :
    Queue.Stands ⟨hooks, true⟩ (Batch.batchIoQueue config) Batch.State.result
      (fun _ action => Batch.fetchNotStopped action = true) run :=
  Queue.Stands.reachable rfl (reached.weaken onBody_fetchAnswers)

theorem plain_stands {run : Run Plain.Workers}
    (reached : Reachable (plainQueue hooks config) (fun run action => fetchAnswers (.plain run) (.plain action)) run) :
    Queue.Stands ⟨hooks, false⟩ (Plain.ioQueue config) Plain.Workers.result (fun _ _ => True) run := by
  refine Queue.Stands.reachable rfl (reached.weaken fun {_ action} _ => ?_)
  cases action <;> trivial

theorem queueEffort_lowers {action : QueueAction}
    (reached : Reachable (queueSystem hooks config) fetchAnswers run) (winds : action.windsDown)
    (taken : queueStep hooks config run action = some after) :
    queueEffort config after < queueEffort config run := by
  have genuine := QueueRun.genuine reached
  simp only [queueStep] at taken
  split at taken
  · rename_i run action
    obtain ⟨further, stepped, rfl⟩ := Option.map_eq_some_iff.mp taken
    refine bracketEffort_lowers (fun {body moved} same moves => ?_) stepped
    subst same
    exact Plain.workersStep_effort moves winds
  · rename_i run action
    obtain ⟨further, stepped, rfl⟩ := Option.map_eq_some_iff.mp taken
    refine bracketEffort_lowers (fun {body moved} same moves => ?_) stepped
    subst same
    have passes := Batch.windsDown_passes winds
    cases batch_stands genuine.2 with
    | running inside _ =>
        have costs := Batch.effort_step inside moves
        rw [passes.1] at costs
        exact costs
    | _ => simp [batchQueue, bracket, Run.step, Run.runBody] at stepped
  · contradiction

theorem plain_final {run : Run Plain.Workers}
    (reached : Reachable (plainQueue hooks config) (fun run action => fetchAnswers (.plain run) (.plain action)) run)
    (final : Final (plainQueue hooks config) (onBody fun _ action => Plain.failsFetches action = true) run) :
    stageOutcome run.stage ≠ none := by
  rcases bracket_final final with ⟨outcome, ended⟩ | ⟨running, stuck⟩
  · simp [ended, stageOutcome]
  · cases plain_stands reached with
    | running inside joining => exact absurd joining (Plain.answered_of_final inside stuck).returned
    | _ => cases running

theorem batch_final {run : Run Batch.State}
    (reached : Reachable (batchQueue hooks config) (fun run action => fetchAnswers (.batch run) (.batch action)) run)
    (final : Final (batchQueue hooks config) (onBody fun _ action => Batch.windsDown action = true) run) :
    stageOutcome run.stage ≠ none := by
  rcases bracket_final final with ⟨outcome, ended⟩ | ⟨running, stuck⟩
  · simp [ended, stageOutcome]
  · cases batch_stands reached with
    | running inside joining => exact absurd joining (Batch.returned_of_windsDown inside stuck)
    | _ => cases running

/-- A queue that has not ended can go on. -/
theorem queue_goes_on (reached : Reachable (queueSystem hooks config) fetchAnswers run)
    (running : run.outcome = none) :
    ∃ action after, action.windsDown ∧ queueStep hooks config run action = some after := by
  by_contra stuck
  have none_of {action : QueueAction} (winds : action.windsDown) : queueStep hooks config run action = none := by
    cases taken : queueStep hooks config run action with
    | none => rfl
    | some after => exact absurd ⟨action, after, winds, taken⟩ stuck
  have genuine := QueueRun.genuine reached
  cases run with
  | plain run =>
      refine plain_final genuine.2 (fun action permitted => ?_) running
      have winds : (QueueAction.plain action).windsDown := by
        cases action with
        | body => exact permitted
        | _ => trivial
      simpa [queueStep] using none_of winds
  | batch run =>
      refine batch_final genuine.2 (fun action permitted => ?_) running
      have winds : (QueueAction.batch action).windsDown := by
        cases action with
        | body => exact permitted
        | _ => trivial
      simpa [queueStep] using none_of winds

/-! ## The daemon -/

/-- A task that waits for its loop has the whole of its queue in front of it. -/
def taskEffort (info : DevInfo) : Task → Nat
  | .spawned => 4 * info.queueDepth.toNat + 6
  | .serving config run => queueEffort config run
  | .ended _ _ _ => 0
  | .failed _ => 0

def stagesLeft (info : DevInfo) : DaemonStage → Nat
  | .querying => queueCount info + 3
  | .makingLoop qId => queueCount info - qId + 2
  | .opening => 2
  | .joining => 1
  | .returned _ => 0

def effort (info : DevInfo) (daemon : State) : Nat :=
  stagesLeft info daemon.stage +
    ∑ qId ∈ Finset.range (queueCount info), taskEffort info (daemon.queues qId).task

/-- What is left to happen when the driver has no more requests; the tables of the
Runtimes have no part in it. -/
def windsDown (_ : State) : DaemonAction → Prop
  | .queue _ action => action.windsDown
  | .table _ _ => False
  | _ => True

variable {daemon next : State} {loop changed : Loop} {fd qId : Nat}

theorem queueEffort_fresh (hooks : Bool) (qId : Nat) (bufBases : Nat → BitVec 64) :
    queueEffort (queueConfig info options qId bufBases)
        (queueSystem hooks (queueConfig info options qId bufBases)).initial <
      4 * info.queueDepth.toNat + 6 := by
  have plain := Plain.workersEffort_initial (queueConfig info options qId bufBases)
  have batch := @Batch.effort_initial (queueConfig info options qId bufBases)
  have depth : (queueConfig info options qId bufBases).queueDepth = info.queueDepth.toNat := rfl
  rw [depth] at plain batch
  simp only [queueSystem]
  split
  · simp only [queueEffort, bracketEffort, batchQueue, bracket, batch, Run.afterInit]
    cases hooks <;> simp
  · simp only [queueEffort, bracketEffort, plainQueue, bracket, plain, Run.afterInit]
    cases hooks <;> simp <;> omega

theorem startTask_lowers {made : Except QueueError (Nat → BitVec 64)}
    (taken : startTask info options fd qId made loop = some changed) :
    taskEffort info changed.task < taskEffort info loop.task := by
  simp only [startTask] at taken
  split at taken
  case h_2 => contradiction
  rename_i spawned
  rw [spawned]
  split at taken
  · cases taken
    simp [taskEffort]
  · split at taken
    · cases taken
      simp [taskEffort]
    · cases taken
      exact queueEffort_fresh _ _ _

theorem stepQueue_lowers {action : QueueAction} (sound : Sound fetchAnswers info options fd qId loop)
    (winds : action.windsDown) (taken : stepQueue options action loop = some changed) :
    taskEffort info changed.task < taskEffort info loop.task := by
  simp only [stepQueue] at taken
  split at taken
  case h_2 => contradiction
  rename_i config run serving
  have fits := sound.fits
  rw [Fits, serving] at fits
  rw [serving]
  split at taken
  · contradiction
  · rename_i further stepped
    have less := queueEffort_lowers fits.2.2.1 winds stepped
    split at taken
    · cases taken
      exact less
    · cases taken
      simp only [taskEffort]
      omega

theorem onQueue_lowers {act : Nat → Loop → Option Loop} (stands : Stands fetchAnswers info options daemon)
    (lowers : ∀ {fd after}, Sound fetchAnswers info options fd qId (daemon.queues qId) →
      act fd (daemon.queues qId) = some after → taskEffort info after.task < taskEffort info (daemon.queues qId).task)
    (taken : onQueue info daemon qId act = some next) : effort info next < effort info daemon := by
  simp only [Daemon.onQueue] at taken
  split at taken
  case h_2 => contradiction
  rename_i fd stage device
  simp only [Option.ite_none_right_eq_some] at taken
  obtain ⟨inside, taken⟩ := taken
  obtain ⟨loop, acted, rfl⟩ := Option.map_eq_some_iff.mp taken
  rw [Stands, stage] at stands
  obtain ⟨_, _, opened, same, sound⟩ := stands
  cases device.symm.trans same
  have less := lowers (sound qId inside) acted
  have replaced := sum_range_update inside (fun loop : Loop => taskEffort info loop.task) daemon.queues loop
  simp only [effort, State.setLoop]
  omega

theorem makeLoop_stages (daemon : State) (qId : Nat) :
    stagesLeft info (daemon.makeLoop info qId).stage ≤ queueCount info - qId + 2 := by
  simp only [State.makeLoop]
  split <;> simp [stagesLeft]

theorem effort_stage (same : next.queues = daemon.queues)
    (fewer : stagesLeft info next.stage < stagesLeft info daemon.stage) :
    effort info next < effort info daemon := by
  rw [effort, effort, same]
  omega

/-- Every step that is left brings the daemon closer to its end. -/
theorem effort_lowers {action : DaemonAction} (stands : Stands fetchAnswers info options daemon)
    (winds : windsDown daemon action) (taken : (daemonRun info options).step daemon action = some next) :
    effort info next < effort info daemon := by
  cases action with
  | told how =>
      simp only [daemonRun, step, State.told] at taken
      split at taken
      case h_2 => contradiction
      rename_i stage
      have going : 0 < stagesLeft info daemon.stage := by simp [stage, stagesLeft]
      cases how with
      | value =>
          cases taken
          refine effort_stage rfl (Nat.lt_of_le_of_lt (makeLoop_stages _ _) ?_)
          rw [stage, stagesLeft]
          omega
      | error err => cases taken; exact effort_stage rfl going
      | stopped => cases taken; exact effort_stage rfl going
  | affinity how init =>
      simp only [daemonRun, step, State.affinity] at taken
      split at taken
      case h_2 => contradiction
      rename_i qId stage
      have going : 0 < stagesLeft info daemon.stage := by simp [stage, stagesLeft]
      rw [Stands, stage] at stands
      obtain ⟨_, _, _, _, inside⟩ := stands
      cases how with
      | error err => cases taken; exact effort_stage rfl going
      | stopped => cases taken; exact effort_stage rfl going
      | value =>
          simp only at taken
          split at taken
          · cases taken
            exact effort_stage rfl going
          · cases taken
            refine effort_stage rfl (Nat.lt_of_le_of_lt (makeLoop_stages _ _) ?_)
            rw [stage, stagesLeft]
            omega
  | opened how =>
      simp only [daemonRun, step, State.opened] at taken
      split at taken
      case h_2 => contradiction
      rename_i stage
      have going : 0 < stagesLeft info daemon.stage := by simp [stage, stagesLeft]
      cases how with
      | value fd => cases taken; simp [effort, stage, stagesLeft]
      | error err => cases taken; exact effort_stage rfl going
      | stopped => cases taken; exact effort_stage rfl going
  | start qId made => exact onQueue_lowers stands (fun _ acted => startTask_lowers acted) taken
  | queue qId action => exact onQueue_lowers stands (fun sound acted => stepQueue_lowers sound winds acted) taken
  | table => exact absurd winds id
  | join =>
      simp only [daemonRun, step, join] at taken
      split at taken
      case h_2 => contradiction
      rename_i stage
      simp only [Option.ite_none_right_eq_some] at taken
      obtain ⟨_, taken⟩ := taken
      cases taken
      exact effort_stage rfl (by simp [stage, State.leave, stagesLeft])

theorem startTask_enabled (spawned : loop.task = .spawned) :
    ∃ changed, startTask info options fd qId (.ok fun _ => 0) loop = some changed := by
  simp only [startTask, spawned]
  split <;> exact ⟨_, rfl⟩

theorem stepQueue_enabled {config : Config} {run : QueueRun} (sound : Sound fetchAnswers info options fd qId loop)
    (serving : loop.task = .serving config run) :
    ∃ action changed, action.windsDown ∧ stepQueue options action loop = some changed := by
  have fits := sound.fits
  rw [Fits, serving] at fits
  obtain ⟨action, further, winds, stepped⟩ := queue_goes_on fits.2.2.1 fits.2.2.2
  refine ⟨action, ?_⟩
  simp only [stepQueue, serving, stepped]
  split
  · exact ⟨_, winds, rfl⟩
  · exact ⟨_, winds, rfl⟩

theorem onQueue_enabled {act : Nat → Loop → Option Loop} (stage : daemon.stage = .joining)
    (device : daemon.ublkcFd = some fd) (inside : qId < queueCount info)
    (acted : act fd (daemon.queues qId) = some changed) : onQueue info daemon qId act ≠ none := by
  simp [Daemon.onQueue, stage, device, inside, acted]

/-- A daemon with a task that has not ended waits for nothing but that task. -/
theorem returned_of_final (stands : Stands fetchAnswers info options daemon)
    (final : Final (daemonRun info options) windsDown daemon) : ∃ how, daemon.stage = .returned how := by
  cases stage : daemon.stage with
  | returned how => exact ⟨how, rfl⟩
  | querying =>
      have stuck := final (.told .stopped) trivial
      simp [daemonRun, step, State.told, stage] at stuck
  | makingLoop qId =>
      have stuck := final (.affinity .stopped ⟨none, 0, 0⟩) trivial
      simp [daemonRun, step, State.affinity, stage] at stuck
  | opening =>
      have stuck := final (.opened .stopped) trivial
      simp [daemonRun, step, State.opened, stage] at stuck
  | joining =>
      rw [Stands, stage] at stands
      obtain ⟨_, _, fd, device, sound⟩ := stands
      have ended : ∀ qId < queueCount info, (daemon.queues qId).task.isEnded = true := by
        intro qId inside
        cases task : (daemon.queues qId).task with
        | ended => rfl
        | failed => rfl
        | spawned =>
            obtain ⟨changed, started⟩ := @startTask_enabled info options _ fd qId task
            exact absurd (final (.start qId (.ok fun _ => 0)) trivial) (onQueue_enabled stage device inside started)
        | serving config run =>
            obtain ⟨action, changed, winds, stepped⟩ := stepQueue_enabled (sound qId inside) task
            exact absurd (final (.queue qId action) winds) (onQueue_enabled stage device inside stepped)
      have stuck := final .join trivial
      simp only [daemonRun, step, join, stage] at stuck
      rw [if_pos ended] at stuck
      cases stuck

/-- `daemon::run` returns. From every state of every run, once the driver has no more
requests, every schedule of what is left to happen on all the queues ends after at most
`effort` steps, and only because `daemon::run` has returned. -/
theorem daemon_returns (reached : Reachable (daemonRun info options) (onQueues fetchAnswers) daemon) :
    ComesToRest (daemonRun info options) windsDown (effort info daemon)
      (fun daemon => ∃ how, daemon.stage = .returned how) daemon := by
  apply comesToRest (effort info) _ (fun holds final => returned_of_final (Stands.reachable holds) final) reached
  intro before after action holds winds taken
  refine ⟨holds.next ?_ taken, effort_lowers (Stands.reachable holds) winds taken⟩
  cases action with
  | queue qId action => exact fun _ _ _ => fetchAnswers_of_windsDown winds
  | _ => trivial

/-- The steps of a daemon before its queues take theirs. -/
def startsUp : DaemonAction → Bool
  | .queue _ _ => false
  | _ => true

theorem daemon_returns_twoQueues :
    ∃ daemon, Reachable (daemonRun twoQueues withHooks) (onQueues fetchAnswers) daemon ∧
      daemon.stage = .joining ∧
      ComesToRest (daemonRun twoQueues withHooks) windsDown (effort twoQueues daemon)
        (fun daemon => ∃ how, daemon.stage = .returned how) daemon := by
  obtain ⟨daemon, started, stage⟩ :=
    exists_of_replay (daemonRun twoQueues withHooks) (fun _ action => startsUp action = true)
      twoQueuesStarted (fun daemon => daemon.stage = .joining) (by decide)
  have reached : Reachable (daemonRun twoQueues withHooks) (onQueues fetchAnswers) daemon := by
    refine started.weaken fun {_ action} starts => ?_
    cases action with
    | queue => simp [startsUp] at starts
    | _ => trivial
  exact ⟨daemon, reached, stage, daemon_returns reached⟩

end Ublk.Daemon
