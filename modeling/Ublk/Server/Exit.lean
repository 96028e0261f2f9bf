import Ublk.Daemon.Termination
import Ublk.Server.Lifecycle

namespace Ublk.Server

open Ublk.Data Ublk.Machine Ublk.Control Ublk.Daemon

/-! # The end of a server

Nothing keeps a server whose device has no more requests: the daemon returns, whoever
stopped the device, and the wait for a signal is stopped with it.
-/

variable {info : DevInfo} {options : Options} {server after : State} {how : CallEnd Unit}

def Branch.effort : Branch → Nat
  | .starting => 3
  | .waiting => 2
  | .stopping => 1
  | .ended _ => 0

def stagesLeft : Stage → Nat
  | .askingFeatures => 5
  | .settingUp => 4
  | .configuring => 3
  | .running => 2
  | .deleting => 1
  | .exited _ => 0

def effort (info : DevInfo) (server : State) : Nat :=
  stagesLeft server.stage + Daemon.effort info server.daemon + server.branch.effort

/-- What is left to happen when the driver has no more requests. -/
def windsDown (server : State) : Action → Prop
  | .daemon action => Daemon.windsDown server.daemon action
  | _ => True

/-! ## The daemon in a server -/

/-- The driver answers the fetches of the batched queues. -/
def answers (server : State) : Action → Prop
  | .daemon action => onQueues fetchAnswers server.daemon action
  | _ => True

section Daemon

variable (server : State) (how : CallEnd Unit)

theorem sequel_daemon (next : Stage) (event : Event) : (server.sequel how next event).daemon = server.daemon := by
  cases how <;> rfl

theorem arrive_daemon : (server.arrive how).daemon = server.daemon := by
  simp only [State.arrive]
  split <;> rfl

theorem meet_daemon : server.meet.daemon = server.daemon := by
  rw [State.meet]
  split
  · split <;> rfl
  · rfl

theorem daemonReturned_daemon : (server.daemonReturned how).daemon = server.daemon := by
  cases how <;> rfl

theorem endBranch_daemon : (server.endBranch how).daemon = server.daemon := by
  rw [State.endBranch, meet_daemon, arrive_daemon]

end Daemon

/-- A server takes the steps of its daemon, and none that the daemon does not take. -/
theorem step_daemon {action : Action} (taken : server.step info options action = some after) :
    match action with
    | .daemon own => (daemonRun info options).step server.daemon own = some after.daemon
    | _ => after.daemon = server.daemon := by
  cases action with
  | daemon own =>
      simp only [State.step, State.runDaemon] at taken ⊢
      split at taken
      case h_2 => contradiction
      split at taken
      · contradiction
      · rename_i daemon moved
        rw [moved]
        split at taken
        · cases taken
          rw [meet_daemon, arrive_daemon, daemonReturned_daemon]
        · cases taken
          rfl
  | features how =>
      simp only [State.step, State.features] at taken ⊢
      split at taken
      · cases taken
        exact sequel_daemon ..
      · contradiction
  | setUp how =>
      simp only [State.step, State.setUp] at taken ⊢
      split at taken
      · cases taken
        exact sequel_daemon ..
      · contradiction
  | configured how =>
      simp only [State.step, State.configured] at taken ⊢
      split at taken
      · cases taken
        exact sequel_daemon ..
      · contradiction
  | started how =>
      simp only [State.step, State.started] at taken ⊢
      split at taken
      case h_2 => contradiction
      simp only [Option.ite_none_right_eq_some] at taken
      obtain ⟨_, taken⟩ := taken
      split at taken
      · cases taken
        rfl
      · cases taken
        exact endBranch_daemon ..
  | signal how =>
      simp only [State.step, State.signal] at taken ⊢
      split at taken
      case h_2 => contradiction
      simp only [Option.ite_none_right_eq_some] at taken
      obtain ⟨_, taken⟩ := taken
      split at taken
      · cases taken
        rfl
      · cases taken
        exact endBranch_daemon ..
  | stopDev how =>
      simp only [State.step, State.stopDev] at taken ⊢
      split at taken
      case h_2 => contradiction
      simp only [Option.ite_none_right_eq_some] at taken
      obtain ⟨_, taken⟩ := taken
      split at taken
      · cases taken
        exact endBranch_daemon ..
      · cases taken
        exact endBranch_daemon ..
  | deleted how =>
      simp only [State.step, State.deleted] at taken ⊢
      split at taken
      · cases how <;> cases taken <;> rfl
      · contradiction

theorem daemon_reachable (reached : Reachable (exampleServer info options) answers server) :
    Reachable (daemonRun info options) (onQueues fetchAnswers) server.daemon := by
  induction reached with
  | initial => exact .initial
  | @next before after action _ permitted taken ih =>
      have moved := step_daemon taken
      cases action with
      | daemon own => exact ih.next permitted moved
      | _ => exact moved ▸ ih

/-! ## One step -/

theorem effort_sequel {next : Stage} {event : Event} (later : stagesLeft next < stagesLeft server.stage) :
    effort info (server.sequel how next event) < effort info server := by
  have exits : 0 < stagesLeft server.stage := Nat.zero_lt_of_lt later
  cases how with
  | value => simpa [effort, State.sequel, State.record] using later
  | error err => simpa [effort, State.sequel, stagesLeft] using exits
  | stopped => simpa [effort, State.sequel, stagesLeft] using exits

theorem effort_arrive (server : State) (how : CallEnd Unit) :
    effort info (server.arrive how) = effort info server := by
  simp only [State.arrive]
  split <;> rfl

theorem effort_daemonReturned (server : State) (how : CallEnd Unit) :
    effort info (server.daemonReturned how) = effort info server := by
  cases how <;> rfl

theorem effort_meet (running : server.stage = .running) : effort info server.meet ≤ effort info server := by
  rw [State.meet]
  split
  · split
    · simp [effort, State.record, running, stagesLeft]
    · simp [effort, running, stagesLeft]
  · exact Nat.le_refl _

theorem effort_endBranch (running : server.stage = .running) (going : 0 < server.branch.effort) :
    effort info (server.endBranch how) < effort info server := by
  have ended : effort info { server with branch := .ended how } < effort info server := by
    simpa [effort, Branch.effort] using going
  have met : effort info (server.endBranch how) ≤ effort info (State.arrive { server with branch := .ended how } how) := by
    apply effort_meet
    rw [arrive_stage]
    exact running
  rw [effort_arrive] at met
  omega

theorem effort_runDaemon {action : DaemonAction}
    (reached : Reachable (daemonRun info options) (onQueues fetchAnswers) server.daemon)
    (winds : Daemon.windsDown server.daemon action)
    (taken : server.runDaemon info options action = some after) : effort info after < effort info server := by
  simp only [State.runDaemon] at taken
  split at taken
  case h_2 => contradiction
  rename_i running
  split at taken
  · contradiction
  rename_i daemon moved
  have less := Daemon.effort_lowers (Daemon.Stands.reachable reached) winds moved
  have lowered : effort info { server with daemon } < effort info server := by
    simp only [effort]
    omega
  split at taken
  · rename_i how stage
    cases taken
    have met : effort info (((State.daemonReturned { server with daemon } how).arrive how).meet) ≤
        effort info ((State.daemonReturned { server with daemon } how).arrive how) := by
      apply effort_meet
      rw [arrive_stage, daemonReturned_stage]
      exact running
    rw [effort_arrive, effort_daemonReturned] at met
    exact Nat.lt_of_le_of_lt met lowered
  · cases taken
    exact lowered

theorem effort_lowers {action : Action}
    (reached : Reachable (daemonRun info options) (onQueues fetchAnswers) server.daemon) (winds : windsDown server action)
    (taken : server.step info options action = some after) : effort info after < effort info server := by
  cases action with
  | features how =>
      simp only [State.step, State.features] at taken
      split at taken
      case h_2 => contradiction
      rename_i stage
      cases taken
      exact effort_sequel (by simp [stage, stagesLeft])
  | setUp how =>
      simp only [State.step, State.setUp] at taken
      split at taken
      case h_2 => contradiction
      rename_i stage
      cases taken
      exact effort_sequel (by simp [stage, stagesLeft])
  | configured how =>
      simp only [State.step, State.configured] at taken
      split at taken
      case h_2 => contradiction
      rename_i stage
      cases taken
      exact effort_sequel (by simp [stage, stagesLeft])
  | daemon action => exact effort_runDaemon reached winds taken
  | started how =>
      simp only [State.step, State.started] at taken
      split at taken
      case h_2 => contradiction
      rename_i running branch
      simp only [Option.ite_none_right_eq_some] at taken
      obtain ⟨_, taken⟩ := taken
      split at taken
      · cases taken
        simp [effort, branch, Branch.effort]
      · cases taken
        exact effort_endBranch running (by simp [branch, Branch.effort])
  | signal how =>
      simp only [State.step, State.signal] at taken
      split at taken
      case h_2 => contradiction
      rename_i running branch
      simp only [Option.ite_none_right_eq_some] at taken
      obtain ⟨_, taken⟩ := taken
      split at taken
      · cases taken
        simp [effort, State.record, branch, Branch.effort]
      · cases taken
        exact effort_endBranch running (by simp [branch, Branch.effort])
  | stopDev how =>
      simp only [State.step, State.stopDev] at taken
      split at taken
      case h_2 => contradiction
      rename_i running branch
      simp only [Option.ite_none_right_eq_some] at taken
      obtain ⟨_, taken⟩ := taken
      split at taken
      · cases taken
        exact @effort_endBranch info (server.record .stopped) _ running (by simp [State.record, branch, Branch.effort])
      · cases taken
        exact effort_endBranch running (by simp [branch, Branch.effort])
  | deleted how =>
      simp only [State.step, State.deleted] at taken
      split at taken
      case h_2 => contradiction
      rename_i stage
      cases how <;> cases taken <;> simp [effort, State.record, stage, stagesLeft]

/-! ## The end -/

/-- The server stops in front of its end only where the daemon stops. -/
theorem exited_of_final (reached : Reachable (exampleServer info options) answers server)
    (final : Final (exampleServer info options) windsDown server) : ∃ how, server.stage = .exited how := by
  have stands := Stands.reachable reached
  cases stage : server.stage with
  | exited how => exact ⟨how, rfl⟩
  | askingFeatures =>
      have stuck := final (.features (.value ())) trivial
      simp [exampleServer, State.step, State.features, stage] at stuck
  | settingUp =>
      have stuck := final (.setUp (.value ())) trivial
      simp [exampleServer, State.step, State.setUp, stage] at stuck
  | configuring =>
      have stuck := final (.configured (.value ())) trivial
      simp [exampleServer, State.step, State.configured, stage] at stuck
  | deleting =>
      have stuck := final (.deleted (.value ())) trivial
      simp [exampleServer, State.step, State.deleted, stage] at stuck
  | running =>
      simp only [Stands, stage] at stands
      obtain ⟨going, unmet⟩ := stands
      have resting : Final (daemonRun info options) Daemon.windsDown server.daemon := by
        intro action winds
        have stuck := final (.daemon action) winds
        simp only [exampleServer, State.step, State.runDaemon, stage] at stuck
        split at stuck
        · assumption
        · split at stuck <;> cases stuck
      obtain ⟨how, returned⟩ := Daemon.returned_of_final (Daemon.Stands.reachable (daemon_reachable reached)) resting
      have ended : server.daemonEnded = true := by simp [State.daemonEnded, returned]
      cases branch : server.branch with
      | starting =>
          have stuck := final (.started (.value ())) trivial
          simp [exampleServer, State.step, State.started, stage, branch, State.allows] at stuck
      | waiting =>
          have woken := going.woken branch ended
          have stuck := final (.signal .stopped) trivial
          simp [exampleServer, State.step, State.signal, stage, branch, State.allows, woken] at stuck
      | stopping =>
          have stuck := final (.stopDev (.value ())) trivial
          simp [exampleServer, State.step, State.stopDev, stage, branch, State.allows] at stuck
      | ended how => simp [ended, branch, Branch.isEnded] at unmet

theorem answers_of_windsDown {action : Action} (winds : windsDown server action) : answers server action := by
  cases action with
  | daemon action =>
      cases action with
      | queue qId action => exact fun _ _ _ => fetchAnswers_of_windsDown winds
      | _ => trivial
  | _ => trivial

/-- A server exits. From every state of every run, once the driver has no more requests
for its device, every schedule of what is left to happen ends within `effort` steps, and
only with the server, whether a signal comes or not. -/
theorem server_exits (reached : Reachable (exampleServer info options) answers server) :
    ComesToRest (exampleServer info options) windsDown (effort info server)
      (fun server => ∃ how, server.stage = .exited how) server := by
  apply comesToRest (effort info) _ exited_of_final reached
  intro before after action runs winds taken
  exact ⟨runs.next (answers_of_windsDown winds) taken, effort_lowers (daemon_reachable runs) winds taken⟩

def plainOnly : Action → Bool
  | .daemon (.queue _ (.batch _)) => false
  | _ => true

theorem answers_of_plainOnly {action : Action} (plain : plainOnly action = true) : answers server action := by
  cases action with
  | daemon action =>
      cases action with
      | queue qId action =>
          cases action with
          | plain action => exact fun _ _ _ => trivial
          | batch action => cases plain
      | _ => trivial
  | _ => trivial

/-- A server that waits for a signal which never comes. -/
theorem server_exits_waiting :
    ∃ server, Reachable (exampleServer twoQueues withHooks) answers server ∧ server.branch = .waiting ∧
      ComesToRest (exampleServer twoQueues withHooks) windsDown (effort twoQueues server)
        (fun server => ∃ how, server.stage = .exited how) server := by
  obtain ⟨server, replayed, branch⟩ :=
    exists_of_replay (exampleServer twoQueues withHooks) (fun _ action => plainOnly action = true)
      startedServer (fun server => server.branch = .waiting) (by decide)
  have reached : Reachable (exampleServer twoQueues withHooks) answers server :=
    replayed.weaken fun plain => answers_of_plainOnly plain
  exact ⟨server, reached, branch, server_exits reached⟩

end Ublk.Server
