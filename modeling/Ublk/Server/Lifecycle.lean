import Ublk.Daemon.Isolation
import Ublk.Machine.Guarded

namespace Ublk.Server

open Ublk.Data Ublk.Machine Ublk.Control Ublk.Daemon

/-! # The servers in `examples`

The pipeline of `nop.cpp` and `loop.cpp`: features, `daemon::setup` and `daemon::configure`
in sequence, then `daemon::run` beside `daemon::start` with `wait_signal` behind it, and
`del_dev` in the end. The two branches meet in `when_all`, which stops one when the other
fails; a source of the server's own stops the wait for a signal when the daemon returns.
-/

/-- Where the second branch is. At `waiting` and `stopping` the callback of `wait_signal`
hangs on the stop token of `when_all`. -/
inductive Branch where
  | starting
  | waiting
  | stopping
  | ended (how : CallEnd Unit)
deriving DecidableEq

def Branch.isEnded : Branch → Bool
  | .ended _ => true
  | _ => false

def Branch.hasCallback : Branch → Bool
  | .waiting => true
  | .stopping => true
  | _ => false

inductive Stage where
  | askingFeatures
  | settingUp
  | configuring
  | running
  | deleting
  | exited (how : CallEnd Unit)
deriving DecidableEq

/-- What the server does that others can see. Commands are recorded when they are issued,
`stopped` and `deleted` are their success. -/
inductive Event where
  | setup
  | configure
  | start
  | signalled
  | stopDev
  | stopped
  | daemonReturned (how : CallEnd Unit)
  | delDev
  | deleted
deriving DecidableEq

/-- `met` is what `when_all` will complete with, as far as its branches have arrived, and
`allStop` its stop source; `sourceStop` is `stop_source`. -/
structure State where
  stage : Stage
  daemon : Daemon.State
  branch : Branch
  met : CallEnd Unit
  allStop : Bool
  sourceStop : Bool
  history : List Event

inductive Action where
  | features (how : CallEnd Unit)
  | setUp (how : CallEnd Unit)
  | configured (how : CallEnd Unit)
  | daemon (action : DaemonAction)
  | started (how : CallEnd Unit)
  | signal (how : CallEnd Unit)
  | stopDev (how : CallEnd Unit)
  | deleted (how : CallEnd Unit)

variable (info : DevInfo) (options : Options)

namespace State

def record (server : State) (event : Event) : State := { server with history := server.history ++ [event] }

/-- The next operation in sequence begins where the last one had a value. -/
def sequel (server : State) (how : CallEnd Unit) (next : Stage) (event : Event) : State :=
  match how with
  | .value _ => { server.record event with stage := next }
  | how => { server with stage := .exited how }

def features (server : State) (how : CallEnd Unit) : Option State :=
  match server.stage with
  | .askingFeatures => some (server.sequel how .settingUp .setup)
  | _ => none

def setUp (server : State) (how : CallEnd Unit) : Option State :=
  match server.stage with
  | .settingUp => some (server.sequel how .configuring .configure)
  | _ => none

def configured (server : State) (how : CallEnd Unit) : Option State :=
  match server.stage with
  | .configuring => some (server.sequel how .running .start)
  | _ => none

/-! ## `when_all` -/

/-- A stop request to both branches runs the callback of `wait_signal` if it is there. -/
def requestStop (server : State) : State :=
  { server with allStop := true, sourceStop := server.sourceStop || server.branch.hasCallback }

/-- A branch arrives. The first error counts, an error more than a stop. -/
def arrive (server : State) (how : CallEnd Unit) : State :=
  match how, server.met with
  | .value _, _ => server
  | .error _, .error _ => server
  | .error err, _ => { server with met := .error err }.requestStop
  | .stopped, .value _ => { server with met := .stopped }.requestStop
  | .stopped, _ => server

def daemonEnded (server : State) : Bool :=
  match server.daemon.stage with
  | .returned _ => true
  | _ => false

/-- The last branch to arrive completes `when_all`. -/
def meet (server : State) : State :=
  if server.daemonEnded && server.branch.isEnded then
    match server.met with
    | .value _ => { server.record .delDev with stage := .deleting }
    | how => { server with stage := .exited how }
  else server

/-- `then` behind `daemon::run` requests the stop of the wait, if it had a value. -/
def daemonReturned (server : State) (how : CallEnd Unit) : State :=
  let server := server.record (.daemonReturned how)
  match how with
  | .value _ => { server with sourceStop := true }
  | _ => server

def runDaemon (server : State) (action : DaemonAction) : Option State :=
  match server.stage with
  | .running =>
      match (daemonRun info options).step server.daemon action with
      | none => none
      | some daemon =>
          let server := { server with daemon }
          match daemon.stage with
          | .returned how => some (((server.daemonReturned how).arrive how).meet)
          | _ => some server
  | _ => none

def endBranch (server : State) (how : CallEnd Unit) : State := ({ server with branch := .ended how }.arrive how).meet

/-- An operation completes as stopped only if that was requested. -/
def allows (requested : Bool) : CallEnd Unit → Bool
  | .stopped => requested
  | _ => true

/-- `wait_signal` begins: its callback runs at once if the stop was requested before. -/
def started (server : State) (how : CallEnd Unit) : Option State :=
  match server.stage, server.branch with
  | .running, .starting =>
      if allows server.allStop how then
        match how with
        | .value _ => some { server with branch := .waiting, sourceStop := server.sourceStop || server.allStop }
        | how => some (server.endBranch how)
      else none
  | _, _ => none

def signal (server : State) (how : CallEnd Unit) : Option State :=
  match server.stage, server.branch with
  | .running, .waiting =>
      if allows server.sourceStop how then
        match how with
        | .value _ => some { (server.record .signalled).record .stopDev with branch := .stopping }
        | how => some (server.endBranch how)
      else none
  | _, _ => none

def stopDev (server : State) (how : CallEnd Unit) : Option State :=
  match server.stage, server.branch with
  | .running, .stopping =>
      if allows server.allStop how then
        match how with
        | .value _ => some ((server.record .stopped).endBranch (.value ()))
        | how => some (server.endBranch how)
      else none
  | _, _ => none

def deleted (server : State) (how : CallEnd Unit) : Option State :=
  match server.stage with
  | .deleting =>
      match how with
      | .value _ => some { server.record .deleted with stage := .exited how }
      | how => some { server with stage := .exited how }
  | _ => none

def step (server : State) : Action → Option State
  | .features how => server.features how
  | .setUp how => server.setUp how
  | .configured how => server.configured how
  | .daemon action => server.runDaemon info options action
  | .started how => server.started how
  | .signal how => server.signal how
  | .stopDev how => server.stopDev how
  | .deleted how => server.deleted how

end State

def exampleServer : System State Action where
  initial :=
    { stage := .askingFeatures, daemon := Daemon.initial, branch := .starting, met := .value (), allStop := false,
      sourceStop := false, history := [] }
  step := State.step info options

/-! ## What holds on the way -/

/-- What has to have happened before an event. -/
def lawful (front : List Event) : Event → Prop
  | .signalled => .signalled ∉ front
  | .stopDev => .signalled ∈ front ∧ .stopDev ∉ front
  | .stopped => .stopDev ∈ front
  | .delDev => .stopped ∈ front ∧ .daemonReturned (.value ()) ∈ front ∧ .delDev ∉ front
  | .deleted => .delDev ∈ front ∧ .deleted ∉ front
  | _ => True

/-- What a branch has left in the history. -/
def Branch.Trail (history : List Event) : Branch → Prop
  | .starting => .signalled ∉ history ∧ .stopDev ∉ history
  | .waiting => .signalled ∉ history ∧ .stopDev ∉ history
  | .stopping => .stopDev ∈ history
  | .ended how => how = .value () → .stopped ∈ history

/-- The facts about a server up to the end of both branches. Whatever ends the daemon
leaves a stop request for a wait that has begun or is going to begin: the source's own
after a value, that of `when_all` otherwise. A completion that is `pending` has not arrived
at `when_all` yet. -/
structure Going (pending : CallEnd Unit) (server : State) : Prop where
  law : Guarded lawful server.history
  undeleted : .delDev ∉ server.history ∧ .deleted ∉ server.history
  value : server.daemon.stage = .returned (.value ()) →
    server.sourceStop = true ∧ .daemonReturned (.value ()) ∈ server.history
  daemonFailed : ∀ how, server.daemon.stage = .returned how → how ≠ .value () →
    server.met ≠ .value () ∨ how = pending
  branchFailed : ∀ how, server.branch = .ended how → how ≠ .value () →
    server.met ≠ .value () ∨ how = pending
  stopsAll : server.met ≠ .value () → server.allStop = true
  callback : server.allStop = true → server.branch.hasCallback = true → server.sourceStop = true
  trail : server.branch.Trail server.history

variable {info options} {server after : State} {pending how : CallEnd Unit}

/-- No signal is waited for in vain: the daemon is still there, or the stop of the wait
has been requested. -/
theorem Going.woken (going : Going (.value ()) server) (waiting : server.branch = .waiting)
    (ended : server.daemonEnded = true) : server.sourceStop = true := by
  simp only [State.daemonEnded] at ended
  split at ended
  case h_2 => cases ended
  rename_i how stage
  by_cases succeeded : how = .value ()
  · subst succeeded
    exact (going.value stage).1
  · rcases going.daemonFailed how stage succeeded with failed | same
    · exact going.callback (going.stopsAll failed) (by rw [waiting]; rfl)
    · exact absurd same succeeded

/-- A completion that changes what `when_all` completes with stops both branches. -/
theorem Going.stops (going : Going pending server) (met : CallEnd Unit) (failed : met ≠ .value ()) :
    Going (.value ()) (State.requestStop { server with met }) where
  law := going.law
  undeleted := going.undeleted
  value := fun stage => by simp [State.requestStop, going.value stage]
  daemonFailed := fun _ _ _ => .inl failed
  branchFailed := fun _ _ _ => .inl failed
  stopsAll := fun _ => rfl
  callback := fun _ has => by
    have has : server.branch.hasCallback = true := has
    simp [State.requestStop, has]
  trail := going.trail

theorem Going.arrived (going : Going pending server)
    (counted : pending ≠ .value () → server.met ≠ .value ()) : Going (.value ()) server :=
  { going with
    daemonFailed := fun how stage failed => by
      rcases going.daemonFailed how stage failed with met | same
      · exact .inl met
      · exact .inl (counted (same ▸ failed))
    branchFailed := fun how stage failed => by
      rcases going.branchFailed how stage failed with met | same
      · exact .inl met
      · exact .inl (counted (same ▸ failed)) }

theorem Going.arrive (going : Going pending server) :
    Going (.value ()) (server.arrive pending) := by
  simp only [State.arrive]
  split
  · exact going.arrived fun failed => absurd rfl failed
  · rename_i met
    exact going.arrived fun _ => by simp [met]
  · exact going.stops _ (by simp)
  · exact going.stops _ (by simp)
  · rename_i other
    apply going.arrived
    intro _ succeeded
    exact other () succeeded

/-- What holds at each stage. -/
def Stands (server : State) : Prop :=
  match server.stage with
  | .askingFeatures | .settingUp | .configuring =>
      Going (.value ()) server ∧ server.daemon = Daemon.initial ∧ server.branch = .starting ∧
        .start ∉ server.history
  | .running => Going (.value ()) server ∧ (server.daemonEnded && server.branch.isEnded) = false
  | .deleting =>
      Guarded lawful server.history ∧ .delDev ∈ server.history ∧ .deleted ∉ server.history ∧
        server.daemonEnded = true
  | .exited how =>
      Guarded lawful server.history ∧ (how = .value () ↔ .deleted ∈ server.history) ∧
        (.start ∈ server.history → server.daemonEnded = true)

/-- Recording an event that the branches do not leave behind. -/
theorem Going.record (going : Going pending server) {event : Event} (now : lawful server.history event)
    (early : event = .setup ∨ event = .configure ∨ event = .start ∨ ∃ how, event = .daemonReturned how) :
    Going pending (server.record event) := by
  have others {other : Event} (absent : other ∉ server.history) (differs : other ≠ event) :
      other ∉ server.history ++ [event] := by
    simp [absent, differs]
  have differs {other : Event} (late : other = .delDev ∨ other = .deleted ∨ other = .signalled ∨ other = .stopDev) :
      other ≠ event := by
    rintro rfl
    rcases late with rfl | rfl | rfl | rfl <;> simp at early
  exact {
    law := going.law.snoc now
    undeleted := ⟨others going.undeleted.1 (differs (by simp)), others going.undeleted.2 (differs (by simp))⟩
    value := fun stage => ⟨(going.value stage).1, List.mem_append_left _ (going.value stage).2⟩
    daemonFailed := going.daemonFailed
    branchFailed := going.branchFailed
    stopsAll := going.stopsAll
    callback := going.callback
    trail := by
      have trail := going.trail
      simp only [State.record]
      cases branch : server.branch with
      | starting | waiting =>
          rw [branch] at trail
          exact ⟨others trail.1 (differs (by simp)), others trail.2 (differs (by simp))⟩
      | stopping =>
          rw [branch] at trail
          exact List.mem_append_left _ trail
      | ended how =>
          rw [branch] at trail
          exact fun succeeded => List.mem_append_left _ (trail succeeded) }

theorem Going.meet (going : Going (.value ()) server) (running : server.stage = .running) :
    Stands server.meet := by
  rw [State.meet]
  split
  · rename_i both
    simp only [Bool.and_eq_true] at both
    obtain ⟨daemonEnded, branchEnded⟩ := both
    split
    · rename_i met
      obtain ⟨how, branch⟩ : ∃ how, server.branch = .ended how := by
        cases branch : server.branch <;> simp [branch, Branch.isEnded] at branchEnded ⊢
      obtain ⟨last, stage⟩ : ∃ last, server.daemon.stage = .returned last := by
        simp only [State.daemonEnded] at daemonEnded
        split at daemonEnded
        · exact ⟨_, ‹_›⟩
        · cases daemonEnded
      have branchSucceeded : how = .value () := by
        by_contra failed
        rcases going.branchFailed how branch failed with unmet | same
        · exact unmet met
        · exact failed same
      have daemonSucceeded : last = .value () := by
        by_contra failed
        rcases going.daemonFailed last stage failed with unmet | same
        · exact unmet met
        · exact failed same
      subst branchSucceeded daemonSucceeded
      have trail := going.trail
      rw [branch] at trail
      have now : lawful server.history .delDev := ⟨trail rfl, (going.value stage).2, going.undeleted.1⟩
      refine ⟨going.law.snoc now, by simp [State.record], ?_, daemonEnded⟩
      simp [State.record, going.undeleted.2]
    · rename_i failed
      refine ⟨going.law, ?_, fun _ => daemonEnded⟩
      constructor
      · intro succeeded
        exact absurd succeeded (failed ())
      · intro member
        exact absurd member going.undeleted.2
  · rename_i unmet
    rw [Stands, running]
    exact ⟨going, by simpa using unmet⟩

/-! ## One step -/

theorem sequel_exits {next : Stage} {event : Event} (failed : how ≠ .value ()) :
    server.sequel how next event = { server with stage := .exited how } := by
  cases how with
  | value => exact absurd rfl failed
  | error err => rfl
  | stopped => rfl

theorem Going.exits (going : Going (.value ()) server) (unstarted : .start ∉ server.history)
    (failed : how ≠ .value ()) : Stands { server with stage := .exited how } := by
  refine ⟨going.law, ?_, fun started => absurd started unstarted⟩
  constructor
  · intro succeeded
    exact absurd succeeded failed
  · intro member
    exact absurd member going.undeleted.2

/-- The facts say nothing about the stage. -/
theorem Going.atStage (going : Going pending server) (stage : Stage) :
    Going pending { server with stage } :=
  ⟨going.law, going.undeleted, going.value, going.daemonFailed, going.branchFailed, going.stopsAll,
    going.callback, going.trail⟩

theorem Stands.features (stands : Stands server) (taken : server.features how = some after) :
    Stands after := by
  simp only [State.features] at taken
  split at taken
  case h_2 => contradiction
  rename_i stage
  simp only [Stands, stage] at stands
  obtain ⟨going, fresh, branch, unstarted⟩ := stands
  cases taken
  by_cases succeeded : how = .value ()
  · subst succeeded
    have recorded : Going (.value ()) (server.record .setup) := going.record trivial (by simp)
    exact ⟨recorded.atStage .settingUp, fresh, branch, by simp [State.sequel, State.record, unstarted]⟩
  · rw [sequel_exits succeeded]
    exact going.exits unstarted succeeded

theorem Stands.setUp (stands : Stands server) (taken : server.setUp how = some after) :
    Stands after := by
  simp only [State.setUp] at taken
  split at taken
  case h_2 => contradiction
  rename_i stage
  simp only [Stands, stage] at stands
  obtain ⟨going, fresh, branch, unstarted⟩ := stands
  cases taken
  by_cases succeeded : how = .value ()
  · subst succeeded
    have recorded : Going (.value ()) (server.record .configure) := going.record trivial (by simp)
    exact ⟨recorded.atStage .configuring, fresh, branch, by simp [State.sequel, State.record, unstarted]⟩
  · rw [sequel_exits succeeded]
    exact going.exits unstarted succeeded

theorem Stands.configured (stands : Stands server) (taken : server.configured how = some after) :
    Stands after := by
  simp only [State.configured] at taken
  split at taken
  case h_2 => contradiction
  rename_i stage
  simp only [Stands, stage] at stands
  obtain ⟨going, fresh, branch, unstarted⟩ := stands
  cases taken
  by_cases succeeded : how = .value ()
  · subst succeeded
    have recorded : Going (.value ()) (server.record .start) := going.record trivial (by simp)
    refine ⟨recorded.atStage .running, ?_⟩
    simp [State.daemonEnded, State.sequel, State.record, fresh, Daemon.initial]
  · rw [sequel_exits succeeded]
    exact going.exits unstarted succeeded

/-- The daemon goes on. -/
theorem Going.daemon {daemon : Daemon.State} (going : Going (.value ()) server)
    (unreturned : ∀ how, daemon.stage ≠ .returned how) :
    Going (.value ()) { server with daemon } :=
  { going with
    value := fun stage => absurd stage (unreturned _)
    daemonFailed := fun how stage => absurd stage (unreturned how) }

theorem daemonReturned_failed (server : State) (failed : how ≠ .value ()) :
    server.daemonReturned how = server.record (.daemonReturned how) := by
  cases how with
  | value => exact absurd rfl failed
  | error err => rfl
  | stopped => rfl

/-- The daemon returns. -/
theorem Going.daemonReturned {daemon : Daemon.State} (going : Going (.value ()) server)
    (stage : daemon.stage = .returned how) :
    Going how (State.daemonReturned { server with daemon } how) := by
  have recorded : Going (.value ()) (server.record (.daemonReturned how)) :=
    going.record trivial (.inr (.inr (.inr ⟨how, rfl⟩)))
  have own {other : CallEnd Unit} (same : daemon.stage = .returned other) : other = how := by
    rw [stage] at same
    cases same
    rfl
  have branchFailed : ∀ other, server.branch = .ended other → other ≠ .value () →
      server.met ≠ .value () ∨ other = how := by
    intro other ended failed
    rcases going.branchFailed other ended failed with met | same
    · exact .inl met
    · exact absurd same failed
  by_cases succeeded : how = .value ()
  · subst succeeded
    exact {
      law := recorded.law
      undeleted := recorded.undeleted
      value := fun _ => ⟨rfl, by simp [State.daemonReturned, State.record]⟩
      daemonFailed := fun other same failed => absurd (own same) failed
      branchFailed
      stopsAll := recorded.stopsAll
      callback := fun _ _ => rfl
      trail := recorded.trail }
  · rw [daemonReturned_failed _ succeeded]
    exact {
      law := recorded.law
      undeleted := recorded.undeleted
      value := fun same => absurd (own same).symm succeeded
      daemonFailed := fun other same _ => .inr (own same)
      branchFailed
      stopsAll := recorded.stopsAll
      callback := recorded.callback
      trail := recorded.trail }

theorem arrive_stage (server : State) (how : CallEnd Unit) : (server.arrive how).stage = server.stage := by
  simp only [State.arrive]
  split <;> rfl

theorem daemonReturned_stage (server : State) (how : CallEnd Unit) :
    (server.daemonReturned how).stage = server.stage := by
  cases how <;> rfl

theorem Stands.runDaemon {action : DaemonAction} (stands : Stands server)
    (taken : server.runDaemon info options action = some after) : Stands after := by
  simp only [State.runDaemon] at taken
  split at taken
  case h_2 => contradiction
  rename_i running
  simp only [Stands, running] at stands
  obtain ⟨going, unmet⟩ := stands
  split at taken
  · contradiction
  rename_i daemon moved
  split at taken
  · rename_i how stage
    cases taken
    apply ((going.daemonReturned stage).arrive).meet
    rw [arrive_stage, daemonReturned_stage]
    exact running
  · rename_i unreturned
    cases taken
    simp only [Stands, running]
    refine ⟨(going.daemon unreturned).atStage .running, ?_⟩
    simp only [State.daemonEnded, Bool.false_and]

/-- The second branch ends. -/
theorem Going.endBranch (going : Going (.value ()) server) (running : server.stage = .running)
    (left : how = .value () → .stopped ∈ server.history) : Stands (server.endBranch how) := by
  have ended : Going how { server with branch := .ended how } := {
    law := going.law
    undeleted := going.undeleted
    value := going.value
    daemonFailed := fun other stage failed => (going.daemonFailed other stage failed).imp_right
      fun same => absurd same failed
    branchFailed := fun other same _ => by
      cases same
      exact .inr rfl
    stopsAll := going.stopsAll
    callback := fun _ has => by cases has
    trail := left }
  apply ended.arrive.meet
  rw [arrive_stage]
  exact running

theorem Stands.started (stands : Stands server) (taken : server.started how = some after) :
    Stands after := by
  simp only [State.started] at taken
  split at taken
  case h_2 => contradiction
  rename_i running branch
  simp only [Stands, running] at stands
  obtain ⟨going, unmet⟩ := stands
  simp only [Option.ite_none_right_eq_some] at taken
  obtain ⟨_, taken⟩ := taken
  split at taken
  · cases taken
    have trail := going.trail
    rw [branch] at trail
    simp only [Stands, running]
    refine ⟨?_, by simp [Branch.isEnded]⟩
    exact {
      law := going.law
      undeleted := going.undeleted
      value := fun stage => by simp [going.value stage]
      daemonFailed := going.daemonFailed
      branchFailed := fun _ same => by cases same
      stopsAll := going.stopsAll
      callback := fun stopped _ => by
        have stopped : server.allStop = true := stopped
        simp [stopped]
      trail }
  · rename_i failed
    cases taken
    exact going.endBranch running fun succeeded => absurd succeeded (failed ())

theorem Stands.signal (stands : Stands server) (taken : server.signal how = some after) :
    Stands after := by
  simp only [State.signal] at taken
  split at taken
  case h_2 => contradiction
  rename_i running branch
  simp only [Stands, running] at stands
  obtain ⟨going, unmet⟩ := stands
  simp only [Option.ite_none_right_eq_some] at taken
  obtain ⟨_, taken⟩ := taken
  split at taken
  · cases taken
    have trail := going.trail
    rw [branch] at trail
    have first : Guarded lawful (server.history ++ [.signalled]) := going.law.snoc trail.1
    have second : lawful (server.history ++ [.signalled]) .stopDev := ⟨by simp, by simp [trail.2]⟩
    simp only [Stands, running, State.record]
    refine ⟨?_, by simp [Branch.isEnded]⟩
    exact {
      law := first.snoc second
      undeleted := by simp [going.undeleted]
      value := fun stage => by simp [going.value stage]
      daemonFailed := going.daemonFailed
      branchFailed := fun _ same => by cases same
      stopsAll := going.stopsAll
      callback := fun stopped _ => going.callback stopped (by rw [branch]; rfl)
      trail := by simp [Branch.Trail] }
  · rename_i failed
    cases taken
    exact going.endBranch running fun succeeded => absurd succeeded (failed ())

theorem Stands.stopDev (stands : Stands server) (taken : server.stopDev how = some after) :
    Stands after := by
  simp only [State.stopDev] at taken
  split at taken
  case h_2 => contradiction
  rename_i running branch
  simp only [Stands, running] at stands
  obtain ⟨going, unmet⟩ := stands
  simp only [Option.ite_none_right_eq_some] at taken
  obtain ⟨_, taken⟩ := taken
  have trail := going.trail
  rw [branch] at trail
  split at taken
  · cases taken
    have recorded : Going (.value ()) (server.record .stopped) := {
      law := going.law.snoc trail
      undeleted := by simp [State.record, going.undeleted]
      value := fun stage => ⟨(going.value stage).1, List.mem_append_left _ (going.value stage).2⟩
      daemonFailed := going.daemonFailed
      branchFailed := going.branchFailed
      stopsAll := going.stopsAll
      callback := going.callback
      trail := by
        simp only [State.record, branch]
        exact List.mem_append_left _ trail }
    exact recorded.endBranch running fun _ => by simp [State.record]
  · rename_i failed
    cases taken
    exact going.endBranch running fun succeeded => absurd succeeded (failed ())

theorem Stands.deleted (stands : Stands server) (taken : server.deleted how = some after) :
    Stands after := by
  simp only [State.deleted] at taken
  split at taken
  case h_2 => contradiction
  rename_i stage
  simp only [Stands, stage] at stands
  obtain ⟨law, issued, undeleted, ended⟩ := stands
  cases how with
  | value result =>
      cases taken
      refine ⟨law.snoc ⟨issued, undeleted⟩, ?_, fun _ => ended⟩
      simp [State.record]
  | error err =>
      cases taken
      exact ⟨law, by simp [undeleted], fun _ => ended⟩
  | stopped =>
      cases taken
      exact ⟨law, by simp [undeleted], fun _ => ended⟩

theorem Stands.step {action : Action} (stands : Stands server)
    (taken : server.step info options action = some after) : Stands after := by
  cases action with
  | features how => exact stands.features taken
  | setUp how => exact stands.setUp taken
  | configured how => exact stands.configured taken
  | daemon action => exact stands.runDaemon taken
  | started how => exact stands.started taken
  | signal how => exact stands.signal taken
  | stopDev how => exact stands.stopDev taken
  | deleted how => exact stands.deleted taken

theorem Stands.reachable {permits : State → Action → Prop}
    (reached : Reachable (exampleServer info options) permits server) : Stands server := by
  induction reached with
  | initial =>
      refine ⟨?_, rfl, rfl, by simp [exampleServer]⟩
      constructor
      case law => exact guarded_nil
      all_goals simp [exampleServer, Daemon.initial, Branch.Trail]
  | next _ _ taken ih => exact ih.step taken

/-- However the daemon, the start of the device, the signal and the stop requests are
interleaved: `stop_dev` is sent once, after a signal; `del_dev` is sent once, after `stop_dev`
succeeded and `daemon::run` returned without an error; and the server ends without an error
of its own and without a stop exactly if the device is deleted. It never leaves a daemon
behind that it started, and it never waits for a signal that nobody needs. -/
theorem server_deletes_after_stop (reached : Reachable (exampleServer info options) (fun _ _ => True) server) :
    Guarded lawful server.history ∧
    (∀ how, server.stage = .exited how →
      (how = .value () ↔ .deleted ∈ server.history) ∧ (.start ∈ server.history → server.daemonEnded = true)) ∧
    (server.stage = .running → server.branch = .waiting → server.daemonEnded = true → server.sourceStop = true) := by
  have stands := Stands.reachable reached
  cases stage : server.stage with
  | askingFeatures | settingUp | configuring =>
      simp only [Stands, stage] at stands
      exact ⟨stands.1.law, by simp, by simp⟩
  | running =>
      simp only [Stands, stage] at stands
      exact ⟨stands.1.law, by simp, fun _ waiting ended => stands.1.woken waiting ended⟩
  | deleting =>
      simp only [Stands, stage] at stands
      exact ⟨stands.1, by simp, by simp⟩
  | exited how =>
      simp only [Stands, stage] at stands
      refine ⟨stands.1, ?_, by simp⟩
      intro other same
      cases same
      exact stands.2

/-- Up to a device that is started, and its daemon up to the queues. -/
def startedServer : List Action :=
  [.features (.value ()), .setUp (.value ()), .configured (.value ()), .started (.value ())] ++
    twoQueuesStarted.map .daemon

/-- The driver fails the only command of each queue. -/
def queueAborts (qId : Nat) : List Action :=
  [.daemon (.queue qId (.plain (.initEnd .value))), .daemon (.queue qId (.plain (.body (.worker 0 .run)))),
    .daemon (.queue qId (.plain (.body (.worker 0 (.answered (.value ublkIoResAbort) default))))),
    .daemon (.queue qId (.plain (.body .join)))]

/-- A signal ends the server of a device with two queues. -/
theorem server_deletes_after_stop_twoQueues :
    ∃ server, Reachable (exampleServer twoQueues withHooks) (fun _ _ => True) server ∧
      server.stage = .exited (.value ()) ∧ .deleted ∈ server.history ∧ Guarded lawful server.history := by
  obtain ⟨server, reached, stage⟩ :=
    exists_of_replay (exampleServer twoQueues withHooks) (fun _ _ => True)
      (startedServer ++ [.signal (.value ())] ++ queueAborts 0 ++ [.stopDev (.value ())] ++ queueAborts 1 ++
        [.daemon .join, .deleted (.value ())])
      (fun server => server.stage = .exited (.value ())) (by decide)
  obtain ⟨law, exits, _⟩ := server_deletes_after_stop reached
  exact ⟨server, reached, stage, (exits _ stage).1.mp rfl, law⟩

end Ublk.Server
