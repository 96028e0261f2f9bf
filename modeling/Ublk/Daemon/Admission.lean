import Ublk.Daemon.Setup

namespace Ublk.Daemon

open Ublk.Machine Ublk.Control

variable {controller after : Controller} {device moved : Device} {anyId : Bool} {start : Option Device}

/-! # Is the command of `start` admissible

A device that is not live stays as it is, so what `setup` was told still holds when
`start` asks. A live one may leave its state at any time: nothing that `setup` has
seen of it can be relied on.
-/

/-- What the driver does to a device on its own. -/
structure Drifts (device moved : Device) : Prop where
  flags : moved.flags = device.flags
  state : moved.state = device.state ∧ moved.recovering = device.recovering ∨
    device.state = .live ∧ moved.recovering = false

theorem drive_drifts {guard : Device → Bool} {move : Device → Device}
    (drifts : ∀ device, guard device = true → Drifts device (move device))
    (taken : controller.drive guard move = some after) :
    ∃ device, controller.device = some device ∧ Drifts device (move device) ∧
      after = { controller with device := some (move device) } := by
  rw [Controller.drive] at taken
  cases found : controller.device with
  | none => simp [found] at taken
  | some device =>
      simp only [found, Option.ite_none_right_eq_some, Option.some.injEq] at taken
      exact ⟨device, rfl, drifts device taken.1, taken.2.symm⟩

theorem enter_drifts {recovers : Bool} (state : DevState) (guarded : Controller.orphaned recovers device = true) :
    Drifts device (Controller.enter state device) := by
  simp only [Controller.orphaned, Bool.and_eq_true, beq_iff_eq] at guarded
  exact ⟨rfl, .inr ⟨guarded.1.1, rfl⟩⟩

/-- The device since `setup` has completed, given what `setup` was told. -/
def Settled (seen : Option DevState) (started : Bool) (device : Device) : Prop :=
  match seen with
  | none => device.state = .dead
  | some .dead => device.state = .dead
  | some .live => needRecovery device.state = true → device.recovering = false
  | some state => device.state = state ∧
      (recoverable device.flags = true → device.recovering = true ∧ started = true)

def Chosen (seen : Option DevState) (device : Device) (command : StartCommand) : Prop :=
  match seen with
  | none => command = .startDev
  | some .dead => command = .startDev
  | some .live => command = .endUserRecovery → needRecovery device.state = true
  | some _ => command = .endUserRecovery ∧ recoverable device.flags = true

/-- The command is one the driver admits, and no recovery is ended that this `setup`
has not started. -/
def Admissible (started : Bool) (device : Device) (command : StartCommand) : Prop :=
  device.admits command = true ∧ (command = .endUserRecovery → started = true)

/-- `setup` made the device, or was told a state the driver does not leave, or the
driver has meanwhile taken the live device down. -/
def Reliable (seen : Option DevState) (device : Device) : Prop :=
  seen ≠ some .live ∨ device.state = .dead

section Decision

variable {seen : Option DevState} {started : Bool} {command : StartCommand}

theorem Settled.drift (settled : Settled seen started device) (drifts : Drifts device moved) :
    Settled seen started moved := by
  obtain ⟨flags, state⟩ := drifts
  simp only [Settled] at settled ⊢
  rcases state with ⟨same, recovering⟩ | ⟨live, recovering⟩
  · rwa [flags, same, recovering]
  · split at settled
    · simp [live] at settled
    · simp [live] at settled
    · exact fun _ => recovering
    · rename_i state _ notLive
      exact absurd (settled.1.symm.trans live) (by simpa using notLive)

/-- A live device that leaves its state is not one whose recovery is about to end. -/
theorem Chosen.drift (chosen : Chosen seen device command) (drifts : Drifts device moved) :
    Chosen seen moved command := by
  obtain ⟨flags, state⟩ := drifts
  simp only [Chosen] at chosen ⊢
  split at chosen
  · exact chosen
  · exact chosen
  · intro ends
    have before := chosen ends
    rcases state with ⟨same, _⟩ | ⟨live, _⟩
    · rwa [same]
    · simp [live, needRecovery] at before
  · rwa [flags]

theorem Settled.chooses_start (settled : Settled seen started device)
    (plain : needRecovery device.state = false) : Chosen seen device .startDev := by
  simp only [Settled] at settled
  unfold Chosen
  split at settled
  · rfl
  · rfl
  · exact fun impossible => nomatch impossible
  · rename_i state notDead notLive
    rw [settled.1] at plain
    cases state <;> simp_all [needRecovery]

theorem Settled.chooses_end (settled : Settled seen started device)
    (need : needRecovery device.state = true) (recovers : recoverable device.flags = true) :
    Chosen seen device .endUserRecovery := by
  simp only [Settled] at settled
  unfold Chosen
  split at settled
  · simp [settled, needRecovery] at need
  · simp [settled, needRecovery] at need
  · exact fun _ => need
  · exact ⟨rfl, recovers⟩

/-- The decision is compared with the device as it is when the command goes out. -/
theorem Chosen.admissible_iff (chosen : Chosen seen device command)
    (settled : Settled seen started device) :
    Admissible started device command ↔ Reliable seen device := by
  rw [Admissible, Reliable]
  cases seen with
  | none =>
      have dead : device.state = .dead := settled
      have command : command = .startDev := chosen
      simp [command, dead, Device.admits]
  | some state =>
      cases state with
      | dead =>
          have dead : device.state = .dead := settled
          have command : command = .startDev := chosen
          simp [command, dead, Device.admits]
      | live =>
          cases command with
          | startDev => simp [Device.admits]
          | endUserRecovery =>
              have need : needRecovery device.state = true := chosen rfl
              have alive : device.state ≠ .dead := by
                intro dead
                simp [dead, needRecovery] at need
              simp [Device.admits, settled need, alive]
      | quiesced =>
          obtain ⟨rfl, recovers⟩ := chosen
          simp [Device.admits, settled.1, settled.2 recovers]
      | failIo =>
          obtain ⟨rfl, recovers⟩ := chosen
          simp [Device.admits, settled.1, settled.2 recovers]

end Decision

/-! ## Runs of `setup` and `start` -/

def Coherent (controller : Controller) : Prop :=
  match controller.pc with
  | .adding => controller.seen = none
  | .querying => True
  | .startingRecovery => ∃ device, controller.device = some device ∧
      controller.seen = some device.state ∧ needRecovery device.state = true ∧
      controller.startedRecovery = true
  | .setupDone _ => ∃ device, controller.device = some device ∧
      Settled controller.seen controller.startedRecovery device
  | .deciding command => ∃ device, controller.device = some device ∧
      Settled controller.seen controller.startedRecovery device ∧ Chosen controller.seen device command
  | .issued command device =>
      Admissible controller.startedRecovery device command ↔ Reliable controller.seen device
  | .failed _ => True

theorem Coherent.drift (coherent : Coherent controller) (found : controller.device = some device)
    (drifts : Drifts device moved) : Coherent { controller with device := some moved } := by
  obtain ⟨anyId, held, pc, seen, started⟩ := controller
  cases pc with
  | adding => exact coherent
  | querying => trivial
  | startingRecovery =>
      obtain ⟨current, same, told, need, began⟩ := coherent
      cases found.symm.trans same
      refine ⟨moved, rfl, ?_⟩
      rcases drifts.state with ⟨same, _⟩ | ⟨live, _⟩
      · rw [same]
        exact ⟨told, need, began⟩
      · simp [live, needRecovery] at need
  | setupDone created =>
      obtain ⟨current, same, settled⟩ := coherent
      cases found.symm.trans same
      exact ⟨moved, rfl, settled.drift drifts⟩
  | deciding command =>
      obtain ⟨current, same, settled, chosen⟩ := coherent
      cases found.symm.trans same
      exact ⟨moved, rfl, settled.drift drifts, chosen.drift drifts⟩
  | issued command snapshot => exact coherent
  | failed err => trivial

theorem Coherent.setupTold (taken : controller.setupTold = some after) : Coherent after := by
  rw [Controller.setupTold] at taken
  split at taken
  · rename_i device pc found
    split at taken
    · rename_i needed
      simp only [Bool.and_eq_true] at needed
      cases taken
      exact ⟨device, found, rfl, needed.2, rfl⟩
    · rename_i unneeded
      simp only [Bool.and_eq_true, not_and] at unneeded
      cases taken
      refine ⟨device, found, ?_⟩
      cases state : device.state with
      | dead => simp [Settled, state]
      | live => simp [Settled, state, needRecovery]
      | quiesced =>
          refine ⟨state, fun recovers => ?_⟩
          simp [recovers, state, needRecovery] at unneeded
      | failIo =>
          refine ⟨state, fun recovers => ?_⟩
          simp [recovers, state, needRecovery] at unneeded
  · contradiction

theorem Coherent.recoveryStarted (coherent : Coherent controller)
    (taken : controller.recoveryStarted = some after) : Coherent after := by
  rw [Controller.recoveryStarted] at taken
  split at taken
  · rename_i device pc found
    simp only [Coherent, pc, found, Option.some.injEq, exists_eq_left'] at coherent
    obtain ⟨seen, need, started⟩ := coherent
    simp only [need, ↓reduceIte, Option.some.injEq] at taken
    subst after
    refine ⟨_, rfl, ?_⟩
    cases state : device.state with
    | dead => simp [state, needRecovery] at need
    | live => simp [state, needRecovery] at need
    | quiesced => simp [Settled, seen, state, started]
    | failIo => simp [Settled, seen, state, started]
  · contradiction

theorem Coherent.startTold (coherent : Coherent controller)
    (taken : controller.startTold = some after) : Coherent after := by
  rw [Controller.startTold] at taken
  split at taken
  · rename_i created device pc found
    simp only [Coherent, pc, found, Option.some.injEq, exists_eq_left'] at coherent
    split at taken
    · rename_i plain
      simp only [Bool.not_eq_true'] at plain
      cases taken
      exact ⟨device, found, coherent, coherent.chooses_start plain⟩
    split at taken
    · rename_i need recovers
      simp only [Bool.not_eq_true', Bool.not_eq_false] at need
      cases taken
      exact ⟨device, found, coherent, coherent.chooses_end need recovers⟩
    · cases taken
      trivial
  · contradiction

theorem Coherent.issue (coherent : Coherent controller) (taken : controller.issue = some after) :
    Coherent after := by
  rw [Controller.issue] at taken
  split at taken
  · rename_i command device pc found
    simp only [Coherent, pc, found, Option.some.injEq, exists_eq_left'] at coherent
    cases taken
    exact coherent.2.admissible_iff coherent.1
  · contradiction

theorem refused_coherent {waits : SetupPc → Bool} {err : ControlError}
    (taken : controller.refused waits err = some after) : Coherent after := by
  simp only [Controller.refused, Option.ite_none_right_eq_some, Option.some.injEq] at taken
  obtain ⟨_, rfl⟩ := taken
  trivial

theorem Coherent.step {action : SetupAction} (coherent : Coherent controller)
    (taken : controller.step action = some after) : Coherent after := by
  have drift {guard : Device → Bool} {move : Device → Device}
      (drifts : ∀ device, guard device = true → Drifts device (move device))
      (driven : controller.drive guard move = some after) : Coherent after := by
    obtain ⟨device, found, drifted, rfl⟩ := drive_drifts drifts driven
    exact coherent.drift found drifted
  cases action with
  | serverGone =>
      simp only [Controller.step] at taken
      refine drift ?_ taken
      exact fun _ _ => ⟨rfl, .inl ⟨rfl, rfl⟩⟩
  | quiesces => exact drift (fun _ guarded => enter_drifts .quiesced guarded) taken
  | failsIo => exact drift (fun _ guarded => enter_drifts .failIo guarded) taken
  | dies => exact drift (fun _ guarded => enter_drifts .dead guarded) taken
  | added flags =>
      simp only [Controller.step, Controller.added] at taken
      split at taken
      · rename_i pc _
        have unseen : controller.seen = none := by simpa [Coherent, pc] using coherent
        cases taken
        exact ⟨_, rfl, by simp [Settled, unseen]⟩
      · contradiction
  | addFailed code =>
      simp only [Controller.step, Controller.addFailed] at taken
      split at taken
      · split at taken
        · contradiction
        split at taken
        · cases taken
          trivial
        split at taken
        · cases taken
          trivial
        · cases taken
          trivial
      · contradiction
  | setupTold => exact Coherent.setupTold taken
  | setupRefused err =>
      simp only [Controller.step] at taken
      exact refused_coherent taken
  | recoveryStarted => exact coherent.recoveryStarted taken
  | recoveryRefused err =>
      simp only [Controller.step] at taken
      exact refused_coherent taken
  | startTold => exact coherent.startTold taken
  | startRefused err =>
      simp only [Controller.step] at taken
      exact refused_coherent taken
  | issue => exact coherent.issue taken

theorem Coherent.reachable {permits : Controller → SetupAction → Prop}
    (reached : Reachable (setupThenStart anyId start) permits controller) : Coherent controller := by
  refine reached.invariant Coherent ?_ fun _ coherent _ taken => coherent.step taken
  simp [Coherent, setupThenStart]

/-- Whatever the driver does in between: when `start` issues its command, the command is
admissible if and only if `setup` was not told that the device is live, or the driver
has taken the live device down since. -/
theorem start_admissible_iff (anyId : Bool) (start : Option Device) {controller : Controller}
    {command : StartCommand} {device : Device}
    (reached : Reachable (setupThenStart anyId start) (fun _ _ => True) controller)
    (issued : controller.pc = .issued command device) :
    Admissible controller.startedRecovery device command ↔ Reliable controller.seen device := by
  have coherent : Coherent controller := Coherent.reachable reached
  simpa [Coherent, issued] using coherent

/-- A device that was quiesced before `setup` looked at it. -/
theorem start_admissible_quiesced :
    ∃ controller device, Reachable (setupThenStart false (some ⟨.quiesced, ublkFUserRecovery, false, false⟩))
        (fun _ _ => True) controller ∧ controller.pc = .issued .endUserRecovery device ∧
      Admissible controller.startedRecovery device .endUserRecovery := by
  obtain ⟨controller, reached, issued, seen⟩ :=
    exists_of_replay (setupThenStart false (some ⟨.quiesced, ublkFUserRecovery, false, false⟩))
      (fun _ _ => True) [.addFailed eexist, .setupTold, .recoveryStarted, .startTold, .issue]
      (fun controller => controller.pc =
        .issued .endUserRecovery ⟨.quiesced, ublkFUserRecovery, false, true⟩ ∧
          controller.seen ≠ some .live)
      (by decide)
  exact ⟨controller, _, reached, issued,
    (start_admissible_iff false _ reached issued).mpr (.inl seen)⟩

/-- The device is still live when `setup` asks, although its daemon has gone, and quiesced
when `start` asks: the recovery that `start` ends was never started. -/
theorem start_ends_unstarted_recovery :
    ∃ controller device, Reachable (setupThenStart false (some ⟨.live, ublkFUserRecovery, false, false⟩))
        (fun _ _ => True) controller ∧ controller.pc = .issued .endUserRecovery device ∧
      device.admits .endUserRecovery = false ∧ controller.startedRecovery = false := by
  obtain ⟨controller, reached, issued, started⟩ :=
    exists_of_replay (setupThenStart false (some ⟨.live, ublkFUserRecovery, false, false⟩))
      (fun _ _ => True) [.addFailed eexist, .setupTold, .quiesces, .startTold, .issue]
      (fun controller => controller.pc =
        .issued .endUserRecovery ⟨.quiesced, ublkFUserRecovery, false, false⟩ ∧
          controller.startedRecovery = false)
      (by decide)
  exact ⟨controller, _, reached, issued, rfl, started⟩

end Ublk.Daemon
