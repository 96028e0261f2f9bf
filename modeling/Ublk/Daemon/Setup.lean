import Ublk.Machine.Run
import Ublk.Control.DevInfo

namespace Ublk.Daemon

open Ublk.Machine Ublk.Control

/-! # `daemon::setup` and `daemon::start`

`setup` followed by `start` for one device, while the driver changes the state of the
device on its own. Both functions query the state and decide on what they were told; a
step ends where one of them waits for the driver, and between the answer to a query
and the command it leads to the driver may move. No other controller sends commands.
-/

inductive DevState where
  | dead
  | live
  | quiesced
  | failIo
deriving DecidableEq, Repr

/-- What the driver keeps about a device. `served` says that its daemon is there,
`recovering` that `START_USER_RECOVERY` was executed in its present state. -/
structure Device where
  state : DevState
  flags : BitVec 64
  served : Bool
  recovering : Bool
deriving DecidableEq, Repr

inductive StartCommand where
  | startDev
  | endUserRecovery
deriving DecidableEq, Repr

def Device.admits (device : Device) : StartCommand → Bool
  | .startDev => device.state == .dead
  | .endUserRecovery => (device.state == .quiesced || device.state == .failIo) && device.recovering

def needRecovery (state : DevState) : Bool := state == .quiesced || state == .failIo

def recoverable (flags : BitVec 64) : Bool := hasFlag flags ublkFUserRecovery

/-- Where the two functions are. `issued` keeps the device as it was at that moment. -/
inductive SetupPc where
  | adding
  | querying
  | startingRecovery
  | setupDone (created : Bool)
  | deciding (command : StartCommand)
  | issued (command : StartCommand) (device : Device)
  | failed (err : ControlError)
deriving DecidableEq, Repr

/-- `anyId` is the caller's `dev_id == -1`. `seen` is the state `setup` was told, if it
asked, and `startedRecovery` whether it issued `START_USER_RECOVERY`. -/
structure Controller where
  anyId : Bool
  device : Option Device
  pc : SetupPc
  seen : Option DevState
  startedRecovery : Bool
deriving DecidableEq, Repr

def eexist : Int := 17

inductive SetupAction where
  | serverGone
  | quiesces
  | failsIo
  | dies
  | added (flags : BitVec 64)
  | addFailed (code : Int)
  | setupTold
  | setupRefused (err : ControlError)
  | recoveryStarted
  | recoveryRefused (err : ControlError)
  | startTold
  | startRefused (err : ControlError)
  | issue
deriving DecidableEq, Repr

namespace Controller

/-- A transition of the driver's own: a live device loses its daemon, and some time
later leaves its state. -/
def drive (guard : Device → Bool) (move : Device → Device) (controller : Controller) : Option Controller :=
  match controller.device with
  | some device => if guard device then some { controller with device := some (move device) } else none
  | none => none

/-- A live device without a daemon, with or without recovery. -/
def orphaned (recovers : Bool) (device : Device) : Bool :=
  device.state == .live && !device.served && recoverable device.flags == recovers

def enter (state : DevState) (device : Device) : Device := { device with state, recovering := false }

/-- `ADD_DEV` created the device, with the flags the driver agreed to. -/
def added (flags : BitVec 64) (controller : Controller) : Option Controller :=
  match controller.pc, controller.device with
  | .adding, none =>
      some { controller with
        device := some { state := .dead, flags, served := false, recovering := false }
        pc := .setupDone true }
  | _, _ => none

/-- The driver reports `EEXIST` for a device that is there. Only a caller that asked for
a certain id goes on then. -/
def addFailed (code : Int) (controller : Controller) : Option Controller :=
  match controller.pc with
  | .adding =>
      if code = eexist ∧ controller.device = none then none
      else if controller.anyId then some { controller with pc := .failed (.system code "") }
      else if code ≠ eexist then some { controller with pc := .failed (.system code "add_dev") }
      else some { controller with pc := .querying }
  | _ => none

/-- `setup` looks at the device info it was sent. -/
def setupTold (controller : Controller) : Option Controller :=
  match controller.pc, controller.device with
  | .querying, some device =>
      let controller := { controller with seen := some device.state }
      if recoverable device.flags && needRecovery device.state then
        some { controller with pc := .startingRecovery, startedRecovery := true }
      else some { controller with pc := .setupDone false }
  | _, _ => none

def recoveryStarted (controller : Controller) : Option Controller :=
  match controller.pc, controller.device with
  | .startingRecovery, some device =>
      if needRecovery device.state then
        some { controller with device := some { device with recovering := true }, pc := .setupDone false }
      else none
  | _, _ => none

def startTold (controller : Controller) : Option Controller :=
  match controller.pc, controller.device with
  | .setupDone _, some device =>
      if !needRecovery device.state then some { controller with pc := .deciding .startDev }
      else if recoverable device.flags then some { controller with pc := .deciding .endUserRecovery }
      else
        some { controller with
          pc := .failed (.runtime "device can neither be started nor recovered") }
  | _, _ => none

def issue (controller : Controller) : Option Controller :=
  match controller.pc, controller.device with
  | .deciding command, some device => some { controller with pc := .issued command device }
  | _, _ => none

/-- An error of a query or a command ends the function that waits for it. -/
def refused (waits : SetupPc → Bool) (err : ControlError) (controller : Controller) : Option Controller :=
  if waits controller.pc then some { controller with pc := .failed err } else none

def step (controller : Controller) : SetupAction → Option Controller
  | .serverGone => controller.drive (fun _ => true) fun device => { device with served := false }
  | .quiesces => controller.drive (orphaned true) (enter .quiesced)
  | .failsIo => controller.drive (orphaned true) (enter .failIo)
  | .dies => controller.drive (orphaned false) (enter .dead)
  | .added flags => controller.added flags
  | .addFailed code => controller.addFailed code
  | .setupTold => controller.setupTold
  | .setupRefused err => controller.refused (· == .querying) err
  | .recoveryStarted => controller.recoveryStarted
  | .recoveryRefused err => controller.refused (· == .startingRecovery) err
  | .startTold => controller.startTold
  | .startRefused err =>
      controller.refused (fun pc => pc == .setupDone true || pc == .setupDone false) err
  | .issue => controller.issue

end Controller

/-- `setup` is called on a device with any history, or on none. -/
def setupThenStart (anyId : Bool) (device : Option Device) : System Controller SetupAction where
  initial := { anyId, device, pc := .adding, seen := none, startedRecovery := false }
  step := Controller.step

end Ublk.Daemon
