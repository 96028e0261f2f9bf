import Ublk.Control.DevInfo
import Ublk.Queue.Bracket
import Ublk.Queue.Runtime

namespace Ublk.Daemon

open Ublk.Machine Ublk.Control Ublk.Queue

/-! # `daemon::run`

`daemon_run_t::invoke` makes one `IoLoop` for each hardware queue, opens the device once
and serves every queue on its own loop. The model interleaves the queues, each with the
tables of its Runtime and the coroutines of its `run()`; what is awaited before the device
is open happens on the caller's loop. That the spawns themselves may throw is the subject
of `Ublk.Daemon.Spawns` and left out here.
-/

inductive DaemonError where
  | control (err : ControlError)
  | system (code : Int) (what : String)
  | start (err : Runtime.StartError)
  | construct (err : QueueError)
  | queue (err : RunError)
deriving DecidableEq

/-- How something awaited completes. -/
inductive CallEnd (α : Type) where
  | value (result : α)
  | error (err : DaemonError)
  | stopped
deriving DecidableEq

/-! ## One queue -/

/-- `io_run_dev_t` chooses the class by the flags of the device. -/
inductive QueueRun where
  | plain (run : Run Plain.Workers)
  | batch (run : Run Batch.State)

inductive QueueAction where
  | plain (action : RunAction Plain.WorkersAction)
  | batch (action : RunAction Batch.Action)

/-- `hooks` is whether the handler is a `QueueHandler`. -/
def plainQueue (hooks : Bool) (config : Config) : System (Run Plain.Workers) (RunAction Plain.WorkersAction) :=
  bracket ⟨hooks, false⟩ (Plain.ioQueue config) Plain.Workers.result

def batchQueue (hooks : Bool) (config : Config) : System (Run Batch.State) (RunAction Batch.Action) :=
  bracket ⟨hooks, true⟩ (Batch.batchIoQueue config) Batch.State.result

def queueStep (hooks : Bool) (config : Config) : QueueRun → QueueAction → Option QueueRun
  | .plain run, .plain action => ((plainQueue hooks config).step run action).map .plain
  | .batch run, .batch action => ((batchQueue hooks config).step run action).map .batch
  | _, _ => none

def queueSystem (hooks : Bool) (config : Config) : System QueueRun QueueAction where
  initial :=
    if hasFlag config.flags ublkFBatchIo then .batch (batchQueue hooks config).initial
    else .plain (plainQueue hooks config).initial
  step := queueStep hooks config

def stageOutcome : Stage → Option Outcome
  | .ended outcome => some outcome
  | _ => none

def QueueRun.outcome : QueueRun → Option Outcome
  | .plain run => stageOutcome run.stage
  | .batch run => stageOutcome run.stage

/-- What the task of a queue leaves in `errs`; a stopped one leaves nothing. -/
def outcomeErr : Outcome → Option DaemonError
  | .error err => some (.queue err)
  | _ => none

/-- The task of a queue on its loop. `serving` begins behind the constructor of the queue,
and `failed` is a task that never got there. -/
inductive Task where
  | spawned
  | serving (config : Config) (run : QueueRun)
  | ended (config : Config) (run : QueueRun) (err : Option DaemonError)
  | failed (err : DaemonError)

namespace Task

def isEnded : Task → Bool
  | .ended _ _ _ => true
  | .failed _ => true
  | _ => false

def err : Task → Option DaemonError
  | .ended _ _ err => err
  | .failed err => some err
  | _ => none

/-- The run of the queue, as far as it has come. -/
def run : Task → Option (Config × QueueRun)
  | .serving config run => some (config, run)
  | .ended config run _ => some (config, run)
  | _ => none

end Task

structure Loop where
  tables : Runtime.State
  task : Task

/-! ## The daemon -/

inductive DaemonStage where
  | querying
  | makingLoop (qId : Nat)
  | opening
  | joining
  | returned (how : CallEnd Unit)
deriving DecidableEq

/-- `loops` counts the `IoLoop`s there are, and `closed` the calls of `close(ublkc_fd)`. -/
structure State where
  stage : DaemonStage
  loops : Nat
  queues : Nat → Loop
  ublkcFd : Option Nat
  closed : Nat

/-- How the parts of the constructor of an `IoLoop` come out. -/
structure LoopInit where
  runtime : Option DaemonError
  fdTable : Int
  bufferTable : Int

/-- What a queue does with the tables of its Runtime while it serves. -/
inductive TableUse where
  | issue
  | register (tag : Nat)
  | unregister (tag : Nat)

inductive DaemonAction where
  | told (how : CallEnd Unit)
  | affinity (how : CallEnd Unit) (init : LoopInit)
  | opened (how : CallEnd Nat)
  | start (qId : Nat) (made : Except QueueError (Nat → BitVec 64))
  | queue (qId : Nat) (action : QueueAction)
  | table (qId : Nat) (use : TableUse)
  | join

/-- The caller's options, whether its handler has hooks, and the page size. -/
structure Options where
  nrFiles : Nat
  nrBuffers : Nat
  hooks : Bool
  pageShift : Fin 64

variable (info : DevInfo) (options : Options)

def queueCount : Nat := info.nrHwQueues.toNat

/-- The tables are large enough for the device and, where it has buffers, for all tags. -/
def tableSizes : Runtime.Sizes where
  nrFiles := max options.nrFiles 1
  nrBuffers :=
    if Runtime.usesBuffers info.flags then max options.nrBuffers info.queueDepth.toNat
    else options.nrBuffers

def ioLoop (init : LoopInit) : Except DaemonError Unit :=
  let sizes := tableSizes info options
  match init.runtime with
  | some err => .error err
  | none =>
      if sizes.nrFiles ≠ 0 ∧ init.fdTable < 0 then .error (.system (-init.fdTable) "fd_table init")
      else if sizes.nrBuffers ≠ 0 ∧ init.bufferTable < 0 then
        .error (.system (-init.bufferTable) "buffer_table init")
      else .ok ()

def runArgs (ublkcFd qId : Nat) : Runtime.Args where
  ublkcFd
  qId
  nrHwQueues := info.nrHwQueues.toNat
  flags := info.flags
  queueDepth := info.queueDepth.toNat

def queueConfig (qId : Nat) (bufBases : Nat → BitVec 64) : Config where
  qId
  flags := info.flags
  queueDepth := info.queueDepth.toNat
  pageShift := options.pageShift
  bufBases
  depthBound := info.queueDepth.isLt
  pageBound := options.pageShift.isLt

namespace State

/-- The body is left: its guard closes the device if it is open, and the loops go. -/
def leave (daemon : State) (how : CallEnd Unit) : State :=
  { daemon with
    stage := .returned how
    loops := 0
    closed := daemon.closed + if daemon.ublkcFd.isSome then 1 else 0 }

def setLoop (daemon : State) (qId : Nat) (loop : Loop) : State :=
  { daemon with queues := Function.update daemon.queues qId loop }

/-- The head of the loop over the queues. -/
def makeLoop (daemon : State) (qId : Nat) : State :=
  { daemon with stage := if qId < queueCount info then .makingLoop qId else .opening }

def told (daemon : State) (how : CallEnd Unit) : Option State :=
  match daemon.stage with
  | .querying =>
      match how with
      | .value _ => some (daemon.makeLoop info 0)
      | .error err => some (daemon.leave (.error err))
      | .stopped => some (daemon.leave .stopped)
  | _ => none

def affinity (daemon : State) (how : CallEnd Unit) (init : LoopInit) : Option State :=
  match daemon.stage with
  | .makingLoop qId =>
      match how with
      | .error err => some (daemon.leave (.error err))
      | .stopped => some (daemon.leave .stopped)
      | .value _ =>
          match ioLoop info options init with
          | .error err => some (daemon.leave (.error err))
          | .ok _ => some ({ daemon with loops := daemon.loops + 1 }.makeLoop info (qId + 1))
  | _ => none

def opened (daemon : State) (how : CallEnd Nat) : Option State :=
  match daemon.stage with
  | .opening =>
      match how with
      | .value fd => some { daemon with stage := .joining, ublkcFd := some fd }
      | .error err => some (daemon.leave (.error err))
      | .stopped => some (daemon.leave .stopped)
  | _ => none

end State

/-- The guard of `io_run_dev_t` takes the device out of the file table. -/
def unregisterDevice (tables : Runtime.State) : Runtime.State := (Runtime.finish 0 tables).getD tables

/-- `io_run_dev_t::invoke` up to the suspension of the queue's `run()`. -/
def startTask (ublkcFd qId : Nat) (made : Except QueueError (Nat → BitVec 64)) (loop : Loop) :
    Option Loop :=
  match loop.task with
  | .spawned =>
      match Runtime.invoke (tableSizes info options) (runArgs info ublkcFd qId) loop.tables with
      | .error err => some { loop with task := .failed (.start err) }
      | .ok tables =>
          match made with
          | .error err => some { tables := unregisterDevice tables, task := .failed (.construct err) }
          | .ok bufBases =>
              let config := queueConfig info options qId bufBases
              some { tables, task := .serving config (queueSystem options.hooks config).initial }
  | _ => none

def stepQueue (action : QueueAction) (loop : Loop) : Option Loop :=
  match loop.task with
  | .serving config run =>
      match queueStep options.hooks config run action with
      | none => none
      | some after =>
          match after.outcome with
          | none => some { loop with task := .serving config after }
          | some outcome =>
              some { tables := unregisterDevice loop.tables, task := .ended config after (outcomeErr outcome) }
  | _ => none

def useTable (use : TableUse) (loop : Loop) : Option Loop :=
  match loop.task with
  | .serving _ _ =>
      (match use with
        | .issue => Runtime.issue 0 loop.tables
        | .register tag => Runtime.register 0 tag loop.tables
        | .unregister tag => Runtime.unregister 0 tag loop.tables).map fun tables => { loop with tables }
  | _ => none

/-- A step of one queue, while the daemon waits for all of them. -/
def onQueue (daemon : State) (qId : Nat) (act : Nat → Loop → Option Loop) : Option State :=
  match daemon.stage, daemon.ublkcFd with
  | .joining, some fd =>
      if qId < queueCount info then (act fd (daemon.queues qId)).map (daemon.setLoop qId) else none
  | _, _ => none

/-- `errs` is searched by queue id. -/
def verdict (queues : Nat → Loop) : CallEnd Unit :=
  match (List.range (queueCount info)).findSome? fun qId => (queues qId).task.err with
  | some err => .error err
  | none => .value ()

def join (daemon : State) : Option State :=
  match daemon.stage with
  | .joining =>
      if ∀ qId < queueCount info, (daemon.queues qId).task.isEnded = true then
        some (daemon.leave (verdict info daemon.queues))
      else none
  | _ => none

def step (daemon : State) : DaemonAction → Option State
  | .told how => daemon.told info how
  | .affinity how init => daemon.affinity info options how init
  | .opened how => daemon.opened how
  | .start qId made => onQueue info daemon qId fun fd => startTask info options fd qId made
  | .queue qId action => onQueue info daemon qId fun _ => stepQueue options action
  | .table qId use => onQueue info daemon qId fun _ => useTable use
  | .join => join info daemon

def initial : State where
  stage := .querying
  loops := 0
  queues := fun _ => ⟨Runtime.initial, .spawned⟩
  ublkcFd := none
  closed := 0

/-- `daemon::run` of a device about which the driver says `info`. -/
def daemonRun : System State DaemonAction where
  initial := initial
  step := step info options

end Ublk.Daemon
