import Ublk.Loop.Handler
import Ublk.Machine.Guarded
import Ublk.Queue.Bracket
import Ublk.Queue.Steps

namespace Ublk.Loop

open Ublk.Data Ublk.Machine Ublk.Queue

/-! # A loop device

The queues of `ublk-loop`: the workers of plain queues with `LoopHandler`, the memory of
the server, the backing file, and a driver that copies data through the address it was
given last for a tag. The kernel executes an operation of the handler at some time between
its call and its completion, whole or in part; operations of different tags and queues are
executed in any order.
-/

/-- What an operation does to the file, when it is executed. -/
inductive DiskOp where
  | read (off : Nat) (data : List UInt8)
  | write (off : Nat) (data : List UInt8)
  | flush
  | nothing
deriving DecidableEq, Repr

/-- What the device and its users see. `payload` is what a request is to write, and `data`
what is returned for one. -/
inductive DiskEvent where
  | asked (tag : Nat) (iod : IoDesc) (payload : List UInt8)
  | performed (tag : Nat) (op : DiskOp)
  | answered (tag : Nat) (iod : IoDesc) (res : BitVec 32) (data : List UInt8)
deriving DecidableEq, Repr

def DiskEvent.tag : DiskEvent → Nat
  | .asked tag _ _ => tag
  | .performed tag _ => tag
  | .answered tag _ _ _ => tag

/-- One queue. `given` is the address the driver has for a tag, `done` how the operation of
the handler has come out while the worker has not resumed. -/
structure Device where
  queue : Plain.Workers
  memory : Memory
  file : Memory
  given : Nat → BitVec 64
  done : Nat → Option IoOutcome
  log : List DiskEvent

/-- How the kernel executes an operation: it transfers some bytes, or none. -/
inductive Transfer where
  | transferred (count : Nat)
  | failed (err : IoError)
  | stopped
deriving DecidableEq, Repr

/-- `payload` is the driver's, where the step delivers a request. -/
inductive DeviceAction where
  | queue (action : Plain.WorkersAction) (payload : List UInt8)
  | execute (tag : Nat) (how : Transfer)

variable (config : Config) (geometry : Geometry)

namespace Device

/-- What the driver does at an event of a worker. The buffer is filled before a write
is delivered, and read when the commit of a successful read comes in. -/
def observe (tag : Nat) (payload : List UInt8) (device : Device) : Plain.Event → Device
  | .fetchReq cmd => { device with given := Function.update device.given tag cmd.addr }
  | .needGetData cmd => { device with given := Function.update device.given tag cmd.addr }
  | .delivered iod =>
      { device with
        memory :=
          if ublksrvGetOp iod = ublkIoOpWrite then copyIn device.memory (device.given tag).toNat payload
          else device.memory
        log := device.log ++ [.asked tag iod payload] }
  | .commitAndFetchReq iod cmd =>
      let data :=
        if ublksrvGetOp iod = ublkIoOpRead ∧ 0 ≤ cmd.result.toInt then
          slice device.memory cmd.addr.toNat cmd.result.toNat
        else []
      { device with
        given := Function.update device.given tag cmd.addr
        done := Function.update device.done tag none
        log := device.log ++ [.answered tag iod cmd.result data] }
  | _ => device

/-- The handler completes as its operation did. -/
def completes (device : Device) (tag : Nat) : Plain.Action → Bool
  | .handled outcome => device.done tag == some outcome
  | _ => true

def runQueue (device : Device) (action : Plain.WorkersAction) (payload : List UInt8) : Option Device :=
  match Plain.workersStep config device.queue action with
  | none => none
  | some queue =>
      match action with
      | .join => some { device with queue }
      | .worker tag own =>
          if device.completes tag own then
            let events := (queue.workers tag).history.drop (device.queue.workers tag).history.length
            some (events.foldl (observe tag payload) { device with queue })
          else none

/-- A result of the kernel is an `int`. -/
def transferLimit : Nat := 2 ^ 31

def finish (device : Device) (tag : Nat) (outcome : IoOutcome) (op : DiskOp) : Device :=
  { device with
    done := Function.update device.done tag (some outcome)
    log := device.log ++ [.performed tag op] }

def transfer (device : Device) (tag count : Nat) : FileOp → Option Device
  | .read buf bytes off =>
      if count ≤ bytes.toNat ∧ count < transferLimit ∧ off.toNat + count ≤ geometry.fileSize.toNat then
        let data := slice device.file off.toNat count
        some (finish { device with memory := copyIn device.memory buf.toNat data } tag
          (.value (.int32 (BitVec.ofNat 32 count))) (.read off.toNat data))
      else none
  | .write buf bytes off =>
      if count ≤ bytes.toNat ∧ count < transferLimit then
        let data := slice device.memory buf.toNat count
        some (finish { device with file := copyIn device.file off.toNat data } tag
          (.value (.int32 (BitVec.ofNat 32 count))) (.write off.toNat data))
      else none
  | .fsync => if count = 0 then some (device.finish tag (.value (.int32 0)) .flush) else none
  | .result _ => none

def execute (device : Device) (tag : Nat) (how : Transfer) : Option Device :=
  let worker := device.queue.workers tag
  match worker.pc, device.done tag with
  | .handling _, none =>
      if tag < config.queueDepth then
        let op := handleIo { qId := config.qId, tag, iod := worker.iod, buf := config.getBuf tag }
        match op, how with
        | .result res, _ => some (device.finish tag (.value (.int32 res)) .nothing)
        | op, .transferred count => device.transfer geometry tag count op
        | _, .failed err => some (device.finish tag (.error err) .nothing)
        | _, .stopped => some (device.finish tag .stopped .nothing)
      else none
  | _, _ => none

def step (device : Device) : DeviceAction → Option Device
  | .queue action payload => device.runQueue config action payload
  | .execute tag how => device.execute config geometry tag how

end Device

/-- A queue that nothing has happened in. -/
def Device.initial (memory file : Memory) : Device :=
  { queue := (Plain.ioQueue config).initial, memory, file, given := fun _ => 0, done := fun _ => none, log := [] }

/-- The queues share the memory of the server and the file; `queues` has of a device what
is its own. -/
structure LoopServer where
  queues : Nat → Device
  memory : Memory
  file : Memory
  log : List (Nat × DiskEvent)

namespace LoopServer

def device (server : LoopServer) (queue : Nat) : Device :=
  { server.queues queue with memory := server.memory, file := server.file }

def step (configs : Nat → Config) (nrQueues : Nat) (server : LoopServer) (action : Nat × DeviceAction) :
    Option LoopServer :=
  let (queue, own) := action
  if queue < nrQueues then
    match (server.device queue).step (configs queue) geometry own with
    | none => none
    | some after =>
        some
          { queues := Function.update server.queues queue after
            memory := after.memory
            file := after.file
            log := server.log ++ (after.log.drop (server.queues queue).log.length).map fun event => (queue, event) }
  else none

end LoopServer

def loopServer (configs : Nat → Config) (nrQueues : Nat) (memory file : Memory) :
    System LoopServer (Nat × DeviceAction) where
  initial := { queues := fun queue => Device.initial (configs queue) memory file, memory, file, log := [] }
  step := LoopServer.step geometry configs nrQueues

/-- What the driver sends: requests inside of the device, none of them a zone append,
with as much data to write as they say. -/
def sends (iod : IoDesc) (payload : List UInt8) : Bool :=
  let op := ublksrvGetOp iod
  (op != ublkIoOpZoneAppend) &&
    (!(op == ublkIoOpRead || op == ublkIoOpWrite) || geometry.admits iod) &&
    (op != ublkIoOpWrite || payload.length == sectorSize * iod.nrSectors.toNat)

/-- The environment of a queue; the errors of operations carry errno values. -/
def behaves : DeviceAction → Bool
  | .queue (.worker _ (.answered reply iod)) payload => decide (reply.result < 0) || sends geometry iod payload
  | .execute _ (.failed err) => decide (0 < (normalizeError err (BitVec.ofInt 32 eio)).toInt)
  | _ => true

/-! ## A disk

What the device is for, in terms of its log alone: contents that change at one moment for
each request, between its arrival and its answer.
-/

def DiskOp.apply (contents : Memory) : DiskOp → Memory
  | .write off data => copyIn contents off data
  | _ => contents

def DiskEvent.apply (contents : Memory) : DiskEvent → Memory
  | .performed _ op => op.apply contents
  | _ => contents

/-- The contents after the operations that have been performed so far, on any queue. -/
def contentsAfter (file : Memory) (log : List (Nat × DiskEvent)) : Memory :=
  log.foldl (fun contents entry => entry.2.apply contents) file

def queueLog (queue : Nat) (log : List (Nat × DiskEvent)) : List DiskEvent :=
  (log.filter fun entry => entry.1 == queue).map Prod.snd

def own (tag : Nat) (log : List DiskEvent) : List DiskEvent := log.filter fun event => event.tag == tag

/-- No request of the tag is open. -/
def Idle (events : List DiskEvent) : Prop :=
  events = [] ∨ ∃ before tag iod res data, events = before ++ [.answered tag iod res data]

/-- An operation does what the request says, on the contents at that moment, or nothing. -/
def Serves (iod : IoDesc) (payload : List UInt8) (contents : Memory) : DiskOp → Prop
  | .read off data =>
      ublksrvGetOp iod = ublkIoOpRead ∧ off = sectorSize * iod.startSector.toNat ∧
        data.length ≤ sectorSize * iod.nrSectors.toNat ∧ data = slice contents off data.length ∧
        off + sectorSize * iod.nrSectors.toNat ≤ geometry.fileSize.toNat
  | .write off data =>
      ublksrvGetOp iod = ublkIoOpWrite ∧ off = sectorSize * iod.startSector.toNat ∧
        data <+: payload ∧ payload.length = sectorSize * iod.nrSectors.toNat ∧
        off + payload.length ≤ geometry.fileSize.toNat
  | .flush => ublksrvGetOp iod = ublkIoOpFlush
  | .nothing => True

/-- All bytes of a request, in the file and in the buffer of its tag; neither size wraps. -/
structure AsksRange (data : IoData) (buf : BitVec 64) (bytes : BitVec 32) (off : BitVec 64) : Prop where
  ownBuf : buf = data.buf
  first : off.toNat = sectorSize * data.iod.startSector.toNat
  whole : bytes.toNat = sectorSize * data.iod.nrSectors.toNat
  room : bytes.toNat ≤ geometry.maxIoBufBytes.toNat
  inside : off.toNat + bytes.toNat ≤ geometry.fileSize.toNat

/-- The handler asks for all sectors of a request, from the first on, and has a buffer for
them; other requests than reads, writes and flushes it turns down itself. -/
def AsksFor (data : IoData) : FileOp → Prop
  | .read buf bytes off =>
      ublksrvGetOp data.iod = ublkIoOpRead ∧ AsksRange geometry data buf bytes off
  | .write buf bytes off =>
      ublksrvGetOp data.iod = ublkIoOpWrite ∧ AsksRange geometry data buf bytes off
  | .fsync => ublksrvGetOp data.iod = ublkIoOpFlush
  | .result res => ublksrvGetOp data.iod ∉ [ublkIoOpRead, ublkIoOpWrite, ublkIoOpFlush] ∧ res.toInt < 0

/-- The operations that handlers await and the kernel has not executed yet. -/
def Awaits (configs : Nat → Config) (nrQueues : Nat) (server : LoopServer) : Prop :=
  ∀ queue < nrQueues, ∀ tag < (configs queue).queueDepth, ∀ ioBuf,
    ((server.queues queue).queue.workers tag).pc = .handling ioBuf → (server.queues queue).done tag = none →
      let iod := ((server.queues queue).queue.workers tag).iod
      let data : IoData := { qId := (configs queue).qId, tag, iod, buf := (configs queue).getBuf tag }
      AsksFor geometry data (handleIo data)

/-- The answer tells what was done: the bytes that were transferred, and those that were
read; an operation without effect is answered with an error. -/
def Answers (res : BitVec 32) (data : List UInt8) : DiskOp → Prop
  | .read _ bytes => res.toInt = bytes.length ∧ data = bytes
  | .write _ bytes => res.toInt = bytes.length ∧ data = []
  | .flush => res = 0 ∧ data = []
  | .nothing => res.toInt < 0 ∧ data = []

/-- What has to have happened on a queue before an event, and what the event is to do with
the contents at that moment. -/
def diskLaw (contents : Memory) (past : List DiskEvent) : DiskEvent → Prop
  | .asked tag _ _ => Idle (own tag past)
  | .performed tag op =>
      ∃ before iod payload, own tag past = before ++ [.asked tag iod payload] ∧
        Serves geometry iod payload contents op
  | .answered tag iod res data =>
      ∃ before payload op, own tag past = before ++ [.asked tag iod payload, .performed tag op] ∧
        Answers res data op

/-- The law of the log of all queues: one file. -/
def loopLaw (file : Memory) (front : List (Nat × DiskEvent)) (entry : Nat × DiskEvent) : Prop :=
  diskLaw geometry (contentsAfter file front) (queueLog entry.1 front) entry.2

end Ublk.Loop
