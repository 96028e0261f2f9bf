import Ublk.Control.Script
import Ublk.Ctl.CpuStr
import Ublk.Ctl.Flags

namespace Ublk.Ctl

open Ublk.Data Ublk.Control

/-! # The commands of `ublkctl`

`run_cmd` for each subcommand and `main` around it. A command is a conversation with
the driver that prints on the way; an exception ends it, and what was printed before
stays printed. The parsing of arguments and the text of `e.what()` are left out.
-/

inductive Cmd where
  | add (devId : BitVec 32) (nrQueues queueDepth : BitVec 16) (maxIoBufBytes : BitVec 32) (flags : BitVec 64)
  | del (devId : BitVec 32) (async : Bool)
  | start (devId daemonPid : BitVec 32)
  | stop (devId : BitVec 32) (tryStop : Bool)
  | list
  | get (devId : BitVec 32)
  | startRecovery (devId : BitVec 32)
  | recover (devId daemonPid : BitVec 32)
  | features
  | quiesce (devId : BitVec 32) (timeoutMs : BitVec 64)
deriving DecidableEq, Repr

/-! ## Texts -/

def hex (value : Nat) : List Char := Nat.toDigits 16 value

def signedDecimal (value : Int) : List Char :=
  if value < 0 then '-' :: decimal value.natAbs else decimal value.natAbs

def stateStr (state : Nat) : List Char :=
  if state = ublkSDevDead then "DEAD".toList
  else if state = ublkSDevLive then "LIVE".toList
  else if state = ublkSDevQuiesced then "QUIESCED".toList
  else if state = ublkSDevFailIo then "FAIL_IO".toList
  else "UNKNOWN".toList

/-- The members of `struct ublk_params` that are printed. -/
def paramsWord (params : List UInt8) (offset width : Nat) : Nat := leValue ((params.drop offset).take width)

def logicalBsShift (params : List UInt8) : Nat := paramsWord params 12 1
def devSectors (params : List UInt8) : Nat := paramsWord params 24 8
def charMajor (params : List UInt8) : Nat := paramsWord params 60 4
def charMinor (params : List UInt8) : Nat := paramsWord params 64 4
def diskMajor (params : List UInt8) : Nat := paramsWord params 68 4
def diskMinor (params : List UInt8) : Nat := paramsWord params 72 4

def dumpDevInfo (devId : BitVec 32) (info : DevInfo) (params : List UInt8) : List Char :=
  "dev id ".toList ++ decimal devId.toNat ++ ": nr_hw_queues ".toList ++ decimal info.nrHwQueues.toNat ++
    " queue_depth ".toList ++ decimal info.queueDepth.toNat ++
    " block size ".toList ++ decimal ((1 : BitVec 32) <<< logicalBsShift params).toNat ++
    " dev_capacity ".toList ++ decimal (devSectors params) ++ ['\n'] ++
  "\tmax rq size ".toList ++ decimal info.maxIoBufBytes.toNat ++
    " daemon pid ".toList ++ signedDecimal info.ublksrvPid.toInt ++
    " state ".toList ++ stateStr info.state ++ ['\n'] ++
  "\tflags 0x".toList ++ hex info.flags.toNat ++ " [".toList ++ flagsStr info.flags ++ "]\n".toList ++
  "\tublkc: ".toList ++ decimal (charMajor params) ++ [':'] ++ decimal (charMinor params) ++
    " ublkb: ".toList ++ decimal (diskMajor params) ++ [':'] ++ decimal (diskMinor params) ++
    " owner: ".toList ++ decimal info.ownerUid.toNat ++ [':'] ++ decimal info.ownerGid.toNat ++ ['\n']

def queueLine (qId : Nat) (cpuset : List UInt8) : List Char :=
  "\tqueue ".toList ++ decimal qId ++ ": affinity(".toList ++
    cpuStr ((Object.zero sizeofCpuSet).fill (clip sizeofCpuSet cpuset)) ++ ")\n".toList

/-- A short name, left aligned in twenty columns. -/
def featureLine (entry : FlagEntry) : List Char :=
  let name := entry.shortName.toList
  ['\t'] ++ name ++ List.replicate (20 - name.length) ' ' ++ ": 0x".toList ++ hex entry.flag.toNat ++ ['\n']

def featuresText (features : BitVec 64) : List Char :=
  "ublk_drv features: 0x".toList ++ hex features.toNat ++ ['\n'] ++
    (flagTable.filter fun entry => hasFlag features entry.flag).flatMap featureLine

/-! ## Tasks that print -/

/-- What was printed, and the exception that left the task. -/
structure Ended where
  out : List Char
  thrown : Option ControlError
deriving DecidableEq, Repr

abbrev Task := Script Ended

def print (text : List Char) : Task := .done (.ok ⟨text, none⟩)
def throwing (err : ControlError) : Task := .done (.ok ⟨[], some err⟩)

/-- What follows a `co_await` that may throw. -/
def orThrow {α : Type} (next : α → Task) : Except ControlError α → Task
  | .error err => throwing err
  | .ok value => next value

/-- A task behind a text that was printed. -/
def behind (text : List Char) (task : Task) : Task :=
  task.bind fun result => .done (result.map fun ended => ⟨text ++ ended.out, ended.thrown⟩)

def continueWith (second : Task) : Except ControlError Ended → Task
  | .ok ⟨out, none⟩ => behind out second
  | other => .done other

/-- One task and then another, unless the first one throws. -/
def thenTask (first second : Task) : Task := first.bind (continueWith second)

/-! ## The subcommands

`stack` is what an operation finds on its stack, `cpuset` the uninitialised mask.
-/

/-- An error number. -/
abbrev Errno := { code : Int // 0 < code }

/-- `/sys/class/ublk-char` as the iterator reads it: the names it comes to, and the error
it ends with, if it does not come to the end. -/
structure Directory where
  names : List (List Char)
  failure : Option Errno

variable (stack : Stack) (cpuset : CpuSet)

def dumpQueueAffinity (info : DevInfo) : Nat → Nat → Task
  | _, 0 => print []
  | qId, left + 1 =>
      .call none (.getQueueAffinity (BitVec.ofNat 16 qId) cpuset) info.devId stack
        (orThrow fun received => behind (queueLine qId received.object) (dumpQueueAffinity info (qId + 1) left))

/-- The lines with which `add`, `list` and `get` end: the parameters are queried, then all
is printed. -/
def dumpDevice (devId : BitVec 32) (info : DevInfo) : Task :=
  .call none (.getParams (Params.withLen (Object.zero sizeofParams))) devId stack
    (orThrow fun received =>
      behind (dumpDevInfo devId info received.object) (dumpQueueAffinity stack cpuset info 0 info.nrHwQueues.toNat))

/-- A query into `info = {}`. -/
def getDevice (devId : BitVec 32) : Task :=
  .getInfo devId { stack with info := Object.zero sizeofDevInfo } (orThrow (dumpDevice stack cpuset devId))

/-- `info` as `add` fills it in. -/
def addInfo (devId : BitVec 32) (nrQueues queueDepth : BitVec 16) (maxIoBufBytes : BitVec 32)
    (flags : BitVec 64) : DevInfo :=
  ⟨leBytes 2 nrQueues.toNat ++ leBytes 2 queueDepth.toNat ++ leBytes 2 0 ++ leBytes 2 0 ++
      leBytes 4 maxIoBufBytes.toNat ++ leBytes 4 devId.toNat ++ leBytes 4 0 ++ leBytes 4 0 ++
      leBytes 8 flags.toNat ++ leBytes 8 0 ++ leBytes 4 0 ++ leBytes 4 0 ++ leBytes 8 0 ++ leBytes 8 0, by
    simp only [List.length_append, length_leBytes, sizeofDevInfo]⟩

def addDevice (info : DevInfo) : Task :=
  .raw (Raw.addDev info.devId info.val sizeofDevInfo 0) fun reply =>
    if reply.res < 0 then throwing (.system (-reply.res) "")
    else
      let info : DevInfo := info.fill (clip sizeofDevInfo reply.data)
      dumpDevice stack cpuset info.devId info

/-- A control operation and nothing else. -/
def operate (operation : Operation) (devId : BitVec 32) : Task :=
  .call none operation devId stack (orThrow fun _ => print [])

/-- `std::from_chars` into a `size_t`: the number and what is behind it. -/
def fromChars (text : List Char) : Option (Nat × List Char) :=
  let digits := text.takeWhile Char.isDigit
  let value := Nat.ofDigitChars 10 digits 0
  if digits.isEmpty || 2 ^ 64 ≤ value then none else some (value, text.drop digits.length)

/-- The device of a name that `list` does not pass over. The number is a `size_t` and the
operations take its low 32 bits. -/
def devIdOf (name : List Char) : Option (BitVec 32) :=
  if "ublkc".toList.isPrefixOf name then
    match fromChars (name.drop 5) with
    | some (id, []) => some (BitVec.ofNat 32 id)
    | _ => none
  else none

def listDevices (failure : Option Errno) : List (List Char) → Task
  | [] =>
      match failure with
      | none => print []
      | some code => throwing (.system code.val "")
  | name :: rest =>
      match devIdOf name with
      | none => listDevices failure rest
      | some devId => thenTask (getDevice stack cpuset devId) (listDevices failure rest)

/-- `features` is zero before the driver writes it. -/
def getFeatures : Task :=
  .raw (Raw.getFeatures (Object.zero ublkFeaturesLen).val) fun reply =>
    if reply.res < 0 then throwing (.system (-reply.res) "")
    else
      let features := (Object.zero ublkFeaturesLen).fill (clip ublkFeaturesLen reply.data)
      print (featuresText (BitVec.ofNat 64 (leValue features.val)))

def runCmd (directory : Directory) : Cmd → Task
  | .add devId nrQueues queueDepth maxIoBufBytes flags =>
      addDevice stack cpuset (addInfo devId nrQueues queueDepth maxIoBufBytes flags)
  | .del devId async => operate stack (if async then .delDevAsync else .delDev) devId
  | .start devId daemonPid => operate stack (.startDev daemonPid) devId
  | .stop devId tryStop => operate stack (if tryStop then .tryStopDev else .stopDev) devId
  | .list => listDevices stack cpuset directory.failure directory.names
  | .get devId => getDevice stack cpuset devId
  | .startRecovery devId => operate stack .startUserRecovery devId
  | .recover devId daemonPid => operate stack (.endUserRecovery daemonPid) devId
  | .features => getFeatures
  | .quiesce devId timeoutMs => operate stack (.quiesceDev timeoutMs) devId

/-! ## `main` -/

/-- What the handlers of `main` return for an exception, and `main` without one. -/
def exitStatus : Option ControlError → Int
  | none => 0
  | some (.system code _) => code
  | some (.runtime _) => 1

/-- A finished `ublkctl`. -/
structure Exit (State : Type) where
  log : List Entry
  state : State
  out : List Char
  status : Int

/-- `main` behind `parse_args`. `control` is the error of opening `/dev/ublk-control`; the
environment of the task has no device info. -/
def ublkctl {State : Type} (driver : Driver State) (control : Option Errno) (directory : Directory) (cmd : Cmd)
    (state : State) : Exit State :=
  match control with
  | some code => ⟨[], state, [], exitStatus (some (.system code.val "open /dev/ublk-control"))⟩
  | none =>
      match (runCmd stack cpuset directory cmd).run driver none state with
      | (log, after, .ok ended) => ⟨log, after, ended.out, exitStatus ended.thrown⟩
      | (log, after, .error err) => ⟨log, after, [], exitStatus (some err)⟩

end Ublk.Ctl
