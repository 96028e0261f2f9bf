import Ublk.Control.Command

namespace Ublk.Control

open Ublk.Data

/-! # The control operations

`control_*_t::invoke` behind the query of the device info, as the command each one
submits. `unprivileged` is the test of the device flags, `field` the uninitialised
path field on the stack. Operations without data differ in one call of
`with_dev_path` only; those with data choose between their own object and a buffer
with the path in front.
-/

def isUnprivileged (flags : BitVec 64) : Bool := hasFlag flags ublkFUnprivilegedDev

/-- `sizeof` of the types that are passed as data. -/
def sizeofCpuSet : Nat := 128
def sizeofParams : Nat := 152
def sizeofShmemBufReg : Nat := 24

abbrev CpuSet := Object sizeofCpuSet
abbrev Params := Object sizeofParams
abbrev ShmemBufReg := Object sizeofShmemBufReg

/-- `params.len = sizeof(params)`: `len` is the first word of `struct ublk_params`. -/
def Params.withLen (params : Params) : Params :=
  ⟨overwrite params.val (leBytes 4 sizeofParams), by
    have size := params.property
    rw [length_overwrite (by simp [size, sizeofParams]), size]⟩

variable (unprivileged : Bool) (field : PathField) (devId : BitVec 32)

def withDevPath (fn : List UInt8 → Nat → CtrlCmd) : CtrlCmd :=
  let path := fillDevPath field.val devId
  if unprivileged then fn path devPathLen else fn [] 0

def controlDelDev : CtrlCmd := withDevPath unprivileged field devId (Raw.delDev devId)
def controlStopDev : CtrlCmd := withDevPath unprivileged field devId (Raw.stopDev devId)
def controlDelDevAsync : CtrlCmd := withDevPath unprivileged field devId (Raw.delDevAsync devId)
def controlTryStopDev : CtrlCmd := withDevPath unprivileged field devId (Raw.tryStopDev devId)

def controlStartUserRecovery : CtrlCmd :=
  withDevPath unprivileged field devId (Raw.startUserRecovery devId)

def controlStartDev (daemonPid : BitVec 32) : CtrlCmd :=
  withDevPath unprivileged field devId fun path len => Raw.startDev devId path len daemonPid

def controlEndUserRecovery (daemonPid : BitVec 32) : CtrlCmd :=
  withDevPath unprivileged field devId fun path len => Raw.endUserRecovery devId path len daemonPid

def controlUpdateSize (sectors : BitVec 64) : CtrlCmd :=
  withDevPath unprivileged field devId fun path len => Raw.updateSize devId path len sectors

def controlQuiesceDev (timeoutMs : BitVec 64) : CtrlCmd :=
  withDevPath unprivileged field devId fun path len => Raw.quiesceDev devId path len timeoutMs

def controlUnregisterShmBuf (bufIndex : BitVec 64) : CtrlCmd :=
  withDevPath unprivileged field devId fun path len => Raw.unregisterShmBuf devId path len bufIndex

def controlGetQueueAffinity (qId : BitVec 16) (cpuset : CpuSet) : CtrlCmd :=
  if unprivileged then
    let buf := devPathBuf field devId (Object.zero sizeofCpuSet).val
    Raw.getQueueAffinity devId buf (devPathLen + sizeofCpuSet) devPathLen qId
  else Raw.getQueueAffinity devId cpuset.val sizeofCpuSet 0 qId

def controlSetParams (params : Params) : CtrlCmd :=
  let full := params.withLen
  if unprivileged then
    let buf := devPathBuf field devId full.val
    Raw.setParams devId buf (devPathLen + sizeofParams) devPathLen
  else Raw.setParams devId full.val sizeofParams 0

def controlGetParams (params : Params) : CtrlCmd :=
  let params := params.withLen
  if unprivileged then
    let payload := Params.withLen (Object.zero sizeofParams)
    Raw.getParams devId (devPathBuf field devId payload.val) (devPathLen + sizeofParams) devPathLen
  else Raw.getParams devId params.val sizeofParams 0

def controlRegisterShmBuf (reg : ShmemBufReg) : CtrlCmd :=
  if unprivileged then
    let buf := devPathBuf field devId reg.val
    Raw.registerShmBuf devId buf (devPathLen + sizeofShmemBufReg) devPathLen
  else Raw.registerShmBuf devId reg.val sizeofShmemBufReg 0

/-- The operations with the arguments their callers choose. -/
inductive Operation where
  | getQueueAffinity (qId : BitVec 16) (cpuset : CpuSet)
  | delDev
  | startDev (daemonPid : BitVec 32)
  | stopDev
  | setParams (params : Params)
  | getParams (params : Params)
  | startUserRecovery
  | endUserRecovery (daemonPid : BitVec 32)
  | delDevAsync
  | updateSize (sectors : BitVec 64)
  | quiesceDev (timeoutMs : BitVec 64)
  | tryStopDev
  | registerShmBuf (reg : ShmemBufReg)
  | unregisterShmBuf (bufIndex : BitVec 64)
deriving DecidableEq

def Operation.command : Operation → CtrlCmd
  | .getQueueAffinity qId cpuset => controlGetQueueAffinity unprivileged field devId qId cpuset
  | .delDev => controlDelDev unprivileged field devId
  | .startDev daemonPid => controlStartDev unprivileged field devId daemonPid
  | .stopDev => controlStopDev unprivileged field devId
  | .setParams params => controlSetParams unprivileged field devId params
  | .getParams params => controlGetParams unprivileged field devId params
  | .startUserRecovery => controlStartUserRecovery unprivileged field devId
  | .endUserRecovery daemonPid => controlEndUserRecovery unprivileged field devId daemonPid
  | .delDevAsync => controlDelDevAsync unprivileged field devId
  | .updateSize sectors => controlUpdateSize unprivileged field devId sectors
  | .quiesceDev timeoutMs => controlQuiesceDev unprivileged field devId timeoutMs
  | .tryStopDev => controlTryStopDev unprivileged field devId
  | .registerShmBuf reg => controlRegisterShmBuf unprivileged field devId reg
  | .unregisterShmBuf bufIndex => controlUnregisterShmBuf unprivileged field devId bufIndex

/-- The part of the payload that is a message to the driver. A query is answered in
place: the affinity mask is written only, and of the parameters the driver reads
the leading `len`. -/
def Operation.message (operation : Operation) (payload : List UInt8) : List UInt8 :=
  match operation with
  | .getQueueAffinity _ _ => []
  | .getParams _ => payload.take 4
  | _ => payload

end Ublk.Control
