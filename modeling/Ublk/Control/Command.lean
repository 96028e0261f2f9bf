import Ublk.Control.Path

namespace Ublk.Control

open Ublk.Data

/-! # Control commands

`ctrl_cmd` and the senders of `ublk::raw` that go through it, as the command they
submit. A pointer stands for the object it points to, a null pointer for no bytes.
The other half of the module is the driver's reading of a command.
-/

/-- `_IOC('u', nr, size)` of `linux/ioctl.h`: direction, size, type and number. -/
def ioc (dir nr size : Nat) : BitVec 32 := BitVec.ofNat 32 (dir * 2 ^ 30 + size * 2 ^ 16 + 0x75 * 2 ^ 8 + nr)

def sizeofCtrlCmd : Nat := 4 + 2 + 2 + 8 + 8 + 2 + 2 + 4

def ior (nr : Nat) : BitVec 32 := ioc 2 nr sizeofCtrlCmd
def iowr (nr : Nat) : BitVec 32 := ioc 3 nr sizeofCtrlCmd

def ublkUCmdGetQueueAffinity : BitVec 32 := ior 0x01
def ublkUCmdGetDevInfo : BitVec 32 := ior 0x02
def ublkUCmdAddDev : BitVec 32 := iowr 0x04
def ublkUCmdDelDev : BitVec 32 := iowr 0x05
def ublkUCmdStartDev : BitVec 32 := iowr 0x06
def ublkUCmdStopDev : BitVec 32 := iowr 0x07
def ublkUCmdSetParams : BitVec 32 := iowr 0x08
def ublkUCmdGetParams : BitVec 32 := ior 0x09
def ublkUCmdStartUserRecovery : BitVec 32 := iowr 0x10
def ublkUCmdEndUserRecovery : BitVec 32 := iowr 0x11
def ublkUCmdGetDevInfo2 : BitVec 32 := ior 0x12
def ublkUCmdGetFeatures : BitVec 32 := ior 0x13
def ublkUCmdDelDevAsync : BitVec 32 := ior 0x14
def ublkUCmdUpdateSize : BitVec 32 := iowr 0x15
def ublkUCmdQuiesceDev : BitVec 32 := iowr 0x16
def ublkUCmdTryStopDev : BitVec 32 := iowr 0x17
def ublkUCmdRegBuf : BitVec 32 := iowr 0x18
def ublkUCmdUnregBuf : BitVec 32 := iowr 0x19

def ublkFeaturesLen : Nat := 8

/-- `struct ublksrv_ctrl_cmd` with the opcode of its submission queue entry. -/
structure CtrlCmd where
  op : BitVec 32
  devId : BitVec 32
  queueId : BitVec 16
  data0 : BitVec 64
  addr : List UInt8
  len : BitVec 16
  devPathLen : BitVec 16
deriving DecidableEq, Repr

/-- `ctrl_cmd`; sizes are `size_t` expressions that narrow to the 16-bit parameters. -/
def ctrlCmd (op devId : BitVec 32) (queueId : BitVec 16) (data0 : BitVec 64) (addr : List UInt8)
    (len devPathLen : Nat) : CtrlCmd :=
  { op, devId, queueId, data0, addr, len := BitVec.ofNat 16 len, devPathLen := BitVec.ofNat 16 devPathLen }

namespace Raw

/-- A command whose only buffer is the device path: its length is passed twice. -/
def pathCmd (op devId : BitVec 32) (data0 : BitVec 64) (path : List UInt8) (pathLen : Nat) : CtrlCmd :=
  ctrlCmd op devId (-1) data0 path pathLen pathLen

def getFeatures (features : List UInt8) : CtrlCmd :=
  ctrlCmd ublkUCmdGetFeatures (-1) (-1) 0 features ublkFeaturesLen 0

/-- A command with a buffer for data, which may begin with the device path. -/
def dataCmd (op devId : BitVec 32) (data : List UInt8) (size pathLen : Nat) : CtrlCmd :=
  ctrlCmd op devId (-1) 0 data size pathLen

variable (devId : BitVec 32) (data path : List UInt8) (size pathLen : Nat)

def getQueueAffinity (qId : BitVec 16) : CtrlCmd :=
  ctrlCmd ublkUCmdGetQueueAffinity devId qId (qId.setWidth 64) data size pathLen

def addDev : CtrlCmd := dataCmd ublkUCmdAddDev devId data size pathLen
def getDevInfo : CtrlCmd := dataCmd ublkUCmdGetDevInfo devId data size pathLen
def getDevInfo2 : CtrlCmd := dataCmd ublkUCmdGetDevInfo2 devId data size pathLen
def setParams : CtrlCmd := dataCmd ublkUCmdSetParams devId data size pathLen
def getParams : CtrlCmd := dataCmd ublkUCmdGetParams devId data size pathLen
def registerShmBuf : CtrlCmd := dataCmd ublkUCmdRegBuf devId data size pathLen

def delDev : CtrlCmd := pathCmd ublkUCmdDelDev devId 0 path pathLen
def stopDev : CtrlCmd := pathCmd ublkUCmdStopDev devId 0 path pathLen
def startUserRecovery : CtrlCmd := pathCmd ublkUCmdStartUserRecovery devId 0 path pathLen
def delDevAsync : CtrlCmd := pathCmd ublkUCmdDelDevAsync devId 0 path pathLen
def tryStopDev : CtrlCmd := pathCmd ublkUCmdTryStopDev devId 0 path pathLen

def startDev (daemonPid : BitVec 32) : CtrlCmd :=
  pathCmd ublkUCmdStartDev devId (daemonPid.signExtend 64) path pathLen

def endUserRecovery (daemonPid : BitVec 32) : CtrlCmd :=
  pathCmd ublkUCmdEndUserRecovery devId (daemonPid.signExtend 64) path pathLen

def updateSize (sectors : BitVec 64) : CtrlCmd := pathCmd ublkUCmdUpdateSize devId sectors path pathLen
def quiesceDev (timeoutMs : BitVec 64) : CtrlCmd := pathCmd ublkUCmdQuiesceDev devId timeoutMs path pathLen

def unregisterShmBuf (bufIndex : BitVec 64) : CtrlCmd :=
  pathCmd ublkUCmdUnregBuf devId bufIndex path pathLen

end Raw

/-! ## The driver's side -/

/-- What the driver takes from a command. The path is absent where it expects none. -/
structure Request where
  op : BitVec 32
  devId : BitVec 32
  queueId : BitVec 16
  data0 : BitVec 64
  path : Option (List UInt8)
  payload : List UInt8
deriving DecidableEq, Repr

/-- The driver expects a path from unprivileged devices, and always in front of the
payload of `GET_DEV_INFO2`. -/
def expectsPath (unprivileged : Bool) (op : BitVec 32) : Bool :=
  unprivileged || op == ublkUCmdGetDevInfo2

def decode (unprivileged : Bool) (cmd : CtrlCmd) : Request :=
  let pathLen := if expectsPath unprivileged cmd.op then cmd.devPathLen.toNat else 0
  { op := cmd.op
    devId := cmd.devId
    queueId := cmd.queueId
    data0 := cmd.data0
    path := if expectsPath unprivileged cmd.op then some (cString (cmd.addr.take pathLen)) else none
    payload := (cmd.addr.drop pathLen).take (cmd.len.toNat - pathLen) }

/-- The object behind `addr` after the driver has written its answer over the first
bytes of the payload. -/
def answered (unprivileged : Bool) (cmd : CtrlCmd) (answer : List UInt8) : List UInt8 :=
  let pathLen := if expectsPath unprivileged cmd.op then cmd.devPathLen.toNat else 0
  cmd.addr.take pathLen ++ overwrite (cmd.addr.drop pathLen) answer

/-! ## Buffers with a path in front -/

section DevPathBuf

variable (field : PathField) (devId : BitVec 32) (payload : List UInt8)

theorem take_devPathBuf : (devPathBuf field devId payload).take devPathLen = fillDevPath field.val devId := by
  rw [devPathBuf, List.take_left' (length_fillDevPath field devId)]

theorem drop_devPathBuf : (devPathBuf field devId payload).drop devPathLen = payload := by
  rw [devPathBuf, List.drop_left' (length_fillDevPath field devId)]

end DevPathBuf

end Ublk.Control
