import Mathlib.Data.Nat.Bitwise

namespace Ublk

/-! # The part of the driver interface that is shared

Constants, descriptors and commands of `ublk_cmd.h`. Flag words are 64-bit,
results are 32-bit two's complement words, and tags and queue ids are natural
numbers whose 16-bit bound is carried by the configuration of a queue.
-/

def ublkFSupportZeroCopy : BitVec 64 := 1 <<< 0
def ublkFUserRecovery : BitVec 64 := 1 <<< 3
def ublkFUnprivilegedDev : BitVec 64 := 1 <<< 5
def ublkFUserCopy : BitVec 64 := 1 <<< 7
def ublkFZoned : BitVec 64 := 1 <<< 8
def ublkFAutoBufReg : BitVec 64 := 1 <<< 11
def ublkFBatchIo : BitVec 64 := 1 <<< 15

def ublkBatchFHasZoneLba : BitVec 16 := 1 <<< 0
def ublkBatchFHasBufAddr : BitVec 16 := 1 <<< 1
def ublkBatchFAutoBufRegFallback : BitVec 16 := 1 <<< 2

def ublkAutoBufRegFallback : BitVec 8 := 1 <<< 0

def ublkIoFNeedRegBuf : BitVec 32 := 1 <<< 17
def ublkIoOpRead : BitVec 8 := 0
def ublkIoOpWrite : BitVec 8 := 1
def ublkIoOpFlush : BitVec 8 := 2
def ublkIoOpZoneAppend : BitVec 8 := 13

/-- `UBLK_S_DEV_DEAD`, the state of a device that was added and not started. -/
def ublkSDevDead : Nat := 0
def ublkSDevLive : Nat := 1
def ublkSDevQuiesced : Nat := 2
def ublkSDevFailIo : Nat := 3

def eio : Int := 5
def enodev : Int := 19
def ecanceled : Int := 125

/-- `UBLK_IO_RES_OK`, `UBLK_IO_RES_NEED_GET_DATA` and `UBLK_IO_RES_ABORT`. -/
def ublkIoResNeedGetData : Int := 1
def ublkIoResAbort : Int := -enodev

def ublkMaxQueueDepth : BitVec 64 := 4096

/-- The offsets of the character device: descriptors from the first one on, data of
requests from the second. -/
def ublksrvCmdBufOffset : BitVec 64 := 0
def ublksrvIoBufOffset : BitVec 64 := 0x80000000

def ublkIoBufBits : Nat := 25
def ublkTagOff : Nat := ublkIoBufBits
def ublkTagBits : Nat := 16
def ublkQidOff : Nat := ublkTagOff + ublkTagBits
def ublkQidBits : Nat := 12
def ublkMaxNrQueues : Nat := 1 <<< ublkQidBits
def ublksrvIoIntegrityFlag : BitVec 64 := 1 <<< 62

/-- C's test `word & mask` of one or several bits. -/
def hasFlag {width : Nat} (word mask : BitVec width) : Bool := word &&& mask != BitVec.ofNat width 0

/-- `struct ublksrv_io_desc`, in shared memory, one per tag. -/
structure IoDesc where
  opFlags : BitVec 32
  nrSectors : BitVec 32
  startSector : BitVec 64
  addr : BitVec 64
deriving DecidableEq, Repr, Inhabited

def ublksrvGetOp (iod : IoDesc) : BitVec 8 := (iod.opFlags &&& 0xff).setWidth 8

/-- `struct ublksrv_io_cmd` with the `sqe->addr` that travels beside it. -/
structure IoCmd where
  qId : Nat
  tag : Nat
  result : BitVec 32
  addr : BitVec 64
  sqeAddr : BitVec 64
deriving DecidableEq, Repr

structure AutoBufReg where
  index : BitVec 16
  flags : BitVec 8
  reserved0 : BitVec 8
  reserved1 : BitVec 32
deriving DecidableEq, Repr

def ublkAutoBufRegToSqeAddr (buf : AutoBufReg) : BitVec 64 :=
  buf.index.setWidth 64 ||| (buf.flags.setWidth 64 <<< 16) |||
    (buf.reserved0.setWidth 64 <<< 24) ||| (buf.reserved1.setWidth 64 <<< 32)

def ublkSqeAddrToAutoBufReg (sqeAddr : BitVec 64) : AutoBufReg where
  index := sqeAddr.setWidth 16
  flags := (sqeAddr >>> 16).setWidth 8
  reserved0 := (sqeAddr >>> 24).setWidth 8
  reserved1 := (sqeAddr >>> 32).setWidth 32

/-- The driver reads back from `sqe->addr` the registration the server encoded. -/
theorem ublkSqeAddrToAutoBufReg_encoded (buf : AutoBufReg) :
    ublkSqeAddrToAutoBufReg (ublkAutoBufRegToSqeAddr buf) = buf := by
  obtain ⟨index, flags, reserved0, reserved1⟩ := buf
  simp only [ublkSqeAddrToAutoBufReg, ublkAutoBufRegToSqeAddr, AutoBufReg.mk.injEq]
  refine ⟨?_, ?_, ?_, ?_⟩
  all_goals
    apply BitVec.eq_of_getLsbD_eq
    intro bit bound
    simp only [BitVec.getLsbD_setWidth, BitVec.getLsbD_or, BitVec.getLsbD_shiftLeft,
      BitVec.getLsbD_ushiftRight]
  · grind
  · grind
  · grind
  · grind

end Ublk
