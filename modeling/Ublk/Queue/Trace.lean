import Ublk.Queue.CommitBuffer

namespace Ublk.Queue

/-! # What one tag goes through

The events of a tag that both queues share. The two queues commit with
different commands; `CommitView` is what the driver takes from either one.
-/

/-- Completion of a command whose value is not used. -/
inductive Answer where
  | ok
  | error (code : Int)
deriving DecidableEq, Repr

/-- An exception that leaves a coroutine: a `std::system_error` with its code and
text, or a `std::runtime_error`. -/
inductive QueueError where
  | system (code : Int) (what : String)
  | runtime (what : String)
deriving DecidableEq, Repr

/-- A committed result: the zone address is present for a zone append, the buffer
index and the fallback request when the device registers buffers itself. -/
structure CommitView where
  result : BitVec 32
  zoneLba : Option (BitVec 64)
  autoBufReg : Option (Nat × Bool)
deriving DecidableEq, Repr

inductive TagEvent where
  | delivered (iod : IoDesc)
  | registerIoBuf (cmd : IoCmd)
  | handleIo (data : IoData) (outcome : IoOutcome)
  | unregisterIoBuf (cmd : IoCmd)
  | commit (view : CommitView)
deriving DecidableEq, Repr

/-- `raw::register_io_buf` and `raw::unregister_io_buf` pass the index as address. -/
def ioBufCmd (qId tag bufIndex : Nat) : IoCmd :=
  { qId, tag, result := 0, addr := BitVec.ofNat 64 bufIndex, sqeAddr := 0 }

/-- The driver's reading of a `COMMIT_AND_FETCH_REQ` for the request in `iod`. -/
def commitAndFetchView (flags : BitVec 64) (iod : IoDesc) (cmd : IoCmd) : CommitView :=
  let reg := ublkSqeAddrToAutoBufReg cmd.sqeAddr
  { result := cmd.result
    zoneLba := if ublksrvGetOp iod = ublkIoOpZoneAppend then some cmd.addr else none
    autoBufReg := if hasFlag flags ublkFAutoBufReg then
      some (reg.index.toNat, hasFlag reg.flags ublkAutoBufRegFallback) else none }

/-- The driver's reading of one element of a `COMMIT_IO_CMDS`. -/
def Elem.commitView (flags : BitVec 64) (batchFlags : BitVec 16) (iod : IoDesc) (elem : Elem) :
    CommitView :=
  { result := elem.result
    zoneLba := if ublksrvGetOp iod = ublkIoOpZoneAppend then elem.zoneLba else none
    autoBufReg := if hasFlag flags ublkFAutoBufReg then
      some (elem.bufIndex, hasFlag batchFlags ublkBatchFAutoBufRegFallback) else none }

end Ublk.Queue
