import Ublk.Uapi

namespace Ublk

/-! # Handler completions

`handle_io` returns a sender; what the queue sees of it is one completion. The
value channel carries one of the result shapes `extract_io_result` accepts, the
error channel any error type, and `wrap_handle_io` turns every completion into
the result and the zone address to commit.
-/

/-- The result types of a handler: convertible to `int32_t`, a struct with
`res`, or a struct with `res` and `zone_lba`. -/
inductive IoValue where
  | int32 (res : BitVec 32)
  | withRes (res : BitVec 32)
  | withZoneLba (res : BitVec 32) (zoneLba : BitVec 64)
deriving DecidableEq, Repr

/-- The error types `normalize_error` distinguishes. The value of an error code
is whatever the handler supplied, of any sign. -/
inductive IoError where
  | errorCode (value : BitVec 32)
  | systemError (value : BitVec 32)
  | exception
  | other
deriving DecidableEq, Repr

inductive IoOutcome where
  | value (result : IoValue)
  | error (err : IoError)
  | stopped
deriving DecidableEq, Repr

def extractIoResult : IoValue → BitVec 32 × BitVec 64
  | .int32 res => (res, 0)
  | .withRes res => (res, 0)
  | .withZoneLba res zoneLba => (res, zoneLba)

/-- The value of the error code an error is normalised to; `fallback` replaces
errors that carry no code. -/
def normalizeError (err : IoError) (fallback : BitVec 32) : BitVec 32 :=
  match err with
  | .errorCode value => value
  | .systemError value => value
  | .exception => fallback
  | .other => fallback

def stoppedAsError (outcome : IoOutcome) (code : BitVec 32) : IoOutcome :=
  match outcome with
  | .stopped => .error (.errorCode code)
  | outcome => outcome

/-- Result and zone address of one handler completion. -/
def wrapHandleIo (outcome : IoOutcome) : BitVec 32 × BitVec 64 :=
  match stoppedAsError outcome (BitVec.ofInt 32 ecanceled) with
  | .value result => extractIoResult result
  | .error err => (-normalizeError err (BitVec.ofInt 32 eio), 0)
  | .stopped => (0, 0)

/-- `struct IoData`. The descriptor is the content of the tag's slot in shared
memory while the handler runs, and a null buffer is the address 0. -/
structure IoData where
  qId : Nat
  tag : Nat
  iod : IoDesc
  buf : BitVec 64
deriving DecidableEq, Repr

end Ublk
