import Ublk.Control.Operations

namespace Ublk.Control

open Ublk.Data

/-! # Unprivileged mode sends the same request

The driver reads two layouts: with the device path in front of the payload, and
without it. Both are decoded once, for commands with a path only and for commands
with data; every operation is a case of one of the two.
-/

section Layout

variable {op devId : BitVec 32} {queueId : BitVec 16} {data0 : BitVec 64}

/-- The driver finds path and payload where `DevPathBuf` puts them. -/
theorem decode_devPathBuf (field : PathField) {payload : List UInt8}
    (fits : devPathLen + payload.length < 2 ^ 16) :
    decode true (ctrlCmd op devId queueId data0 (devPathBuf field devId payload)
        (devPathLen + payload.length) devPathLen) =
      { op, devId, queueId, data0, path := some (devPath devId), payload } := by
  have pathSize : (BitVec.ofNat 16 devPathLen).toNat = devPathLen := by decide
  have size : (BitVec.ofNat 16 (devPathLen + payload.length)).toNat = devPathLen + payload.length :=
    Nat.mod_eq_of_lt fits
  simp only [decode, ctrlCmd, expectsPath, Bool.true_or, ↓reduceIte, pathSize, size, take_devPathBuf,
    drop_devPathBuf, cString_fillDevPath, Nat.add_sub_cancel_left, List.take_length]

theorem decode_devPath (field : PathField) :
    decode true (ctrlCmd op devId queueId data0 (fillDevPath field.val devId) devPathLen devPathLen) =
      { op, devId, queueId, data0, path := some (devPath devId), payload := [] } := by
  have empty := @decode_devPathBuf op devId queueId data0 field [] (by decide)
  simpa only [devPathBuf, List.append_nil, List.length_nil, Nat.add_zero] using empty

theorem decode_plain {payload : List UInt8} (other : op ≠ ublkUCmdGetDevInfo2)
    (fits : payload.length < 2 ^ 16) :
    decode false (ctrlCmd op devId queueId data0 payload payload.length 0) =
      { op, devId, queueId, data0, path := none, payload } := by
  have size : (BitVec.ofNat 16 payload.length).toNat = payload.length := Nat.mod_eq_of_lt fits
  have noPath : (op == ublkUCmdGetDevInfo2) = false := beq_eq_false_iff_ne.mpr other
  simp only [decode, ctrlCmd, expectsPath, Bool.false_or, noPath, Bool.false_eq_true, ↓reduceIte,
    List.drop_zero, Nat.sub_zero, size, List.take_length]

end Layout

/-- Both branches of an operation reach the driver as one request, apart from what a
query finds in the buffer it is to fill. -/
structure SameRequest (operation : Operation) (devId : BitVec 32) (sent plain : Request) : Prop where
  path : sent.path = some (devPath devId)
  op : sent.op = plain.op
  devId : sent.devId = plain.devId
  queueId : sent.queueId = plain.queueId
  data0 : sent.data0 = plain.data0
  length : sent.payload.length = plain.payload.length
  message : operation.message sent.payload = operation.message plain.payload

section Operations

variable {operation : Operation} {op devId : BitVec 32} {queueId : BitVec 16} {data0 : BitVec 64}

/-- The operations that go through `with_dev_path`. -/
theorem sameRequest_path (field : PathField) (other : op ≠ ublkUCmdGetDevInfo2) :
    SameRequest operation devId
      (decode true (Raw.pathCmd op devId data0 (fillDevPath field.val devId) devPathLen))
      (decode false (Raw.pathCmd op devId data0 [] 0)) := by
  have plain := @decode_plain op devId (-1) data0 [] other (by decide)
  simp only [List.length_nil] at plain
  rw [Raw.pathCmd, Raw.pathCmd, decode_devPath field, plain]
  exact ⟨rfl, rfl, rfl, rfl, rfl, rfl, rfl⟩

/-- The operations with data, whose payload has the same size in both branches. -/
theorem sameRequest_data {size : Nat} (field : PathField) (sent plain : Object size)
    (other : op ≠ ublkUCmdGetDevInfo2) (fits : devPathLen + size < 2 ^ 16)
    (same : operation.message sent.val = operation.message plain.val) :
    SameRequest operation devId
      (decode true (ctrlCmd op devId queueId data0 (devPathBuf field devId sent.val)
        (devPathLen + size) devPathLen))
      (decode false (ctrlCmd op devId queueId data0 plain.val size 0)) := by
  obtain ⟨sent, rfl⟩ := sent
  obtain ⟨plain, length⟩ := plain
  have withPath := @decode_devPathBuf op devId queueId data0 field sent fits
  have withoutPath := @decode_plain op devId queueId data0 plain other (by omega)
  rw [length] at withoutPath
  simp only at same ⊢
  rw [withPath, withoutPath]
  exact ⟨rfl, rfl, rfl, rfl, rfl, length.symm, same⟩

end Operations

/-- Every operation, on every device id and with all arguments: an unprivileged
device gets its whole path and the request a privileged one would get. -/
theorem unprivileged_same_request (operation : Operation) (field : PathField) (devId : BitVec 32) :
    SameRequest operation devId (decode true (operation.command true field devId))
      (decode false (operation.command false field devId)) := by
  cases operation with
  | getQueueAffinity qId cpuset => exact sameRequest_data field _ cpuset (by decide) (by decide) rfl
  | delDev => exact sameRequest_path field (by decide)
  | startDev daemonPid => exact sameRequest_path field (by decide)
  | stopDev => exact sameRequest_path field (by decide)
  | setParams params => exact sameRequest_data field _ params.withLen (by decide) (by decide) rfl
  | getParams params => exact sameRequest_data field _ params.withLen (by decide) (by decide) rfl
  | startUserRecovery => exact sameRequest_path field (by decide)
  | endUserRecovery daemonPid => exact sameRequest_path field (by decide)
  | delDevAsync => exact sameRequest_path field (by decide)
  | updateSize sectors => exact sameRequest_path field (by decide)
  | quiesceDev timeoutMs => exact sameRequest_path field (by decide)
  | tryStopDev => exact sameRequest_path field (by decide)
  | registerShmBuf reg => exact sameRequest_data field _ reg (by decide) (by decide) rfl
  | unregisterShmBuf bufIndex => exact sameRequest_path field (by decide)

/-- A mask that is not empty before the query: only the privileged branch shows its
content to the driver. -/
theorem affinity_buffer_differs :
    ∃ (cpuset : CpuSet) (field : PathField),
      (decode true ((Operation.getQueueAffinity 0 cpuset).command true field 0)).payload ≠
        (decode false ((Operation.getQueueAffinity 0 cpuset).command false field 0)).payload := by
  refine ⟨⟨1 :: List.replicate 127 0, rfl⟩, Object.zero devPathLen, ?_⟩
  decide

end Ublk.Control
