import Ublk.Queue.CommitBuffer
import Ublk.Data.LastWrite

namespace Ublk.Queue

open Ublk.Data

/-! # What a batch command carries

`prep_io_cmds` and `commit_io_cmds` send one of the commit buffers together with the
layout of its elements. Here the buffers are written by any sequence of `set_result_` and
`set_zone_lba_` calls, and read with nothing but what is in the command.
-/

/-- `struct ublk_batch_io` with the `sqe->addr` and `sqe->len` beside it; the address is
relative to `commit_buf_[0]`. -/
structure BatchIo where
  qId : Nat
  flags : BitVec 16
  nrElem : BitVec 16
  elemBytes : BitVec 8
  addr : Nat
  len : BitVec 32

/-- The command for the first `nr` elements of `commit_buf_[index]`. -/
def batchIoCmd (config : Config) (index nr : Nat) : BatchIo where
  qId := config.qId
  flags := config.getBatchFlags
  nrElem := BitVec.ofNat 16 nr
  elemBytes := BitVec.ofNat 8 config.commitElementSize
  addr := config.commitBuf index
  len := BitVec.ofNat 32 (nr * config.commitElementSize)

/-- Element `pos` of a command, as the driver finds it. -/
def BatchIo.elem (cmd : BatchIo) (memory : Memory) (pos : Nat) : Elem :=
  decodeElem cmd.flags cmd.elemBytes.toNat cmd.addr memory pos

/-- The size of an element that the flags of a command imply. -/
def batchElemSize (flags : BitVec 16) : Nat :=
  8 + (if hasFlag flags ublkBatchFHasBufAddr then 8 else 0) +
    (if hasFlag flags ublkBatchFHasZoneLba then 8 else 0)

/-- The calls of a queue, for a slot of either buffer. -/
inductive SlotWrite where
  | result (tag : BitVec 16) (res : BitVec 32)
  | zoneLba (lba : BitVec 64)

structure SlotCall (config : Config) where
  index : Fin 2
  pos : Fin config.queueDepth
  write : SlotWrite

namespace SlotCall

variable {config : Config}

/-- Whether the assertion of the call holds: `set_zone_lba_` has one. -/
def allowed (call : SlotCall config) : Bool :=
  match call.write with
  | .result _ _ => true
  | .zoneLba _ => config.needFZoneLba

def stored (memory : Memory) (call : SlotCall config) : Memory :=
  match call.write with
  | .result tag res => setResult config memory call.index call.pos tag.toNat res
  | .zoneLba lba => setZoneLba config memory call.index call.pos lba

/-- One call; `none` is a failed assertion. -/
def run (memory : Memory) (call : SlotCall config) : Option Memory :=
  if call.allowed then some (call.stored memory) else none

def runAll (calls : List (SlotCall config)) (memory : Memory) : Option Memory :=
  calls.foldlM run memory

/-- What a call leaves in a slot, if it is a call for that slot. -/
def resultAt (index : Fin 2) (pos : Fin config.queueDepth) (call : SlotCall config) :
    Option (BitVec 16 × BitVec 32) :=
  match call.write with
  | .result tag res => if call.index = index ∧ call.pos = pos then some (tag, res) else none
  | .zoneLba _ => none

def zoneLbaAt (index : Fin 2) (pos : Fin config.queueDepth) (call : SlotCall config) :
    Option (BitVec 64) :=
  match call.write with
  | .result _ _ => none
  | .zoneLba lba => if call.index = index ∧ call.pos = pos then some lba else none

end SlotCall

/-- The bytes of a slot. -/
def Config.InSlot (config : Config) (index pos byte : Nat) : Prop :=
  config.commitFHdr index pos ≤ byte ∧ byte < config.commitFHdr index pos + config.commitElementSize

/-- The slots of both buffers: each lies in its own half of what was allocated, and no two
of them have a byte in common. -/
structure SlotsApart (config : Config) : Prop where
  allocated : (BitVec.ofNat 64 config.commitBufSize * 2).toNat = 2 * config.commitBufSize
  inside : ∀ (index : Fin 2) (pos : Fin config.queueDepth) byte, config.InSlot index pos byte →
    config.commitBuf index ≤ byte ∧ byte < config.commitBuf index + config.commitBufSize
  apart : ∀ (index other : Fin 2) (pos slot : Fin config.queueDepth) byte,
    config.InSlot index pos byte → config.InSlot other slot byte → index = other ∧ pos = slot

/-- The numbers of a command lose nothing in its fields, nor does the byte count the driver
returns in an `int32_t`. -/
structure CommandFits (config : Config) (cmd : BatchIo) (nr : Nat) : Prop where
  count : cmd.nrElem.toNat = nr
  elemBytes : cmd.elemBytes.toNat = batchElemSize cmd.flags
  sameSize : cmd.elemBytes.toNat = config.commitElementSize
  len : cmd.len.toNat = nr * cmd.elemBytes.toNat
  returned : nr * cmd.elemBytes.toNat < 2 ^ 31

/-- What an element says about the calls that were made for its slot. -/
structure ElemHolds (config : Config) (cmd : BatchIo) (result : Option (BitVec 16 × BitVec 32))
    (zoneLba : Option (BitVec 64)) (elem : Elem) : Prop where
  result : ∀ tag res, result = some (tag, res) → elem.tag = tag.toNat ∧ elem.result = res ∧
    (hasFlag config.flags ublkFAutoBufReg = true → elem.bufIndex = tag.toNat) ∧
    elem.bufAddr = if hasFlag cmd.flags ublkBatchFHasBufAddr then some (config.bufBases tag.toNat) else none
  zoneLba : ∀ lba, zoneLba = some lba → elem.zoneLba = some lba

section Layout

variable (config : Config)

theorem commitFHdr_end_le (index : Nat) {pos : Nat} (bound : pos < config.queueDepth) :
    config.commitFHdr index pos + config.commitElementSize ≤ config.commitBuf index + config.commitBufSize := by
  have room := config.slots_fit
  have scaled : (pos + 1) * config.commitElementSize ≤ config.queueDepth * config.commitElementSize :=
    Nat.mul_le_mul_right _ bound
  rw [Nat.add_mul, Nat.one_mul] at scaled
  simp only [Config.commitFHdr]
  omega

/-- Two halves fit a `size_t`, as a page size is a positive `long`. -/
theorem twice_commitBufSize (page : config.pageShift < 63) : 2 * config.commitBufSize < 2 ^ 64 := by
  have depth := config.depthBound
  have product : config.queueDepth * config.commitElementSize ≤ 65535 * 24 :=
    Nat.mul_le_mul (by omega) config.commitElementSize_upper
  have power : 2 ^ config.pageShift ≤ 2 ^ 62 := Nat.pow_le_pow_right (by decide) (by omega)
  have rounded : config.commitBufSize ≤ config.queueDepth * config.commitElementSize + 2 ^ config.pageShift - 1 := by
    rw [Config.commitBufSize, Config.pageSize, alignUp_toNat config.pageBound (by omega)]
    exact Nat.div_mul_le_self _ _
  omega

theorem inSlot_inside {index : Nat} {pos byte : Nat} (bound : pos < config.queueDepth)
    (within : config.InSlot index pos byte) :
    config.commitBuf index ≤ byte ∧ byte < config.commitBuf index + config.commitBufSize := by
  have last := commitFHdr_end_le config index bound
  have first : config.commitBuf index ≤ config.commitFHdr index pos := Nat.le_add_right _ _
  obtain ⟨low, high⟩ := within
  omega

theorem inSlot_unique {index other : Fin 2} {pos slot : Fin config.queueDepth} {byte : Nat}
    (here : config.InSlot index pos byte) (there : config.InSlot other slot byte) :
    index = other ∧ pos = slot := by
  have half := inSlot_inside config pos.isLt here
  have otherHalf := inSlot_inside config slot.isLt there
  have same : index = other := by
    have indexBound := index.isLt
    have otherBound := other.isLt
    have cases : (index.val = 0 ∨ index.val = 1) ∧ (other.val = 0 ∨ other.val = 1) := by omega
    rcases cases with ⟨first | first, second | second⟩
    all_goals
      simp only [first, second, Config.commitBuf] at half otherHalf
      omega
  refine ⟨same, ?_⟩
  obtain ⟨low, high⟩ := here
  obtain ⟨otherLow, otherHigh⟩ := there
  rw [← same] at otherLow otherHigh
  rcases Nat.lt_trichotomy pos.val slot.val with before | equal | behind
  · have next := config.commitFHdr_next index before
    omega
  · exact Fin.ext equal
  · have next := config.commitFHdr_next index behind
    omega

theorem slotsApart (page : config.pageShift < 63) : SlotsApart config := by
  have twice := twice_commitBufSize config page
  constructor
  · rw [BitVec.toNat_mul, BitVec.toNat_ofNat, show BitVec.toNat (2 : BitVec 64) = 2 from rfl,
      Nat.mod_eq_of_lt (a := config.commitBufSize) (by omega)]
    omega
  · intro index pos byte within
    exact inSlot_inside config pos.isLt within
  · intro index other pos slot byte here there
    exact inSlot_unique config here there

theorem batchElemSize_flags : batchElemSize config.getBatchFlags = config.commitElementSize := by
  rw [batchElemSize, Config.getBatchFlags_hasBufAddr, Config.getBatchFlags_hasZoneLba,
    Config.commitElementSize_cases]

theorem batchIoCmd_elemBytes (index nr : Nat) :
    (batchIoCmd config index nr).elemBytes.toNat = config.commitElementSize := by
  have upper := config.commitElementSize_upper
  simp only [batchIoCmd, BitVec.toNat_ofNat]
  omega

theorem batchIoCmd_fits (index : Nat) {nr : Nat} (bound : nr ≤ config.queueDepth) :
    CommandFits config (batchIoCmd config index nr) nr := by
  have depth := config.depthBound
  have size := batchIoCmd_elemBytes config index nr
  have product : nr * config.commitElementSize ≤ 65535 * 24 :=
    Nat.mul_le_mul (by omega) config.commitElementSize_upper
  constructor
  · simp only [batchIoCmd, BitVec.toNat_ofNat]
    omega
  · rw [size]
    exact (batchElemSize_flags config).symm
  · exact size
  · rw [size]
    simp only [batchIoCmd, BitVec.toNat_ofNat]
    omega
  · rw [size]
    omega

/-- What the driver decodes from a command is the queue's own view of the slot. -/
theorem batchIoCmd_elem (index nr : Nat) (memory : Memory) (pos : Nat) :
    (batchIoCmd config index nr).elem memory pos = elemAt config memory index pos := by
  rw [BatchIo.elem, batchIoCmd_elemBytes]
  rfl

end Layout

namespace SlotCall

variable {config : Config} {index : Fin 2} {pos : Fin config.queueDepth} {call : SlotCall config}
  {calls : List (SlotCall config)}

theorem stored_outside {memory : Memory} {byte : Nat} (allowed : call.allowed = true)
    (outside : ¬ config.InSlot call.index call.pos byte) : call.stored memory byte = memory byte := by
  simp only [Config.InSlot, not_and_or, Nat.not_le, Nat.not_lt] at outside
  obtain ⟨index, pos, write⟩ := call
  cases write with
  | result tag res => exact setResult_outside outside
  | zoneLba lba => exact setZoneLba_zoned_outside allowed outside

/-- A call leaves the elements of all other slots as they are. -/
theorem elemAt_stored_other {memory : Memory} (allowed : call.allowed = true)
    (other : ¬ (call.index = index ∧ call.pos = pos)) :
    elemAt config (call.stored memory) index pos = elemAt config memory index pos := by
  apply elemAt_congr
  intro byte low high
  apply stored_outside allowed
  intro here
  exact other (inSlot_unique config here ⟨low, high⟩)

theorem runAll_eq (calls : List (SlotCall config)) (memory : Memory) :
    runAll calls memory = if calls.all allowed then some (calls.foldl stored memory) else none := by
  induction calls generalizing memory with
  | nil => rfl
  | cons call rest ih =>
      rw [runAll, List.foldlM_cons, run]
      cases ok : call.allowed with
      | true =>
          rw [List.all_cons, ok, Bool.true_and]
          exact ih (call.stored memory)
      | false =>
          rw [List.all_cons, ok]
          rfl

theorem run_eq_some {memory after : Memory} (completed : call.run memory = some after) :
    call.allowed = true ∧ call.stored memory = after := by
  rw [run, Option.ite_none_right_eq_some, Option.some.injEq] at completed
  exact completed

theorem allowed_eq_false :
    call.allowed = false ↔ config.needFZoneLba = false ∧ ∃ lba, call.write = .zoneLba lba := by
  obtain ⟨index, pos, write⟩ := call
  cases write with
  | result tag res => simp [allowed]
  | zoneLba lba => simp [allowed]

/-- A sequence of calls stops at a zone address on a device without zones, and only there. -/
theorem runAll_eq_none {memory : Memory} : runAll calls memory = none ↔
    config.needFZoneLba = false ∧ ∃ call ∈ calls, ∃ lba, call.write = .zoneLba lba := by
  rw [runAll_eq, ite_eq_right_iff]
  constructor
  · intro failed
    have illegal : ¬ calls.all allowed = true := by
      intro legal
      have none := failed legal
      contradiction
    rw [List.all_eq_true] at illegal
    push Not at illegal
    obtain ⟨call, member, refused⟩ := illegal
    obtain ⟨unzoned, written⟩ := allowed_eq_false.mp (Bool.eq_false_iff.mpr refused)
    exact ⟨unzoned, call, member, written⟩
  · intro found legal
    obtain ⟨unzoned, call, member, written⟩ := found
    have refused := allowed_eq_false.mpr ⟨unzoned, written⟩
    rw [List.all_eq_true.mp legal call member] at refused
    contradiction

theorem runAll_eq_some {memory after : Memory} (completed : runAll calls memory = some after) :
    (∀ call ∈ calls, call.allowed = true) ∧ calls.foldl stored memory = after := by
  rw [runAll_eq, Option.ite_none_right_eq_some, Option.some.injEq, List.all_eq_true] at completed
  exact completed

/-- A field of the elements that `set_result_` determines holds what its last call for the
slot gave. -/
theorem field_result {Field : Type} (field : Elem → Field) (given : BitVec 16 → BitVec 32 → Field)
    {tag : BitVec 16} {res : BitVec 32} (last : lastWrite (resultAt index pos) calls = some (tag, res))
    (legal : ∀ call ∈ calls, call.allowed = true)
    (keeps : ∀ elem zoneLba, field { elem with zoneLba } = field elem)
    (sets : ∀ memory (tag : BitVec 16) res, field (elemAt config
      (setResult config memory index pos tag.toNat res) index pos) = given tag res) (memory : Memory) :
    field (elemAt config (calls.foldl stored memory) index pos) = given tag res := by
  have values : lastWrite (fun call => (resultAt index pos call).map fun pair => given pair.1 pair.2) calls =
      some (given tag res) := by
    rw [lastWrite_map, last]
    rfl
  rw [foldl_lastWrite (fun memory => field (elemAt config memory index pos)) calls memory, values,
    Option.getD_some]
  intro memory call member
  obtain ⟨callIndex, callPos, write⟩ := call
  have allowed := legal _ member
  by_cases here : callIndex = index ∧ callPos = pos
  · obtain ⟨rfl, rfl⟩ := here
    cases write with
    | result tag res =>
        simp only [resultAt, and_self, if_true, Option.map_some, Option.getD_some]
        exact sets memory tag res
    | zoneLba lba =>
        simp only [resultAt, Option.map_none, Option.getD_none]
        exact (congrArg field (elemAt_setZoneLba lba)).trans (keeps _ _)
  · rw [elemAt_stored_other allowed here]
    cases write with
    | result tag res => simp only [resultAt, here, if_false, Option.map_none, Option.getD_none]
    | zoneLba lba => rfl

theorem field_zoneLba (zoned : config.needFZoneLba = true) (legal : ∀ call ∈ calls, call.allowed = true)
    (memory : Memory) :
    (elemAt config (calls.foldl stored memory) index pos).zoneLba =
      ((lastWrite (zoneLbaAt index pos) calls).map some).getD (elemAt config memory index pos).zoneLba := by
  rw [← lastWrite_map]
  apply foldl_lastWrite fun memory => (elemAt config memory index pos).zoneLba
  intro memory call member
  obtain ⟨callIndex, callPos, write⟩ := call
  have allowed := legal _ member
  by_cases here : callIndex = index ∧ callPos = pos
  · obtain ⟨rfl, rfl⟩ := here
    cases write with
    | result tag res =>
        simp only [stored, zoneLbaAt, elemAt_setResult, Option.map_none, Option.getD_none]
    | zoneLba lba =>
        simp only [stored, zoneLbaAt, elemAt_setZoneLba, zoned, and_self, if_true, Option.map_some,
          Option.getD_some]
  · rw [elemAt_stored_other allowed here]
    cases write with
    | result tag res => rfl
    | zoneLba lba => simp only [zoneLbaAt, here, if_false, Option.map_none, Option.getD_none]

/-- A zone address was only written on a device with zones. -/
theorem zoned_of_lastWrite {lba : BitVec 64} (legal : ∀ call ∈ calls, call.allowed = true)
    (last : lastWrite (zoneLbaAt index pos) calls = some lba) : config.needFZoneLba = true := by
  induction calls with
  | nil => contradiction
  | cons call rest ih =>
      have tail := ih fun call member => legal call (List.mem_cons_of_mem _ member)
      rw [lastWrite, Option.or_eq_some_iff] at last
      rcases last with behind | ⟨_, here⟩
      · exact tail behind
      · have allowed := legal call List.mem_cons_self
        obtain ⟨callIndex, callPos, write⟩ := call
        cases write with
        | result tag res => contradiction
        | zoneLba lba => exact allowed

theorem elemHolds (nr : Nat) (legal : ∀ call ∈ calls, call.allowed = true) (memory : Memory) :
    ElemHolds config (batchIoCmd config index nr) (lastWrite (resultAt index pos) calls)
      (lastWrite (zoneLbaAt index pos) calls) (elemAt config (calls.foldl stored memory) index pos) := by
  constructor
  · intro tag res last
    have narrow : ∀ tag : BitVec 16, tag.toNat % 2 ^ 16 = tag.toNat := fun tag => Nat.mod_eq_of_lt tag.isLt
    refine ⟨?_, ?_, ?_, ?_⟩
    · apply field_result Elem.tag (fun tag _ => tag.toNat) last legal (fun _ _ => rfl)
      intro memory tag res
      rw [elemAt_setResult]
      exact narrow tag
    · apply field_result Elem.result (fun _ res => res) last legal (fun _ _ => rfl)
      intro memory tag res
      rw [elemAt_setResult]
    · intro auto
      apply field_result Elem.bufIndex (fun tag _ => tag.toNat) last legal (fun _ _ => rfl)
      intro memory tag res
      rw [elemAt_setResult]
      simp only [auto, if_true]
      exact narrow tag
    · simp only [batchIoCmd, Config.getBatchFlags_hasBufAddr]
      apply field_result Elem.bufAddr
        (fun tag _ => if config.needFBufAddr then some (config.bufBases tag.toNat) else none) last legal
        (fun _ _ => rfl)
      intro memory tag res
      rw [elemAt_setResult]
  · intro lba last
    rw [field_zoneLba (zoned_of_lastWrite legal last) legal, last]
    rfl

end SlotCall

open SlotCall in
/-- Whatever calls fill the two buffers, every command decodes to the last of them for each
slot. A call changes bytes of its own slot only, and the one assertion fails exactly for a
zone address on a device without zones. -/
theorem batch_buffers_decode {config : Config} (page : config.pageShift < 63)
    (calls : List (SlotCall config)) (before : Memory) :
    SlotsApart config ∧
    (∀ (index : Fin 2) nr, nr ≤ config.queueDepth → CommandFits config (batchIoCmd config index nr) nr) ∧
    (∀ (call : SlotCall config) memory after, call.run memory = some after →
      ∀ byte, after byte ≠ memory byte → config.InSlot call.index call.pos byte) ∧
    (runAll calls before = none ↔ config.needFZoneLba = false ∧ ∃ call ∈ calls, ∃ lba, call.write = .zoneLba lba) ∧
    ∀ after, runAll calls before = some after → ∀ (index : Fin 2) (pos : Fin config.queueDepth) nr,
      ElemHolds config (batchIoCmd config index nr) (lastWrite (resultAt index pos) calls)
        (lastWrite (zoneLbaAt index pos) calls) ((batchIoCmd config index nr).elem after pos) := by
  refine ⟨slotsApart config page, ?_, ?_, runAll_eq_none, ?_⟩
  · intro index nr bound
    exact batchIoCmd_fits config index bound
  · intro call memory after completed byte changed
    obtain ⟨allowed, rfl⟩ := run_eq_some completed
    by_contra outside
    exact changed (stored_outside allowed outside)
  · intro after completed index pos nr
    obtain ⟨legal, rfl⟩ := runAll_eq_some completed
    rw [batchIoCmd_elem]
    exact elemHolds nr legal before

/-- A zoned queue of three tags that sends no buffer addresses. -/
def zonedTags : Config where
  qId := 0
  flags := ublkFZoned ||| ublkFUserCopy
  queueDepth := 3
  pageShift := 16
  bufBases := fun _ => 0
  depthBound := by decide
  pageBound := by decide

/-- Two completions in the second buffer, the first of them a zone append whose address is
written twice. -/
def twoCompletions : List (SlotCall zonedTags) :=
  let first : Fin zonedTags.queueDepth := ⟨0, by decide⟩
  let second : Fin zonedTags.queueDepth := ⟨1, by decide⟩
  [⟨Fin.last 1, first, .result 1 512⟩, ⟨Fin.last 1, first, .zoneLba 7⟩,
    ⟨Fin.last 1, second, .result 0 0⟩, ⟨Fin.last 1, first, .zoneLba 8⟩]

theorem batch_buffers_decode_append :
    ∃ after, SlotCall.runAll twoCompletions (fun _ => 0) = some after ∧
      ElemHolds zonedTags (batchIoCmd zonedTags 1 2) (some (1, 512)) (some 8)
        ((batchIoCmd zonedTags 1 2).elem after 0) :=
  ⟨_, rfl, (batch_buffers_decode (by decide) twoCompletions (fun _ => 0)).2.2.2.2 _ rfl (Fin.last 1)
    ⟨0, by decide⟩ 2⟩

end Ublk.Queue
