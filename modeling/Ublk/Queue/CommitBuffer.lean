import Ublk.Queue.Config
import Ublk.Data.Bytes

namespace Ublk.Queue

open Ublk.Data

/-! # The commit buffers of `BatchIoQueue`

Both halves of `commit_buf_` live in one byte memory, addressed from
`commit_buf_[0]`. The element layout depends on two predicates of the flags
word; the driver reads an element back with the flags and the element size that
travel in the command. Clients use `elemAt` and the lemmas about it, never the
byte layout.
-/

namespace Config

def needFBufAddr (config : Config) : Bool :=
  !hasFlag config.flags ublkFAutoBufReg && needAllocBuf config.flags

def needFZoneLba (config : Config) : Bool := hasFlag config.flags ublkFZoned

def getBatchFlags (config : Config) : BitVec 16 :=
  let f : BitVec 16 := 0
  let f := if hasFlag config.flags ublkFAutoBufReg then f ||| ublkBatchFAutoBufRegFallback
    else if config.needFBufAddr then f ||| ublkBatchFHasBufAddr
    else f
  if config.needFZoneLba then f ||| ublkBatchFHasZoneLba else f

def commitElementSize (config : Config) : Nat :=
  let size := 8
  let size := if config.needFBufAddr then size + 8 else size
  if config.needFZoneLba then size + 8 else size

def commitBufSize (config : Config) : Nat :=
  (alignUp (BitVec.ofNat 64 (config.queueDepth * config.commitElementSize)) config.pageSize).toNat

/-- `commit_buf_[index]`, relative to `commit_buf_[0]`. -/
def commitBuf (config : Config) (index : Nat) : Nat := index * config.commitBufSize

def commitFHdr (config : Config) (index pos : Nat) : Nat :=
  config.commitBuf index + pos * config.commitElementSize

def commitFBufAddr (config : Config) (index pos : Nat) : Nat := config.commitFHdr index pos + 8

def commitFZoneLba (config : Config) (index pos : Nat) : Nat :=
  config.commitFHdr index pos + (if config.needFBufAddr then 8 + 8 else 8)

end Config

/-- `set_result_`: the header of `struct ublk_elem_header` has the tag at byte 0,
the buffer index at byte 2 and the result at byte 4. -/
def setResult (config : Config) (memory : Memory) (index pos tag : Nat) (res : BitVec 32) :
    Memory :=
  let hdr := config.commitFHdr index pos
  let memory := store memory hdr 2 tag
  let memory := store memory (hdr + 4) 4 res.toNat
  if hasFlag config.flags ublkFAutoBufReg then store memory (hdr + 2) 2 tag
  else if config.needFBufAddr then
    store memory (config.commitFBufAddr index pos) 8 (config.bufBases tag).toNat
  else memory

def setZoneLba (config : Config) (memory : Memory) (index pos : Nat) (lba : BitVec 64) : Memory :=
  store memory (config.commitFZoneLba index pos) 8 lba.toNat

/-- One element as the driver reads it. -/
structure Elem where
  tag : Nat
  bufIndex : Nat
  result : BitVec 32
  bufAddr : Option (BitVec 64)
  zoneLba : Option (BitVec 64)
deriving DecidableEq, Repr

/-- Element `pos` of a batch command buffer at `base`, decoded from the flags and
the element size of the command as the comment on `struct ublk_batch_io` says. -/
def decodeElem (batchFlags : BitVec 16) (elemBytes base : Nat) (memory : Memory)
    (pos : Nat) : Elem :=
  let start := base + pos * elemBytes
  let bufAddrAt := start + 8
  let zoneLbaAt := if hasFlag batchFlags ublkBatchFHasBufAddr then bufAddrAt + 8 else bufAddrAt
  { tag := load memory start 2
    bufIndex := load memory (start + 2) 2
    result := BitVec.ofNat 32 (load memory (start + 4) 4)
    bufAddr := if hasFlag batchFlags ublkBatchFHasBufAddr then
      some (BitVec.ofNat 64 (load memory bufAddrAt 8)) else none
    zoneLba := if hasFlag batchFlags ublkBatchFHasZoneLba then
      some (BitVec.ofNat 64 (load memory zoneLbaAt 8)) else none }

/-- The driver's view of slot `pos` of `commit_buf_[index]`. -/
def elemAt (config : Config) (memory : Memory) (index pos : Nat) : Elem :=
  decodeElem config.getBatchFlags config.commitElementSize (config.commitBuf index) memory pos

namespace Config

variable (config : Config)

theorem getBatchFlags_hasBufAddr :
    hasFlag config.getBatchFlags ublkBatchFHasBufAddr = config.needFBufAddr := by
  rw [getBatchFlags, needFBufAddr]
  cases hasFlag config.flags ublkFAutoBufReg <;> cases needAllocBuf config.flags <;>
    cases config.needFZoneLba <;> decide

theorem getBatchFlags_hasZoneLba :
    hasFlag config.getBatchFlags ublkBatchFHasZoneLba = config.needFZoneLba := by
  rw [getBatchFlags]
  cases hasFlag config.flags ublkFAutoBufReg <;> cases config.needFBufAddr <;>
    cases config.needFZoneLba <;> decide

theorem getBatchFlags_fallback :
    hasFlag config.getBatchFlags ublkBatchFAutoBufRegFallback = hasFlag config.flags ublkFAutoBufReg := by
  rw [getBatchFlags]
  cases hasFlag config.flags ublkFAutoBufReg <;> cases config.needFBufAddr <;>
    cases config.needFZoneLba <;> decide

theorem commitElementSize_cases :
    config.commitElementSize = 8 + (if config.needFBufAddr then 8 else 0) +
      (if config.needFZoneLba then 8 else 0) := by
  rw [commitElementSize]
  cases config.needFBufAddr <;> cases config.needFZoneLba <;> rfl

theorem commitElementSize_lower : 8 ≤ config.commitElementSize := by
  rw [commitElementSize_cases]
  omega

theorem commitElementSize_upper : config.commitElementSize ≤ 24 := by
  rw [commitElementSize_cases]
  split <;> split <;> omega

/-- The zone address starts no earlier than the byte after the header and ends
at most eight bytes past the slot, also where the layout has no room for it. -/
theorem commitFZoneLba_bounds (index pos : Nat) :
    config.commitFHdr index pos + 8 ≤ config.commitFZoneLba index pos ∧
      config.commitFZoneLba index pos + 8 ≤ config.commitFHdr index pos + config.commitElementSize + 8 := by
  rw [commitElementSize_cases, commitFZoneLba]
  split <;> split <;> omega

theorem commitFZoneLba_inside (index pos : Nat) (needed : config.needFZoneLba = true) :
    config.commitFHdr index pos ≤ config.commitFZoneLba index pos ∧
      config.commitFZoneLba index pos + 8 ≤ config.commitFHdr index pos + config.commitElementSize := by
  rw [commitElementSize_cases, commitFZoneLba]
  simp only [needed, ↓reduceIte]
  split <;> omega

theorem slots_fit : config.queueDepth * config.commitElementSize ≤ config.commitBufSize := by
  have depth := config.depthBound
  have size := config.commitElementSize_upper
  have product : config.queueDepth * config.commitElementSize ≤ 65535 * 24 :=
    Nat.mul_le_mul (by omega) size
  have page : 2 ^ config.pageShift ≤ 2 ^ 63 :=
    Nat.pow_le_pow_right (by decide) (by have := config.pageBound; omega)
  exact le_alignUp config.pageBound (by omega)

/-- Slots of one buffer follow each other. -/
theorem commitFHdr_next {first second : Nat} (index : Nat) (before : first < second) :
    config.commitFHdr index first + config.commitElementSize ≤ config.commitFHdr index second := by
  have scaled : (first + 1) * config.commitElementSize ≤ second * config.commitElementSize :=
    Nat.mul_le_mul_right _ (by omega)
  rw [Nat.add_mul, Nat.one_mul] at scaled
  simp only [commitFHdr]
  omega

/-- The slots of `commit_buf_[0]` lie before those of `commit_buf_[1]`. -/
theorem commitFHdr_other {pos : Nat} (other : Nat) (inside : pos < config.queueDepth) :
    config.commitFHdr 0 pos + config.commitElementSize ≤ config.commitFHdr 1 other := by
  have room := config.slots_fit
  have scaled : (pos + 1) * config.commitElementSize ≤ config.queueDepth * config.commitElementSize :=
    Nat.mul_le_mul_right _ (by omega)
  rw [Nat.add_mul, Nat.one_mul] at scaled
  simp only [commitFHdr, commitBuf]
  omega

end Config

variable {config : Config} {memory : Memory} {index pos : Nat}

/-- The driver looks for each field where the helpers of the queue put it. -/
theorem elemAt_fields (config : Config) (memory : Memory) (index pos : Nat) :
    elemAt config memory index pos =
      { tag := load memory (config.commitFHdr index pos) 2
        bufIndex := load memory (config.commitFHdr index pos + 2) 2
        result := BitVec.ofNat 32 (load memory (config.commitFHdr index pos + 4) 4)
        bufAddr := if config.needFBufAddr then
          some (BitVec.ofNat 64 (load memory (config.commitFBufAddr index pos) 8)) else none
        zoneLba := if config.needFZoneLba then
          some (BitVec.ofNat 64 (load memory (config.commitFZoneLba index pos) 8)) else none } := by
  have zoneLbaAt : (if config.needFBufAddr = true then config.commitFHdr index pos + 8 + 8
      else config.commitFHdr index pos + 8) = config.commitFZoneLba index pos := by
    rw [Config.commitFZoneLba]
    split <;> rfl
  simp only [elemAt, decodeElem, Config.getBatchFlags_hasBufAddr, Config.getBatchFlags_hasZoneLba,
    Config.commitFBufAddr, ← zoneLbaAt]
  rfl

theorem elemAt_congr {left right : Memory}
    (agree : ∀ byte, config.commitFHdr index pos ≤ byte →
      byte < config.commitFHdr index pos + config.commitElementSize → left byte = right byte) :
    elemAt config left index pos = elemAt config right index pos := by
  have size := config.commitElementSize_cases
  have words : ∀ address width, config.commitFHdr index pos ≤ address →
      address + width ≤ config.commitFHdr index pos + config.commitElementSize →
      load left address width = load right address width := fun address width lower upper =>
    load_congr fun byte low high => agree byte (by omega) (by omega)
  have tag := words (config.commitFHdr index pos) 2 (by omega) (by omega)
  have bufIndex := words (config.commitFHdr index pos + 2) 2 (by omega) (by omega)
  have result := words (config.commitFHdr index pos + 4) 4 (by omega) (by omega)
  have bufAddr : config.needFBufAddr = true →
      load left (config.commitFBufAddr index pos) 8 = load right (config.commitFBufAddr index pos) 8 := by
    intro needed
    simp only [needed, ↓reduceIte] at size
    exact words _ 8 (by simp only [Config.commitFBufAddr]; omega)
      (by simp only [Config.commitFBufAddr]; omega)
  have zoneLba : config.needFZoneLba = true →
      load left (config.commitFZoneLba index pos) 8 = load right (config.commitFZoneLba index pos) 8 := by
    intro needed
    have bounds := config.commitFZoneLba_inside index pos needed
    exact words _ 8 bounds.1 bounds.2
  rw [elemAt_fields, elemAt_fields, tag, bufIndex, result]
  simp only [Elem.mk.injEq, true_and]
  constructor
  · by_cases needed : config.needFBufAddr = true
    · rw [if_pos needed, if_pos needed, bufAddr needed]
    · rw [if_neg needed, if_neg needed]
  · by_cases needed : config.needFZoneLba = true
    · rw [if_pos needed, if_pos needed, zoneLba needed]
    · rw [if_neg needed, if_neg needed]

theorem setResult_outside {tag byte : Nat} {res : BitVec 32}
    (outside : byte < config.commitFHdr index pos ∨
      config.commitFHdr index pos + config.commitElementSize ≤ byte) :
    setResult config memory index pos tag res byte = memory byte := by
  have size := config.commitElementSize_cases
  simp only [setResult, Config.commitFBufAddr]
  split
  · rw [store_outside (by omega), store_outside (by omega), store_outside (by omega)]
  · split
    · rename_i bufAddr
      simp only [bufAddr, ↓reduceIte] at size
      rw [store_outside (by omega), store_outside (by omega), store_outside (by omega)]
    · rw [store_outside (by omega), store_outside (by omega)]

theorem setZoneLba_outside {byte : Nat} {lba : BitVec 64}
    (outside : byte < config.commitFHdr index pos + 8 ∨
      config.commitFHdr index pos + config.commitElementSize + 8 ≤ byte) :
    setZoneLba config memory index pos lba byte = memory byte := by
  have bounds := config.commitFZoneLba_bounds index pos
  exact store_outside (by omega)

/-- Where the layout has room for a zone address, it stays in its slot. -/
theorem setZoneLba_zoned_outside {byte : Nat} {lba : BitVec 64} (needed : config.needFZoneLba = true)
    (outside : byte < config.commitFHdr index pos ∨
      config.commitFHdr index pos + config.commitElementSize ≤ byte) :
    setZoneLba config memory index pos lba byte = memory byte := by
  have bounds := config.commitFZoneLba_inside index pos needed
  exact store_outside (by omega)

theorem elemAt_setResult (tag : Nat) (res : BitVec 32) :
    elemAt config (setResult config memory index pos tag res) index pos =
      { tag := tag % 2 ^ 16
        bufIndex := if hasFlag config.flags ublkFAutoBufReg then tag % 2 ^ 16
          else (elemAt config memory index pos).bufIndex
        result := res
        bufAddr := if config.needFBufAddr then some (config.bufBases tag) else none
        zoneLba := (elemAt config memory index pos).zoneLba } := by
  have bounds := config.commitFZoneLba_bounds index pos
  have stored (other : Memory) (address : Nat) :
      load (store other address 2 tag) address 2 = tag % 2 ^ 16 :=
    load_store_same other address 2 tag
  have result (other : Memory) :
      BitVec.ofNat 32 (load (store other (config.commitFHdr index pos + 4) 4 res.toNat)
        (config.commitFHdr index pos + 4) 4) = res := load_store_bits _ _ 4 res
  have address (other : Memory) :
      BitVec.ofNat 64 (load (store other (config.commitFBufAddr index pos) 8
        (config.bufBases tag).toNat) (config.commitFBufAddr index pos) 8) = config.bufBases tag :=
    load_store_bits _ _ 8 _
  rw [elemAt_fields, elemAt_fields]
  simp only [setResult]
  -- The three layouts of the source; a queue with automatic registration sends no address.
  by_cases auto : hasFlag config.flags ublkFAutoBufReg = true
  · have noAddr : config.needFBufAddr = false := by simp [Config.needFBufAddr, auto]
    simp only [auto, ↓reduceIte, noAddr, Bool.false_eq_true]
    rw [load_store_disjoint (by omega), load_store_disjoint (by omega), stored,
      stored, load_store_disjoint (by omega), result, load_store_disjoint (by omega),
      load_store_disjoint (by omega), load_store_disjoint (by omega)]
  · by_cases addr : config.needFBufAddr = true
    · have zoneAt : config.commitFZoneLba index pos = config.commitFHdr index pos + 16 := by
        simp only [Config.commitFZoneLba, addr, ↓reduceIte]
      simp only [auto, addr, Bool.false_eq_true, ↓reduceIte, address, zoneAt]
      simp only [Config.commitFBufAddr]
      rw [load_store_disjoint (by omega), load_store_disjoint (by omega), stored,
        load_store_disjoint (by omega), load_store_disjoint (by omega), load_store_disjoint (by omega),
        load_store_disjoint (by omega), result, load_store_disjoint (by omega),
        load_store_disjoint (by omega), load_store_disjoint (by omega)]
    · simp only [auto, addr, Bool.false_eq_true, ↓reduceIte]
      rw [load_store_disjoint (by omega), stored, load_store_disjoint (by omega),
        load_store_disjoint (by omega), result, load_store_disjoint (by omega),
        load_store_disjoint (by omega)]

theorem elemAt_setZoneLba (lba : BitVec 64) :
    elemAt config (setZoneLba config memory index pos lba) index pos =
      { elemAt config memory index pos with
        zoneLba := if config.needFZoneLba then some lba else none } := by
  have bounds := config.commitFZoneLba_bounds index pos
  have zone : BitVec.ofNat 64 (load (store memory (config.commitFZoneLba index pos) 8 lba.toNat)
      (config.commitFZoneLba index pos) 8) = lba := load_store_bits _ _ 8 lba
  rw [elemAt_fields, elemAt_fields]
  simp only [setZoneLba, zone]
  rw [load_store_disjoint (by omega), load_store_disjoint (by omega),
    load_store_disjoint (by omega)]
  by_cases addr : config.needFBufAddr = true
  · rw [load_store_disjoint (by simp only [Config.commitFBufAddr, Config.commitFZoneLba, addr, ↓reduceIte]; omega)]
  · simp only [addr, Bool.false_eq_true, ↓reduceIte]

/-- What `worker_` writes into its slot: the result, and the zone address when
the request is a zone append. -/
def writeSlot (config : Config) (memory : Memory) (index slot tag : Nat) (iod : IoDesc)
    (res : BitVec 32) (zoneLba : BitVec 64) : Memory :=
  let memory := setResult config memory index slot tag res
  if ublksrvGetOp iod = ublkIoOpZoneAppend then setZoneLba config memory index slot zoneLba else memory

section WriteSlot

variable {tag : Nat} {iod : IoDesc} {res : BitVec 32} {zoneLba : BitVec 64}

theorem writeSlot_outside {byte : Nat}
    (outside : byte < config.commitFHdr index pos ∨
      config.commitFHdr index pos + config.commitElementSize + 8 ≤ byte) :
    writeSlot config memory index pos tag iod res zoneLba byte = memory byte := by
  simp only [writeSlot]
  split
  · rw [setZoneLba_outside (by omega), setResult_outside (by omega)]
  · exact setResult_outside (by omega)

theorem elemAt_writeSlot :
    elemAt config (writeSlot config memory index pos tag iod res zoneLba) index pos =
      { tag := tag % 2 ^ 16
        bufIndex := if hasFlag config.flags ublkFAutoBufReg then tag % 2 ^ 16
          else (elemAt config memory index pos).bufIndex
        result := res
        bufAddr := if config.needFBufAddr then some (config.bufBases tag) else none
        zoneLba := if ublksrvGetOp iod = ublkIoOpZoneAppend then
            if config.needFZoneLba then some zoneLba else none
          else (elemAt config memory index pos).zoneLba } := by
  simp only [writeSlot]
  split
  · rw [elemAt_setZoneLba, elemAt_setResult]
  · exact elemAt_setResult tag res

/-- Slots already filled in the same buffer keep their element. -/
theorem elemAt_writeSlot_earlier {earlier : Nat} (before : earlier < pos) :
    elemAt config (writeSlot config memory index pos tag iod res zoneLba) index earlier =
      elemAt config memory index earlier := by
  have order := config.commitFHdr_next index before
  exact elemAt_congr fun byte low high => writeSlot_outside (by omega)

/-- The other buffer is not touched as long as one slot is left behind the written
one. The condition matters only for a zone append on a device without zones, whose
address lands behind the slot. -/
theorem writeSlot_other {other byte : Nat} (different : other = 1 - index) (indexBound : index < 2)
    (room : pos + 1 < config.queueDepth) (low : config.commitBuf other ≤ byte)
    (high : byte < config.commitBuf other + config.commitBufSize) :
    writeSlot config memory index pos tag iod res zoneLba byte = memory byte := by
  have size := config.commitElementSize_lower
  have cases : (index = 0 ∧ other = 1) ∨ (index = 1 ∧ other = 0) := by omega
  rcases cases with ⟨rfl, rfl⟩ | ⟨rfl, rfl⟩
  · have next := config.commitFHdr_next 0 (show pos < pos + 1 by omega)
    have behind := config.commitFHdr_other 0 room
    simp only [Config.commitFHdr, Nat.zero_mul, Nat.add_zero] at behind next
    refine writeSlot_outside (.inr ?_)
    simp only [Config.commitFHdr]
    omega
  · refine writeSlot_outside (.inl ?_)
    simp only [Config.commitFHdr, Config.commitBuf] at high ⊢
    omega

theorem elemAt_writeSlot_other {other slot : Nat} (different : other = 1 - index)
    (indexBound : index < 2)
    (inside : slot < config.queueDepth) (room : pos + 1 < config.queueDepth) :
    elemAt config (writeSlot config memory index pos tag iod res zoneLba) other slot =
      elemAt config memory other slot := by
  have fits := config.slots_fit
  have scaled : (slot + 1) * config.commitElementSize ≤ config.queueDepth * config.commitElementSize :=
    Nat.mul_le_mul_right _ (by omega)
  rw [Nat.add_mul, Nat.one_mul] at scaled
  apply elemAt_congr
  intro byte low high
  simp only [Config.commitFHdr] at low high
  exact writeSlot_other different indexBound room (by omega) (by omega)

end WriteSlot

end Ublk.Queue
