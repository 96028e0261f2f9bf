import Ublk.Uapi

namespace Ublk

/-! # Offsets of the character device

A queue maps its descriptors from the low end of `/dev/ublkcN`, and a server that
copies data itself reads and writes it at positions behind `UBLKSRV_IO_BUF_OFFSET`.
-/

/-! ## Positions of request data -/

/-- The lowest `bits` bits, as `UBLK_TAG_BITS_MASK` and its like. -/
def fieldMask (bits : Nat) : BitVec 64 := (1 : BitVec 64) <<< bits - 1

/-- `user_copy_pos`. Its assertion is that `offset` has no bit outside of the mask. -/
def userCopyPos (qId tag : BitVec 16) (offset : BitVec 32) : BitVec 64 :=
  ublksrvIoBufOffset +
    ((qId.setWidth 64 <<< ublkQidOff) ||| (tag.setWidth 64 <<< ublkTagOff) ||| offset.setWidth 64)

/-- The three fields, as the driver takes them from a position. -/
def userCopyField (pos : BitVec 64) (off bits : Nat) : BitVec 64 :=
  ((pos - ublksrvIoBufOffset) >>> off) &&& fieldMask bits

def userCopyQid (pos : BitVec 64) : BitVec 64 := userCopyField pos ublkQidOff ublkQidBits
def userCopyTag (pos : BitVec 64) : BitVec 64 := userCopyField pos ublkTagOff ublkTagBits
def userCopyBuf (pos : BitVec 64) : BitVec 64 := userCopyField pos 0 ublkIoBufBits

/-- A field in its place, where it is not cut off. -/
theorem setWidth_shiftLeft_toNat {width shift : Nat} {field : BitVec width}
    (fits : field.toNat * 2 ^ shift < 2 ^ 64) :
    (field.setWidth 64 <<< shift).toNat = field.toNat * 2 ^ shift := by
  have positive := Nat.two_pow_pos shift
  have small : field.toNat < 2 ^ 64 := Nat.lt_of_le_of_lt (Nat.le_mul_of_pos_right _ positive) fits
  rw [BitVec.toNat_shiftLeft, BitVec.toNat_setWidth, Nat.mod_eq_of_lt small, Nat.shiftLeft_eq,
    Nat.mod_eq_of_lt fits]

theorem fieldMask_toNat {bits : Nat} (bound : bits < 64) : (fieldMask bits).toNat = 2 ^ bits - 1 := by
  have power : 2 ^ bits < 2 ^ 64 := Nat.pow_lt_pow_right (by decide) bound
  have positive := Nat.two_pow_pos bits
  have shifted : ((1 : BitVec 64) <<< bits).toNat = 2 ^ bits := by
    rw [BitVec.toNat_shiftLeft, Nat.shiftLeft_eq, show BitVec.toNat (1 : BitVec 64) = 1 from rfl,
      Nat.one_mul, Nat.mod_eq_of_lt power]
  rw [fieldMask, BitVec.toNat_sub, shifted, show BitVec.toNat (1 : BitVec 64) = 1 from rfl]
  omega

variable {qId tag otherQid otherTag : BitVec 16} {offset other : BitVec 32}

/-- The fields do not overlap, so the position is their sum, far below 2^64. -/
theorem userCopyPos_toNat (queue : qId.toNat < 2 ^ 12) (inside : offset.toNat < 2 ^ 25) :
    (userCopyPos qId tag offset).toNat =
      2 ^ 31 + (qId.toNat * 2 ^ 41 + tag.toNat * 2 ^ 25 + offset.toNat) := by
  have tagBound := tag.isLt
  have qidOff : ublkQidOff = 41 := rfl
  have tagOff : ublkTagOff = 25 := rfl
  have qidWord : (qId.setWidth 64 <<< ublkQidOff).toNat = qId.toNat * 2 ^ 41 := by
    rw [qidOff, setWidth_shiftLeft_toNat (by omega)]
  have tagWord : (tag.setWidth 64 <<< ublkTagOff).toNat = tag.toNat * 2 ^ 25 := by
    rw [tagOff, setWidth_shiftLeft_toNat (by omega)]
  have offsetWord : (offset.setWidth 64).toNat = offset.toNat := by
    rw [BitVec.toNat_setWidth]
    omega
  have low : tag.toNat * 2 ^ 25 ||| offset.toNat = tag.toNat * 2 ^ 25 + offset.toNat := by
    rw [← Nat.shiftLeft_eq, Nat.shiftLeft_add_eq_or_of_lt inside]
  have lowBound : tag.toNat * 2 ^ 25 + offset.toNat < 2 ^ 41 := by omega
  have fields : qId.toNat * 2 ^ 41 ||| (tag.toNat * 2 ^ 25 + offset.toNat) =
      qId.toNat * 2 ^ 41 + (tag.toNat * 2 ^ 25 + offset.toNat) := by
    rw [← Nat.shiftLeft_eq, Nat.shiftLeft_add_eq_or_of_lt lowBound]
  rw [userCopyPos, BitVec.toNat_add, BitVec.toNat_or, BitVec.toNat_or, qidWord, tagWord, offsetWord,
    Nat.or_assoc, low, fields, show ublksrvIoBufOffset.toNat = 2 ^ 31 from rfl]
  omega

theorem userCopyField_toNat {pos : BitVec 64} {off bits : Nat} (bound : bits < 64)
    (behind : 2 ^ 31 ≤ pos.toNat) :
    (userCopyField pos off bits).toNat = (pos.toNat - 2 ^ 31) / 2 ^ off % 2 ^ bits := by
  have base : ublksrvIoBufOffset.toNat = 2 ^ 31 := rfl
  have relative : (pos - ublksrvIoBufOffset).toNat = pos.toNat - 2 ^ 31 := by
    have posBound := pos.isLt
    rw [BitVec.toNat_sub, base]
    omega
  rw [userCopyField, BitVec.toNat_and, BitVec.toNat_ushiftRight, relative, fieldMask_toNat bound,
    Nat.and_two_pow_sub_one_eq_mod, Nat.shiftRight_eq_div_pow]

/-- What the driver finds in a position is the request it was computed for. -/
structure Decodes (pos : BitVec 64) (qId tag : BitVec 16) (offset : BitVec 32) : Prop where
  qid : userCopyQid pos = qId.setWidth 64
  tag : userCopyTag pos = tag.setWidth 64
  buf : userCopyBuf pos = offset.setWidth 64

theorem userCopyPos_decodes (queue : qId.toNat < 2 ^ 12) (inside : offset.toNat < 2 ^ 25) :
    Decodes (userCopyPos qId tag offset) qId tag offset := by
  have tagBound := tag.isLt
  have sum := @userCopyPos_toNat qId tag offset queue inside
  have behind : 2 ^ 31 ≤ (userCopyPos qId tag offset).toNat := by omega
  constructor
  · apply BitVec.eq_of_toNat_eq
    rw [userCopyQid, userCopyField_toNat (by decide) behind, BitVec.toNat_setWidth, sum]
    simp only [ublkQidOff, ublkTagOff, ublkIoBufBits, ublkTagBits, ublkQidBits]
    omega
  · apply BitVec.eq_of_toNat_eq
    rw [userCopyTag, userCopyField_toNat (by decide) behind, BitVec.toNat_setWidth, sum]
    simp only [ublkTagOff, ublkIoBufBits, ublkTagBits]
    omega
  · apply BitVec.eq_of_toNat_eq
    rw [userCopyBuf, userCopyField_toNat (by decide) behind, BitVec.toNat_setWidth, sum]
    simp only [ublkIoBufBits]
    omega

/-- Inside a window, positions and offsets advance together. -/
theorem userCopyPos_add {count : BitVec 32} (queue : qId.toNat < 2 ^ 12)
    (inside : offset.toNat + count.toNat < 2 ^ 25) :
    userCopyPos qId tag (offset + count) = userCopyPos qId tag offset + count.setWidth 64 := by
  have tagBound := tag.isLt
  have sum : (offset + count).toNat = offset.toNat + count.toNat := by
    rw [BitVec.toNat_add]
    omega
  apply BitVec.eq_of_toNat_eq
  rw [BitVec.toNat_add, userCopyPos_toNat queue (by omega), userCopyPos_toNat queue (by omega),
    BitVec.toNat_setWidth, sum]
  omega

/-- A position belongs to one request. -/
theorem Decodes.unique {pos : BitVec 64} (decodes : Decodes pos qId tag offset)
    (again : Decodes pos otherQid otherTag other) : qId = otherQid ∧ tag = otherTag ∧ offset = other := by
  have narrow {width : Nat} {left right : BitVec width} (small : width ≤ 64)
      (same : left.setWidth 64 = right.setWidth 64) : left = right := by
    apply BitVec.eq_of_toNat_eq
    have values := congrArg BitVec.toNat same
    have power : 2 ^ width ≤ 2 ^ 64 := Nat.pow_le_pow_right (by decide) small
    have leftBound := left.isLt
    have rightBound := right.isLt
    rwa [BitVec.toNat_setWidth, BitVec.toNat_setWidth, Nat.mod_eq_of_lt (by omega),
      Nat.mod_eq_of_lt (by omega)] at values
  exact ⟨narrow (by decide) (decodes.qid.symm.trans again.qid),
    narrow (by decide) (decodes.tag.symm.trans again.tag),
    narrow (by decide) (decodes.buf.symm.trans again.buf)⟩

/-- The driver finds in a position the request it was computed for, without a wrap and
with the integrity flag clear. Offsets and positions advance together through the
window, and no byte of a transfer inside it is a byte of another request's. -/
theorem user_copy_pos_unique (queue : qId.toNat < 2 ^ 12) (inside : offset.toNat < 2 ^ 25) :
    Decodes (userCopyPos qId tag offset) qId tag offset ∧
    (userCopyPos qId tag offset).toNat = ublksrvIoBufOffset.toNat +
      (qId.toNat * 2 ^ ublkQidOff + tag.toNat * 2 ^ ublkTagOff + offset.toNat) ∧
    hasFlag (userCopyPos qId tag offset) ublksrvIoIntegrityFlag = false ∧
    ∀ count : BitVec 32, offset.toNat + count.toNat < 2 ^ 25 →
      userCopyPos qId tag (offset + count) = userCopyPos qId tag offset + count.setWidth 64 ∧
      ∀ otherQid otherTag other, otherQid.toNat < 2 ^ 12 → other.toNat < 2 ^ 25 →
        userCopyPos otherQid otherTag other = userCopyPos qId tag offset + count.setWidth 64 →
        otherQid = qId ∧ otherTag = tag := by
  have tagBound := tag.isLt
  have sum := @userCopyPos_toNat qId tag offset queue inside
  refine ⟨userCopyPos_decodes queue inside, sum, ?_, ?_⟩
  · have low : (userCopyPos qId tag offset).toNat < 2 ^ 62 := by omega
    have clear : userCopyPos qId tag offset &&& ublksrvIoIntegrityFlag = 0 := by
      apply BitVec.eq_of_toNat_eq
      rw [BitVec.toNat_and, show ublksrvIoIntegrityFlag.toNat = 2 ^ 62 from rfl, Nat.and_two_pow,
        Nat.testBit_lt_two_pow low]
      rfl
    simp only [hasFlag, clear, BitVec.ofNat_eq_ofNat, bne_self_eq_false]
  · intro count within
    have advance := @userCopyPos_add qId tag offset count queue within
    refine ⟨advance, ?_⟩
    intro otherQid otherTag other otherQueue otherInside same
    have here : (offset + count).toNat < 2 ^ 25 := by
      rw [BitVec.toNat_add]
      omega
    rw [← advance] at same
    have decodes := @userCopyPos_decodes qId tag (offset + count) queue here
    rw [← same] at decodes
    obtain ⟨qids, tags, _⟩ := (userCopyPos_decodes otherQueue otherInside).unique decodes
    exact ⟨qids, tags⟩

/-- The last queue and the last byte of the last window. -/
theorem user_copy_pos_last :
    Decodes (userCopyPos 4095 65535 0x1ffffff) 4095 65535 0x1ffffff :=
  (user_copy_pos_unique (by decide) (by decide)).1

/-! ## Descriptor mappings -/

/-- `sizeof(ublksrv_io_desc)`. -/
def ioDescSize : BitVec 64 := 24

/-- `io_desc_offset`, in the arithmetic of `size_t`. -/
def ioDescOffset (qId : BitVec 64) : BitVec 64 :=
  ublksrvCmdBufOffset + qId * ublkMaxQueueDepth * ioDescSize

/-- The length a queue passes to `mmap`. -/
def ioDescBytes (queueDepth : BitVec 16) : BitVec 64 := queueDepth.setWidth 64 * ioDescSize

/-- `mmap` maps whole pages. -/
def wholePages (page bytes : Nat) : Nat := (bytes + page - 1) / page * page

/-- One past the last byte that is mapped for a queue. -/
def ioDescEnd (page : Nat) (qId queueDepth : BitVec 16) : Nat :=
  (ioDescOffset (qId.setWidth 64)).toNat + wholePages page (ioDescBytes queueDepth).toNat

/-- The mappings of all queues of a device: their offsets are ones `mmap` accepts, no two
of them share a page, and none reaches the data of the requests. -/
structure MappingsValid (page nrQueues : Nat) (queueDepth : BitVec 16) : Prop where
  aligned : ∀ qId : BitVec 16, qId.toNat < nrQueues → page ∣ (ioDescOffset (qId.setWidth 64)).toNat
  disjoint : ∀ qId other : BitVec 16, qId.toNat < nrQueues → other.toNat < nrQueues → qId ≠ other →
    ioDescEnd page qId queueDepth ≤ (ioDescOffset (other.setWidth 64)).toNat ∨
    ioDescEnd page other queueDepth ≤ (ioDescOffset (qId.setWidth 64)).toNat
  below : ∀ qId : BitVec 16, qId.toNat < nrQueues →
    ioDescEnd page qId queueDepth ≤ ublksrvIoBufOffset.toNat

theorem ioDescOffset_toNat (qId : BitVec 16) :
    (ioDescOffset (qId.setWidth 64)).toNat = qId.toNat * 98304 := by
  have bound := qId.isLt
  rw [ioDescOffset, BitVec.toNat_add, BitVec.toNat_mul, BitVec.toNat_mul, BitVec.toNat_setWidth,
    show ublksrvCmdBufOffset.toNat = 0 from rfl, show ublkMaxQueueDepth.toNat = 4096 from rfl,
    show ioDescSize.toNat = 24 from rfl]
  omega

theorem ioDescBytes_toNat (queueDepth : BitVec 16) :
    (ioDescBytes queueDepth).toNat = queueDepth.toNat * 24 := by
  have bound := queueDepth.isLt
  rw [ioDescBytes, BitVec.toNat_mul, BitVec.toNat_setWidth, show ioDescSize.toNat = 24 from rfl]
  omega

section Pages

variable {page bytes bound : Nat}

theorem wholePages_le (positive : 0 < page) (whole : page ∣ bound) (fits : bytes ≤ bound) :
    wholePages page bytes ≤ bound := by
  obtain ⟨count, rfl⟩ := whole
  have pages : (bytes + page - 1) / page ≤ count := by
    rw [← Nat.lt_succ_iff, Nat.div_lt_iff_lt_mul positive, Nat.succ_mul, Nat.mul_comm count]
    omega
  rw [wholePages, Nat.mul_comm page]
  exact Nat.mul_le_mul_right page pages

theorem page_le_wholePages (some : 0 < bytes) : page ≤ wholePages page bytes := by
  rcases Nat.eq_zero_or_pos page with none | positive
  · omega
  · have pages : 1 ≤ (bytes + page - 1) / page := by
      rw [Nat.le_div_iff_mul_le positive]
      omega
    calc page = 1 * page := (Nat.one_mul page).symm
      _ ≤ wholePages page bytes := Nat.mul_le_mul_right page pages

end Pages

/-- The stride of 98304 bytes is three times 32 KiB, so it holds whole pages up to that size. -/
theorem two_pow_dvd_stride {shift : Nat} : 2 ^ shift ∣ 98304 ↔ shift ≤ 15 := by
  constructor
  · intro divides
    apply Nat.le_of_not_lt
    intro above
    have wide : 2 ^ 16 ∣ 98304 := (Nat.pow_dvd_pow 2 above).trans divides
    exact absurd wide (by decide)
  · intro small
    exact (Nat.pow_dvd_pow 2 small).trans (by decide)

variable {page nrQueues shift : Nat} {queueDepth : BitVec 16}

theorem mappingsValid_of_stride (positive : 0 < page) (stride : page ∣ 98304)
    (queues : nrQueues ≤ ublkMaxNrQueues) (depth : queueDepth.toNat ≤ ublkMaxQueueDepth.toNat) :
    MappingsValid page nrQueues queueDepth := by
  have most : ublkMaxNrQueues = 4096 := rfl
  have deepest : ublkMaxQueueDepth.toNat = 4096 := rfl
  have base : ublksrvIoBufOffset.toNat = 2 ^ 31 := rfl
  have pages : wholePages page (queueDepth.toNat * 24) ≤ 98304 :=
    wholePages_le positive stride (by omega)
  constructor
  · intro qId _
    rw [ioDescOffset_toNat]
    exact stride.mul_left _
  · intro qId other _ _ distinct
    have apart : qId.toNat ≠ other.toNat := fun same => distinct (BitVec.eq_of_toNat_eq same)
    rw [ioDescEnd, ioDescEnd, ioDescOffset_toNat, ioDescOffset_toNat, ioDescBytes_toNat]
    omega
  · intro qId inside
    rw [ioDescEnd, ioDescOffset_toNat, ioDescBytes_toNat, base]
    omega

theorem mappingsValid_of_single (positive : 0 < page) (single : nrQueues ≤ 1)
    (depth : queueDepth.toNat ≤ ublkMaxQueueDepth.toNat)
    (room : nrQueues * queueDepth.toNat = 0 ∨ page ∣ 2 ^ 31) :
    MappingsValid page nrQueues queueDepth := by
  have deepest : ublkMaxQueueDepth.toNat = 4096 := rfl
  have base : ublksrvIoBufOffset.toNat = 2 ^ 31 := rfl
  constructor
  · intro qId inside
    rw [ioDescOffset_toNat, show qId.toNat = 0 by omega, Nat.zero_mul]
    exact Nat.dvd_zero page
  · intro qId other inside otherInside distinct
    exact absurd (BitVec.eq_of_toNat_eq (by omega)) distinct
  · intro qId inside
    have one : nrQueues = 1 := by omega
    rw [ioDescEnd, ioDescOffset_toNat, ioDescBytes_toNat, show qId.toNat = 0 by omega, Nat.zero_mul,
      Nat.zero_add, base]
    rcases room with nothing | whole
    · have empty : queueDepth.toNat * 24 ≤ 0 := by
        rw [one] at nothing
        omega
      exact (wholePages_le positive (Nat.dvd_zero page) empty).trans (by decide)
    · exact wholePages_le positive whole (by omega)

theorem MappingsValid.page_le (valid : MappingsValid page nrQueues queueDepth)
    (mapped : 0 < nrQueues * queueDepth.toNat) : page ≤ 2 ^ 31 := by
  have some : 0 < nrQueues := Nat.pos_of_mul_pos_right mapped
  have deep : 0 < queueDepth.toNat := Nat.pos_of_mul_pos_left mapped
  have below := valid.below 0 some
  rw [ioDescEnd, ioDescOffset_toNat, ioDescBytes_toNat] at below
  calc page ≤ wholePages page (queueDepth.toNat * 24) := page_le_wholePages (by omega)
    _ ≤ ublksrvIoBufOffset.toNat := by simpa using below

/-- Several queues are mapped right exactly when the page size divides the stride. A lone
queue starts at offset zero and only has to end below the data. -/
theorem mappings_valid_iff (power : page = 2 ^ shift) (least : 4096 ≤ page)
    (queues : nrQueues ≤ ublkMaxNrQueues) (depth : queueDepth.toNat ≤ ublkMaxQueueDepth.toNat) :
    MappingsValid page nrQueues queueDepth ↔
      page ≤ 32768 ∨ nrQueues ≤ 1 ∧ (nrQueues * queueDepth.toNat = 0 ∨ page ≤ 2 ^ 31) := by
  have positive : 0 < page := by omega
  have small : page ≤ 32768 ↔ shift ≤ 15 := by
    rw [power, show 32768 = 2 ^ 15 from rfl]
    exact Nat.pow_le_pow_iff_right (by decide)
  constructor
  · intro valid
    by_cases single : nrQueues ≤ 1
    · right
      refine ⟨single, ?_⟩
      rcases Nat.eq_zero_or_pos (nrQueues * queueDepth.toNat) with nothing | mapped
      · exact .inl nothing
      · exact .inr (valid.page_le mapped)
    · left
      have second := valid.aligned 1 (by simpa using single)
      rw [ioDescOffset_toNat, power] at second
      exact small.mpr (two_pow_dvd_stride.mp (by simpa using second))
  · intro condition
    rcases condition with small' | ⟨single, room⟩
    · have stride : page ∣ 98304 := power ▸ two_pow_dvd_stride.mpr (small.mp small')
      exact mappingsValid_of_stride positive stride queues depth
    · refine mappingsValid_of_single positive single depth (room.imp_right ?_)
      intro below
      have exponent : shift ≤ 31 := (Nat.pow_le_pow_iff_right (by decide)).mp (power ▸ below)
      exact power ▸ Nat.pow_dvd_pow 2 exponent

/-- All queues a device may have, at the deepest, with pages of 4 KiB. -/
theorem mappings_valid_most_queues : MappingsValid 4096 4096 4096 :=
  (mappings_valid_iff (show 4096 = 2 ^ 12 from rfl) (by decide) (by decide) (by decide)).mpr (.inl (by decide))

/-- With pages of 64 KiB the second queue has an offset that `mmap` refuses, and the
deepest first queue would reach into it. -/
theorem mappings_invalid_at_64k :
    ¬ MappingsValid 65536 2 128 ∧ ¬ 65536 ∣ (ioDescOffset 1).toNat ∧
    (ioDescOffset 1).toNat < ioDescEnd 65536 0 4096 := by
  have refused : ¬ 65536 ∣ (ioDescOffset 1).toNat := by decide
  exact ⟨fun valid => refused (valid.aligned 1 (by decide)), refused, by decide⟩

end Ublk
