import Ublk.Handler
import Mathlib.Tactic.Ring

namespace Ublk.Queue

/-! # Parameters of one hardware queue

What the constructors of `IoQueue` and `BatchIoQueue` fix for the lifetime of a
queue, and the predicates on the flags word that both classes share.
-/

def needAllocBuf (flags : BitVec 64) : Bool :=
  !hasFlag flags (ublkFSupportZeroCopy ||| ublkFUserCopy)

def needIoBuf (flags : BitVec 64) (opFlags : BitVec 32) : Bool :=
  let zeroCopy := hasFlag flags ublkFSupportZeroCopy
  let autoReg := hasFlag flags ublkFAutoBufReg
  let needRegBuf := hasFlag opFlags ublkIoFNeedRegBuf
  needRegBuf || (zeroCopy && !autoReg)

def alignUp (value alignment : BitVec 64) : BitVec 64 :=
  (value + alignment - 1) &&& ~~~(alignment - 1)

/-- Queue id, device flags, `queue_depth_` (a `uint16_t`), the page size (a power
of two below 2^64, as `align_up` asserts) and the addresses in `buf_bases_`. -/
structure Config where
  qId : Nat
  flags : BitVec 64
  queueDepth : Nat
  pageShift : Nat
  bufBases : Nat → BitVec 64
  depthBound : queueDepth < 2 ^ 16
  pageBound : pageShift < 64

namespace Config

def pageSize (config : Config) : BitVec 64 := BitVec.twoPow 64 config.pageShift

/-- `get_buf_`: null while `buf_bases_` is empty. -/
def getBuf (config : Config) (tag : Nat) : BitVec 64 :=
  if needAllocBuf config.flags && config.queueDepth != 0 then config.bufBases tag else 0

end Config

/-- Clearing the low bits of a word rounds its value down. -/
theorem toNat_and_not_low (value : BitVec 64) (shift : Nat) (bound : shift < 64) :
    (value &&& ~~~(BitVec.twoPow 64 shift - 1)).toNat = value.toNat / 2 ^ shift * 2 ^ shift := by
  have low : BitVec.twoPow 64 shift - 1 = BitVec.ofNat 64 (2 ^ shift - 1) := by
    have power : 2 ^ shift < 2 ^ 64 := Nat.pow_lt_pow_right (by decide) bound
    have positive := Nat.two_pow_pos shift
    apply BitVec.eq_of_toNat_eq
    simp only [BitVec.ofNat_eq_ofNat, BitVec.toNat_sub, BitVec.toNat_twoPow, BitVec.toNat_ofNat]
    omega
  have shifted : value &&& ~~~(BitVec.twoPow 64 shift - 1) = (value >>> shift) <<< shift := by
    rw [low]
    apply BitVec.eq_of_getLsbD_eq
    intro bit inside
    simp only [BitVec.getLsbD_and, BitVec.getLsbD_not, BitVec.getLsbD_ofNat,
      Nat.testBit_two_pow_sub_one,
      BitVec.getLsbD_shiftLeft, BitVec.getLsbD_ushiftRight]
    by_cases above : bit < shift
    · simp [above, inside]
    · have back : shift + (bit - shift) = bit := by omega
      simp [above, inside, back]
  rw [shifted]
  simp only [BitVec.toNat_shiftLeft, BitVec.toNat_ushiftRight, Nat.shiftLeft_eq,
    Nat.shiftRight_eq_div_pow]
  apply Nat.mod_eq_of_lt
  exact Nat.lt_of_le_of_lt (Nat.div_mul_le_self _ _) value.isLt

/-- `align_up` to a page, where the sum does not wrap: the least multiple of the
page size that is no smaller than the value. -/
theorem alignUp_toNat {value shift : Nat} (bound : shift < 64) (fits : value + 2 ^ shift ≤ 2 ^ 64) :
    (alignUp (BitVec.ofNat 64 value) (BitVec.twoPow 64 shift)).toNat =
      (value + 2 ^ shift - 1) / 2 ^ shift * 2 ^ shift := by
  have positive := Nat.two_pow_pos shift
  have power : 2 ^ shift < 2 ^ 64 := Nat.pow_lt_pow_right (by decide) bound
  have sum : (BitVec.ofNat 64 value + BitVec.twoPow 64 shift - 1).toNat = value + 2 ^ shift - 1 := by
    simp only [BitVec.ofNat_eq_ofNat, BitVec.toNat_sub, BitVec.toNat_add, BitVec.toNat_twoPow,
      BitVec.toNat_ofNat]
    omega
  rw [alignUp, toNat_and_not_low _ _ bound, sum]

theorem le_alignUp {value shift : Nat} (bound : shift < 64) (fits : value + 2 ^ shift ≤ 2 ^ 64) :
    value ≤ (alignUp (BitVec.ofNat 64 value) (BitVec.twoPow 64 shift)).toNat := by
  have positive := Nat.two_pow_pos shift
  rw [alignUp_toNat bound fits]
  have split := Nat.div_add_mod (value + 2 ^ shift - 1) (2 ^ shift)
  have rest := Nat.mod_lt (value + 2 ^ shift - 1) positive
  rw [Nat.mul_comm] at split
  omega

/-- Rounding an amount of whole units to a page leaves whole units, as long as
the page is a multiple of the unit or no rounding happens. -/
theorem alignUp_even {count shift : Nat} (bound : shift < 64)
    (fits : count * 2 + 2 ^ shift ≤ 2 ^ 64) :
    2 ∣ (alignUp (BitVec.ofNat 64 (count * 2)) (BitVec.twoPow 64 shift)).toNat := by
  rw [alignUp_toNat bound fits]
  cases shift with
  | zero => simp
  | succ shift =>
      rw [Nat.pow_succ]
      exact Nat.dvd_mul_left_of_dvd (Nat.dvd_mul_left 2 _) _

end Ublk.Queue
