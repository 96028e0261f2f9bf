import Ublk.Uapi
import Ublk.Data.Buffer

namespace Ublk.Control

open Ublk.Data

/-! # Device paths

Commands of an unprivileged device carry the path of its character device in
front of their payload, in a field of `DEV_PATH_LEN` bytes. The bytes of the
field behind the NUL are never written, so they are whatever the stack held.
-/

def charByte (char : Char) : UInt8 := UInt8.ofNat char.toNat

/-- The fixed part of the path, and what `std::format` prints for a number. -/
def ublkcName : List Char := "/dev/ublkc".toList

def decimal (value : Nat) : List Char := Nat.toDigits 10 value

def devPath (devId : BitVec 32) : List UInt8 := (ublkcName ++ decimal devId.toNat).map charByte

/-- `fill_dev_path`: at most `size - 1` characters of the path, then a NUL. -/
def fillDevPath (data : List UInt8) (devId : BitVec 32) : List UInt8 :=
  let out := (devPath devId).take (data.length - 1)
  overwrite data (out ++ [0])

def devPathLen : Nat := 32

/-- A field `char path[DEV_PATH_LEN]` before it is filled. -/
abbrev PathField := Object devPathLen

/-- `DevPathBuf<T>`, at its address: the alignment of `T` divides `DEV_PATH_LEN`, so
the payload follows the path directly. -/
def devPathBuf (field : PathField) (devId : BitVec 32) (payload : List UInt8) : List UInt8 :=
  fillDevPath field.val devId ++ payload

theorem length_decimal (devId : BitVec 32) : (decimal devId.toNat).length ≤ 10 := by
  have bound : devId.toNat < 10 ^ 10 := by
    have := devId.isLt
    omega
  exact (Nat.length_toDigits_le_iff (by decide) (by decide)).mpr bound

theorem length_ublkcName : ublkcName.length = 10 := by decide

theorem length_devPath (devId : BitVec 32) : (devPath devId).length ≤ 20 := by
  have digits := length_decimal devId
  simp only [devPath, List.length_map, List.length_append, length_ublkcName]
  omega

theorem devPath_clean (devId : BitVec 32) : 0 ∉ devPath devId := by
  intro member
  obtain ⟨char, inside, zero⟩ := List.mem_map.mp member
  rcases List.mem_append.mp inside with fixed | digit
  · have nonzero : (ublkcName.all fun char => charByte char != 0) = true := by decide
    have here := List.all_eq_true.mp nonzero char fixed
    simp [zero] at here
  · have isDigit := Nat.isDigit_of_mem_toDigits (by decide) (by decide) digit
    simp only [Char.isDigit, Bool.and_eq_true, decide_eq_true_eq] at isDigit
    have low : 48 ≤ char.toNat := isDigit.1
    have high : char.toNat ≤ 57 := isDigit.2
    have value := congrArg UInt8.toNat zero
    simp only [charByte, UInt8.toNat_ofNat', UInt8.toNat_zero] at value
    omega

theorem fillDevPath_field (field : PathField) (devId : BitVec 32) :
    fillDevPath field.val devId =
      devPath devId ++ 0 :: field.val.drop ((devPath devId).length + 1) := by
  have short := length_devPath devId
  have size : field.val.length = 32 := field.property
  have whole : (devPath devId).take (field.val.length - 1) = devPath devId :=
    List.take_of_length_le (by omega)
  simp only [fillDevPath, whole, overwrite, List.length_append, List.length_singleton,
    List.append_assoc, List.singleton_append]

theorem length_fillDevPath (field : PathField) (devId : BitVec 32) :
    (fillDevPath field.val devId).length = devPathLen := by
  have short := length_devPath devId
  have size : field.val.length = 32 := field.property
  rw [fillDevPath_field]
  simp only [List.length_append, List.length_cons, List.length_drop, size, devPathLen]
  omega

/-- A reader of the field finds the path, untruncated. -/
theorem cString_fillDevPath (field : PathField) (devId : BitVec 32) :
    cString (fillDevPath field.val devId) = devPath devId := by
  rw [fillDevPath_field]
  exact cString_terminated _ (devPath_clean devId)

end Ublk.Control
