import Mathlib.Data.List.Basic

namespace Ublk.Data

/-! Objects of fixed size as byte lists.

A C struct that is handed to somebody else as a pointer and a length is the
list of its bytes. Others read a C string from it, or write over its first
bytes; whatever they leave alone keeps its old content.
-/

abbrev Object (size : Nat) := { bytes : List UInt8 // bytes.length = size }

namespace Object

/-- `T x = {}` for a type without initialisers of its own. -/
def zero (size : Nat) : Object size := ⟨List.replicate size 0, List.length_replicate⟩

end Object

/-- The text of a C string: the bytes before the first NUL. -/
def cString (bytes : List UInt8) : List UInt8 := bytes.takeWhile (· != 0)

theorem cString_terminated {text : List UInt8} (rest : List UInt8) (clean : 0 ∉ text) :
    cString (text ++ 0 :: rest) = text := by
  induction text with
  | nil => rfl
  | cons byte text ih =>
      have first : byte ≠ 0 := fun zero => clean (by simp [zero])
      have later : 0 ∉ text := fun member => clean (List.mem_cons_of_mem _ member)
      simp only [cString, List.cons_append, List.takeWhile_cons, bne_iff_ne, ne_eq, first,
        not_false_eq_true, ↓reduceIte, List.cons.injEq, true_and]
      exact ih later

/-- A C string ends at its first NUL, whatever follows the last one. -/
theorem cString_append_nul (text rest : List UInt8) : cString (text ++ 0 :: rest) = cString text := by
  induction text with
  | nil => rfl
  | cons byte text ih =>
      simp only [cString, List.cons_append, List.takeWhile_cons] at ih ⊢
      rw [ih]

def overwrite (object bytes : List UInt8) : List UInt8 := bytes ++ object.drop bytes.length

theorem length_overwrite {object bytes : List UInt8} (fits : bytes.length ≤ object.length) :
    (overwrite object bytes).length = object.length := by
  simp only [overwrite, List.length_append, List.length_drop]
  omega

/-- Bytes that fit over the start of an object of `size` bytes. -/
abbrev Filling (size : Nat) := { bytes : List UInt8 // bytes.length ≤ size }

/-- An object after somebody wrote over its first bytes. -/
def Object.fill {size : Nat} (object : Object size) (filling : Filling size) : Object size :=
  ⟨overwrite object.val filling.val, by
    have length := object.property
    rw [length_overwrite (by rw [length]; exact filling.property), length]⟩

theorem Object.fill_whole {size : Nat} (object : Object size) {filling : Filling size}
    (whole : filling.val.length = size) : (object.fill filling).val = filling.val := by
  have length : object.val.length ≤ filling.val.length :=
    Nat.le_of_eq (object.property.trans whole.symm)
  simp only [Object.fill, overwrite, List.drop_eq_nil_of_le length, List.append_nil]

theorem overwrite_inj {left right bytes : List UInt8} :
    overwrite left bytes = overwrite right bytes ↔ left.drop bytes.length = right.drop bytes.length := by
  simp only [overwrite, List.append_cancel_left_eq]

/-- Filling an object gives what filling a zeroed one gives exactly when the bytes
behind the filling were zero. -/
theorem zero_fill_eq_iff {size : Nat} {object : Object size} {filling : Filling size} :
    (Object.zero size).fill filling = object.fill filling ↔
      ∀ byte ∈ object.val.drop filling.val.length, byte = 0 := by
  have length : (object.val.drop filling.val.length).length = size - filling.val.length := by
    rw [List.length_drop, object.property]
  rw [Subtype.ext_iff]
  simp only [Object.fill, overwrite_inj, Object.zero, List.drop_replicate]
  rw [eq_comm, List.eq_replicate_iff, length]
  exact ⟨fun blank => blank.2, fun blank => ⟨rfl, blank⟩⟩

def leBytes : Nat → Nat → List UInt8
  | 0, _ => []
  | width + 1, value => UInt8.ofNat value :: leBytes width (value / 256)

/-- The unsigned value of some bytes, least significant byte first. -/
def leValue : List UInt8 → Nat
  | [] => 0
  | byte :: rest => byte.toNat + 256 * leValue rest

@[simp] theorem length_leBytes (width value : Nat) : (leBytes width value).length = width := by
  induction width generalizing value with
  | zero => rfl
  | succ width ih => simp [leBytes, ih]

end Ublk.Data
