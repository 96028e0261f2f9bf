import Mathlib.Logic.Function.Basic
import Ublk.Data.Bytes

namespace Ublk.Data

/-! Spans of byte-addressed memory.

Bytes are copied out of one memory and into another. The facts clients use are that a
span reads back what was copied in, and that a copy changes no span apart from its own.
-/

/-- The bytes from `address` on. -/
def slice (memory : Memory) (address : Nat) : Nat → List UInt8
  | 0 => []
  | count + 1 => memory address :: slice memory (address + 1) count

def copyIn (memory : Memory) (address : Nat) : List UInt8 → Memory
  | [] => memory
  | byte :: rest => copyIn (Function.update memory address byte) (address + 1) rest

@[simp] theorem length_slice (memory : Memory) (address count : Nat) :
    (slice memory address count).length = count := by
  induction count generalizing address with
  | zero => rfl
  | succ count ih => rw [slice, List.length_cons, ih]

theorem slice_congr {left right : Memory} {address count : Nat}
    (agree : ∀ byte, address ≤ byte → byte < address + count → left byte = right byte) :
    slice left address count = slice right address count := by
  induction count generalizing address with
  | zero => rfl
  | succ count ih =>
      have first := agree address (Nat.le_refl _) (by omega)
      have rest : slice left (address + 1) count = slice right (address + 1) count :=
        ih fun byte lower upper => agree byte (by omega) (by omega)
      rw [slice, slice, first, rest]

theorem take_slice (memory : Memory) (address : Nat) {count more : Nat} (fits : count ≤ more) :
    (slice memory address more).take count = slice memory address count := by
  induction count generalizing address more with
  | zero => rfl
  | succ count ih =>
      obtain ⟨more, rfl⟩ : ∃ left, more = left + 1 := ⟨more - 1, by omega⟩
      rw [slice, slice, List.take_succ_cons, ih (address + 1) (by omega)]

theorem copyIn_outside {memory : Memory} {address byte : Nat} {bytes : List UInt8}
    (outside : byte < address ∨ address + bytes.length ≤ byte) : copyIn memory address bytes byte = memory byte := by
  induction bytes generalizing memory address with
  | nil => rfl
  | cons first rest ih =>
      rw [List.length_cons] at outside
      rw [copyIn, ih (by omega), Function.update_of_ne (by omega)]

theorem slice_copyIn_same (memory : Memory) (address : Nat) (bytes : List UInt8) :
    slice (copyIn memory address bytes) address bytes.length = bytes := by
  induction bytes generalizing memory address with
  | nil => rfl
  | cons first rest ih =>
      rw [copyIn, List.length_cons, slice, ih, copyIn_outside (by omega), Function.update_self]

theorem slice_copyIn_apart {memory : Memory} {address other count : Nat} {bytes : List UInt8}
    (apart : other + count ≤ address ∨ address + bytes.length ≤ other) :
    slice (copyIn memory address bytes) other count = slice memory other count :=
  slice_congr fun _ _ _ => copyIn_outside (by omega)

end Ublk.Data
