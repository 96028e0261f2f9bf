import Mathlib.Data.Nat.ModEq
import Mathlib.Tactic.Ring

namespace Ublk.Data

/-! Little-endian words in byte-addressed memory.

A word of `width` bytes is written and read at any byte address, aligned or
not. The two facts clients use are that a word reads back what was stored, up
to its width, and that a store changes no word outside its own bytes.
-/

abbrev Memory := Nat → UInt8

def store (memory : Memory) (address width value : Nat) : Memory := fun byte =>
  if address ≤ byte ∧ byte < address + width then UInt8.ofNat (value / 256 ^ (byte - address))
  else memory byte

def load (memory : Memory) (address : Nat) : Nat → Nat
  | 0 => 0
  | width + 1 => (memory address).toNat + 256 * load memory (address + 1) width

theorem store_outside {memory : Memory} {address width value byte : Nat}
    (outside : byte < address ∨ address + width ≤ byte) :
    store memory address width value byte = memory byte := by
  have excluded : ¬ (address ≤ byte ∧ byte < address + width) := by omega
  simp only [store, if_neg excluded]

theorem load_congr {left right : Memory} {address width : Nat}
    (agree : ∀ byte, address ≤ byte → byte < address + width → left byte = right byte) :
    load left address width = load right address width := by
  induction width generalizing address with
  | zero => rfl
  | succ width ih =>
      have first := agree address (Nat.le_refl _) (by omega)
      have rest : load left (address + 1) width = load right (address + 1) width :=
        ih fun byte lower upper => agree byte (by omega) (by omega)
      simp only [load, first, rest]

theorem load_of_bytes {memory : Memory} {address width value : Nat}
    (bytes : ∀ index < width, memory (address + index) = UInt8.ofNat (value / 256 ^ index)) :
    load memory address width = value % 256 ^ width := by
  induction width generalizing address value with
  | zero => simp [load, Nat.mod_one]
  | succ width ih =>
      have first : (memory address).toNat = value % 256 := by
        have stored := bytes 0 (by omega)
        simp only [Nat.add_zero, Nat.pow_zero, Nat.div_one] at stored
        simp [stored]
      have rest : load memory (address + 1) width = value / 256 % 256 ^ width := ih (by
        intro index bound
        have stored := bytes (index + 1) (by omega)
        rw [Nat.div_div_eq_div_mul, ← Nat.pow_succ', Nat.add_assoc, Nat.add_comm 1 index]
        exact stored)
      rw [load, first, rest, Nat.pow_succ', Nat.mod_mul]

theorem load_store_same (memory : Memory) (address width value : Nat) :
    load (store memory address width value) address width = value % 256 ^ width := by
  apply load_of_bytes
  intro index bound
  have inside : address ≤ address + index ∧ address + index < address + width := by omega
  simp only [store, if_pos inside, Nat.add_sub_cancel_left]

theorem load_store_disjoint {memory : Memory} {address width value other otherWidth : Nat}
    (disjoint : other + otherWidth ≤ address ∨ address + width ≤ other) :
    load (store memory address width value) other otherWidth = load memory other otherWidth :=
  load_congr fun _ _ _ => store_outside (by omega)

theorem load_store_bits (memory : Memory) (address width : Nat) (value : BitVec (8 * width)) :
    BitVec.ofNat (8 * width) (load (store memory address width value.toNat) address width) = value := by
  have range : (256 : Nat) ^ width = 2 ^ (8 * width) := by
    rw [Nat.pow_mul]
  rw [load_store_same, range, Nat.mod_eq_of_lt value.isLt, BitVec.ofNat_toNat, BitVec.setWidth_eq]

end Ublk.Data
