import Ublk.Data.Span
import Ublk.Handler

namespace Ublk.Loop

open Ublk.Data

/-! # `LoopHandler`

`examples/loop.cpp` maps a device onto a backing file: a request becomes one operation on
the file, at the byte offset of its first sector. Sizes are computed in the widths of the
source, where they could wrap.
-/

def sectorSize : Nat := 512
def einval : Int := 22

/-- The operation that `handle_io` awaits, or the result that it returns without one. -/
inductive FileOp where
  | read (buf : BitVec 64) (bytes : BitVec 32) (off : BitVec 64)
  | write (buf : BitVec 64) (bytes : BitVec 32) (off : BitVec 64)
  | fsync
  | result (res : BitVec 32)
deriving DecidableEq, Repr

/-- `start_sector * SECTOR_SIZE`, a `uint64_t`. -/
def byteOffset (iod : IoDesc) : BitVec 64 := iod.startSector * BitVec.ofNat 64 sectorSize

/-- `nr_sectors * SECTOR_SIZE` is a `size_t` that is narrowed to a `uint32_t`. -/
def byteCount (iod : IoDesc) : BitVec 32 := (iod.nrSectors.setWidth 64 * BitVec.ofNat 64 sectorSize).setWidth 32

def handleIo (data : IoData) : FileOp :=
  let op := ublksrvGetOp data.iod
  let off := byteOffset data.iod
  let bytes := byteCount data.iod
  if op = ublkIoOpRead then .read data.buf bytes off
  else if op = ublkIoOpWrite then .write data.buf bytes off
  else if op = ublkIoOpFlush then .fsync
  else .result (BitVec.ofInt 32 (-einval))

/-! ## The device that is set up for a file -/

/-- The size of the backing file, from `lo_file_size`, and of an I/O buffer. -/
structure Geometry where
  fileSize : BitVec 64
  maxIoBufBytes : BitVec 32

namespace Geometry

/-- The capacity of the device, in `main`. -/
def devSectors (geometry : Geometry) : BitVec 64 := geometry.fileSize / BitVec.ofNat 64 sectorSize

/-- `max_sectors` of `prep_params`. -/
def maxSectors (geometry : Geometry) : BitVec 32 := geometry.maxIoBufBytes >>> 9

/-- The requests that the block layer makes of such a device: inside of it, and no larger
than it said. -/
def admits (geometry : Geometry) (iod : IoDesc) : Bool :=
  decide (iod.startSector.toNat + iod.nrSectors.toNat ≤ geometry.devSectors.toNat) &&
    decide (iod.nrSectors.toNat ≤ geometry.maxSectors.toNat)

variable {geometry : Geometry} {iod : IoDesc}

theorem admits_buffer (admitted : geometry.admits iod = true) :
    sectorSize * iod.nrSectors.toNat ≤ geometry.maxIoBufBytes.toNat := by
  simp only [admits, Bool.and_eq_true, decide_eq_true_eq, maxSectors, BitVec.toNat_ushiftRight,
    Nat.shiftRight_eq_div_pow] at admitted
  have rounded := Nat.div_mul_le_self geometry.maxIoBufBytes.toNat (2 ^ 9)
  have larger := Nat.mul_le_mul_left sectorSize admitted.2
  simp only [sectorSize] at larger ⊢
  omega

theorem admits_file (admitted : geometry.admits iod = true) :
    sectorSize * iod.startSector.toNat + sectorSize * iod.nrSectors.toNat ≤ geometry.fileSize.toNat := by
  simp only [admits, Bool.and_eq_true, decide_eq_true_eq, devSectors, BitVec.toNat_udiv, BitVec.toNat_ofNat,
    sectorSize, Nat.reducePow, Nat.reduceMod] at admitted
  simp only [sectorSize]
  omega

/-- Nothing wraps: the operation begins at the first byte of the first sector. -/
theorem byteOffset_toNat (admitted : geometry.admits iod = true) :
    (byteOffset iod).toNat = sectorSize * iod.startSector.toNat := by
  have inside := admits_file admitted
  have bound := geometry.fileSize.isLt
  simp only [sectorSize] at inside
  simp only [byteOffset, BitVec.toNat_mul, BitVec.toNat_ofNat, sectorSize]
  omega

theorem byteCount_toNat (admitted : geometry.admits iod = true) :
    (byteCount iod).toNat = sectorSize * iod.nrSectors.toNat := by
  have inside := admits_buffer admitted
  have bound := geometry.maxIoBufBytes.isLt
  simp only [sectorSize] at inside
  simp only [byteCount, BitVec.toNat_setWidth, BitVec.toNat_mul, BitVec.toNat_ofNat, sectorSize]
  omega

end Geometry

end Ublk.Loop
