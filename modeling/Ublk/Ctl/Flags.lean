import Ublk.Data.Words
import Ublk.Uapi

namespace Ublk.Ctl

open Ublk.Data

/-! # The flag names of `ublkctl`

`FLAG_TABLE` names the device flags, `flags_str` prints those of a device. The table
ends before `UBLK_F_IO_DESC_SIZE`, the last flag of the interface.
-/

structure FlagEntry where
  bit : Nat
  name : String
  shortName : String

def FlagEntry.flag (entry : FlagEntry) : BitVec 64 := BitVec.twoPow 64 entry.bit

def flagTable : List FlagEntry :=
  [⟨0, "SUPPORT_ZERO_COPY", "ZERO_COPY"⟩,
    ⟨1, "URING_CMD_COMP_IN_TASK", "COMP_IN_TASK"⟩,
    ⟨2, "NEED_GET_DATA", "GET_DATA"⟩,
    ⟨3, "USER_RECOVERY", "USER_RECOVERY"⟩,
    ⟨4, "USER_RECOVERY_REISSUE", "RECOVERY_REISSUE"⟩,
    ⟨5, "UNPRIVILEGED_DEV", "UNPRIVILEGED_DEV"⟩,
    ⟨6, "CMD_IOCTL_ENCODE", "CMD_IOCTL_ENCODE"⟩,
    ⟨7, "USER_COPY", "USER_COPY"⟩,
    ⟨8, "ZONED", "ZONED"⟩,
    ⟨9, "USER_RECOVERY_FAIL_IO", "RECOVERY_FAIL_IO"⟩,
    ⟨10, "UPDATE_SIZE", "UPDATE_SIZE"⟩,
    ⟨11, "AUTO_BUF_REG", "AUTO_ZC"⟩,
    ⟨12, "QUIESCE", "QUIESCE"⟩,
    ⟨13, "PER_IO_DAEMON", "PER_IO_DAEMON"⟩,
    ⟨14, "BUF_REG_OFF_DAEMON", "BUF_REG_OFF_DAEMON"⟩,
    ⟨15, "BATCH_IO", "BATCH_IO"⟩,
    ⟨16, "INTEGRITY", "INTEGRITY"⟩,
    ⟨17, "SAFE_STOP_DEV", "SAFE_STOP_DEV"⟩,
    ⟨18, "NO_AUTO_PART_SCAN", "NO_AUTO_PART_SCAN"⟩,
    ⟨19, "SHMEM_ZC", "SHMEM_ZC"⟩]

def flagsStr (flags : BitVec 64) : List Char :=
  flagTable.foldl (fun s entry =>
    if hasFlag flags entry.flag then
      (if s.isEmpty then s else s ++ [' ']) ++ entry.name.toList
    else s) []

/-! ## Reading the names back -/

def readFlag (word : List Char) : Option (BitVec 64) :=
  (flagTable.find? fun entry => entry.name.toList == word).map FlagEntry.flag

def unionFlags (flags : List (BitVec 64)) : BitVec 64 := flags.foldl (· ||| ·) 0

def readFlags (text : List Char) : Option (BitVec 64) :=
  ((readWords ' ' text).mapM readFlag).map unionFlags

/-- The entries whose flag is set, in the order of the table. -/
def shownFlags (flags : BitVec 64) : List FlagEntry := flagTable.filter fun entry => hasFlag flags entry.flag

theorem flagsStr_eq_appendWords (flags : BitVec 64) :
    flagsStr flags = ((shownFlags flags).map fun entry => entry.name.toList).foldl (appendWord ' ') [] := by
  rw [List.foldl_map, shownFlags, List.foldl_filter]
  rfl

theorem flagTable_names : ∀ entry ∈ flagTable,
    entry.name.toList ≠ [] ∧ ' ' ∉ entry.name.toList ∧ readFlag entry.name.toList = some entry.flag := by
  decide

theorem mem_flagTable_of_shown {flags : BitVec 64} {entry : FlagEntry} (member : entry ∈ shownFlags flags) :
    entry ∈ flagTable :=
  (List.mem_filter.mp member).1

theorem readWords_flagsStr (flags : BitVec 64) :
    readWords ' ' (flagsStr flags) = (shownFlags flags).map fun entry => entry.name.toList := by
  rw [flagsStr_eq_appendWords]
  apply readWords_appendWords
  intro word member
  obtain ⟨entry, shown, rfl⟩ := List.mem_map.mp member
  obtain ⟨solid, clean, -⟩ := flagTable_names entry (mem_flagTable_of_shown shown)
  exact ⟨solid, clean⟩

theorem mapM_readFlag {entries : List FlagEntry} (known : ∀ entry ∈ entries, entry ∈ flagTable) :
    (entries.map fun entry => entry.name.toList).mapM readFlag = some (entries.map FlagEntry.flag) := by
  induction entries with
  | nil => rfl
  | cons entry rest ih =>
      have named := (flagTable_names entry (known entry List.mem_cons_self)).2.2
      have later := ih fun other member => known other (List.mem_cons_of_mem _ member)
      rw [List.map_cons, List.mapM_cons, named, later]
      rfl

/-- A flag is one bit, so testing it takes that bit or nothing from a word. -/
theorem and_flag (flags : BitVec 64) (entry : FlagEntry) :
    flags &&& entry.flag = if hasFlag flags entry.flag then entry.flag else 0 := by
  by_cases clear : flags &&& entry.flag = 0
  · simp [hasFlag, clear]
  · have set : hasFlag flags entry.flag = true := by simpa [hasFlag] using clear
    rw [set, if_pos rfl]
    rw [FlagEntry.flag, BitVec.and_twoPow] at clear ⊢
    split
    · rfl
    · rename_i absent
      exact absurd (if_neg absent) clear

theorem foldl_shown (flags : BitVec 64) (entries : List FlagEntry) : ∀ before known : BitVec 64,
    before = flags &&& known →
      ((entries.filter fun entry => hasFlag flags entry.flag).map FlagEntry.flag).foldl (· ||| ·) before =
        flags &&& (entries.map FlagEntry.flag).foldl (· ||| ·) known := by
  induction entries with
  | nil =>
      intro before known same
      exact same
  | cons entry rest ih =>
      intro before known same
      have bit := and_flag flags entry
      rw [List.map_cons, List.foldl_cons, List.filter_cons]
      cases set : hasFlag flags entry.flag with
      | false =>
          rw [set] at bit
          apply ih
          rw [same, BitVec.and_or_distrib_left]
          simp [bit]
      | true =>
          rw [set] at bit
          apply ih
          rw [same, BitVec.and_or_distrib_left, bit]
          simp

theorem readFlags_flagsStr (flags : BitVec 64) : readFlags (flagsStr flags) = some (flags &&& 0xfffff) := by
  have table : (flagTable.map FlagEntry.flag).foldl (· ||| ·) 0 = 0xfffff := by decide
  have shown := foldl_shown flags flagTable 0 0 (BitVec.and_zero).symm
  rw [readFlags, readWords_flagsStr, mapM_readFlag fun entry => mem_flagTable_of_shown, Option.map_some,
    unionFlags, shownFlags, shown, table]

theorem nodup_flagTable_names : (flagTable.map fun entry => entry.name.toList).Nodup := by
  decide +kernel

/-- The words that are printed are the names of the flags that are set, in the order of the
table and none of them twice, and tell exactly the flags of the table that are set. -/
theorem flags_str_exact (flags : BitVec 64) :
    readWords ' ' (flagsStr flags) = (shownFlags flags).map (fun entry => entry.name.toList) ∧
    (readWords ' ' (flagsStr flags)).Nodup ∧
    readFlags (flagsStr flags) = some (flags &&& 0xfffff) := by
  refine ⟨readWords_flagsStr flags, ?_, readFlags_flagsStr flags⟩
  rw [readWords_flagsStr]
  exact nodup_flagTable_names.sublist (List.filter_sublist.map _)

end Ublk.Ctl
