import Ublk.Offsets
import Ublk.Queue.FetchRing
import Ublk.Queue.CommitBuffer
import Ublk.Machine.Fallible
import Ublk.Data.Ledger

namespace Ublk.Queue

open Ublk.Data Ublk.Machine

/-! # Constructors of a queue

The constructors of both queues acquire a mapping, memory and memory locks one after the
other, with one clean-up behind a guard and in the destructor. Addresses come from outside;
`munlock` of a range that is not locked changes nothing, and neither does an `mlock` that
fails.
-/

/-- What `mmap` and the allocators return: never null. -/
abbrev Addr := { addr : BitVec 64 // addr ≠ 0 }

inductive Resource where
  | mapping (addr size : BitVec 64)
  | block (addr bytes alignment : BitVec 64)
  | lock (addr size : BitVec 64)
  | storage (addr : BitVec 64) (capacity : Nat)
deriving DecidableEq, Repr

inductive BuildStep where
  | mmap
  | commitAlloc
  | commitLock
  | fetchAlloc
  | fetchLock
  | reserve
  | bufAlloc (tag : Nat)
deriving DecidableEq, Repr

/-- How the steps of a constructor end; `none` and `false` are failures. -/
structure BuildAnswers where
  mmap : Option Addr
  commitAlloc : Option Addr
  commitLock : Bool
  fetchAlloc : Option Addr
  fetchLock : Bool
  reserve : Option Addr
  bufAlloc : Nat → Option Addr

/-- The members that own something, and the ledger of what they own. `storage` is the
memory of the vector `buf_bases_` itself. -/
structure Members where
  iodBase : BitVec 64 := 0
  commitBufSize : BitVec 64 := 0
  commitBuf : BitVec 64 := 0
  fetchBufSize : BitVec 64 := 0
  fetchBuf : BitVec 64 := 0
  bufBases : List (BitVec 64) := []
  storage : Option (BitVec 64 × Nat) := none
  ledger : Ledger Resource := .empty

namespace Members

def acquire (members : Members) (resource : Resource) : Members :=
  { members with ledger := members.ledger.acquire resource }

def release (members : Members) (resource : Resource) : Members :=
  { members with ledger := members.ledger.release resource }

end Members

section Build

variable (config : Config) (maxIoBufBytes : BitVec 32) (answers : BuildAnswers)

/-- The length of the descriptor mapping. -/
def iodBytes : BitVec 64 := ioDescBytes (BitVec.ofNat 16 config.queueDepth)

def mapIoDesc : Fallible Members BuildStep := fun members =>
  match answers.mmap with
  | none => (members, some .mmap)
  | some addr => (({ members with iodBase := addr }).acquire (.mapping addr (iodBytes config)), none)

/-- `commit_buf_`; the size is set before the allocation that may fail. -/
def allocCommitBuf : Fallible Members BuildStep := fun members =>
  let size := BitVec.ofNat 64 config.commitBufSize
  let members := { members with commitBufSize := size }
  match answers.commitAlloc with
  | none => (members, some .commitAlloc)
  | some addr =>
      let members := ({ members with commitBuf := addr }).acquire (.block addr (size * 2) config.pageSize)
      if answers.commitLock then (members.acquire (.lock addr (size * 2)), none) else (members, some .commitLock)

/-- `fetch_buf_`. -/
def allocFetchBuf : Fallible Members BuildStep := fun members =>
  let size := BitVec.ofNat 64 config.fetchBufSize
  let members := { members with fetchBufSize := size }
  match answers.fetchAlloc with
  | none => (members, some .fetchAlloc)
  | some addr =>
      let members := ({ members with fetchBuf := addr }).acquire (.block addr (size * 2) config.pageSize)
      if answers.fetchLock then (members.acquire (.lock addr (size * 2)), none) else (members, some .fetchLock)

/-- `buf_bases_.reserve`, which has nothing to do for a depth of zero. -/
def reserveBufBases : Fallible Members BuildStep := fun members =>
  if config.queueDepth = 0 then (members, none)
  else
    match answers.reserve with
    | none => (members, some .reserve)
    | some addr =>
        (({ members with storage := some (addr.val, config.queueDepth) }).acquire
          (.storage addr config.queueDepth), none)

def allocBuf (tag : Nat) : Fallible Members BuildStep := fun members =>
  match answers.bufAlloc tag with
  | none => (members, some (.bufAlloc tag))
  | some addr =>
      (({ members with bufBases := members.bufBases ++ [addr.val] }).acquire
        (.block addr (maxIoBufBytes.setWidth 64) config.pageSize), none)

/-- The loop over the tags from `tag` on. -/
def allocBufsFrom : Nat → Nat → Fallible Members BuildStep
  | 0, _ => .skip
  | count + 1, tag => (allocBuf config maxIoBufBytes answers tag).andThen (allocBufsFrom count (tag + 1))

def allocBufs : Fallible Members BuildStep :=
  if needAllocBuf config.flags then
    (reserveBufBases config answers).andThen (allocBufsFrom config maxIoBufBytes answers config.queueDepth 0)
  else .skip

/-! ## Clean-up -/

def freeBufs (members : Members) : Members :=
  if members.bufBases.isEmpty then members
  else
    { members with
      ledger := members.ledger.releaseAll
        (members.bufBases.map (.block · (maxIoBufBytes.setWidth 64) config.pageSize))
      bufBases := [] }

def freeFetchBuf (members : Members) : Members :=
  if members.fetchBuf = 0 then members
  else
    (members.release (.lock members.fetchBuf (members.fetchBufSize * 2))).release
      (.block members.fetchBuf (members.fetchBufSize * 2) config.pageSize)

def freeCommitBuf (members : Members) : Members :=
  if members.commitBuf = 0 then members
  else
    (members.release (.lock members.commitBuf (members.commitBufSize * 2))).release
      (.block members.commitBuf (members.commitBufSize * 2) config.pageSize)

def unmapIoDesc (members : Members) : Members :=
  if members.iodBase = 0 then members
  else { members.release (.mapping members.iodBase (iodBytes config)) with iodBase := 0 }

/-- The destructor of the vector, which runs behind both the destructor of a queue and a
constructor that throws. -/
def destroyBufBases (members : Members) : Members :=
  match members.storage with
  | none => members
  | some (addr, capacity) => { members.release (.storage addr capacity) with storage := none }

/-- `IoQueue::cleanup_`. -/
def ioQueueCleanup (members : Members) : Members :=
  unmapIoDesc config (freeBufs config maxIoBufBytes members)

/-- `BatchIoQueue::cleanup_`. -/
def batchCleanup (members : Members) : Members :=
  unmapIoDesc config (freeCommitBuf config (freeFetchBuf config (freeBufs config maxIoBufBytes members)))

/-- A constructor: the guard cleans up unless the body has completed. -/
def construct (body : Fallible Members BuildStep) (cleanup : Members → Members) : Members × Option BuildStep :=
  match body {} with
  | (members, none) => (members, none)
  | (members, some step) => (destroyBufBases (cleanup members), some step)

def destruct (cleanup : Members → Members) (members : Members) : Members := destroyBufBases (cleanup members)

def ioQueueBuild : Fallible Members BuildStep :=
  (mapIoDesc config answers).andThen (allocBufs config maxIoBufBytes answers)

def batchBuild : Fallible Members BuildStep :=
  (mapIoDesc config answers).andThen ((allocCommitBuf config answers).andThen
    ((allocFetchBuf config answers).andThen (allocBufs config maxIoBufBytes answers)))

/-- `IoQueue::IoQueue`. -/
def constructIoQueue : Members × Option BuildStep :=
  construct (ioQueueBuild config maxIoBufBytes answers) (ioQueueCleanup config maxIoBufBytes)

/-- `BatchIoQueue::BatchIoQueue`. -/
def constructBatch : Members × Option BuildStep :=
  construct (batchBuild config maxIoBufBytes answers) (batchCleanup config maxIoBufBytes)

end Build

/-! ## Plans

What each constructor sets out to acquire, in its order, as far as the answers go.
-/

section Plan

variable (config : Config) (maxIoBufBytes : BitVec 32) (answers : BuildAnswers)

abbrev BuildPlan := List (BuildStep × Option Resource)

/-- A buffer of locked memory; without memory there is nothing to lock. -/
def lockedPlan (alloc lock : BuildStep) (allocated : Option Addr) (locked : Bool) (bytes : BitVec 64) : BuildPlan :=
  (alloc, allocated.map fun addr => .block addr bytes config.pageSize) ::
    allocated.toList.map fun addr => (lock, if locked then some (.lock addr bytes) else none)

def mapPlan : BuildPlan := [(.mmap, answers.mmap.map fun addr => .mapping addr (iodBytes config))]

def commitPlan : BuildPlan :=
  lockedPlan config .commitAlloc .commitLock answers.commitAlloc answers.commitLock
    (BitVec.ofNat 64 config.commitBufSize * 2)

def fetchPlan : BuildPlan :=
  lockedPlan config .fetchAlloc .fetchLock answers.fetchAlloc answers.fetchLock
    (BitVec.ofNat 64 config.fetchBufSize * 2)

def bufPlan (tag : Nat) : BuildStep × Option Resource :=
  (.bufAlloc tag, (answers.bufAlloc tag).map fun addr => .block addr (maxIoBufBytes.setWidth 64) config.pageSize)

def reservePlan : BuildPlan :=
  if config.queueDepth = 0 then []
  else [(.reserve, answers.reserve.map fun addr => .storage addr config.queueDepth)]

def bufsPlan : BuildPlan :=
  if needAllocBuf config.flags then
    reservePlan config answers ++ (List.range config.queueDepth).map (bufPlan config maxIoBufBytes answers)
  else []

def ioQueuePlan : BuildPlan := mapPlan config answers ++ bufsPlan config maxIoBufBytes answers

def batchPlan : BuildPlan :=
  mapPlan config answers ++
    (commitPlan config answers ++ (fetchPlan config answers ++ bufsPlan config maxIoBufBytes answers))

end Plan

section Enacts

variable {config : Config} {maxIoBufBytes : BitVec 32} {answers : BuildAnswers}

/-- The statement acquires what is planned. -/
abbrev Acquires (statement : Fallible Members BuildStep) (plan : BuildPlan) : Prop :=
  Enacts (fun members => members.ledger.acquired) statement plan

theorem one_acquired (acquired : Multiset Resource) (resource : Resource) :
    resource ::ₘ acquired = acquired + ([resource] : List Resource) := by
  rw [Multiset.coe_singleton, Multiset.add_comm, Multiset.singleton_add]

theorem mapIoDesc_acquires : Acquires (mapIoDesc config answers) (mapPlan config answers) := by
  intro members
  rw [mapIoDesc, mapPlan]
  cases answers.mmap with
  | none => exact ⟨rfl, (Multiset.add_zero _).symm⟩
  | some addr => exact ⟨rfl, one_acquired _ _⟩

/-- Memory behind a pointer that is allocated, then locked. -/
theorem locked_acquires {alloc lock : BuildStep} {locked : Bool} {bytes : BitVec 64} {addr : Addr}
    {members after : Members}
    (ledger : after.ledger = members.ledger.acquire (.block addr bytes config.pageSize)) :
    let plan := lockedPlan config alloc lock (some addr) locked bytes
    let (built, thrown) := if locked then (after.acquire (.lock addr bytes), none) else (after, some lock)
    thrown = firstFailing plan ∧
      built.ledger.acquired = members.ledger.acquired + (producedBefore plan : Multiset Resource) := by
  have acquired : after.ledger.acquired = .block addr bytes config.pageSize ::ₘ members.ledger.acquired := by
    rw [ledger]
    rfl
  cases locked with
  | false => exact ⟨rfl, acquired.trans (one_acquired _ _)⟩
  | true =>
      refine ⟨rfl, ?_⟩
      change .lock addr bytes ::ₘ after.ledger.acquired =
        members.ledger.acquired + ([.block addr bytes config.pageSize, .lock addr bytes] : List Resource)
      rw [acquired, one_acquired, one_acquired, Multiset.add_assoc]
      rfl

theorem allocCommitBuf_acquires : Acquires (allocCommitBuf config answers) (commitPlan config answers) := by
  intro members
  rw [allocCommitBuf, commitPlan]
  cases answers.commitAlloc with
  | none => exact ⟨rfl, (Multiset.add_zero _).symm⟩
  | some addr => exact locked_acquires rfl

theorem allocFetchBuf_acquires : Acquires (allocFetchBuf config answers) (fetchPlan config answers) := by
  intro members
  rw [allocFetchBuf, fetchPlan]
  cases answers.fetchAlloc with
  | none => exact ⟨rfl, (Multiset.add_zero _).symm⟩
  | some addr => exact locked_acquires rfl

theorem reserveBufBases_acquires : Acquires (reserveBufBases config answers) (reservePlan config answers) := by
  intro members
  rw [reserveBufBases, reservePlan]
  split
  · exact ⟨rfl, (Multiset.add_zero _).symm⟩
  · cases answers.reserve with
    | none => exact ⟨rfl, (Multiset.add_zero _).symm⟩
    | some addr => exact ⟨rfl, one_acquired _ _⟩

theorem allocBuf_acquires (tag : Nat) : Acquires (allocBuf config maxIoBufBytes answers tag)
    [bufPlan config maxIoBufBytes answers tag] := by
  intro members
  rw [allocBuf, bufPlan]
  cases answers.bufAlloc tag with
  | none => exact ⟨rfl, (Multiset.add_zero _).symm⟩
  | some addr => exact ⟨rfl, one_acquired _ _⟩

theorem allocBufsFrom_acquires (count tag : Nat) :
    Acquires (allocBufsFrom config maxIoBufBytes answers count tag)
      ((List.range' tag count).map (bufPlan config maxIoBufBytes answers)) := by
  induction count generalizing tag with
  | zero => exact Enacts.skip
  | succ count ih => exact (allocBuf_acquires tag).andThen (ih (tag + 1))

theorem allocBufs_acquires : Acquires (allocBufs config maxIoBufBytes answers)
    (bufsPlan config maxIoBufBytes answers) := by
  rw [allocBufs, bufsPlan]
  split
  · rw [List.range_eq_range']
    exact reserveBufBases_acquires.andThen (allocBufsFrom_acquires config.queueDepth 0)
  · exact Enacts.skip

theorem ioQueueBuild_acquires : Acquires (ioQueueBuild config maxIoBufBytes answers)
    (ioQueuePlan config maxIoBufBytes answers) :=
  mapIoDesc_acquires.andThen allocBufs_acquires

theorem batchBuild_acquires : Acquires (batchBuild config maxIoBufBytes answers)
    (batchPlan config maxIoBufBytes answers) :=
  mapIoDesc_acquires.andThen (allocCommitBuf_acquires.andThen
    (allocFetchBuf_acquires.andThen allocBufs_acquires))

end Enacts

end Ublk.Queue
