import Ublk.Queue.Build
import Mathlib.Algebra.Order.Group.Multiset

namespace Ublk.Queue

open Ublk.Data Ublk.Machine

/-! # Resources of a queue

What the members own at each step of a constructor, and that its guard and the destructor
release exactly that.
-/

/-! ## What the members own -/

section Owned

variable (config : Config) (maxIoBufBytes : BitVec 32)

def bufBlocks (members : Members) : List Resource :=
  members.bufBases.map (.block · (maxIoBufBytes.setWidth 64) config.pageSize)

/-- A buffer behind a pointer: its lock, then its memory. -/
def lockedBuf (buf size : BitVec 64) : List Resource :=
  if buf = 0 then [] else [.lock buf (size * 2), .block buf (size * 2) config.pageSize]

def ioDescMapping (members : Members) : List Resource :=
  if members.iodBase = 0 then [] else [.mapping members.iodBase (iodBytes config)]

def bufBasesStorage (members : Members) : List Resource :=
  match members.storage with
  | none => []
  | some (addr, capacity) => [.storage addr capacity]

def owned (members : Members) : List Resource :=
  bufBlocks config maxIoBufBytes members ++ (lockedBuf config members.fetchBuf members.fetchBufSize ++
    (lockedBuf config members.commitBuf members.commitBufSize ++
      (ioDescMapping config members ++ bufBasesStorage members)))

variable {config maxIoBufBytes} {members : Members}

theorem freeBufs_eq : freeBufs config maxIoBufBytes members =
    { members with
      ledger := members.ledger.releaseAll (bufBlocks config maxIoBufBytes members), bufBases := [] } := by
  rw [freeBufs]
  split
  · rename_i empty
    obtain ⟨iodBase, commitBufSize, commitBuf, fetchBufSize, fetchBuf, bufBases, storage, ledger⟩ := members
    rw [List.isEmpty_iff] at empty
    cases empty
    rfl
  · rfl

theorem freeFetchBuf_eq : freeFetchBuf config members =
    { members with
      ledger := members.ledger.releaseAll (lockedBuf config members.fetchBuf members.fetchBufSize) } := by
  rw [freeFetchBuf, lockedBuf]
  split <;> rfl

theorem freeCommitBuf_eq : freeCommitBuf config members =
    { members with
      ledger := members.ledger.releaseAll (lockedBuf config members.commitBuf members.commitBufSize) } := by
  rw [freeCommitBuf, lockedBuf]
  split <;> rfl

theorem unmapIoDesc_eq : unmapIoDesc config members =
    { members with ledger := members.ledger.releaseAll (ioDescMapping config members), iodBase := 0 } := by
  rw [unmapIoDesc, ioDescMapping]
  split
  · rename_i null
    rw [← null]
    rfl
  · rfl

theorem destroyBufBases_eq : destroyBufBases members =
    { members with ledger := members.ledger.releaseAll (bufBasesStorage members), storage := none } := by
  obtain ⟨iodBase, commitBufSize, commitBuf, fetchBufSize, fetchBuf, bufBases, storage, ledger⟩ := members
  cases storage with
  | none => rfl
  | some pair => rfl

/-- Whatever state a constructor or the owner of a queue leaves, the clean-up releases what
the members own, each resource once. -/
theorem batchCleanup_ledger : (destruct (batchCleanup config maxIoBufBytes) members).ledger =
    members.ledger.releaseAll (owned config maxIoBufBytes members) := by
  rw [destruct, destroyBufBases_eq, batchCleanup, unmapIoDesc_eq, freeCommitBuf_eq, freeFetchBuf_eq, freeBufs_eq]
  simp only [owned, Ledger.releaseAll, List.foldl_append]
  rfl

theorem ioQueueCleanup_ledger (noFetch : members.fetchBuf = 0) (noCommit : members.commitBuf = 0) :
    (destruct (ioQueueCleanup config maxIoBufBytes) members).ledger =
      members.ledger.releaseAll (owned config maxIoBufBytes members) := by
  rw [destruct, destroyBufBases_eq, ioQueueCleanup, unmapIoDesc_eq, freeBufs_eq]
  simp only [owned, lockedBuf, noFetch, noCommit, Ledger.releaseAll, List.foldl_append, ↓reduceIte]
  rfl

end Owned

/-! ## Construction -/

/-- The lock that was not acquired when a step fails. -/
def missingLock (step : BuildStep) (members : Members) : Multiset Resource :=
  match step with
  | .commitLock => {.lock members.commitBuf (members.commitBufSize * 2)}
  | .fetchLock => {.lock members.fetchBuf (members.fetchBufSize * 2)}
  | _ => 0

/-- The members own what is held, but for the locks in `missing`; nothing was released. -/
structure Owns (config : Config) (maxIoBufBytes : BitVec 32) (missing : Multiset Resource)
    (members : Members) : Prop where
  held : members.ledger.held + missing = owned config maxIoBufBytes members
  released : members.ledger.released = 0
  idle : members.ledger.idle = 0

section Construction

variable {config : Config} {maxIoBufBytes : BitVec 32} {answers : BuildAnswers} {keep : Members → Prop}

theorem Owns.acquired {members after : Members} {resource : Resource} {missing : Multiset Resource}
    (owns : Owns config maxIoBufBytes 0 members) (ledger : after.ledger = members.ledger.acquire resource)
    (grown : (owned config maxIoBufBytes after : Multiset Resource) =
      resource ::ₘ ((owned config maxIoBufBytes members : Multiset Resource) + missing)) :
    Owns config maxIoBufBytes missing after := by
  have held := owns.held
  rw [Multiset.add_zero] at held
  constructor
  · rw [ledger, grown, ← held]
    exact Multiset.cons_add _ _ _
  · rw [ledger]
    exact owns.released
  · rw [ledger]
    exact owns.idle

/-- The lock that was still missing. -/
theorem Owns.locked {members : Members} {lock : Resource} (owns : Owns config maxIoBufBytes {lock} members) :
    Owns config maxIoBufBytes 0 (members.acquire lock) := by
  refine ⟨?_, owns.released, owns.idle⟩
  rw [Multiset.add_zero]
  change lock ::ₘ members.ledger.held = owned config maxIoBufBytes members
  rw [← owns.held, Multiset.add_comm, Multiset.singleton_add]

theorem lockedBuf_addr (addr : Addr) (size : BitVec 64) : lockedBuf config addr size =
    [.lock addr (size * 2), .block addr (size * 2) config.pageSize] :=
  if_neg addr.property

theorem lockedBuf_null (size : BitVec 64) : lockedBuf config 0 size = [] := if_pos rfl

theorem owned_coe (members : Members) : (owned config maxIoBufBytes members : Multiset Resource) =
    bufBlocks config maxIoBufBytes members + (lockedBuf config members.fetchBuf members.fetchBufSize +
      (lockedBuf config members.commitBuf members.commitBufSize +
        (ioDescMapping config members + bufBasesStorage members))) := by
  simp only [owned, Multiset.coe_add]

/-- The states between the steps: behind `mmap`, and behind each of the two buffers. -/
structure Mapped (config : Config) (maxIoBufBytes : BitVec 32) (members : Members) : Prop where
  owns : Owns config maxIoBufBytes 0 members
  commitBuf : members.commitBuf = 0
  fetchBuf : members.fetchBuf = 0
  storage : members.storage = none

structure Committing (config : Config) (maxIoBufBytes : BitVec 32) (members : Members) : Prop where
  owns : Owns config maxIoBufBytes 0 members
  fetchBuf : members.fetchBuf = 0
  storage : members.storage = none

structure Fetching (config : Config) (maxIoBufBytes : BitVec 32) (members : Members) : Prop where
  owns : Owns config maxIoBufBytes 0 members
  storage : members.storage = none

/-- A step that fails leaves at most its own lock to the clean-up. -/
def Failing (config : Config) (maxIoBufBytes : BitVec 32) (step : BuildStep) (members : Members) : Prop :=
  Owns config maxIoBufBytes (missingLock step members) members

/-- A step without a lock leaves nothing. -/
structure FailingPlain (config : Config) (maxIoBufBytes : BitVec 32) (step : BuildStep) (members : Members) :
    Prop where
  owns : Owns config maxIoBufBytes 0 members
  plain : missingLock step members = 0

theorem mapIoDesc_triple : Triple (· = {}) (mapIoDesc config answers) (Mapped config maxIoBufBytes)
    (fun step members => Mapped config maxIoBufBytes members ∧ missingLock step members = 0) := by
  have start : Owns config maxIoBufBytes 0 {} := ⟨rfl, rfl, rfl⟩
  intro members fresh
  subst fresh
  rw [mapIoDesc]
  cases answers.mmap with
  | none => exact ⟨⟨start, rfl, rfl, rfl⟩, rfl⟩
  | some addr =>
      refine ⟨start.acquired rfl ?_, rfl, rfl, rfl⟩
      have mapped : ioDescMapping config (Members.acquire { iodBase := addr } (.mapping addr (iodBytes config))) =
          [.mapping addr (iodBytes config)] := if_neg addr.property
      rw [owned_coe, owned_coe, mapped]
      rfl

theorem Owns.congr {members after : Members} {missing : Multiset Resource}
    (owns : Owns config maxIoBufBytes missing members) (ledger : after.ledger = members.ledger)
    (same : owned config maxIoBufBytes after = owned config maxIoBufBytes members) :
    Owns config maxIoBufBytes missing after := by
  constructor
  · rw [ledger, same]
    exact owns.held
  · rw [ledger]
    exact owns.released
  · rw [ledger]
    exact owns.idle

theorem lockedBuf_added (addr : Addr) (size : BitVec 64) (others : Multiset Resource) :
    (lockedBuf config addr size : Multiset Resource) + others =
      .block addr (size * 2) config.pageSize ::ₘ .lock addr (size * 2) ::ₘ others := by
  rw [lockedBuf_addr, ← Multiset.cons_coe, ← Multiset.cons_coe, Multiset.coe_nil, Multiset.cons_add,
    Multiset.cons_add, Multiset.zero_add, Multiset.cons_swap]

/-- A buffer that is allocated and not locked yet. -/
theorem Owns.added {members after : Members} {addr : Addr} {size : BitVec 64}
    (owns : Owns config maxIoBufBytes 0 members)
    (ledger : after.ledger = members.ledger.acquire (.block addr (size * 2) config.pageSize))
    (grown : (owned config maxIoBufBytes after : Multiset Resource) =
      lockedBuf config addr size + owned config maxIoBufBytes members) :
    Owns config maxIoBufBytes {.lock addr (size * 2)} after := by
  apply owns.acquired ledger
  rw [grown, lockedBuf_added, Multiset.add_comm _ {_}, Multiset.singleton_add]

theorem Owns.addCommitBuf {members : Members} (owns : Owns config maxIoBufBytes 0 members)
    (null : members.commitBuf = 0) (addr : Addr) (size : BitVec 64) :
    Owns config maxIoBufBytes {.lock addr (size * 2)}
      (({ members with commitBufSize := size, commitBuf := addr }).acquire
        (.block addr (size * 2) config.pageSize)) := by
  apply owns.added rfl
  rw [owned_coe, owned_coe, null, lockedBuf_null, Multiset.coe_nil, Multiset.zero_add,
    add_left_comm (lockedBuf config addr size : Multiset Resource),
    add_left_comm (lockedBuf config addr size : Multiset Resource)]
  rfl

theorem Owns.addFetchBuf {members : Members} (owns : Owns config maxIoBufBytes 0 members)
    (null : members.fetchBuf = 0) (addr : Addr) (size : BitVec 64) :
    Owns config maxIoBufBytes {.lock addr (size * 2)}
      (({ members with fetchBufSize := size, fetchBuf := addr }).acquire
        (.block addr (size * 2) config.pageSize)) := by
  apply owns.added rfl
  rw [owned_coe, owned_coe, null, lockedBuf_null, Multiset.coe_nil, Multiset.zero_add,
    add_left_comm (lockedBuf config addr size : Multiset Resource)]
  rfl

theorem allocCommitBuf_triple : Triple (Mapped config maxIoBufBytes) (allocCommitBuf config answers)
    (Committing config maxIoBufBytes) (Failing config maxIoBufBytes) := by
  intro members mapped
  have null := mapped.commitBuf
  rw [allocCommitBuf]
  cases answers.commitAlloc with
  | none =>
      have same : owned config maxIoBufBytes
          { members with commitBufSize := BitVec.ofNat 64 config.commitBufSize } =
            owned config maxIoBufBytes members := by
        simp only [owned, lockedBuf, null, ↓reduceIte]
        rfl
      exact mapped.owns.congr rfl same
  | some addr =>
      have half := mapped.owns.addCommitBuf null addr (BitVec.ofNat 64 config.commitBufSize)
      cases answers.commitLock with
      | true => exact ⟨half.locked, mapped.fetchBuf, mapped.storage⟩
      | false => exact half

theorem allocFetchBuf_triple : Triple (Committing config maxIoBufBytes) (allocFetchBuf config answers)
    (Fetching config maxIoBufBytes) (Failing config maxIoBufBytes) := by
  intro members committing
  have null := committing.fetchBuf
  rw [allocFetchBuf]
  cases answers.fetchAlloc with
  | none =>
      have same : owned config maxIoBufBytes
          { members with fetchBufSize := BitVec.ofNat 64 config.fetchBufSize } =
            owned config maxIoBufBytes members := by
        simp only [owned, lockedBuf, null, ↓reduceIte]
        rfl
      exact committing.owns.congr rfl same
  | some addr =>
      have half := committing.owns.addFetchBuf null addr (BitVec.ofNat 64 config.fetchBufSize)
      cases answers.fetchLock with
      | true => exact ⟨half.locked, committing.storage⟩
      | false => exact half

/-! The buffers of the requests come last in both constructors. `keep` is what is known of
the members that this part does not touch. -/

variable (stable : ∀ members bufBases storage ledger, keep members →
  keep { members with bufBases, storage, ledger })

include stable

theorem allocBuf_triple (tag : Nat) :
    Triple (fun members => Owns config maxIoBufBytes 0 members ∧ keep members)
      (allocBuf config maxIoBufBytes answers tag)
      (fun members => Owns config maxIoBufBytes 0 members ∧ keep members)
      (fun step members => FailingPlain config maxIoBufBytes step members ∧ keep members) := by
  intro members before
  obtain ⟨owns, kept⟩ := before
  rw [allocBuf]
  cases answers.bufAlloc tag with
  | none => exact ⟨⟨owns, rfl⟩, kept⟩
  | some addr =>
      refine ⟨owns.acquired rfl ?_, stable members _ _ _ kept⟩
      rw [owned_coe, owned_coe]
      simp only [Members.acquire, bufBlocks, List.map_append, List.map_singleton, ← Multiset.coe_add,
        Multiset.coe_singleton, Multiset.add_zero, Multiset.add_assoc, Multiset.singleton_add, Multiset.add_cons]
      rfl

theorem allocBufsFrom_triple (count tag : Nat) :
    Triple (fun members => Owns config maxIoBufBytes 0 members ∧ keep members)
      (allocBufsFrom config maxIoBufBytes answers count tag)
      (fun members => Owns config maxIoBufBytes 0 members ∧ keep members)
      (fun step members => FailingPlain config maxIoBufBytes step members ∧ keep members) := by
  induction count generalizing tag with
  | zero => exact Triple.skip fun _ owns => owns
  | succ count ih => exact (allocBuf_triple stable tag).andThen (ih (tag + 1))

theorem reserveBufBases_triple :
    Triple (fun members => Fetching config maxIoBufBytes members ∧ keep members)
      (reserveBufBases config answers)
      (fun members => Owns config maxIoBufBytes 0 members ∧ keep members)
      (fun step members => FailingPlain config maxIoBufBytes step members ∧ keep members) := by
  intro members before
  obtain ⟨fetching, kept⟩ := before
  by_cases empty : config.queueDepth = 0
  · rw [reserveBufBases, if_pos empty]
    exact ⟨fetching.owns, kept⟩
  · rw [reserveBufBases, if_neg empty]
    cases answers.reserve with
    | none => exact ⟨⟨fetching.owns, rfl⟩, kept⟩
    | some addr =>
        refine ⟨fetching.owns.acquired rfl ?_, stable members _ _ _ kept⟩
        have none : bufBasesStorage members = [] := by rw [bufBasesStorage, fetching.storage]
        have grown : (bufBasesStorage (({ members with storage := some (addr.val, config.queueDepth) }).acquire
            (.storage addr config.queueDepth)) : Multiset Resource) = .storage addr config.queueDepth ::ₘ 0 := rfl
        rw [owned_coe, owned_coe, none, grown]
        simp only [Multiset.coe_nil, Multiset.add_zero, Multiset.add_cons]
        rfl

theorem allocBufs_triple :
    Triple (fun members => Fetching config maxIoBufBytes members ∧ keep members)
      (allocBufs config maxIoBufBytes answers)
      (fun members => Owns config maxIoBufBytes 0 members ∧ keep members)
      (fun step members => FailingPlain config maxIoBufBytes step members ∧ keep members) := by
  rw [allocBufs]
  split
  · exact (reserveBufBases_triple stable).andThen (allocBufsFrom_triple stable config.queueDepth 0)
  · exact Triple.skip fun _ start => ⟨start.1.owns, start.2⟩

omit stable

/-- `IoQueue` never has a commit or a fetch buffer. -/
def NoBatch (members : Members) : Prop := members.fetchBuf = 0 ∧ members.commitBuf = 0

theorem ioQueueBuild_triple : Triple (· = {}) (ioQueueBuild config maxIoBufBytes answers)
    (fun members => Owns config maxIoBufBytes 0 members ∧ NoBatch members)
    (fun step members => FailingPlain config maxIoBufBytes step members ∧ NoBatch members) := by
  have mapping : Triple (· = {}) (mapIoDesc config answers)
      (fun members => Fetching config maxIoBufBytes members ∧ NoBatch members)
      (fun step members => FailingPlain config maxIoBufBytes step members ∧ NoBatch members) := by
    apply mapIoDesc_triple.weaken
    · exact fun members mapped => ⟨⟨mapped.owns, mapped.storage⟩, mapped.fetchBuf, mapped.commitBuf⟩
    · exact fun step members failed =>
        ⟨⟨failed.1.owns, failed.2⟩, failed.1.fetchBuf, failed.1.commitBuf⟩
  exact mapping.andThen (allocBufs_triple fun _ _ _ _ kept => kept)

theorem FailingPlain.failing {step : BuildStep} {members : Members}
    (failed : FailingPlain config maxIoBufBytes step members) : Failing config maxIoBufBytes step members := by
  rw [Failing, failed.plain]
  exact failed.owns

theorem batchBuild_triple : Triple (· = {}) (batchBuild config maxIoBufBytes answers)
    (Owns config maxIoBufBytes 0) (Failing config maxIoBufBytes) := by
  have mapping : Triple (· = {}) (mapIoDesc config answers) (Mapped config maxIoBufBytes)
      (Failing config maxIoBufBytes) :=
    mapIoDesc_triple.weaken (fun _ mapped => mapped)
      fun _ _ failed => FailingPlain.failing ⟨failed.1.owns, failed.2⟩
  have bufs : Triple (Fetching config maxIoBufBytes) (allocBufs config maxIoBufBytes answers)
      (Owns config maxIoBufBytes 0) (Failing config maxIoBufBytes) := by
    intro members fetching
    have ended := @allocBufs_triple config maxIoBufBytes answers (fun _ => True) (fun _ _ _ _ _ => trivial)
      members ⟨fetching, trivial⟩
    split at ended
    · exact ended.1
    · exact ended.1.failing
  exact mapping.andThen (allocCommitBuf_triple.andThen (allocFetchBuf_triple.andThen bufs))

end Construction

/-- Nothing is held any longer: what was acquired has been released, once each, and the
releases that found nothing are those in `idle`. -/
structure Settled (idle : Multiset Resource) (ledger : Ledger Resource) : Prop where
  held : ledger.held = 0
  released : ledger.released = ledger.acquired
  idle : ledger.idle = idle

theorem Owns.settled {config : Config} {maxIoBufBytes : BitVec 32} {missing : Multiset Resource}
    {members : Members} (owns : Owns config maxIoBufBytes missing members) :
    Settled missing (members.ledger.releaseAll (owned config maxIoBufBytes members)) := by
  obtain ⟨held, idle⟩ := Ledger.releaseAll_owned owns.held
  refine ⟨held, ?_, ?_⟩
  · have balanced := (members.ledger.releaseAll (owned config maxIoBufBytes members)).balanced
    rw [held, Multiset.add_zero] at balanced
    exact balanced.symm
  · rw [idle, owns.idle, Multiset.zero_add]

/-- A constructor and the destructor behind it: `idle` are the releases that may find
nothing when a step fails. -/
def Balanced (cleanup : Members → Members) (idle : BuildStep → Members → Multiset Resource) :
    Members × Option BuildStep → Prop
  | (members, none) => members.ledger.released = 0 ∧ members.ledger.idle = 0 ∧
      Settled 0 (destruct cleanup members).ledger
  | (members, some step) => Settled (idle step members) members.ledger

theorem construct_balanced {body : Fallible Members BuildStep} {cleanup : Members → Members}
    {idle : BuildStep → Members → Multiset Resource} {built : Members → Prop}
    {failed : BuildStep → Members → Prop} (triple : Triple (· = {}) body built failed)
    (completes : ∀ members, built members → Balanced cleanup idle (members, none))
    (fails : ∀ step members, failed step members →
      Balanced cleanup idle (destruct cleanup members, some step)) :
    Balanced cleanup idle (construct body cleanup) := by
  have ended := triple {} rfl
  rw [construct]
  generalize body {} = result at *
  obtain ⟨members, outcome⟩ := result
  cases outcome with
  | none => exact completes members ended
  | some step => exact fails step members ended

/-- The clean-up of `BatchIoQueue` keeps the pointers and sizes of its buffers. -/
theorem missingLock_destruct (config : Config) (maxIoBufBytes : BitVec 32) (step : BuildStep) (members : Members) :
    missingLock step (destruct (batchCleanup config maxIoBufBytes) members) = missingLock step members := by
  rw [destruct, destroyBufBases_eq, batchCleanup, unmapIoDesc_eq, freeCommitBuf_eq, freeFetchBuf_eq, freeBufs_eq]
  cases step <;> rfl

/-- The constructor throws at the first step of its plan that fails, and has acquired what
the steps before it acquire: no less and no more. The destructor acquires nothing. -/
structure AsPlanned (cleanup : Members → Members) (plan : BuildPlan) (ended : Members × Option BuildStep) :
    Prop where
  thrown : ended.2 = firstFailing plan
  acquired : ended.1.ledger.acquired = (producedBefore plan : Multiset Resource)
  kept : (destruct cleanup ended.1).ledger.acquired = ended.1.ledger.acquired

theorem construct_asPlanned {body : Fallible Members BuildStep} {cleanup : Members → Members} {plan : BuildPlan}
    (acquires : Acquires body plan)
    (keeps : ∀ members, (destruct cleanup members).ledger.acquired = members.ledger.acquired) :
    AsPlanned cleanup plan (construct body cleanup) := by
  obtain ⟨thrown, acquired⟩ := acquires {}
  replace acquired := acquired.trans (Multiset.zero_add _)
  rw [construct]
  split
  · rename_i members same
    rw [same] at thrown acquired
    exact ⟨thrown, acquired, keeps members⟩
  · rename_i members step same
    rw [same] at thrown acquired
    exact ⟨thrown, (keeps members).trans acquired, keeps _⟩

theorem ioQueueCleanup_acquired (config : Config) (maxIoBufBytes : BitVec 32) (members : Members) :
    (destruct (ioQueueCleanup config maxIoBufBytes) members).ledger.acquired = members.ledger.acquired := by
  rw [destruct, destroyBufBases_eq, ioQueueCleanup, unmapIoDesc_eq, freeBufs_eq]
  simp only [Ledger.releaseAll_acquired]

theorem batchCleanup_acquired (config : Config) (maxIoBufBytes : BitVec 32) (members : Members) :
    (destruct (batchCleanup config maxIoBufBytes) members).ledger.acquired = members.ledger.acquired := by
  rw [batchCleanup_ledger, Ledger.releaseAll_acquired]

theorem ioQueue_balanced (config : Config) (maxIoBufBytes : BitVec 32) (answers : BuildAnswers) :
    Balanced (ioQueueCleanup config maxIoBufBytes) (fun _ _ => 0)
      (constructIoQueue config maxIoBufBytes answers) := by
  apply construct_balanced ioQueueBuild_triple
  · intro members built
    obtain ⟨owns, noFetch, noCommit⟩ := built
    refine ⟨owns.released, owns.idle, ?_⟩
    rw [ioQueueCleanup_ledger noFetch noCommit]
    exact owns.settled
  · intro step members thrown
    obtain ⟨failed, noFetch, noCommit⟩ := thrown
    rw [Balanced, ioQueueCleanup_ledger noFetch noCommit]
    exact failed.owns.settled

theorem batch_balanced (config : Config) (maxIoBufBytes : BitVec 32) (answers : BuildAnswers) :
    Balanced (batchCleanup config maxIoBufBytes) missingLock (constructBatch config maxIoBufBytes answers) := by
  apply construct_balanced batchBuild_triple
  · intro members owns
    refine ⟨owns.released, owns.idle, ?_⟩
    rw [batchCleanup_ledger]
    exact owns.settled
  · intro step members failed
    rw [Balanced, missingLock_destruct, batchCleanup_ledger]
    exact Owns.settled failed

/-- Both queues, for every flags word, depth and way their constructor can go: it throws at
the first step that fails, with what the steps before it acquired. The destructor of a
constructed queue, or the constructor that throws, has released all of that, with the same
address, size and alignment. The one call that releases nothing is the `munlock` for an
`mlock` that failed. -/
theorem queue_resources_balanced (config : Config) (maxIoBufBytes : BitVec 32) (answers : BuildAnswers) :
    (AsPlanned (ioQueueCleanup config maxIoBufBytes) (ioQueuePlan config maxIoBufBytes answers)
        (constructIoQueue config maxIoBufBytes answers) ∧
      Balanced (ioQueueCleanup config maxIoBufBytes) (fun _ _ => 0)
        (constructIoQueue config maxIoBufBytes answers)) ∧
    AsPlanned (batchCleanup config maxIoBufBytes) (batchPlan config maxIoBufBytes answers)
      (constructBatch config maxIoBufBytes answers) ∧
    Balanced (batchCleanup config maxIoBufBytes) missingLock
      (constructBatch config maxIoBufBytes answers) := by
  constructor
  · exact ⟨construct_asPlanned ioQueueBuild_acquires (ioQueueCleanup_acquired config maxIoBufBytes),
      ioQueue_balanced config maxIoBufBytes answers⟩
  · exact ⟨construct_asPlanned batchBuild_acquires (batchCleanup_acquired config maxIoBufBytes),
      batch_balanced config maxIoBufBytes answers⟩

/-- The second buffer of a queue cannot be allocated. -/
def outOfMemory : BuildAnswers where
  mmap := some ⟨0x1000, by decide⟩
  commitAlloc := some ⟨0x2000, by decide⟩
  commitLock := true
  fetchAlloc := some ⟨0x4000, by decide⟩
  fetchLock := true
  reserve := some ⟨0x6000, by decide⟩
  bufAlloc tag := if tag = 0 then some ⟨0x8000, by decide⟩ else none

example : let config : Config := ⟨0, 0, 2, 12, fun _ => 0, by decide, by decide⟩
    let (members, thrown) := constructIoQueue config 512 outOfMemory
    thrown = some (.bufAlloc 1) ∧ members.ledger.released =
      {.mapping 0x1000 48, .storage 0x6000 2, .block 0x8000 512 4096} := by
  decide

end Ublk.Queue
