import Ublk.Queue.Config
import Mathlib.Data.List.Range

namespace Ublk.Queue

/-! # The fetch ring of `BatchIoQueue`

The multishot fetch writes tags into an incremental provided-buffer ring of two
buffers. The driver appends each delivery to the oldest pushed buffer and moves
on when that buffer is full; `fetch_cb` follows with a single offset and pushes
a buffer again after its last tag was read. Positions count tags, of two bytes
each. Nothing here depends on which tags are delivered.
-/

/-- One completion of the multishot fetch, not yet seen by `fetch_cb`. -/
structure Completion where
  res : Nat
  bid : Nat
  numBuffers : Nat
deriving DecidableEq, Repr

/-- `fetchBuf` is `fetch_buf_`, `off` the offset of `fetch_cb`. `pushed` counts
the calls of `push`; `ring` lists the buffers the driver can still fill, oldest
first, each with its id and with the buffer it stands for; `pos` is where the
driver writes next in the oldest one. -/
structure FetchRing where
  fetchBuf : Nat → Nat → Nat
  off : Nat
  completions : List Completion
  pushed : Nat
  ring : List (Nat × Nat)
  pos : Nat

/-- Some tags at a position of a buffer, as written or as read. -/
structure Delivery where
  bid : Nat
  off : Nat
  tags : List Nat
deriving DecidableEq, Repr

/-- `fetch_buf_size_`, and how many tags fit in it. -/
def Config.fetchBufSize (config : Config) : Nat :=
  (alignUp (BitVec.ofNat 64 (config.queueDepth * 2)) config.pageSize).toNat

def Config.fetchBufTags (config : Config) : Nat := config.fetchBufSize / 2

/-- A buffer of the ring holds every tag of the queue, and whole tags only. -/
theorem Config.fetchBufTags_spec (config : Config) :
    config.queueDepth ≤ config.fetchBufTags ∧ config.fetchBufTags * 2 = config.fetchBufSize := by
  have depth := config.depthBound
  have page : 2 ^ config.pageShift ≤ 2 ^ 63 :=
    Nat.pow_le_pow_right (by decide) (by have := config.pageBound; omega)
  have holds : config.queueDepth * 2 ≤ config.fetchBufSize := le_alignUp config.pageBound (by omega)
  have whole : 2 ∣ config.fetchBufSize := alignUp_even config.pageBound (by omega)
  simp only [Config.fetchBufTags]
  omega

namespace FetchRing

/-- `ProvidedBufferQueue::push` hands out buffer ids round-robin. -/
def push (fetchRing : FetchRing) (buf : Nat) : Nat × FetchRing :=
  let bid := fetchRing.pushed % 2
  (bid, { fetchRing with pushed := fetchRing.pushed + 1, ring := fetchRing.ring ++ [(bid, buf)] })

def initial : FetchRing :=
  let empty : FetchRing :=
    { fetchBuf := fun _ _ => 0, off := 0, completions := [], pushed := 0, ring := [], pos := 0 }
  ((empty.push 0).2.push 1).2

/-- The driver appends `tags` to its current buffer and posts a completion. It
needs a pushed buffer with room; `num_buffers` is nonzero when the buffer is full. -/
def deliver (capacity : Nat) (fetchRing : FetchRing) (tags : List Nat) :
    Option (Delivery × FetchRing) :=
  match fetchRing.ring with
  | [] => none
  | (bid, buf) :: rest =>
      if fetchRing.pos < capacity ∧ fetchRing.pos + tags.length ≤ capacity then
        let filled := fetchRing.pos + tags.length = capacity
        some ({ bid, off := fetchRing.pos, tags },
          { fetchRing with
            fetchBuf := fun b j =>
              if b = buf ∧ fetchRing.pos ≤ j ∧ j < fetchRing.pos + tags.length then
                tags.getD (j - fetchRing.pos) 0
              else fetchRing.fetchBuf b j
            completions := fetchRing.completions ++
              [{ res := 2 * tags.length, bid, numBuffers := if filled then 1 else 0 }]
            ring := if filled then rest else fetchRing.ring
            pos := if filled then 0 else fetchRing.pos + tags.length })
      else none

def readTags (fetchBuf : Nat → Nat → Nat) (bid off nrTags : Nat) : List Nat :=
  (List.range' off nrTags).map (fetchBuf bid)

/-- The part of `fetch_cb` that concerns the ring: the tags the loop reads, and
the ring after it, where a consumed buffer is pushed again. -/
def fetchCb (fetchRing : FetchRing) : Option (Delivery × FetchRing) :=
  match fetchRing.completions with
  | [] => none
  | completion :: rest =>
      let bid := completion.bid
      let nrTags := completion.res / 2
      let stop := fetchRing.off + nrTags
      let read : Delivery :=
        { bid, off := fetchRing.off, tags := readTags fetchRing.fetchBuf bid fetchRing.off nrTags }
      let after := { fetchRing with completions := rest, off := stop }
      let consumed := completion.numBuffers ≠ 0
      if consumed then some (read, { (after.push bid).2 with off := 0 }) else some (read, after)

/-- What `fetch_cb` will read from here on, completion by completion. -/
def backlogFrom (fetchBuf : Nat → Nat → Nat) : Nat → List Completion → List Delivery
  | _, [] => []
  | off, completion :: rest =>
      let nrTags := completion.res / 2
      { bid := completion.bid, off, tags := readTags fetchBuf completion.bid off nrTags } ::
        backlogFrom fetchBuf (if completion.numBuffers ≠ 0 then 0 else off + nrTags) rest

def backlog (fetchRing : FetchRing) : List Delivery :=
  backlogFrom fetchRing.fetchBuf fetchRing.off fetchRing.completions

/-- The tags delivered in the ring and not yet seen by `fetch_cb`. -/
def unseen (fetchRing : FetchRing) : List Nat := fetchRing.backlog.flatMap Delivery.tags

/-! ## Reader and writer positions -/

/-- A position in the endless sequence of buffers the ring goes through. -/
structure Cursor where
  block : Nat
  off : Nat

def Cursor.advance (capacity : Nat) (cursor : Cursor) (count : Nat) : Cursor :=
  if cursor.off + count = capacity then ⟨cursor.block + 1, 0⟩ else ⟨cursor.block, cursor.off + count⟩

/-- The completions lead from one position to the other, none across the end of
a buffer, and report exactly the ends of buffers. -/
def Chain (capacity : Nat) : Cursor → List Completion → Cursor → Prop
  | start, [], stop => start = stop
  | start, completion :: rest, stop =>
      completion.bid = start.block % 2 ∧
      ∃ count, completion.res = 2 * count ∧ start.off + count ≤ capacity ∧
        completion.numBuffers = (if start.off + count = capacity then 1 else 0) ∧
        Chain capacity (start.advance capacity count) rest stop

/-- `fetch_cb` and the driver agree on the ring: the offset of the one and the
write position of the other lie on one chain of completions, and the ring holds
exactly the buffers between them. -/
structure InStep (capacity : Nat) (fetchRing : FetchRing) (reader writer : Cursor) : Prop where
  off : fetchRing.off = reader.off
  pos : fetchRing.pos = writer.off
  pushed : fetchRing.pushed = reader.block + 2
  ring : fetchRing.ring =
    (List.range' writer.block (reader.block + 2 - writer.block)).map
      fun block => (block % 2, block % 2)
  ahead : writer.block ≤ reader.block + 2
  inside : 0 < capacity → reader.off < capacity ∧ writer.off < capacity
  chain : Chain capacity reader fetchRing.completions writer

variable {capacity : Nat} {fetchRing after : FetchRing} {reader writer : Cursor}

theorem initial_inStep : InStep capacity initial ⟨0, 0⟩ ⟨0, 0⟩ where
  off := rfl
  pos := rfl
  pushed := rfl
  ring := rfl
  ahead := by decide
  inside := fun positive => ⟨positive, positive⟩
  chain := rfl

theorem Chain.ordered {start stop : Cursor} {completions : List Completion}
    (chain : Chain capacity start completions stop) :
    start.block < stop.block ∨ (start.block = stop.block ∧ start.off ≤ stop.off) := by
  induction completions generalizing start with
  | nil => cases chain; exact .inr ⟨rfl, Nat.le_refl _⟩
  | cons completion rest ih =>
      obtain ⟨_, count, _, _, _, remaining⟩ := chain
      have later := ih remaining
      simp only [Cursor.advance] at later
      split at later <;> simp only at later <;> omega

theorem Chain.snoc {start stop : Cursor} {completions : List Completion} {bid count : Nat}
    (chain : Chain capacity start completions stop) (same : bid = stop.block % 2)
    (room : stop.off + count ≤ capacity) :
    Chain capacity start
      (completions ++ [⟨2 * count, bid, if stop.off + count = capacity then 1 else 0⟩])
      (stop.advance capacity count) := by
  induction completions generalizing start with
  | nil =>
      cases chain
      exact ⟨same, count, rfl, room, rfl, rfl⟩
  | cons completion rest ih =>
      obtain ⟨bidSame, size, bytes, fits, reported, remaining⟩ := chain
      exact ⟨bidSame, size, bytes, fits, reported, ih remaining⟩

/-- The tags on a chain fill the distance between its ends. -/
theorem Chain.length {start stop : Cursor} {completions : List Completion}
    (fetchBuf : Nat → Nat → Nat)
    (chain : Chain capacity start completions stop) :
    start.block * capacity + start.off +
        ((backlogFrom fetchBuf start.off completions).flatMap Delivery.tags).length =
      stop.block * capacity + stop.off := by
  induction completions generalizing start with
  | nil => cases chain; simp [backlogFrom]
  | cons completion rest ih =>
      obtain ⟨_, count, bytes, _, reported, remaining⟩ := chain
      have later := ih remaining
      have half : completion.res / 2 = count := by omega
      simp only [Cursor.advance] at later
      simp only [backlogFrom, List.flatMap_cons, List.length_append, readTags, List.length_map,
        List.length_range', half]
      by_cases filled : start.off + count = capacity
      · simp only [filled, ↓reduceIte, Nat.succ_mul] at later reported
        simp only [reported, ne_eq, Nat.one_ne_zero, not_false_eq_true, ↓reduceIte]
        omega
      · simp only [filled, ↓reduceIte] at later reported
        simp only [reported, ne_eq, not_true_eq_false, ↓reduceIte]
        omega

/-- Writing behind the end of a chain changes nothing that is read along it, as
long as the chain stays within two consecutive buffers. -/
theorem Chain.backlog_snoc {start stop : Cursor} {completions : List Completion}
    {new : Nat → Nat → Nat} {last : Completion} (chain : Chain capacity start completions stop)
    (old : Nat → Nat → Nat) (near : stop.block ≤ start.block + 1)
    (kept : ∀ b j, b = stop.block % 2 → j < stop.off → new b j = old b j)
    (other : ∀ b j, b ≠ stop.block % 2 → new b j = old b j) :
    backlogFrom new start.off (completions ++ [last]) =
      backlogFrom old start.off completions ++
        [⟨last.bid, stop.off, readTags new last.bid stop.off (last.res / 2)⟩] := by
  induction completions generalizing start with
  | nil => cases chain; rfl
  | cons completion rest ih =>
      obtain ⟨bidSame, count, bytes, fits, reported, remaining⟩ := chain
      have half : completion.res / 2 = count := by omega
      have later := remaining.ordered
      have advanced : start.advance capacity count =
          ⟨if start.off + count = capacity then start.block + 1 else start.block,
            if completion.numBuffers ≠ 0 then 0 else start.off + count⟩ := by
        simp only [Cursor.advance, reported]
        split <;> simp
      have tail := ih remaining (by rw [advanced]; split <;> simp only <;> omega)
      rw [advanced] at tail later
      -- The cells read here lie in the buffer before the writer's, or before its position.
      have unchanged : readTags new completion.bid start.off count =
          readTags old completion.bid start.off count := by
        apply List.map_congr_left
        intro j member
        have range := List.mem_range'_1.mp member
        by_cases same : completion.bid = stop.block % 2
        · apply kept _ _ same
          have sameBlock : start.block = stop.block := by
            split at later <;> simp only at later <;> omega
          have unfilled : ¬ start.off + count = capacity := by
            intro filled
            simp only [filled, ↓reduceIte] at later
            omega
          simp only [unfilled, ↓reduceIte] at later reported
          simp only [reported, ne_eq, not_true_eq_false, ↓reduceIte] at later
          omega
        · exact other _ _ same
      simp only [List.cons_append, backlogFrom, half, unchanged]
      exact congrArg _ tail

theorem readTags_written {fetchBuf : Nat → Nat → Nat} {bid pos : Nat} {tags : List Nat}
    (written : ∀ j < tags.length, fetchBuf bid (pos + j) = tags.getD j 0) :
    readTags fetchBuf bid pos tags.length = tags := by
  apply List.ext_getElem
  · simp [readTags]
  · intro j left right
    simp only [readTags, List.getElem_map, List.getElem_range', Nat.one_mul]
    rw [written j right]
    exact List.getD_eq_getElem tags 0 right

/-- The first pushed buffer is the writer's. -/
theorem InStep.writerBuffer (inStep : InStep capacity fetchRing reader writer)
    (pushed : fetchRing.ring ≠ []) :
    writer.block < reader.block + 2 ∧
      fetchRing.ring = (writer.block % 2, writer.block % 2) ::
        (List.range' (writer.block + 1) (reader.block + 2 - (writer.block + 1))).map
          fun block => (block % 2, block % 2) := by
  have ahead : writer.block < reader.block + 2 := by
    rcases Nat.lt_or_ge writer.block (reader.block + 2) with less | more
    · exact less
    · refine absurd ?_ pushed
      rw [inStep.ring, Nat.sub_eq_zero_of_le more]
      rfl
  have count : reader.block + 2 - writer.block = reader.block + 2 - (writer.block + 1) + 1 := by
    omega
  refine ⟨ahead, ?_⟩
  rw [inStep.ring, count, List.range'_succ, List.map_cons]

/-- A delivery needs a pushed buffer with room, the writer's; it moves the writer
on and appends itself to what `fetch_cb` will read. -/
theorem InStep.deliver {tags : List Nat} {written : Delivery}
    (inStep : InStep capacity fetchRing reader writer)
    (delivered : fetchRing.deliver capacity tags = some (written, after)) :
    InStep capacity after reader (writer.advance capacity tags.length) ∧ written.tags = tags ∧
      after.backlog = fetchRing.backlog ++ [written] := by
  have off := inStep.off
  have chain := inStep.chain
  have pushed : fetchRing.ring ≠ [] := by
    intro none
    simp [FetchRing.deliver, none] at delivered
  obtain ⟨ahead, buffers⟩ := inStep.writerBuffer pushed
  simp only [FetchRing.deliver, buffers, inStep.pos] at delivered
  split at delivered
  case isFalse => contradiction
  rename_i room
  cases delivered
  refine ⟨⟨off, ?_, inStep.pushed, ?_, ?_, ?_, chain.snoc rfl room.2⟩, rfl, ?_⟩
  · simp only [Cursor.advance]
    split <;> rfl
  · simp only [Cursor.advance]
    split
    · rfl
    · exact buffers.symm.trans inStep.ring
  · simp only [Cursor.advance]
    split <;> simp only <;> omega
  · intro positive
    refine ⟨(inStep.inside positive).1, ?_⟩
    simp only [Cursor.advance]
    split <;> simp only <;> omega
  · simp only [backlog, off]
    rw [chain.backlog_snoc fetchRing.fetchBuf (by omega)]
    · have half : 2 * tags.length / 2 = tags.length := by omega
      rw [half, readTags_written]
      intro j bound
      simp [bound]
    · intro b j _ less
      rw [if_neg (by omega)]
    · intro b j different
      rw [if_neg (fun inside => different inside.1)]

/-- A consumed buffer is pushed under its own id, and the reader goes on to the
start of the next one. -/
theorem InStep.pushBack {bid stop : Nat} {rest : List Completion}
    (inStep : InStep capacity fetchRing reader writer) (same : bid = reader.block % 2)
    (remaining : Chain capacity ⟨reader.block + 1, 0⟩ rest writer) :
    (fetchRing.push bid).1 = bid ∧
      InStep capacity
        { ({ fetchRing with completions := rest, off := stop }.push bid).2 with off := 0 }
        ⟨reader.block + 1, 0⟩ writer := by
  have ahead := inStep.ahead
  have sameId : fetchRing.pushed % 2 = bid := by
    rw [inStep.pushed, same]
    omega
  refine ⟨sameId, rfl, inStep.pos, ?_, ?_, ?_, ?_, remaining⟩
  · simp only [push, inStep.pushed]
  · have count : reader.block + 1 + 2 - writer.block = reader.block + 2 - writer.block + 1 := by
      omega
    have last : writer.block + 1 * (reader.block + 2 - writer.block) = reader.block + 2 := by
      omega
    simp only [push, sameId]
    rw [inStep.ring, count, List.range'_concat, List.map_append, last, same]
    simp
  · simp only
    omega
  · intro positive
    exact ⟨positive, (inStep.inside positive).2⟩

/-- One call of `fetch_cb` reads the oldest delivery, from where it was written.
The last conjunct is about a consumed buffer: it is pushed under its own id, into
a ring that has room for it. -/
theorem InStep.fetchCb {read : Delivery} (inStep : InStep capacity fetchRing reader writer)
    (called : fetchRing.fetchCb = some (read, after)) :
    (∃ next, InStep capacity after next writer) ∧ fetchRing.backlog = read :: after.backlog ∧
      read.off + read.tags.length ≤ capacity ∧
      ∀ completion ∈ fetchRing.completions.head?, completion.numBuffers ≠ 0 →
        (fetchRing.push read.bid).1 = read.bid ∧ fetchRing.ring.length < 2 := by
  have off := inStep.off
  have chain := inStep.chain
  cases pending : fetchRing.completions with
  | nil => simp [FetchRing.fetchCb, pending] at called
  | cons completion rest =>
      rw [pending] at chain
      obtain ⟨bidSame, count, bytes, fits, reported, remaining⟩ := chain
      have half : completion.res / 2 = count := by omega
      have length :
          (readTags fetchRing.fetchBuf completion.bid fetchRing.off count).length = count := by
        simp [readTags]
      have ordered := remaining.ordered
      simp only [FetchRing.fetchCb, pending, half] at called
      by_cases filled : reader.off + count = capacity
      · simp only [filled, ↓reduceIte] at reported
        simp only [Cursor.advance, filled, ↓reduceIte] at ordered remaining
        simp only [reported, ne_eq, Nat.one_ne_zero, not_false_eq_true, ↓reduceIte,
          Option.some.injEq, Prod.mk.injEq] at called
        obtain ⟨rfl, rfl⟩ := called
        obtain ⟨sameId, pushed⟩ := inStep.pushBack bidSame remaining
        refine ⟨⟨⟨reader.block + 1, 0⟩, pushed⟩, ?_, ?_, ?_⟩
        · simp only [backlog, pending, backlogFrom, half, reported, push]
          rfl
        · simp only [length]
          omega
        · intro _ _ _
          refine ⟨sameId, ?_⟩
          rw [inStep.ring, List.length_map, List.length_range']
          omega
      · simp only [filled, ↓reduceIte] at reported
        simp only [Cursor.advance, filled, ↓reduceIte] at ordered remaining
        simp only [reported, ne_eq, not_true_eq_false, ↓reduceIte, Option.some.injEq,
          Prod.mk.injEq] at called
        obtain ⟨rfl, rfl⟩ := called
        refine ⟨⟨⟨reader.block, reader.off + count⟩, ⟨by rw [off], inStep.pos, inStep.pushed,
          inStep.ring, inStep.ahead, ?_, remaining⟩⟩, ?_, ?_, ?_⟩
        · intro positive
          exact ⟨by simp only; omega, (inStep.inside positive).2⟩
        · simp only [backlog, pending, backlogFrom, half, reported]
          rfl
        · simp only [length]
          omega
        · intro head member consumed
          simp only [List.head?_cons, Option.mem_def, Option.some.injEq] at member
          subst head
          exact absurd reported consumed

/-- While fewer tags than a buffer holds are unseen, the driver has room. -/
theorem InStep.room (inStep : InStep capacity fetchRing reader writer)
    (few : fetchRing.unseen.length < capacity) :
    fetchRing.ring ≠ [] ∧ fetchRing.pos < capacity := by
  have inside := inStep.inside (by omega)
  refine ⟨?_, by rw [inStep.pos]; exact inside.2⟩
  intro empty
  -- Without a pushed buffer the writer is two buffers ahead of the reader's.
  have distance := inStep.chain.length fetchRing.fetchBuf
  have gone : reader.block + 2 - writer.block = 0 := by
    have lengths := congrArg List.length (inStep.ring.symm.trans empty)
    simpa using lengths
  have ahead : writer.block = reader.block + 2 := by
    have := inStep.ahead
    omega
  simp only [unseen, backlog, inStep.off] at few
  rw [ahead, Nat.add_mul] at distance
  omega

end FetchRing

end Ublk.Queue
