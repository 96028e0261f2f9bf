import Ublk.Queue.Batch.Wakeup

namespace Ublk.Queue.Batch

open Ublk.Data Ublk.Machine

variable {config : Config} {state after : State} {tag : Nat}

/-! # Who owns a tag

Each tag is a token: the driver holds it, the fetch ring carries it, a raised
flag or a busy worker keeps it, or it stands in a slot of a commit buffer. `owners`
counts the places a tag is in. No step raises the count, as long as the driver
hands out tags it owns; steps that lose a tag lower it.
-/

def Worker.processing (worker : Worker) : Bool :=
  match worker.pc with
  | .registering | .handling _ | .unregistering _ _ => true
  | _ => false

theorem Worker.processing_at {worker : Worker} {pc : WorkerPc} (here : worker.pc = pc)
    (busy : ({ worker with pc } : Worker).processing = true) : worker.processing = true := by
  subst here
  exact busy

/-- The tags in the first `count` slots of `commit_buf_[index]`. -/
def bufferTags (config : Config) (memory : Memory) (index count : Nat) : List Nat :=
  (acceptedElems config memory index count).map Elem.tag

def pendingTags (config : Config) (state : State) : List Nat :=
  bufferTags config state.memory state.index state.pending

def commitTags (config : Config) (state : State) : List Nat :=
  match state.flusher with
  | .committing index nr => bufferTags config state.memory index nr
  | _ => []

def owners (config : Config) (state : State) (tag : Nat) : Nat :=
  (state.held tag).toNat + state.fetchRing.unseen.count tag + (state.workers tag).flag.toNat +
    (state.workers tag).processing.toNat + (pendingTags config state).count tag +
    (commitTags config state).count tag

/-- One owner for each tag of the queue, none for any other number. -/
def share (config : Config) (tag : Nat) : Nat := if tag < config.queueDepth then 1 else 0

/-- The `COMMIT` in flight uses the buffer the workers do not fill. -/
structure Alternating (state : State) : Prop where
  index : state.index < 2
  committing : ∀ index nr, state.flusher = .committing index nr → index = 1 - state.index ∧ 0 < nr

structure Owned (config : Config) (state : State) : Prop extends Alternating state where
  once : ∀ tag, owners config state tag ≤ share config tag

/-- Driver and `fetch_cb` agree on the fetch ring, whatever is delivered. -/
def RingInStep (config : Config) (fetchRing : FetchRing) : Prop :=
  ∃ reader writer, FetchRing.InStep config.fetchBufTags fetchRing reader writer

theorem RingInStep.move {action : Action} (ring : RingInStep config state.fetchRing)
    (moved : Move config state action after) : RingInStep config after.fetchRing := by
  obtain ⟨reader, writer, inStep⟩ := ring
  cases moved with
  | deliver _ _ delivered => exact ⟨_, _, (inStep.deliver delivered).1⟩
  | fetchCb called =>
      obtain ⟨next, kept⟩ := (inStep.fetchCb called).1
      exact ⟨next, writer, kept⟩
  | turn _ _ turn => rw [turn.frame.fetchRing]; exact ⟨_, _, inStep⟩
  | handled _ _ turn => rw [turn.frame.fetchRing]; exact ⟨_, _, inStep⟩
  | unregistered _ _ turn => rw [turn.frame.fetchRing]; exact ⟨_, _, inStep⟩
  | _ => exact ⟨_, _, inStep⟩

theorem RingInStep.reachable {permits : State → Action → Prop}
    (reached : Reachable (batchIoQueue config) permits state) : RingInStep config state.fetchRing :=
  reached.invariant (fun state => RingInStep config state.fetchRing)
    ⟨_, _, FetchRing.initial_inStep⟩ fun _ ring _ taken => ring.move (step_move taken)

/-! ## The summands -/

@[simp] theorem notify_processing (worker : Worker) :
    worker.notify.processing = worker.processing := by
  obtain ⟨flag, pc⟩ := worker
  cases pc <;> rfl

theorem commitTags_of_ne (idle : ∀ index nr, state.flusher ≠ .committing index nr) :
    commitTags config state = [] := by
  rw [commitTags]
  split
  · rename_i index nr committing
    exact absurd committing (idle index nr)
  · rfl

theorem notify_committing {pc : FlusherPc} {index nr : Nat} :
    pc.notify = .committing index nr ↔ pc = .committing index nr := by
  cases pc <;> simp [FlusherPc.notify]

theorem publish_committing {res : BitVec 32} {zoneLba : BitVec 64} {index nr : Nat} :
    (publish config tag res zoneLba state).flusher = .committing index nr ↔
      state.flusher = .committing index nr := by
  simp only [publish]
  split
  · exact notify_committing
  · exact Iff.rfl

namespace Alternating

theorem publish {res : BitVec 32} {zoneLba : BitVec 64} (turns : Alternating state) :
    Alternating (publish config tag res zoneLba state) :=
  ⟨turns.index, fun index nr flight => turns.committing index nr (publish_committing.mp flight)⟩

theorem record {event : Event} (turns : Alternating state) : Alternating (state.record event) :=
  ⟨turns.index, turns.committing⟩

theorem frame (turns : Alternating state) (frame : WorkerFrame tag state after) :
    Alternating after where
  index := frame.index ▸ turns.index
  committing := by
    intro index nr flight
    rw [frame.index]
    apply turns.committing index nr
    rcases frame.flusher with same | notified
    · exact same ▸ flight
    · exact notify_committing.mp (notified ▸ flight)

theorem move {action : Action} (turns : Alternating state)
    (moved : Move config state action after) :
    Alternating after := by
  have index := turns.index
  cases moved with
  | turn _ _ turn => exact turns.frame turn.frame
  | registerFailed => exact turns.frame (endWorker_frame _ _ _)
  | handled _ _ turn => exact turns.record.publish.frame turn.frame
  | unregistered _ _ turn => exact turns.publish.frame turn.frame
  | unregisterFailed => exact turns.frame (endWorker_frame _ _ _)
  | submit pc filled =>
      refine ⟨by simp only; omega, fun committing nr flight => ?_⟩
      cases flight
      exact ⟨by simp only; omega, filled⟩
  | flusherLeaves => exact ⟨index, by simp⟩
  | flusherSleeps => exact ⟨index, by simp⟩
  | flushed => exact ⟨index, by simp⟩
  | flushFailed => exact ⟨index, by simp⟩
  | accepted => exact ⟨index, by simp⟩
  | refused => exact ⟨index, by simp⟩
  | _ => exact ⟨index, turns.committing⟩

end Alternating

theorem commitTags_notify (config : Config) (memory : after.memory = state.memory)
    (flusher : after.flusher = state.flusher ∨ after.flusher = state.flusher.notify) :
    commitTags config after = commitTags config state := by
  simp only [commitTags]
  rcases flusher with same | notified
  · rw [same, memory]
  · rw [notified, memory]
    cases state.flusher <;> rfl

theorem bufferTags_congr {left right : Memory} {index count : Nat}
    (same : ∀ slot < count, elemAt config left index slot = elemAt config right index slot) :
    bufferTags config left index count = bufferTags config right index count := by
  simp only [bufferTags, acceptedElems]
  rw [List.map_congr_left fun slot member => same slot (List.mem_range.mp member)]

theorem bufferTags_succ (memory : Memory) (index count : Nat) :
    bufferTags config memory index (count + 1) =
      bufferTags config memory index count ++ [(elemAt config memory index count).tag] := by
  simp [bufferTags, acceptedElems, List.range_succ]

theorem length_bufferTags (memory : Memory) (index count : Nat) :
    (bufferTags config memory index count).length = count := by
  simp [bufferTags, acceptedElems]

/-- A frame of one worker changes the owners of its own tag only, and there only
through the worker. -/
theorem WorkerFrame.owners {worker : Nat} (frame : WorkerFrame worker state after) (tag : Nat)
    (same : (after.workers worker).flag.toNat + (after.workers worker).processing.toNat =
      (state.workers worker).flag.toNat + (state.workers worker).processing.toNat) :
    owners config after tag = owners config state tag := by
  have commit := commitTags_notify config frame.memory frame.flusher
  simp only [Batch.owners]
  rw [commit, pendingTags, pendingTags, frame.memory, frame.index, frame.pending, frame.held,
    frame.fetchRing]
  by_cases equal : tag = worker
  · subst equal
    omega
  · rw [frame.others tag equal]

namespace Owned

/-- Two of the places of a tag exclude each other. -/
theorem inside (owned : Owned config state) (somewhere : 0 < owners config state tag) :
    tag < config.queueDepth := by
  have once := owned.once tag
  rw [share] at once
  split at once
  · assumption
  · omega

theorem le_one (owned : Owned config state) (tag : Nat) : owners config state tag ≤ 1 := by
  have once := owned.once tag
  rw [share] at once
  split at once <;> omega

/-- Tags counted among the owners are distinct tags of the queue. -/
theorem length_le (owned : Owned config state) (tags : List Nat)
    (counted : ∀ other, tags.count other ≤ owners config state other) :
    tags.length ≤ config.queueDepth := by
  have distinct : tags.Nodup :=
    List.nodup_iff_count_le_one.mpr fun other => (counted other).trans (owned.le_one other)
  exact length_le_of_nodup_below distinct fun other member =>
    owned.inside (Nat.lt_of_lt_of_le (List.count_pos_iff.mpr member) (counted other))

theorem room (owned : Owned config state) (busy : (state.workers tag).processing = true) :
    state.pending + (commitTags config state).length + 1 ≤ config.queueDepth := by
  have bounded := owned.length_le (tag :: (pendingTags config state ++ commitTags config state)) ?_
  · rw [List.length_cons, List.length_append, pendingTags, length_bufferTags] at bounded
    omega
  · intro other
    rw [List.count_cons, List.count_append]
    rw [owners]
    by_cases equal : tag = other
    · subst equal
      simp only [beq_self_eq_true, ↓reduceIte, busy, Bool.toNat_true]
      omega
    · simp only [beq_iff_eq, equal, ↓reduceIte]
      omega

theorem pending_le (owned : Owned config state) : state.pending ≤ config.queueDepth := by
  have bounded := owned.length_le (pendingTags config state) fun other => by
    rw [owners]
    omega
  rwa [pendingTags, length_bufferTags] at bounded

/-- A worker that fills a slot leaves the buffer of a `COMMIT` in flight alone. -/
theorem publish_untouched {index nr byte : Nat} {iod : IoDesc} {res : BitVec 32}
    {zoneLba : BitVec 64}
    (owned : Owned config state) (busy : (state.workers tag).processing = true)
    (flight : state.flusher = .committing index nr) (low : config.commitBuf index ≤ byte)
    (high : byte < config.commitBuf index + config.commitBufSize) :
    writeSlot config state.memory state.index state.pending tag iod res zoneLba byte = state.memory byte := by
  obtain ⟨other, some⟩ := owned.committing index nr flight
  have room := owned.room busy
  simp only [commitTags, flight, length_bufferTags] at room
  exact writeSlot_other other owned.index (by omega) low high

theorem publish_commitTags {res : BitVec 32} {zoneLba : BitVec 64} (owned : Owned config state)
    (busy : (state.workers tag).processing = true) :
    commitTags config (publish config tag res zoneLba state) = commitTags config state := by
  have room := owned.room busy
  cases flusher : state.flusher with
  | committing index nr =>
      obtain ⟨other, some⟩ := owned.committing index nr flusher
      have flight : (publish config tag res zoneLba state).flusher = .committing index nr :=
        publish_committing.mpr flusher
      simp only [commitTags, flusher, flight, length_bufferTags] at room ⊢
      exact bufferTags_congr fun slot inside =>
        elemAt_writeSlot_other other owned.index (by omega) (by omega)
  | _ =>
      have none : commitTags config state = [] := commitTags_of_ne (by simp [flusher])
      rw [none, commitTags_of_ne]
      simp [publish_committing, flusher]

theorem publish_pendingTags {res : BitVec 32} {zoneLba : BitVec 64} (owned : Owned config state)
    (inside : tag < config.queueDepth) (busy : (state.workers tag).processing = true) :
    (publish config tag res zoneLba state).pending = state.pending + 1 ∧
      pendingTags config (publish config tag res zoneLba state) = pendingTags config state ++ [tag] := by
  have room := owned.room busy
  have depth := config.depthBound
  have next : (state.pending + 1) % 2 ^ 16 = state.pending + 1 := Nat.mod_eq_of_lt (by omega)
  have named : tag % 2 ^ 16 = tag := Nat.mod_eq_of_lt (by omega)
  refine ⟨next, ?_⟩
  change bufferTags config (writeSlot _ _ _ _ _ _ _ _) state.index
    ((state.pending + 1) % 2 ^ 16) = _
  rw [next, bufferTags_succ, elemAt_writeSlot]
  simp only [named]
  exact congrArg (· ++ [tag]) (bufferTags_congr fun slot before => elemAt_writeSlot_earlier before)

theorem publish_owners {res : BitVec 32} {zoneLba : BitVec 64} (owned : Owned config state)
    (inside : tag < config.queueDepth) (busy : (state.workers tag).processing = true)
    (other : Nat) :
    owners config (publish config tag res zoneLba state) other = owners config state other := by
  have pending : pendingTags config (publish config tag res zoneLba state) =
      pendingTags config state ++ [tag] :=
    (owned.publish_pendingTags inside busy).2
  have commit :
      commitTags config (publish config tag res zoneLba state) = commitTags config state :=
    owned.publish_commitTags busy
  simp only [owners]
  rw [pending, commit, List.count_append, List.count_singleton]
  by_cases equal : other = tag
  · subst equal
    simp only [publish, State.setWorker, Function.update_self, Worker.processing, beq_self_eq_true,
      ↓reduceIte]
    simp only [Worker.processing] at busy
    rw [busy]
    simp only [Bool.toNat_true, Bool.toNat_false]
    omega
  · have different : ¬ (tag == other) = true := by simpa [beq_iff_eq] using Ne.symm equal
    simp only [publish, State.setWorker, Function.update_of_ne equal, different, Bool.false_eq_true,
      ↓reduceIte]
    omega

theorem publish {res : BitVec 32} {zoneLba : BitVec 64} (owned : Owned config state)
    (inside : tag < config.queueDepth) (busy : (state.workers tag).processing = true) :
    Owned config (publish config tag res zoneLba state) where
  toAlternating := owned.toAlternating.publish
  once := fun other => (owned.publish_owners inside busy other).le.trans (owned.once other)

end Owned

/-- From the head of the loop a raised flag becomes a busy worker, or nothing
changes hands. -/
theorem Turn.owners {worker : Nat} (turn : Turn config worker state after)
    (rest : (state.workers worker).processing = false)
    (awake : WorkerAwake state.workerStopped (state.workers worker)) (tag : Nat) :
    owners config after tag = owners config state tag := by
  apply turn.frame.owners
  cases turn with
  | sleep => rw [rest]; simp [State.setWorker, Worker.processing]
  | leave => rw [rest]; simp [endWorker, State.setWorker, Worker.processing]
  | serve running woken =>
      have up : (state.workers worker).flag = true :=
        woken.elim (fun notified => awake.2 notified running) id
      rw [rest, up]
      simp only [beginRequest]
      split <;> simp [State.setWorker, State.record, Worker.processing]

theorem owners_deliver {requests : List (Nat × IoDesc)} {written : Delivery} {fetchRing : FetchRing}
    {iod : Nat → IoDesc} {history : List Event} (ring : RingInStep config state.fetchRing)
    (permitted : ownedOnly state (.deliver requests) = true)
    (delivered : state.fetchRing.deliver config.fetchBufTags (requests.map Prod.fst) = some (written, fetchRing)) :
    owners config
      { state with
        fetchRing, iod, history
        held := fun tag => state.held tag && !(requests.map Prod.fst).contains tag } tag =
      owners config state tag := by
  obtain ⟨reader, writer, inStep⟩ := ring
  obtain ⟨_, tags, backlog⟩ := inStep.deliver delivered
  have unseen : fetchRing.unseen.count tag =
      state.fetchRing.unseen.count tag + (requests.map Prod.fst).count tag := by
    simp only [FetchRing.unseen, backlog, List.flatMap_append, List.flatMap_singleton,
      List.count_append, tags]
  simp only [ownedOnly, Bool.and_eq_true, decide_eq_true_eq, List.all_eq_true] at permitted
  change (state.held tag && _).toNat + fetchRing.unseen.count tag + _ + _ +
    (pendingTags config state).count tag +
    (commitTags config state).count tag = _
  rw [unseen]
  rw [owners]
  by_cases member : tag ∈ requests.map Prod.fst
  · have once : (requests.map Prod.fst).count tag = 1 := List.count_eq_one_of_mem permitted.1 member
    obtain ⟨request, present, rfl⟩ := List.mem_map.mp member
    have held := permitted.2 request present
    have contained : (requests.map Prod.fst).contains request.1 = true := by simpa using member
    simp only [held, contained, once, Bool.not_true, Bool.and_false, Bool.toNat_true,
      Bool.toNat_false]
    omega
  · have none : (requests.map Prod.fst).count tag = 0 := List.count_eq_zero.mpr member
    have absent : (requests.map Prod.fst).contains tag = false := by simpa using member
    simp only [absent, none, Bool.not_false, Bool.and_true]
    omega

theorem owners_fetchCb {read : Delivery} {fetchRing : FetchRing} {history : List Event}
    (ring : RingInStep config state.fetchRing) (once : owners config state tag ≤ 1)
    (called : state.fetchRing.fetchCb = some (read, fetchRing)) :
    owners config { state with fetchRing, history, workers := read.tags.foldl flagWorker state.workers } tag =
      owners config state tag := by
  obtain ⟨reader, writer, inStep⟩ := ring
  have unseen : state.fetchRing.unseen.count tag = read.tags.count tag + fetchRing.unseen.count tag := by
    simp only [FetchRing.unseen, (inStep.fetchCb called).2.1, List.flatMap_cons, List.count_append]
  change _ + fetchRing.unseen.count tag +
    (List.foldl flagWorker state.workers read.tags tag).flag.toNat +
    (List.foldl flagWorker state.workers read.tags tag).processing.toNat +
    (pendingTags config state).count tag +
    (commitTags config state).count tag = _
  rw [owners] at once ⊢
  rw [unseen] at once ⊢
  rw [foldl_flagWorker]
  by_cases member : tag ∈ read.tags
  · have positive := List.count_pos_iff.mpr member
    have down : (state.workers tag).flag.toNat = 0 := by omega
    simp only [member, ↓reduceIte, notify_flag, notify_processing, Bool.toNat_true, down]
    simp only [Worker.processing] at once ⊢
    omega
  · have none : read.tags.count tag = 0 := List.count_eq_zero.mpr member
    simp only [member, ↓reduceIte, none]
    omega

theorem owners_submit (pc : state.flusher = .scheduled) :
    owners config
      { state with index := 1 - state.index, pending := 0, flusher := .committing state.index state.pending } tag =
      owners config state tag := by
  have idle : commitTags config state = [] := commitTags_of_ne (by simp [pc])
  simp only [owners]
  rw [idle]
  simp only [pendingTags, commitTags, bufferTags, acceptedElems, List.range_zero, List.map_nil,
    List.count_nil]
  omega

/-- An answer of the driver takes the accepted slots back and drops the others. -/
theorem owners_accepted {index nr count : Nat} (answer : CommitAnswer) (history : List Event)
    (once : owners config state tag ≤ 1)
    (pc : state.flusher = .committing index nr) (partly : count ≤ nr) :
    owners config
        { state with
          flusher := .committed nr answer, history
          held := fun tag => state.held tag ||
            ((acceptedElems config state.memory index count).map Elem.tag).contains tag } tag +
      ((commitTags config state).drop count).count tag =
      owners config state tag := by
  have split : commitTags config state = bufferTags config state.memory index count ++
      (commitTags config state).drop count := by
    have front : bufferTags config state.memory index count = (commitTags config state).take count := by
      simp only [commitTags, pc, bufferTags, acceptedElems, ← List.map_take, List.take_range,
        Nat.min_eq_left partly]
    rw [front, List.take_append_drop]
  have counts := congrArg (List.count tag) split
  rw [List.count_append] at counts
  change (state.held tag || (bufferTags config state.memory index count).contains tag).toNat + _ + _ + _ +
    (pendingTags config state).count tag + List.count tag [] + _ = _
  rw [owners] at once ⊢
  by_cases member : tag ∈ bufferTags config state.memory index count
  · have positive := List.count_pos_iff.mpr member
    have free : (state.held tag).toNat = 0 := by omega
    have contained : (bufferTags config state.memory index count).contains tag = true := by
      simpa using member
    simp only [contained, Bool.or_true, Bool.toNat_true, free, List.count_nil] at once ⊢
    omega
  · have none := List.count_eq_zero.mpr member
    have absent : (bufferTags config state.memory index count).contains tag = false := by
      simpa using member
    simp only [absent, Bool.or_false, List.count_nil]
    omega

/-- An exception in the middle of a request loses its tag, and no other. -/
theorem owners_endWorker {worker : Nat} (config : Config) (tag : Nat) (err : Option QueueError)
    (busy : (state.workers worker).processing = true) :
    owners config (endWorker worker err state) tag + (if tag = worker then 1 else 0) =
      owners config state tag := by
  have frame := endWorker_frame state worker err
  have commit := commitTags_notify config frame.memory frame.flusher
  simp only [owners]
  rw [commit, pendingTags, pendingTags, frame.memory, frame.index, frame.pending, frame.held,
    frame.fetchRing]
  by_cases equal : tag = worker
  · subst equal
    have idle : ((endWorker tag err state).workers tag).processing = false := by
      simp [endWorker, State.setWorker, Worker.processing]
    have flag : ((endWorker tag err state).workers tag).flag = (state.workers tag).flag := by
      simp [endWorker, State.setWorker]
    rw [busy, idle, flag]
    simp only [Bool.toNat_true, Bool.toNat_false, ↓reduceIte]
    omega
  · rw [frame.others tag equal, if_neg equal, Nat.add_zero]

theorem owners_flusher {pc : FlusherPc} (was : ∀ index nr, state.flusher ≠ .committing index nr)
    (now : ∀ index nr, pc ≠ .committing index nr) :
    owners config { state with flusher := pc } tag = owners config state tag := by
  simp only [owners]
  rw [commitTags_of_ne was, commitTags_of_ne now]
  rfl

/-- Filling the slot and going on from the head of the loop, as one step does. -/
theorem owners_finish {worker : Nat} {res : BitVec 32} {zoneLba : BitVec 64} (tag : Nat)
    (awake : Awake config state)
    (owned : Owned config state) (inside : worker < config.queueDepth)
    (busy : (state.workers worker).processing = true)
    (turn : Turn config worker (publish config worker res zoneLba state) after) :
    owners config after tag = owners config state tag := by
  have alive : (state.workers worker).isEnded = false := by
    revert busy
    rw [Worker.processing, Worker.isEnded]
    cases (state.workers worker).pc <;> simp
  have rest : ((publish config worker res zoneLba state).workers worker).processing = false := by
    simp [Worker.processing, publish_pc]
  exact (turn.owners rest ((awake.publish alive).workers worker inside) tag).trans
    (owned.publish_owners inside busy tag)

theorem Owned.record {event : Event} (owned : Owned config state) :
    Owned config (state.record event) :=
  ⟨owned.toAlternating.record, owned.once⟩

/-- No step adds an owner, and only a refusal of the driver takes one away. -/
theorem owners_move {action : Action} (awake : Awake config state)
    (ring : RingInStep config state.fetchRing)
    (owned : Owned config state) (permitted : ownedOnly state action = true)
    (moved : Move config state action after) (tag : Nat) :
    owners config after tag ≤ owners config state tag ∧
      (refusesNothing state action = true → owners config after tag = owners config state tag) := by
  have kept (same : owners config after tag = owners config state tag) :
      owners config after tag ≤ owners config state tag ∧
        (refusesNothing state action = true → owners config after tag = owners config state tag) :=
    ⟨same.le, fun _ => same⟩
  cases moved with
  | deliver _ _ delivered => exact kept (owners_deliver ring permitted delivered)
  | fetchCb called => exact kept (owners_fetchCb ring (owned.le_one tag) called)
  | turn inside pc turn =>
      refine kept (turn.owners ?_ (awake.workers _ inside) tag)
      rcases pc with pc | pc <;> simp [Worker.processing, pc]
  | registered inside pc =>
      refine kept ((setWorker_frame state _ _).owners tag ?_)
      simp [State.setWorker, Worker.processing, pc]
  | registerFailed inside pc =>
      refine ⟨?_, fun obliging => by simp [refusesNothing, registersSucceed] at obliging⟩
      exact (Nat.le_add_right _ _).trans
        (owners_endWorker config tag _ (by simp [Worker.processing, pc])).le
  | handled inside pc turn =>
      have same := owners_finish tag awake.record owned.record inside
        (by simp [Worker.processing, State.record, pc]) turn
      exact kept same
  | handledRegistered inside pc =>
      refine kept (((setWorker_frame (state.record _) _ _).record _).owners tag ?_)
      simp [State.setWorker, State.record, Worker.processing, pc]
  | unregistered inside pc turn =>
      refine kept (owners_finish tag awake owned inside ?_ turn)
      simp [Worker.processing, pc]
  | unregisterFailed inside pc =>
      refine ⟨?_, fun obliging => by simp [refusesNothing, unregistersSucceed] at obliging⟩
      exact (Nat.le_add_right _ _).trans
        (owners_endWorker config tag _ (by simp [Worker.processing, pc])).le
  | submit pc => exact kept (owners_submit pc)
  | flusherLeaves pc => exact kept (owners_flusher (by simp [pc]) (by simp))
  | flusherSleeps pc => exact kept (owners_flusher (by simp [pc]) (by simp))
  | flushed pc => exact kept (owners_flusher (by simp [pc]) (by simp))
  | flushFailed pc => exact kept (owners_flusher (by simp [pc]) (by simp))
  | accepted pc partly =>
      rename_i index nr count
      have taken := owners_accepted (.accepted count)
        (state.history ++
          (acceptedElems config state.memory index count).map (commitEvent config state))
        (owned.le_one tag) pc partly
      refine ⟨by omega, fun obliging => ?_⟩
      have full : count = nr := by
        simpa [refusesNothing, registersSucceed, unregistersSucceed, commitsInFull,
          pc] using obliging
      have all : (commitTags config state).drop count = [] := by
        simp [commitTags, pc, length_bufferTags, full]
      rw [all, List.count_nil] at taken
      omega
  | refused pc =>
      refine ⟨?_, fun obliging => by simp [refusesNothing, commitsInFull, pc] at obliging⟩
      rw [owners]
      rw [commitTags_of_ne]
      · exact Nat.add_le_add_left (Nat.zero_le _) _
      · simp
  | fetchEnded =>
      apply kept
      simp only [owners]
      simp only [pendingTags, commitTags]
      split <;> simp
  | fetchStopped => exact kept rfl
  | returned => exact kept rfl

theorem Owned.move {action : Action} (awake : Awake config state)
    (ring : RingInStep config state.fetchRing)
    (owned : Owned config state) (permitted : ownedOnly state action = true)
    (moved : Move config state action after) : Owned config after where
  toAlternating := owned.toAlternating.move moved
  once := fun tag => (owners_move awake ring owned permitted moved tag).1.trans (owned.once tag)

theorem owners_initial (tag : Nat) : owners config (initial config) tag = share config tag := by
  have unseen : (FetchRing.initial).unseen = [] := rfl
  simp only [owners, initial, unseen, pendingTags, commitTags, bufferTags, acceptedElems, share]
  by_cases inside : tag < config.queueDepth <;> simp [inside, Worker.processing]

theorem Owned.initial : Owned config (initial config) where
  index := by simp [Batch.initial]
  committing := by simp [Batch.initial]
  once := fun tag => (owners_initial tag).le

theorem Owned.reachable {permits : State → Action → Prop}
    (permitted : ∀ {state action}, permits state action → ownedOnly state action = true)
    (reached : Reachable (batchIoQueue config) permits state) : Owned config state := by
  refine reached.invariant _ Owned.initial fun before owned allowed taken => ?_
  exact owned.move (Awake.reachable before) (RingInStep.reachable before) (permitted allowed)
    (step_move taken)

/-- As long as the driver refuses nothing, every tag keeps exactly one owner. -/
theorem owners_reachable {permits : State → Action → Prop}
    (permitted : ∀ {state action}, permits state action →
      ownedOnly state action = true ∧ refusesNothing state action = true)
    (reached : Reachable (batchIoQueue config) permits state) (tag : Nat) :
    owners config state tag = share config tag := by
  induction reached with
  | initial => exact owners_initial tag
  | next before allowed taken same =>
      obtain ⟨ownedOnly, obliging⟩ := permitted allowed
      have owned := Owned.reachable (fun allowed => (permitted allowed).1) before
      have kept := owners_move (Awake.reachable before)
        (RingInStep.reachable before) owned ownedOnly
        (step_move taken) tag
      exact (kept.2 obliging).trans same

end Ublk.Queue.Batch
