import Ublk.Queue.CopyBuffer
import Ublk.Queue.Batch.Ownership

namespace Ublk.Queue.Batch

open Ublk.Data Ublk.Machine

variable {config : Config} {state after : State} {tag : Nat}

/-! # Copy buffers of the batched queue

The driver learns the address of a tag from the elements of `PREP` and of every
`COMMIT`. A slot keeps the element of its worker until the driver has read it.
-/

/-- An element of a tag of the queue, with the address of that tag if there are
addresses at all. -/
def WellAddressed (config : Config) (elem : Elem) : Prop :=
  elem.tag < config.queueDepth ∧
    elem.bufAddr = if config.needFBufAddr then some (config.bufBases elem.tag) else none

structure Addressed (config : Config) (state : State) : Prop where
  pending : ∀ slot < state.pending, WellAddressed config (elemAt config state.memory state.index slot)
  committing : ∀ index nr, state.flusher = .committing index nr →
    ∀ slot < nr, WellAddressed config (elemAt config state.memory index slot)

/-- What the driver and `fetch_cb` do concerns no slot, nor does a flusher that stays
out of a commit. -/
theorem Addressed.of_same (addressed : Addressed config state) (memory : after.memory = state.memory)
    (index : after.index = state.index) (pending : after.pending = state.pending)
    (flusher : ∀ index nr, after.flusher = .committing index nr → state.flusher = .committing index nr) :
    Addressed config after where
  pending := by
    rw [memory, index, pending]
    exact addressed.pending
  committing := by
    rw [memory]
    exact fun index nr flight => addressed.committing index nr (flusher index nr flight)

theorem Addressed.frame (addressed : Addressed config state) (frame : WorkerFrame tag state after) :
    Addressed config after := by
  apply addressed.of_same frame.memory frame.index frame.pending
  intro index nr flight
  rcases frame.flusher with same | notified
  · exact same ▸ flight
  · exact notify_committing.mp (notified ▸ flight)

theorem Addressed.record (addressed : Addressed config state) (event : Event) :
    Addressed config (state.record event) :=
  addressed.of_same rfl rfl rfl fun _ _ flight => flight

theorem Addressed.publish {res : BitVec 32} {zoneLba : BitVec 64} (addressed : Addressed config state)
    (owned : Owned config state) (inside : tag < config.queueDepth)
    (busy : (state.workers tag).processing = true) :
    Addressed config (publish config tag res zoneLba state) where
  pending := by
    rw [(owned.publish_pendingTags inside busy).1]
    intro slot bound
    have depth := config.depthBound
    have named : tag % 2 ^ 16 = tag := Nat.mod_eq_of_lt (by omega)
    change WellAddressed config (elemAt config (writeSlot _ _ _ _ _ _ _ _) state.index slot)
    by_cases last : slot = state.pending
    · subst last
      rw [elemAt_writeSlot]
      simp only [WellAddressed, named]
      exact ⟨inside, trivial⟩
    · rw [elemAt_writeSlot_earlier (by omega)]
      exact addressed.pending slot (by omega)
  committing := by
    intro index nr flight slot bound
    have before : state.flusher = .committing index nr := publish_committing.mp flight
    obtain ⟨other, _⟩ := owned.committing index nr before
    have room := owned.room busy
    simp only [commitTags, before, length_bufferTags] at room
    change WellAddressed config (elemAt config (writeSlot _ _ _ _ _ _ _ _) index slot)
    rw [elemAt_writeSlot_other other owned.index (by omega) (by omega)]
    exact addressed.committing index nr before slot bound

theorem Addressed.move {action : Action} (addressed : Addressed config state) (owned : Owned config state)
    (moved : Move config state action after) : Addressed config after := by
  cases moved with
  | turn _ _ turn => exact addressed.frame turn.frame
  | registerFailed => exact addressed.frame (endWorker_frame _ _ _)
  | handled inside pc turn =>
      exact ((addressed.record _).publish owned.record inside
        (by simp [Worker.processing, State.record, pc])).frame turn.frame
  | unregistered inside pc turn =>
      exact (addressed.publish owned inside (by simp [Worker.processing, pc])).frame turn.frame
  | unregisterFailed => exact addressed.frame (endWorker_frame _ _ _)
  | submit pc filled =>
      refine ⟨fun slot bound => absurd bound (Nat.not_lt_zero slot), fun index nr flight => ?_⟩
      cases flight
      exact addressed.pending
  | flusherLeaves => exact addressed.of_same rfl rfl rfl (by simp)
  | flusherSleeps => exact addressed.of_same rfl rfl rfl (by simp)
  | flushed => exact addressed.of_same rfl rfl rfl (by simp)
  | flushFailed => exact addressed.of_same rfl rfl rfl (by simp)
  | accepted => exact addressed.of_same rfl rfl rfl (by simp)
  | refused => exact addressed.of_same rfl rfl rfl (by simp)
  | _ => exact addressed.of_same rfl rfl rfl fun _ _ flight => flight

theorem Addressed.reachable {permits : State → Action → Prop}
    (permitted : ∀ {state action}, permits state action → ownedOnly state action = true)
    (reached : Reachable (batchIoQueue config) permits state) : Addressed config state := by
  refine reached.invariant (Addressed config) ⟨?_, ?_⟩ fun before addressed _ taken =>
    addressed.move (Owned.reachable permitted before) (step_move taken)
  · exact fun slot bound => absurd bound (Nat.not_lt_zero slot)
  · intro index nr flight
    cases flight

/-! ## The elements of `PREP` -/

theorem elemAt_setResult_earlier {memory : Memory} {pos earlier : Nat} {res : BitVec 32}
    (before : earlier < pos) :
    elemAt config (setResult config memory 0 pos tag res) 0 earlier = elemAt config memory 0 earlier := by
  have order := config.commitFHdr_next 0 before
  exact elemAt_congr fun byte low high => setResult_outside (by omega)

/-- The loop in front of `PREP` fills one element for each tag. -/
theorem prep_wellAddressed (memory : Memory) {count : Nat} (bound : count ≤ config.queueDepth) :
    ∀ pos < count,
      (elemAt config ((List.range count).foldl (fun memory tag => setResult config memory 0 tag tag 0) memory)
        0 pos).tag = pos ∧
      WellAddressed config
        (elemAt config ((List.range count).foldl (fun memory tag => setResult config memory 0 tag tag 0) memory)
          0 pos) := by
  induction count with
  | zero => exact fun pos inside => absurd inside (Nat.not_lt_zero pos)
  | succ count ih =>
      intro pos inside
      have depth := config.depthBound
      rw [List.range_succ, List.foldl_append, List.foldl_cons, List.foldl_nil]
      by_cases last : pos = count
      · subst last
        have named : pos % 2 ^ 16 = pos := Nat.mod_eq_of_lt (by omega)
        rw [elemAt_setResult]
        simp only [WellAddressed, named]
        exact ⟨trivial, by omega, trivial⟩
      · rw [elemAt_setResult_earlier (by omega)]
        exact ih (by omega) pos (by omega)

/-! ## The buffers of the requests -/

def Event.handed : Event → Option (Nat × BitVec 64)
  | .tag tag (.handleIo data _) => some (tag, data.buf)
  | _ => none

def OwnBuffer (config : Config) (event : Event) : Prop :=
  ∀ tag buf, event.handed = some (tag, buf) → tag < config.queueDepth ∧ buf = config.getBuf tag

theorem Turn.handed (turn : Turn config tag state after) :
    ∃ events, after.history = state.history ++ events ∧ ∀ event ∈ events, event.handed = none := by
  cases turn with
  | sleep => exact ⟨[], by simp [State.setWorker], by simp⟩
  | leave => exact ⟨[], by simp [endWorker, State.setWorker], by simp⟩
  | serve =>
      simp only [beginRequest]
      split
      · exact ⟨[_, _], List.append_assoc .., by simp [Event.handed]⟩
      · exact ⟨[_], rfl, by simp [Event.handed]⟩

/-- Whatever a step records, a request is handed the buffer of its tag. -/
theorem Move.ownBuffer {action : Action} (moved : Move config state action after) :
    ∃ events, after.history = state.history ++ events ∧ ∀ event ∈ events, OwnBuffer config event := by
  have others {events : List Event} (none : ∀ event ∈ events, event.handed = none) :
      ∀ event ∈ events, OwnBuffer config event := by
    intro event member tag buf hands
    simp [none event member] at hands
  have own {tag : Nat} (inside : tag < config.queueDepth) (iod : IoDesc) (outcome : IoOutcome) :
      OwnBuffer config (.tag tag (.handleIo ⟨config.qId, tag, iod, config.getBuf tag⟩ outcome)) := by
    intro other buf hands
    simp only [Event.handed, Option.some.injEq, Prod.mk.injEq] at hands
    obtain ⟨rfl, rfl⟩ := hands
    exact ⟨inside, rfl⟩
  cases moved with
  | deliver => exact ⟨[_], rfl, others (by simp [Event.handed])⟩
  | fetchCb => exact ⟨[_], rfl, others (by simp [Event.handed])⟩
  | turn _ _ turn =>
      obtain ⟨events, recorded, none⟩ := turn.handed
      exact ⟨events, recorded, others none⟩
  | @handled tag outcome after inside pc turn =>
      obtain ⟨events, recorded, none⟩ := turn.handed
      refine ⟨_ :: events, recorded.trans (List.append_assoc _ [_] events), ?_⟩
      exact List.forall_mem_cons.mpr ⟨own inside _ _, others none⟩
  | @handledRegistered tag outcome inside pc =>
      refine ⟨[_, _], List.append_assoc .., ?_⟩
      exact List.forall_mem_cons.mpr ⟨own inside _ _, others (by simp [Event.handed])⟩
  | unregistered _ _ turn =>
      obtain ⟨events, recorded, none⟩ := turn.handed
      exact ⟨events, recorded, others none⟩
  | accepted => exact ⟨_, rfl, others (by simp [commitEvent, Event.handed])⟩
  | _ => exact ⟨[], (List.append_nil _).symm, by simp⟩

theorem ownBuffer_reachable {permits : State → Action → Prop}
    (reached : Reachable (batchIoQueue config) permits state) :
    ∀ event ∈ state.history, OwnBuffer config event :=
  reached.recorded State.history (OwnBuffer config) rfl fun taken => (step_move taken).ownBuffer

/-! ## The handler's buffer and the driver's -/

/-- The elements the driver gets in a run: those of `PREP`, and those of a `COMMIT` in
flight. -/
def Sent (config : Config) (elem : Elem) : Prop :=
  (∃ pos < config.queueDepth, elem = elemAt config (initial config).memory 0 pos) ∨
    ∃ state, Reachable (batchIoQueue config) (fun state action => ownedOnly state action = true) state ∧
      ∃ index nr, state.flusher = .committing index nr ∧ ∃ slot < nr, elem = elemAt config state.memory index slot

def given (config : Config) (tag : Nat) (addr : Option (BitVec 64)) : Prop :=
  ∃ elem, Sent config elem ∧ elem.tag = tag ∧ elem.bufAddr = addr

def handed (config : Config) (tag : Nat) (buf : BitVec 64) : Prop :=
  ∃ state, Reachable (batchIoQueue config) (fun state action => ownedOnly state action = true) state ∧
    ∃ event ∈ state.history, event.handed = some (tag, buf)

theorem Sent.wellAddressed {elem : Elem} (sent : Sent config elem) : WellAddressed config elem := by
  rcases sent with ⟨pos, inside, rfl⟩ | ⟨state, reached, index, nr, flight, slot, bound, rfl⟩
  · exact (prep_wellAddressed _ le_rfl pos inside).2
  · exact (Addressed.reachable (fun allowed => allowed) reached).committing index nr flight slot bound

theorem given_of_prep (inside : tag < config.queueDepth) :
    given config tag (if config.needFBufAddr then some (config.bufBases tag) else none) := by
  obtain ⟨named, _, addr⟩ := prep_wellAddressed (fun _ => 0) (le_refl config.queueDepth) tag inside
  rw [named] at addr
  exact ⟨_, .inl ⟨tag, inside, rfl⟩, named, addr⟩

theorem sameBuffer (allocated : Allocated config) (alone : autoBufRegAlone config.flags = false) :
    SameBuffer config.flags (given config) (handed config) := by
  apply SameBuffer.of_getBuf allocated alone
  · rintro tag buf ⟨state, reached, event, member, hands⟩
    exact ⟨_, given_of_prep (ownBuffer_reachable reached event member tag buf hands).1⟩
  · rintro tag buf ⟨state, reached, event, member, hands⟩
    exact ownBuffer_reachable reached event member tag buf hands
  · rintro tag addr ⟨elem, sent, rfl, rfl⟩
    obtain ⟨inside, addr⟩ := sent.wellAddressed
    refine ⟨inside, ?_⟩
    have needed : config.needFBufAddr = needAllocBuf config.flags := by
      rw [needAllocBuf_eq, alone, Bool.or_false, Config.needFBufAddr_eq]
    rw [addr, needed, getBuf_sent allocated inside]

theorem initial_deliver {capacity : Nat} (room : 1 ≤ capacity) :
    ∃ written ring next, FetchRing.initial.deliver capacity [0] = some (written, ring) ∧
      ring.fetchCb = some (⟨0, 0, [0]⟩, next) := by
  have positive : 0 < capacity := room
  by_cases full : 1 = capacity
  · subst full
    exact ⟨_, _, _, rfl, rfl⟩
  · simp [FetchRing.deliver, FetchRing.initial, FetchRing.push, FetchRing.fetchCb, FetchRing.readTags,
      positive, room, full]

theorem fetchCb_step {read : Delivery} {ring : FetchRing} (called : state.fetchRing.fetchCb = some (read, ring)) :
    (batchIoQueue config).step state .fetchCb =
      some { state with
        fetchRing := ring
        workers := read.tags.foldl flagWorker state.workers
        history := state.history ++ [.read read] } := by
  simp only [batchIoQueue, step, fetchCb, called]

/-- The first request of a queue, at the worker of tag 0. -/
theorem exists_flagged (deep : 0 < config.queueDepth) :
    ∃ state, Reachable (batchIoQueue config) (fun state action => ownedOnly state action = true) state ∧
      state.workers 0 = ⟨true, .scheduled⟩ ∧ state.workerStopped = false ∧ state.iod 0 = default := by
  obtain ⟨written, ring, next, delivered, called⟩ :=
    initial_deliver (Nat.le_trans deep config.fetchBufTags_spec.1)
  have permitted : ownedOnly (initial config) (.deliver [(0, default)]) = true := by
    simpa [ownedOnly, initial] using deep
  have first : (batchIoQueue config).step (initial config) (.deliver [(0, default)]) =
      some { initial config with
        fetchRing := ring
        iod := fun tag => ([(0, default)].lookup tag).getD default
        held := fun tag => (initial config).held tag && !([0].contains tag)
        history := [.wrote written] } := by
    have guard : (initial config).fetch = none ∧
        ∀ request ∈ [((0 : Nat), (default : IoDesc))], request.1 < config.queueDepth :=
      ⟨rfl, by simpa using deep⟩
    simp only [batchIoQueue, step, deliver]
    rw [if_pos guard]
    simp only [initial, List.map_cons, List.map_nil, delivered, List.nil_append]
  refine ⟨_, (Reachable.initial.next permitted first).next rfl (fetchCb_step called), ?_, rfl, ?_⟩
  · simp [flagWorker, initial, Worker.notify]
  · simp

theorem finishRequest_history (config : Config) (tag : Nat) (res : BitVec 32) (zoneLba : BitVec 64) (state : State) :
    ∃ events, (finishRequest config tag res zoneLba state).history = state.history ++ events := by
  have turn : Turn config tag (publish config tag res zoneLba state) (finishRequest config tag res zoneLba state) :=
    loopHead_turn _ tag
  obtain ⟨events, recorded, _⟩ := turn.handed
  exact ⟨events, recorded⟩

theorem handled_recorded {ioBuf : Bool} (inside : tag < config.queueDepth)
    (pc : (state.workers tag).pc = .handling ioBuf) (outcome : IoOutcome) :
    ∃ after, (batchIoQueue config).step state (.handled tag outcome) = some after ∧
      .tag tag (.handleIo ⟨config.qId, tag, state.iod tag, config.getBuf tag⟩ outcome) ∈ after.history := by
  simp only [batchIoQueue, step, Batch.handled, inside, pc, if_true]
  cases ioBuf with
  | true => exact ⟨_, rfl, by simp [State.record, State.setWorker]⟩
  | false =>
      refine ⟨_, rfl, ?_⟩
      obtain ⟨events, recorded⟩ := finishRequest_history config tag (wrapHandleIo outcome).1 (wrapHandleIo outcome).2
        (state.record (.tag tag (.handleIo ⟨config.qId, tag, state.iod tag, config.getBuf tag⟩ outcome)))
      rw [recorded]
      simp [State.record]

/-- The handler of such a request, on a device that needs no buffer registered by hand. -/
theorem handed_alone (alone : autoBufRegAlone config.flags = true) (deep : 0 < config.queueDepth) :
    handed config 0 (config.getBuf 0) := by
  obtain ⟨state, reached, flagged, running, iod⟩ := exists_flagged deep
  have ioBuf : needIoBuf config.flags (state.iod 0).opFlags = false := by
    simp only [autoBufRegAlone, Bool.and_eq_true] at alone
    simp only [needIoBuf, iod, alone.1.1, Bool.not_true, Bool.and_false, Bool.or_false]
    decide
  have begun : (batchIoQueue config).step state (.workerRun 0) = some (beginRequest config 0 state) := by
    simp [batchIoQueue, step, workerRun, deep, flagged, loopHead, afterWait, running]
  have handling : ((beginRequest config 0 state).workers 0).pc = .handling false := by
    simp [beginRequest, ioBuf, State.setWorker]
  obtain ⟨last, finished, recorded⟩ := handled_recorded deep handling .stopped
  exact ⟨last, (reached.next rfl begun).next rfl finished, _, recorded, rfl⟩

theorem handed_without_address (allocated : Allocated config) (alone : autoBufRegAlone config.flags = true)
    (deep : 0 < config.queueDepth) : ¬ SameBuffer config.flags (given config) (handed config) := by
  intro same
  have nonnull : config.getBuf 0 ≠ 0 := getBuf_alone allocated alone deep
  have gives : given config 0 none := by
    have prep := given_of_prep deep
    rwa [Config.needFBufAddr_eq, not_driverCopies alone] at prep
  have equal := same.same (handed_alone alone deep) gives
  rw [if_neg nonnull] at equal
  cases equal

/-- In both queues the handler's buffer is the driver's, and an address is sent exactly if
the driver copies, unless automatic registration is asked for on its own. -/
theorem handler_buffer_iff (allocated : Allocated config) :
    ((∀ states, Plain.Family config states →
        SameBuffer config.flags (Plain.given config states) (Plain.handed config states)) ↔
      autoBufRegAlone config.flags = false ∨ config.queueDepth = 0) ∧
    (SameBuffer config.flags (given config) (handed config) ↔
      autoBufRegAlone config.flags = false ∨ config.queueDepth = 0) := by
  constructor
  · constructor
    · intro same
      by_contra other
      simp only [not_or, Bool.not_eq_false] at other
      obtain ⟨states, family, differs⟩ := Plain.given_alone allocated other.1 (by omega)
      exact differs (same states family)
    · rintro (alone | empty) states family
      · exact Plain.sameBuffer allocated alone family
      · exact .of_empty empty (fun gives => gives.1) fun hands => hands.1
  · constructor
    · intro same
      by_contra other
      simp only [not_or, Bool.not_eq_false] at other
      exact handed_without_address allocated other.1 (by omega) same
    · rintro (alone | empty)
      · exact sameBuffer allocated alone
      · refine .of_empty empty ?_ ?_
        · rintro tag addr ⟨elem, sent, rfl, _⟩
          exact sent.wellAddressed.1
        · rintro tag buf ⟨state, reached, event, member, hands⟩
          exact (ownBuffer_reachable reached event member tag buf hands).1

theorem oneTag_allocated (flags : BitVec 64) : Allocated { oneTag with flags } where
  nonnull := by
    intro tag _
    change (0x1000 : BitVec 64) ≠ 0
    decide
  apart := by
    intro tag inside other otherInside _
    have first : tag < 1 := inside
    have second : other < 1 := otherInside
    omega

/-- A device without any of the three flags. -/
theorem handler_buffer_oneTag :
    SameBuffer oneTag.flags (given oneTag) (handed oneTag) ∧
      ∀ states, Plain.Family oneTag states →
        SameBuffer oneTag.flags (Plain.given oneTag states) (Plain.handed oneTag states) :=
  have allocated : Allocated oneTag := oneTag_allocated 0
  ⟨(handler_buffer_iff allocated).2.mpr (.inl (by decide)), (handler_buffer_iff allocated).1.mpr (.inl (by decide))⟩

def autoTag : Config := { oneTag with flags := ublkFAutoBufReg }

/-- With automatic registration alone, the batched queue hands out a buffer that the driver
was not told of, and the plain one tells the driver of a buffer that it does not copy to. -/
theorem auto_buf_reg_unused_buffer :
    (given autoTag 0 none ∧ handed autoTag 0 0x1000 ∧ ¬ SameBuffer autoTag.flags (given autoTag) (handed autoTag)) ∧
      ∃ states, Plain.Family autoTag states ∧
        ¬ SameBuffer autoTag.flags (Plain.given autoTag states) (Plain.handed autoTag states) := by
  have allocated : Allocated autoTag := oneTag_allocated ublkFAutoBufReg
  have alone : autoBufRegAlone autoTag.flags = true := by decide
  have deep : 0 < autoTag.queueDepth := by decide
  refine ⟨⟨?_, ?_, handed_without_address allocated alone deep⟩, Plain.given_alone allocated alone deep⟩
  · exact given_of_prep deep
  · exact handed_alone alone deep

end Ublk.Queue.Batch
