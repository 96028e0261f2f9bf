import Ublk.Queue.Batch.Ownership

namespace Ublk.Queue.Batch

open Ublk.Data Ublk.Machine

variable {config : Config} {state after : State} {tag : Nat}

/-! # The fetch ring in a run

`fetch_cb` reads what the driver wrote, delivery by delivery, and the driver finds
room for every tag it owns. The positions are the business of `FetchRing.InStep`;
the capacity rests on ownership, since a tag the driver owns is not in the ring.
-/

def Event.wroteDelivery : Event → Option Delivery
  | .wrote delivery => some delivery
  | _ => none

def Event.readDelivery : Event → Option Delivery
  | .read delivery => some delivery
  | _ => none

/-- The deliveries the driver has written, and those `fetch_cb` has read. -/
def State.written (state : State) : List Delivery := state.history.filterMap Event.wroteDelivery

def State.reads (state : State) : List Delivery := state.history.filterMap Event.readDelivery

/-- What is written and not read yet is what `fetch_cb` will read next. -/
def ReadsFollowWrites (state : State) : Prop :=
  state.written = state.reads ++ state.fetchRing.backlog

theorem Turn.deliveries (turn : Turn config tag state after) :
    after.written = state.written ∧ after.reads = state.reads := by
  cases turn with
  | sleep => exact ⟨rfl, rfl⟩
  | leave => exact ⟨rfl, rfl⟩
  | serve =>
      simp only [State.written, State.reads, beginRequest]
      split <;> simp [State.record, State.setWorker, Event.wroteDelivery, Event.readDelivery]

namespace ReadsFollowWrites

theorem of_same (follows : ReadsFollowWrites state) (written : after.written = state.written)
    (reads : after.reads = state.reads) (ring : after.fetchRing = state.fetchRing) :
    ReadsFollowWrites after := by
  rw [ReadsFollowWrites, written, reads, ring]
  exact follows

theorem turn (follows : ReadsFollowWrites state) (turn : Turn config tag state after) :
    ReadsFollowWrites after :=
  follows.of_same turn.deliveries.1 turn.deliveries.2 turn.frame.fetchRing

theorem record {event : TagEvent} (follows : ReadsFollowWrites state) :
    ReadsFollowWrites (state.record (.tag tag event)) := by
  refine follows.of_same ?_ ?_ rfl
  · simp [State.written, State.record, Event.wroteDelivery]
  · simp [State.reads, State.record, Event.readDelivery]

theorem publish {res : BitVec 32} {zoneLba : BitVec 64} (follows : ReadsFollowWrites state) :
    ReadsFollowWrites (publish config tag res zoneLba state) :=
  follows.of_same rfl rfl rfl

theorem setWorker {worker : Worker} (follows : ReadsFollowWrites state) :
    ReadsFollowWrites (state.setWorker tag worker) :=
  follows.of_same rfl rfl rfl

theorem commits {elems : List Elem} {held : Nat → Bool} {flusher : FlusherPc}
    (follows : ReadsFollowWrites state) :
    ReadsFollowWrites
      { state with flusher, held, history := state.history ++ elems.map (commitEvent config state) } := by
  refine follows.of_same ?_ ?_ rfl
  · simp [State.written, List.filterMap_append, List.filterMap_map, Function.comp_def, commitEvent,
      Event.wroteDelivery]
  · simp [State.reads, List.filterMap_append, List.filterMap_map, Function.comp_def, commitEvent,
      Event.readDelivery]

theorem move {action : Action} (ring : RingInStep config state.fetchRing)
    (follows : ReadsFollowWrites state)
    (moved : Move config state action after) : ReadsFollowWrites after := by
  obtain ⟨reader, writer, inStep⟩ := ring
  have before := follows
  rw [ReadsFollowWrites, State.written, State.reads] at before
  cases moved with
  | deliver _ _ delivered =>
      simp only [ReadsFollowWrites, State.written, State.reads, List.filterMap_append, before,
        (inStep.deliver delivered).2.2, List.append_assoc]
      simp [Event.wroteDelivery, Event.readDelivery]
  | fetchCb called =>
      simp only [ReadsFollowWrites, State.written, State.reads, List.filterMap_append, before,
        (inStep.fetchCb called).2.1]
      simp [Event.wroteDelivery, Event.readDelivery]
  | turn _ _ turn => exact follows.turn turn
  | handled _ _ turn => exact follows.record.publish.turn turn
  | handledRegistered => exact follows.record.setWorker.record
  | unregistered _ _ turn => exact follows.publish.turn turn
  | accepted => exact follows.commits
  | _ => exact follows.of_same rfl rfl rfl

theorem reachable {permits : State → Action → Prop}
    (reached : Reachable (batchIoQueue config) permits state) :
    ReadsFollowWrites state := by
  refine reached.invariant _ ?_ fun before follows _ taken =>
    follows.move (RingInStep.reachable before) (step_move taken)
  rw [ReadsFollowWrites]
  rfl

end ReadsFollowWrites

/-- A tag the driver owns is not in the ring. -/
theorem Owned.unseen_room (owned : Owned config state) (held : state.held tag = true) :
    state.fetchRing.unseen.length < config.queueDepth := by
  have bounded := owned.length_le (tag :: state.fetchRing.unseen) ?_
  · rw [List.length_cons] at bounded
    omega
  · intro other
    rw [List.count_cons]
    rw [owners]
    by_cases equal : tag = other
    · subst equal
      simp only [beq_self_eq_true, ↓reduceIte, held, Bool.toNat_true]
      omega
    · simp only [beq_iff_eq, equal, ↓reduceIte]
      omega

/-- The fetch ring stays in step with the driver and never runs dry: `fetch_cb`
has read a first part of what was written and reads the next delivery, from where
it was written and within the buffer; a consumed buffer goes back under its own id
into a ring with room; and a tag the driver owns can be delivered. -/
theorem fetch_ring_in_step
    (reached : Reachable (batchIoQueue config) (fun state action => ownedOnly state action = true) state) :
    state.written = state.reads ++ state.fetchRing.backlog ∧
    (∀ read next, state.fetchRing.fetchCb = some (read, next) →
      (∃ later, state.written = state.reads ++ read :: later) ∧
      (read.off + read.tags.length) * 2 ≤ config.fetchBufSize ∧
      ∀ completion ∈ state.fetchRing.completions.head?, completion.numBuffers ≠ 0 →
        (state.fetchRing.push read.bid).1 = read.bid ∧ state.fetchRing.ring.length < 2) ∧
    (∀ tag, state.held tag = true →
      (state.fetchRing.deliver config.fetchBufTags [tag]).isSome = true) := by
  obtain ⟨reader, writer, inStep⟩ := RingInStep.reachable reached
  have follows := ReadsFollowWrites.reachable reached
  have capacity := config.fetchBufTags_spec
  refine ⟨follows, fun read next called => ?_, fun tag held => ?_⟩
  · obtain ⟨_, backlog, within, consumed⟩ := inStep.fetchCb called
    refine ⟨⟨next.backlog, ?_⟩, by omega, consumed⟩
    rw [follows, backlog]
  · have owned := Owned.reachable (fun allowed => allowed) reached
    have few := owned.unseen_room held
    obtain ⟨pushed, room⟩ := inStep.room (by omega)
    cases ring : state.fetchRing.ring with
    | nil => exact absurd ring pushed
    | cons head rest =>
        have fits : state.fetchRing.pos + 1 ≤ config.fetchBufTags := room
        simp [FetchRing.deliver, ring, room, fits]

theorem fetch_ring_in_step_twoTags :
    ∃ state, Reachable (batchIoQueue twoTags) (fun state action => ownedOnly state action = true) state ∧
      state.reads.length = 2 ∧ state.written = state.reads ++ state.fetchRing.backlog := by
  obtain ⟨state, reached, read⟩ :=
    exists_of_replay (batchIoQueue twoTags) (fun state action => ownedOnly state action = true)
      twoTagsFlipped (fun state => state.reads.length = 2) (by decide +kernel)
  exact ⟨state, reached, read, (fetch_ring_in_step reached).1⟩

end Ublk.Queue.Batch
