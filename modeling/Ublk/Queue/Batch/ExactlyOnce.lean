import Ublk.Queue.Batch.Phases

namespace Ublk.Queue.Batch

open Ublk.Data Ublk.Machine

variable {config : Config} {state after : State} {tag : Nat}

/-! # Ownership and exactly-once commit

While the driver refuses nothing, every tag is at exactly one place, filled slots
and buffers in flight are left alone, and each request is handled and committed
once, with its own result.
-/

/-- Memory changes only where a busy worker fills the next free slot. -/
theorem Move.memory {action : Action} (moved : Move config state action after) :
    after.memory = state.memory ∨
      ∃ tag iod res zoneLba, (state.workers tag).processing = true ∧
        after.memory = writeSlot config state.memory state.index state.pending tag iod res zoneLba := by
  cases moved with
  | turn _ _ turn => exact .inl turn.frame.memory
  | handled _ pc turn => exact .inr ⟨_, _, _, _, by simp [Worker.processing, pc], turn.frame.memory⟩
  | unregistered _ pc turn =>
      exact .inr ⟨_, _, _, _, by simp [Worker.processing, pc], turn.frame.memory⟩
  | _ => exact .inl rfl

/-- No step overwrites a slot that waits for its `COMMIT`. -/
theorem Move.filled_untouched {action : Action} (moved : Move config state action after)
    {byte : Nat}
    (high : byte < config.commitBuf state.index + state.pending * config.commitElementSize) :
    after.memory byte = state.memory byte := by
  rcases moved.memory with same | ⟨tag, iod, res, zoneLba, _, written⟩
  · rw [same]
  · rw [written]
    exact writeSlot_outside (.inl high)

/-- No step writes into the buffer of a `COMMIT` in flight. -/
theorem Move.flight_untouched {action : Action} (owned : Owned config state)
    (moved : Move config state action after) {index nr byte : Nat}
    (flight : state.flusher = .committing index nr)
    (low : config.commitBuf index ≤ byte)
    (high : byte < config.commitBuf index + config.commitBufSize) :
    after.memory byte = state.memory byte := by
  rcases moved.memory with same | ⟨tag, iod, res, zoneLba, busy, written⟩
  · rw [same]
  · rw [written]
    exact owned.publish_untouched busy flight low high

theorem Owned.unseen_nodup (owned : Owned config state) : state.fetchRing.unseen.Nodup := by
  apply List.nodup_iff_count_le_one.mpr
  intro tag
  have most := owned.le_one tag
  rw [owners] at most
  omega

/-- Tag ownership and exactly-once commit, before the fetch ends: each tag has one
place; slots waiting for their `COMMIT` and the buffer of a `COMMIT` in flight are
not written; and the requests of each tag run through their phases in order, those
of a tag the driver holds to the end. -/
theorem tag_ownership
    (reached : Reachable (batchIoQueue config) (fun state action => ownedOnly state action = true ∧
      refusesNothing state action = true ∧ fetchGoesOn action = true) state) :
    (∀ tag < config.queueDepth, ∃! place, At config state tag place) ∧
    state.fetchRing.unseen.Nodup ∧ state.pending ≤ config.queueDepth ∧
    (∀ action after, step config state action = some after →
      (∀ byte, config.commitBuf state.index ≤ byte →
        byte < config.commitBuf state.index + state.pending * config.commitElementSize →
        after.memory byte = state.memory byte) ∧
      ∀ index nr, state.flusher = .committing index nr → index ≠ state.index ∧
        ∀ byte, config.commitBuf index ≤ byte → byte < config.commitBuf index + config.commitBufSize →
          after.memory byte = state.memory byte) ∧
    ∀ tag, phase config tag state.history ≠ .broken ∧
      (state.held tag = true → phase config tag state.history = .idle) := by
  have owned : Owned config state := Owned.reachable (fun allowed => allowed.1) reached
  have phases : Phases config state := Phases.reachable (fun allowed => allowed.1) reached
  refine ⟨fun tag inside => ?_, owned.unseen_nodup, owned.pending_le, fun action after taken => ?_,
    fun tag => ?_⟩
  · have one : owners config state tag = 1 := by
      rw [owners_reachable (fun allowed => ⟨allowed.1, allowed.2.1⟩) reached tag, share,
        if_pos inside]
    obtain ⟨place, here⟩ := place_exists one
    exact ⟨place, here, fun other there => owned.place_unique there here⟩
  · have moved := step_move taken
    refine ⟨fun byte _ high => moved.filled_untouched high,
      fun index nr flight => ⟨?_, fun byte low high => ?_⟩⟩
    · have other := (owned.committing index nr flight).1
      have bound := owned.index
      omega
    · exact moved.flight_untouched owned flight low high
  · exact ⟨phases.ordered tag, fun held => phases.fits tag .driver held⟩

/-- Two results in the second half of the commit buffer, the first of them in front of that
of a tag that has been committed before. -/
theorem tag_ownership_twoTags :
    ∃ state, Reachable (batchIoQueue twoTags) (fun state action => ownedOnly state action = true ∧
        refusesNothing state action = true ∧ fetchGoesOn action = true) state ∧
      (state.index = 1 ∧ state.pending = 2) ∧ ∀ tag < 2, ∃! place, At twoTags state tag place := by
  obtain ⟨state, reached, filled⟩ :=
    exists_of_replay (batchIoQueue twoTags)
      (fun state action => ownedOnly state action = true ∧ refusesNothing state action = true ∧
        fetchGoesOn action = true)
      twoTagsFlipped (fun state => state.index = 1 ∧ state.pending = 2) (by decide +kernel)
  exact ⟨state, reached, filled, (tag_ownership reached).1⟩

end Ublk.Queue.Batch
