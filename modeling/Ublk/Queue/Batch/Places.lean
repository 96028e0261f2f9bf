import Ublk.Queue.Batch.Ownership

namespace Ublk.Queue.Batch

open Ublk.Data Ublk.Machine

variable {config : Config} {state after : State} {tag : Nat}

/-! # The place of a tag

`owners` counts; a `Place` says where. A count of at most one means at most one
place, and a count of one exactly one.
-/

inductive Place where
  | driver
  | ring
  | flagged
  | processing
  | pendingSlot (slot : Nat)
  | commitSlot (slot : Nat)
deriving DecidableEq, Repr

def At (config : Config) (state : State) (tag : Nat) : Place → Prop
  | .driver => state.held tag = true
  | .ring => tag ∈ state.fetchRing.unseen
  | .flagged => (state.workers tag).flag = true
  | .processing => (state.workers tag).processing = true
  | .pendingSlot slot =>
      slot < state.pending ∧ (elemAt config state.memory state.index slot).tag = tag
  | .commitSlot slot => ∃ index nr, state.flusher = .committing index nr ∧ slot < nr ∧
      (elemAt config state.memory index slot).tag = tag

/-- The summand of `owners` for a place; all slots of a buffer share one. -/
def tally (config : Config) (state : State) (tag : Nat) : Place → Nat
  | .driver => (state.held tag).toNat
  | .ring => state.fetchRing.unseen.count tag
  | .flagged => (state.workers tag).flag.toNat
  | .processing => (state.workers tag).processing.toNat
  | .pendingSlot _ => (pendingTags config state).count tag
  | .commitSlot _ => (commitTags config state).count tag

theorem mem_bufferTags {memory : Memory} {index count : Nat} :
    tag ∈ bufferTags config memory index count ↔
      ∃ slot < count, (elemAt config memory index slot).tag = tag := by
  simp [bufferTags, acceptedElems]

theorem mem_commitTags :
    tag ∈ commitTags config state ↔ ∃ slot, At config state tag (.commitSlot slot) := by
  simp only [commitTags, At]
  cases flusher : state.flusher with
  | committing index nr => simp [mem_bufferTags]
  | _ => simp

theorem At.tally_pos {place : Place} (here : At config state tag place) :
    0 < tally config state tag place := by
  have positive {value : Bool} (holds : value = true) : 0 < value.toNat := by simp [holds]
  cases place with
  | driver => exact positive here
  | ring => exact List.count_pos_iff.mpr here
  | flagged => exact positive here
  | processing => exact positive here
  | pendingSlot slot => exact List.count_pos_iff.mpr (mem_bufferTags.mpr ⟨slot, here⟩)
  | commitSlot slot => exact List.count_pos_iff.mpr (mem_commitTags.mpr ⟨slot, here⟩)

theorem owners_eq_tally (first second : Nat) :
    owners config state tag = tally config state tag .driver + tally config state tag .ring +
      tally config state tag .flagged + tally config state tag .processing +
      tally config state tag (.pendingSlot first) + tally config state tag (.commitSlot second) := rfl

theorem Owned.place_unique {first second : Place} (owned : Owned config state)
    (here : At config state tag first) (there : At config state tag second) : first = second := by
  have most := owned.le_one tag
  have firstPos := here.tally_pos
  have secondPos := there.tally_pos
  rw [owners_eq_tally 0 0] at most
  cases first with
  | pendingSlot slot =>
      cases second with
      | pendingSlot other =>
          have once : (pendingTags config state).count tag ≤ 1 := by
            simp only [tally] at most; omega
          rw [pendingTags, bufferTags, acceptedElems, List.map_map] at once
          exact congrArg _ (index_unique once here.1 there.1 here.2 there.2)
      | _ => simp only [tally] at most firstPos secondPos; omega
  | commitSlot slot =>
      cases second with
      | commitSlot other =>
          obtain ⟨index, nr, flight, inside, same⟩ := here
          obtain ⟨_, _, again, otherInside, otherSame⟩ := there
          cases flight.symm.trans again
          have once : (bufferTags config state.memory index nr).count tag ≤ 1 := by
            simp only [tally, commitTags, flight] at most
            omega
          rw [bufferTags, acceptedElems, List.map_map] at once
          exact congrArg _ (index_unique once inside otherInside same otherSame)
      | _ => simp only [tally] at most firstPos secondPos; omega
  | _ =>
      cases second <;> first | rfl | (simp only [tally] at most firstPos secondPos; omega)

theorem place_exists (owned : owners config state tag = 1) :
    ∃ place, At config state tag place := by
  rw [owners_eq_tally 0 0] at owned
  simp only [tally] at owned
  by_cases driver : state.held tag = true
  · exact ⟨.driver, driver⟩
  by_cases ring : tag ∈ state.fetchRing.unseen
  · exact ⟨.ring, ring⟩
  by_cases flagged : (state.workers tag).flag = true
  · exact ⟨.flagged, flagged⟩
  by_cases processing : (state.workers tag).processing = true
  · exact ⟨.processing, processing⟩
  by_cases pending : tag ∈ pendingTags config state
  · obtain ⟨slot, inside⟩ := mem_bufferTags.mp pending
    exact ⟨.pendingSlot slot, inside⟩
  have commit : 0 < (commitTags config state).count tag := by
    have unseen := List.count_eq_zero.mpr ring
    have unfilled := List.count_eq_zero.mpr pending
    simp only [Bool.not_eq_true] at driver flagged processing
    simp only [driver, flagged, processing, Bool.toNat_false] at owned
    omega
  obtain ⟨slot, inside⟩ := mem_commitTags.mp (List.count_pos_iff.mp commit)
  exact ⟨.commitSlot slot, inside⟩

end Ublk.Queue.Batch
