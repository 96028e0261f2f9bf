import Ublk.Queue.Plain

namespace Ublk.Queue.Plain

/-! # What a step of a plain worker can do

The steps of `IoQueue::worker_` with their guards. A fetching command that comes back
either delivers a request or ends the worker, and both kinds of commit are one.
-/

variable {config : Config} {tag : Nat} {state after : State}

/-- A fetching command is in flight. -/
def Pc.fetches : Pc → Bool
  | .fetching _ => true
  | .gettingData _ => true
  | _ => false

inductive Move (config : Config) (tag : Nat) (state : State) : Action → State → Prop where
  | fetch (pc : state.pc = .start) : Move config tag state .run (fetch config tag state)
  | needGetData {command : FetchCommand} {reply : Reply} {iod : IoDesc} (pc : state.pc = .fetching command)
      (asks : reply.result = ublkIoResNeedGetData) :
      Move config tag state (.answered reply iod) (needGetData config tag command { state with iod })
  | refused {reply : Reply} {iod : IoDesc} {err : Option QueueError} (pc : state.pc.fetches = true)
      (negative : reply.result < 0) : Move config tag state (.answered reply iod) { state with iod, pc := .ended err }
  | delivered {reply : Reply} {iod : IoDesc} (pc : state.pc.fetches = true) (delivers : 0 ≤ reply.result) :
      Move config tag state (.answered reply iod)
        ⟨.serving (needIoBuf config.flags iod.opFlags), iod, state.history ++ [.delivered iod]⟩
  | register (pc : state.pc = .serving true) :
      Move config tag state .run { state.record (.registerIoBuf (ioBufCmd config.qId tag tag)) with pc := .registering }
  | begin (pc : state.pc = .serving false) : Move config tag state .run { state with pc := .handling false }
  | registered (pc : state.pc = .registering) :
      Move config tag state (.registered .ok) { state with pc := .handling true }
  | handled {ioBuf : Bool} {outcome : IoOutcome} (pc : state.pc = .handling ioBuf) :
      Move config tag state (.handled outcome)
        { state.record (.handleIo ⟨config.qId, tag, state.iod, config.getBuf tag⟩ outcome) with
          pc := .handled ioBuf (wrapHandleIo outcome).1 (wrapHandleIo outcome).2 }
  | unregister {res : BitVec 32} {zoneLba : BitVec 64} (pc : state.pc = .handled true res zoneLba) :
      Move config tag state .run
        { state.record (.unregisterIoBuf (ioBufCmd config.qId tag tag)) with pc := .unregistering res zoneLba }
  | commit {action : Action} {res : BitVec 32} {zoneLba : BitVec 64}
      (pc : state.pc = .handled false res zoneLba ∨ state.pc = .unregistering res zoneLba)
      (goesOn : ∀ outcome, action ≠ .handled outcome) :
      Move config tag state action (commitAndFetch config tag res zoneLba state)
  | failed {action : Action} {err : QueueError}
      (pc : state.pc = .registering ∨ ∃ res zoneLba, state.pc = .unregistering res zoneLba)
      (fails : ∀ outcome, action ≠ .handled outcome) :
      Move config tag state action { state with pc := .ended (some err) }

theorem fetched_move {command : FetchCommand} {reply : Reply} {iod : IoDesc} (pc : state.pc.fetches = true) :
    Move config tag state (.answered reply iod) (fetched config command reply.result { state with iod }) := by
  simp only [fetched]
  split
  · rename_i aborted
    exact .refused pc (by rw [aborted]; decide)
  · split
    · rename_i negative
      exact .refused pc negative
    · rename_i delivers
      exact .delivered pc (by omega)

theorem step_move {action : Action} (taken : step config tag state action = some after) :
    Move config tag state action after := by
  cases action with
  | run =>
      simp only [step, run] at taken
      split at taken
      · rename_i pc
        cases taken
        exact .fetch pc
      · rename_i pc
        cases taken
        exact .register pc
      · rename_i pc
        cases taken
        exact .begin pc
      · rename_i pc
        cases taken
        exact .unregister pc
      · rename_i pc
        cases taken
        exact .commit (.inl pc) (by simp)
      · contradiction
  | answered reply iod =>
      simp only [step, answered] at taken
      split at taken
      · rename_i command pc
        split at taken
        · rename_i asks
          cases taken
          exact .needGetData pc asks
        · cases taken
          exact fetched_move (by rw [pc]; rfl)
      · rename_i command pc
        cases taken
        exact fetched_move (by rw [pc]; rfl)
      · contradiction
  | registered answer =>
      simp only [step, registered] at taken
      split at taken
      · rename_i pc
        cases taken
        exact .registered pc
      · rename_i pc
        cases taken
        exact .failed (.inl pc) (by simp)
      · contradiction
  | handled outcome =>
      simp only [step, handled] at taken
      split at taken
      · rename_i pc
        cases taken
        exact .handled pc
      · contradiction
  | unregistered answer =>
      simp only [step, unregistered] at taken
      split at taken
      · rename_i pc
        cases taken
        exact .commit (.inr pc) (by simp)
      · rename_i pc
        cases taken
        exact .failed (.inr ⟨_, _, pc⟩) (by simp)
      · contradiction

end Ublk.Queue.Plain
