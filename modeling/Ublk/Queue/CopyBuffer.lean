import Ublk.Queue.Plain

namespace Ublk.Queue

open Ublk.Machine

/-! # The buffer the driver copies through

A device whose driver copies data itself needs an address for each tag, and the
handler works on that buffer. Who allocates, who sends and who hands out the address
is decided by different predicates of the flags word.
-/

/-- The driver copies unless the server takes care of the data in one of three ways. -/
def driverCopies (flags : BitVec 64) : Bool :=
  !hasFlag flags ublkFSupportZeroCopy && !hasFlag flags ublkFUserCopy && !hasFlag flags ublkFAutoBufReg

/-- Automatic registration without one of the two flags that `need_alloc_buf` looks at. -/
def autoBufRegAlone (flags : BitVec 64) : Bool :=
  hasFlag flags ublkFAutoBufReg && !hasFlag flags ublkFSupportZeroCopy && !hasFlag flags ublkFUserCopy

theorem hasFlag_or (word first second : BitVec 64) :
    hasFlag word (first ||| second) = (hasFlag word first || hasFlag word second) := by
  have split : word &&& (first ||| second) = (word &&& first) ||| (word &&& second) := by
    apply BitVec.eq_of_getLsbD_eq
    intro bit inside
    simp [Bool.and_or_distrib_left]
  rw [Bool.eq_iff_iff]
  simp only [hasFlag, split, bne_iff_ne, ne_eq, Bool.or_eq_true, BitVec.or_eq_zero_iff]
  tauto

theorem needAllocBuf_eq (flags : BitVec 64) :
    needAllocBuf flags = (driverCopies flags || autoBufRegAlone flags) := by
  rw [needAllocBuf, driverCopies, autoBufRegAlone]
  rw [hasFlag_or]
  cases hasFlag flags ublkFSupportZeroCopy <;> cases hasFlag flags ublkFUserCopy <;>
    cases hasFlag flags ublkFAutoBufReg <;> rfl

theorem not_driverCopies {flags : BitVec 64} (alone : autoBufRegAlone flags = true) :
    driverCopies flags = false := by
  simp only [autoBufRegAlone, Bool.and_eq_true] at alone
  simp [driverCopies, alone.1.1]

theorem Config.needFBufAddr_eq (config : Config) : config.needFBufAddr = driverCopies config.flags := by
  rw [Config.needFBufAddr, needAllocBuf, driverCopies]
  rw [hasFlag_or]
  cases hasFlag config.flags ublkFSupportZeroCopy <;> cases hasFlag config.flags ublkFUserCopy <;>
    cases hasFlag config.flags ublkFAutoBufReg <;> rfl

/-- The allocator returns live buffers: not null, and no two at one address. -/
structure Allocated (config : Config) : Prop where
  nonnull : ∀ tag < config.queueDepth, config.bufBases tag ≠ 0
  apart : ∀ tag < config.queueDepth, ∀ other < config.queueDepth,
    config.bufBases tag = config.bufBases other → tag = other

/-- `given` are the addresses the driver has for a tag, where `none` is a command without
one, and `handed` the buffers of its requests. -/
structure SameBuffer (flags : BitVec 64) (given : Nat → Option (BitVec 64) → Prop)
    (handed : Nat → BitVec 64 → Prop) : Prop where
  exists_given : ∀ {tag buf}, handed tag buf → ∃ addr, given tag addr
  same : ∀ {tag buf addr}, handed tag buf → given tag addr → addr = if buf = 0 then none else some buf
  apart : ∀ {tag other buf addr}, handed tag buf → given other addr → other ≠ tag → buf ≠ 0 → addr ≠ some buf
  copies : ∀ {tag addr}, given tag addr → (addr ≠ none ↔ driverCopies flags = true)

variable {config : Config} {tag : Nat}

theorem getBuf_eq (inside : tag < config.queueDepth) :
    config.getBuf tag = if needAllocBuf config.flags then config.bufBases tag else 0 := by
  have some : (config.queueDepth != 0) = true := by
    rw [bne_iff_ne]
    omega
  rw [Config.getBuf, some, Bool.and_true]

theorem getBuf_eq_zero (allocated : Allocated config) (inside : tag < config.queueDepth) :
    config.getBuf tag = 0 ↔ needAllocBuf config.flags = false := by
  rw [getBuf_eq inside]
  cases needAllocBuf config.flags with
  | false => simp
  | true => simpa using allocated.nonnull tag inside

/-- The address of the buffer, as it is sent where one is sent for every buffer. -/
theorem getBuf_sent (allocated : Allocated config) (inside : tag < config.queueDepth) :
    (if config.getBuf tag = 0 then none else some (config.getBuf tag)) =
      if needAllocBuf config.flags then some (config.bufBases tag) else none := by
  have null := getBuf_eq_zero allocated inside
  cases alloc : needAllocBuf config.flags with
  | false => simp [null.mpr alloc]
  | true =>
      have nonnull : config.getBuf tag ≠ 0 := fun zero => by simp [null.mp zero] at alloc
      rw [if_neg nonnull, getBuf_eq inside, alloc]
      rfl

theorem getBuf_alone (allocated : Allocated config) (alone : autoBufRegAlone config.flags = true)
    (inside : tag < config.queueDepth) : config.getBuf tag ≠ 0 := by
  rw [ne_eq, getBuf_eq_zero allocated inside, needAllocBuf_eq, alone]
  simp

/-- The rule for both queues: what is sent and what is handed out is the buffer of
`get_buf_`, where an address is sent for every buffer. -/
theorem SameBuffer.of_getBuf {given : Nat → Option (BitVec 64) → Prop} {handed : Nat → BitVec 64 → Prop}
    (allocated : Allocated config) (alone : autoBufRegAlone config.flags = false)
    (exists_given : ∀ {tag buf}, handed tag buf → ∃ addr, given tag addr)
    (handed_eq : ∀ {tag buf}, handed tag buf → tag < config.queueDepth ∧ buf = config.getBuf tag)
    (given_eq : ∀ {tag addr}, given tag addr → tag < config.queueDepth ∧
      addr = if config.getBuf tag = 0 then none else some (config.getBuf tag)) :
    SameBuffer config.flags given handed where
  exists_given := exists_given
  same := by
    intro tag buf addr hands gives
    rw [(handed_eq hands).2, (given_eq gives).2]
  apart := by
    intro tag other buf addr hands gives different nonnull same
    obtain ⟨inside, rfl⟩ := handed_eq hands
    obtain ⟨otherInside, rfl⟩ := given_eq gives
    have needed : needAllocBuf config.flags = true := by
      rw [ne_eq, getBuf_eq_zero allocated inside, Bool.not_eq_false] at nonnull
      exact nonnull
    rw [getBuf_eq inside, getBuf_eq otherInside, if_pos needed, if_pos needed] at same
    split at same
    · contradiction
    · exact different (allocated.apart other otherInside tag inside (Option.some.inj same))
  copies := by
    intro tag addr gives
    obtain ⟨inside, rfl⟩ := given_eq gives
    have copies : needAllocBuf config.flags = driverCopies config.flags := by
      rw [needAllocBuf_eq, alone, Bool.or_false]
    rw [getBuf_sent allocated inside, ← copies]
    cases needAllocBuf config.flags <;> simp

theorem SameBuffer.of_empty {given : Nat → Option (BitVec 64) → Prop} {handed : Nat → BitVec 64 → Prop}
    (empty : config.queueDepth = 0) (given_inside : ∀ {tag addr}, given tag addr → tag < config.queueDepth)
    (handed_inside : ∀ {tag buf}, handed tag buf → tag < config.queueDepth) :
    SameBuffer config.flags given handed where
  exists_given := fun hands => absurd (handed_inside hands) (by omega)
  same := fun hands => absurd (handed_inside hands) (by omega)
  apart := fun hands => absurd (handed_inside hands) (by omega)
  copies := fun gives => absurd (given_inside gives) (by omega)

/-! ## The plain queue -/

namespace Plain

/-- The address that a command gives the driver for the tag, where 0 is none. -/
def Event.given : Event → Option (Option (BitVec 64))
  | .fetchReq cmd => some (if cmd.addr = 0 then none else some cmd.addr)
  | .commitAndFetchReq iod cmd =>
      if ublksrvGetOp iod = ublkIoOpZoneAppend then none
      else some (if cmd.addr = 0 then none else some cmd.addr)
  | _ => none

def Event.handed : Event → Option (BitVec 64)
  | .handleIo data _ => some data.buf
  | _ => none

/-- The workers of a queue share nothing, so a run of the queue is a run of each. -/
def Family (config : Config) (states : Nat → State) : Prop :=
  ∀ tag, Reachable (ioQueueWorker config tag) (fun _ _ => True) (states tag)

def given (config : Config) (states : Nat → State) (tag : Nat) (addr : Option (BitVec 64)) : Prop :=
  tag < config.queueDepth ∧ ∃ event ∈ (states tag).history, event.given = some addr

def handed (config : Config) (states : Nat → State) (tag : Nat) (buf : BitVec 64) : Prop :=
  tag < config.queueDepth ∧ ∃ event ∈ (states tag).history, event.handed = some buf

/-- Every address in an event of the worker is that of `get_buf_`. -/
def OwnBuffer (config : Config) (tag : Nat) (event : Event) : Prop :=
  (∀ addr, event.given = some addr → addr = if config.getBuf tag = 0 then none else some (config.getBuf tag)) ∧
    ∀ buf, event.handed = some buf → buf = config.getBuf tag

/-- The first command is a fetch. -/
def Fetched (state : State) : Prop :=
  (state.pc = .start ∧ state.history = []) ∨ ∃ event ∈ state.history, ∃ addr, event.given = some addr

variable {before after state : State} {action : Action}

theorem fetched_history (command : FetchCommand) (r : Int) (state : State) :
    (fetched config command r state).history = state.history ∨
      (fetched config command r state).history = state.history ++ [.delivered state.iod] := by
  rw [fetched]
  split
  · exact .inl rfl
  · split
    · exact .inl rfl
    · exact .inr rfl

theorem OwnBuffer.other {event : Event} (gives : event.given = none) (hands : event.handed = none) :
    OwnBuffer config tag event :=
  ⟨by simp [gives], by simp [hands]⟩

theorem OwnBuffer.commit (iod : IoDesc) (res : BitVec 32) (zoneLba : BitVec 64) :
    OwnBuffer config tag (.commitAndFetchReq iod
      { qId := config.qId
        tag
        result := res
        addr := if ublksrvGetOp iod = ublkIoOpZoneAppend then zoneLba else config.getBuf tag
        sqeAddr := sqeAddr config tag }) := by
  refine ⟨fun addr gives => ?_, by simp [Event.handed]⟩
  by_cases append : ublksrvGetOp iod = ublkIoOpZoneAppend
  · simp [Event.given, append] at gives
  · simpa [Event.given, append, eq_comm] using gives

theorem fetched_ownBuffer {history : List Event} {iod : IoDesc} (later : before.pc ≠ .start)
    (recorded : history = before.history ∨ history = before.history ++ [.delivered iod]) :
    ∃ events, history = before.history ++ events ∧ (∀ event ∈ events, OwnBuffer config tag event) ∧
      (before.pc = .start → ∃ event ∈ events, ∃ addr, event.given = some addr) := by
  rcases recorded with same | delivered
  · exact ⟨[], by simp [same], by simp, fun start => absurd start later⟩
  · exact ⟨[_], delivered, by simpa using OwnBuffer.other rfl rfl, fun start => absurd start later⟩

/-- What a step adds to the history, and that it takes the worker away from its start. -/
theorem step_ownBuffer (taken : step config tag before action = some after) :
    ∃ events, after.history = before.history ++ events ∧ (∀ event ∈ events, OwnBuffer config tag event) ∧
      (before.pc = .start → ∃ event ∈ events, ∃ addr, event.given = some addr) := by
  cases action with
  | run =>
      simp only [step, run] at taken
      split at taken
      · cases taken
        refine ⟨[_], rfl, ?_, fun _ => ⟨_, List.mem_singleton_self _, _, rfl⟩⟩
        simp [OwnBuffer, Event.given, Event.handed]
      · rename_i pc
        cases taken
        exact ⟨[_], rfl, by simpa using OwnBuffer.other rfl rfl, by simp [pc]⟩
      · rename_i pc
        cases taken
        exact ⟨[], by simp, by simp, by simp [pc]⟩
      · rename_i pc
        cases taken
        exact ⟨[_], rfl, by simpa using OwnBuffer.other rfl rfl, by simp [pc]⟩
      · rename_i res zoneLba pc
        cases taken
        exact ⟨[_], rfl, by simpa using OwnBuffer.commit before.iod res zoneLba, by simp [pc]⟩
      · contradiction
  | answered reply iod =>
      simp only [step, answered] at taken
      split at taken
      · rename_i command pc
        split at taken
        · cases taken
          exact ⟨[_], rfl, by simpa using OwnBuffer.other rfl rfl, by simp [pc]⟩
        · cases taken
          refine fetched_ownBuffer (fun start => ?_) (fetched_history command reply.result { before with iod })
          simp [pc] at start
      · rename_i command pc
        cases taken
        refine fetched_ownBuffer (fun start => ?_) (fetched_history command reply.result { before with iod })
        simp [pc] at start
      · contradiction
  | registered answer =>
      simp only [step, registered] at taken
      split at taken
      · rename_i pc
        cases taken
        exact ⟨[], by simp, by simp, by simp [pc]⟩
      · rename_i pc
        cases taken
        exact ⟨[], by simp, by simp, by simp [pc]⟩
      · contradiction
  | handled outcome =>
      simp only [step, handled] at taken
      split at taken
      · rename_i ioBuf pc
        cases taken
        refine ⟨[_], rfl, ?_, by simp [pc]⟩
        simp [OwnBuffer, Event.given, Event.handed]
      · contradiction
  | unregistered answer =>
      simp only [step, unregistered] at taken
      split at taken
      · rename_i res zoneLba pc
        cases taken
        exact ⟨[_], rfl, by simpa using OwnBuffer.commit before.iod res zoneLba, by simp [pc]⟩
      · rename_i pc
        cases taken
        exact ⟨[], by simp, by simp, by simp [pc]⟩
      · contradiction

theorem ownBuffer_reachable {permits : State → Action → Prop}
    (reached : Reachable (ioQueueWorker config tag) permits state) :
    ∀ event ∈ state.history, OwnBuffer config tag event := by
  refine reached.recorded State.history (OwnBuffer config tag) rfl fun taken => ?_
  obtain ⟨events, recorded, added, _⟩ := step_ownBuffer taken
  exact ⟨events, recorded, added⟩

theorem fetched_reachable {permits : State → Action → Prop}
    (reached : Reachable (ioQueueWorker config tag) permits state) : Fetched state := by
  refine reached.invariant Fetched (.inl ⟨rfl, rfl⟩) fun _ fetched _ taken => ?_
  obtain ⟨events, recorded, _, first⟩ := step_ownBuffer taken
  right
  rw [recorded]
  rcases fetched with ⟨pc, _⟩ | ⟨event, member, gives⟩
  · obtain ⟨event, member, gives⟩ := first pc
    exact ⟨event, List.mem_append_right _ member, gives⟩
  · exact ⟨event, List.mem_append_left _ member, gives⟩

theorem sameBuffer (allocated : Allocated config) (alone : autoBufRegAlone config.flags = false)
    {states : Nat → State} (family : Family config states) :
    SameBuffer config.flags (given config states) (handed config states) := by
  apply SameBuffer.of_getBuf allocated alone
  · rintro tag buf ⟨inside, event, member, _⟩
    rcases fetched_reachable (family tag) with ⟨_, empty⟩ | ⟨first, known, addr, gives⟩
    · rw [empty] at member
      cases member
    · exact ⟨addr, inside, first, known, gives⟩
  · rintro tag buf ⟨inside, event, member, hands⟩
    exact ⟨inside, (ownBuffer_reachable (family tag) event member).2 buf hands⟩
  · rintro tag addr ⟨inside, event, member, gives⟩
    exact ⟨inside, (ownBuffer_reachable (family tag) event member).1 addr gives⟩

/-- Alone, automatic registration does not keep an address from being sent. -/
theorem given_alone (allocated : Allocated config) (alone : autoBufRegAlone config.flags = true)
    (deep : 0 < config.queueDepth) :
    ∃ states, Family config states ∧ ¬ SameBuffer config.flags (given config states) (handed config states) := by
  have first (tag : Nat) : (ioQueueWorker config tag).step (ioQueueWorker config tag).initial .run =
      some (fetch config tag initial) := rfl
  refine ⟨fun tag => fetch config tag initial, fun tag => .next .initial trivial (first tag), fun same => ?_⟩
  have nonnull : config.getBuf 0 ≠ 0 := getBuf_alone allocated alone deep
  have gives : given config (fun tag => fetch config tag initial) 0 (some (config.getBuf 0)) :=
    ⟨deep, _, List.mem_singleton_self _, congrArg _ (if_neg nonnull)⟩
  have copies : driverCopies config.flags = true := (same.copies gives).mp (by simp)
  simp [not_driverCopies alone] at copies

end Plain

end Ublk.Queue
