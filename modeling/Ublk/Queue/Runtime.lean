import Ublk.Machine.Run
import Ublk.Queue.Config
import Mathlib.Logic.Function.Basic

namespace Ublk.Queue.Runtime

open Ublk.Machine

/-! # Queues on one `condy::Runtime`

`io_run_dev_t` puts the device into slot 0 of the Runtime's file table and takes it
out at the end; it probes the last slot it needs of the buffer table, and the requests
use the slots by tag. Both tables belong to the Runtime, and any number of queues may
run on it. A queue is here what it does with the tables.
-/

/-- The part of `ublksrv_ctrl_dev_info` that is read, and the other arguments. -/
structure Args where
  ublkcFd : Nat
  qId : Nat
  nrHwQueues : Nat
  flags : BitVec 64
  queueDepth : Nat
deriving DecidableEq

/-- A running call of `run_dev`: `fixed` is whether the file table took the device
(`r >= 0`), and `inUse` are the tags whose slot holds the buffer of a request. -/
structure Instance where
  args : Args
  fixed : Bool
  inUse : Nat → Bool

/-- A command of the queue `id` on the device `own`, with the file it goes to. -/
structure Issued where
  id : Nat
  own : Nat
  resolved : Option Nat
deriving DecidableEq

/-- `bufferTable` has the queue whose request is in a slot. -/
structure State where
  fdTable : Nat → Option Nat
  bufferTable : Nat → Option Nat
  started : Nat
  running : Nat → Option Instance
  issued : List Issued

inductive StartError where
  | outOfRange (what : String)
  | runtimeError (what : String)
deriving DecidableEq

/-- A table of the Runtime has a size, and an update outside of it fails. -/
def update {Slot : Type} (size : Nat) (table : Nat → Option Slot) (index : Int) (slot : Option Slot) :
    Option (Nat → Option Slot) :=
  if 0 ≤ index ∧ index < size then some (Function.update table index.toNat slot) else none

def ublkcFdSlot : Int := 0

def usesBuffers (flags : BitVec 64) : Bool := hasFlag flags (ublkFSupportZeroCopy ||| ublkFAutoBufReg)

structure Sizes where
  nrFiles : Nat
  nrBuffers : Nat

variable (sizes : Sizes)

/-- The check of the buffer table leaves its last slot empty. -/
def probe (args : Args) (bufferTable : Nat → Option Nat) : Except StartError (Nat → Option Nat) :=
  if usesBuffers args.flags then
    match update sizes.nrBuffers bufferTable ((args.queueDepth : Int) - 1) none with
    | some bufferTable => .ok bufferTable
    | none => .error (.runtimeError "Buffer table too small, need nr_buffers >= queue_depth")
  else .ok bufferTable

/-- `io_run_dev_t::invoke` up to the queue's own `run`. -/
def invoke (args : Args) (state : State) : Except StartError State :=
  if args.nrHwQueues ≤ args.qId then .error (.outOfRange "q_id out of range")
  else
    match probe sizes args state.bufferTable with
    | .error err => .error err
    | .ok bufferTable =>
        let updated := update sizes.nrFiles state.fdTable ublkcFdSlot (some args.ublkcFd)
        .ok { state with
          bufferTable
          fdTable := updated.getD state.fdTable
          started := state.started + 1
          running := Function.update state.running state.started
            (some { args, fixed := updated.isSome, inUse := fun _ => false }) }

/-- Where a command of the queue goes: `condy::fixed(0)`, or the descriptor itself. -/
def Instance.resolve (queue : Instance) (fdTable : Nat → Option Nat) : Option Nat :=
  if queue.fixed then fdTable ublkcFdSlot.toNat else some queue.args.ublkcFd

inductive Action where
  | start (args : Args)
  | issue (id : Nat)
  | register (id tag : Nat)
  | unregister (id tag : Nat)
  | finish (id : Nat)

def State.setRunning (state : State) (id : Nat) (queue : Option Instance) : State :=
  { state with running := Function.update state.running id queue }

def issue (id : Nat) (state : State) : Option State :=
  match state.running id with
  | none => none
  | some queue =>
      some { state with
        issued := state.issued ++ [⟨id, queue.args.ublkcFd, queue.resolve state.fdTable⟩] }

/-- The buffer of a request goes into the slot of its tag, by a command or by the driver
itself; the kernel refuses a slot that is taken. -/
def register (id tag : Nat) (state : State) : Option State :=
  match state.running id with
  | none => none
  | some queue =>
      if usesBuffers queue.args.flags ∧ tag < queue.args.queueDepth ∧ state.bufferTable tag = none then
        some { state.setRunning id (some { queue with inUse := Function.update queue.inUse tag true }) with
          bufferTable := Function.update state.bufferTable tag (some id) }
      else none

def unregister (id tag : Nat) (state : State) : Option State :=
  match state.running id with
  | none => none
  | some queue =>
      if queue.inUse tag then
        some { state.setRunning id (some { queue with inUse := Function.update queue.inUse tag false }) with
          bufferTable := Function.update state.bufferTable tag none }
      else none

/-- The guard unregisters the device if it was registered. -/
def finish (id : Nat) (state : State) : Option State :=
  match state.running id with
  | none => none
  | some queue =>
      some { state.setRunning id none with
        fdTable := if queue.fixed then Function.update state.fdTable ublkcFdSlot.toNat none
          else state.fdTable }

/-- A start that fails throws before it has changed anything. -/
def step (state : State) : Action → Option State
  | .start args =>
      match invoke sizes args state with
      | .ok after => some after
      | .error _ => some state
  | .issue id => issue id state
  | .register id tag => register id tag state
  | .unregister id tag => unregister id tag state
  | .finish id => finish id state

def initial : State where
  fdTable := fun _ => none
  bufferTable := fun _ => none
  started := 0
  running := fun _ => none
  issued := []

def runtime : System State Action where
  initial := initial
  step := step sizes

/-! ## Independence of the queues -/

/-- Every command went to the device of its queue, a queue's requests are in their slots,
and none of the slots that a queue may use holds a request of another running queue. -/
structure Independent (state : State) : Prop where
  own : ∀ command ∈ state.issued, command.resolved = some command.own
  kept : ∀ {id queue}, state.running id = some queue → ∀ tag, queue.inUse tag = true →
    state.bufferTable tag = some id
  free : ∀ {id queue}, state.running id = some queue → usesBuffers queue.args.flags = true →
    ∀ tag < queue.args.queueDepth, ∀ other ≠ id, state.running other ≠ none → state.bufferTable tag ≠ some other

/-- The checks of a start: the queue exists, and the buffer table has a slot for each of its
tags, if it needs any. -/
def starts (args : Args) : Prop :=
  args.qId < args.nrHwQueues ∧
    (usesBuffers args.flags = true → 0 < args.queueDepth ∧ args.queueDepth ≤ sizes.nrBuffers)

/-- A queue that starts does so while nobody else's device is in the file table and, if it
uses the buffer table, while nobody else uses that; and it ends as the last one that is in
the file table. -/
def apart (state : State) : Action → Prop
  | .start args => starts sizes args → ∀ id queue, state.running id = some queue →
      (queue.fixed = true → queue.args.ublkcFd = args.ublkcFd) ∧
        (usesBuffers args.flags = true → usesBuffers queue.args.flags = false)
  | .finish id => ∀ queue, state.running id = some queue → queue.fixed = true →
      ∀ other another, other ≠ id → state.running other = some another → another.fixed = false
  | _ => True

structure Separate (state : State) : Prop where
  fresh : ∀ id, state.started ≤ id → state.running id = none
  holders : ∀ tag id, state.bufferTable tag = some id → id < state.started
  slot : ∀ {id queue}, state.running id = some queue → queue.fixed = true →
    state.fdTable ublkcFdSlot.toNat = some queue.args.ublkcFd
  own : ∀ command ∈ state.issued, command.resolved = some command.own
  kept : ∀ {id queue}, state.running id = some queue → ∀ tag, queue.inUse tag = true →
    state.bufferTable tag = some id
  users : ∀ {id queue}, state.running id = some queue → ∀ tag, state.bufferTable tag = some id →
    usesBuffers queue.args.flags = true
  alone : ∀ {id other queue another}, state.running id = some queue → state.running other = some another →
    usesBuffers queue.args.flags = true → usesBuffers another.args.flags = true → other = id

theorem Separate.independent {state : State} (separate : Separate state) : Independent state where
  own := separate.own
  kept := separate.kept
  free := by
    intro id queue running uses tag _ other different alive holds
    cases here : state.running other with
    | none => exact alive here
    | some another => exact different (separate.alone running here uses (separate.users here tag holds))

theorem Separate.initial : Separate initial where
  fresh := fun _ _ => rfl
  holders := fun _ _ holds => nomatch holds
  slot := fun running => nomatch running
  own := fun _ member => nomatch member
  kept := fun running => nomatch running
  users := fun running => nomatch running
  alone := fun running => nomatch running

variable {sizes : Sizes} {state after : State} {id tag : Nat}

theorem Separate.issue (separate : Separate state) (taken : issue id state = some after) : Separate after := by
  rw [Runtime.issue] at taken
  split at taken
  · contradiction
  · rename_i queue running
    cases taken
    refine { separate with own := ?_ }
    intro command member
    rcases List.mem_append.mp member with old | new
    · exact separate.own command old
    · cases List.mem_singleton.mp new
      rw [Instance.resolve]
      split
      · rename_i fixed
        exact separate.slot running fixed
      · rfl

theorem running_update {running : Nat → Option Instance} {changed another : Instance} {other : Nat}
    (here : Function.update running id (some changed) other = some another) :
    (other = id ∧ another = changed) ∨ (other ≠ id ∧ running other = some another) := by
  by_cases equal : other = id
  · subst equal
    rw [Function.update_self] at here
    exact .inl ⟨rfl, (Option.some.inj here).symm⟩
  · rw [Function.update_of_ne equal] at here
    exact .inr ⟨equal, here⟩

/-- A queue changes its own requests in the buffer table: no slot of another queue's
request is touched, and new entries are its own. -/
theorem Separate.retable {queue changed : Instance} {table : Nat → Option Nat} (separate : Separate state)
    (running : state.running id = some queue) (args : changed.args = queue.args)
    (fixed : changed.fixed = queue.fixed)
    (others : ∀ slot other, other ≠ id → state.bufferTable slot = some other → table slot = some other)
    (mine : ∀ slot, changed.inUse slot = true → table slot = some id)
    (added : ∀ slot holder, table slot = some holder →
      state.bufferTable slot = some holder ∨ holder = id ∧ usesBuffers queue.args.flags = true) :
    Separate { state.setRunning id (some changed) with bufferTable := table } := by
  -- every queue has a counterpart with the same arguments from before
  have before {other : Nat} {another : Instance}
      (here : (state.setRunning id (some changed)).running other = some another) :
      ∃ old, state.running other = some old ∧ another.args = old.args ∧ another.fixed = old.fixed := by
    rcases running_update here with ⟨rfl, rfl⟩ | ⟨_, same⟩
    · exact ⟨queue, running, args, fixed⟩
    · exact ⟨another, same, rfl, rfl⟩
  constructor
  · intro other bound
    have different : other ≠ id := by
      rintro rfl
      simp [separate.fresh other bound] at running
    simp only [State.setRunning, Function.update_of_ne different]
    exact separate.fresh other bound
  · intro slot holder holds
    rcases added slot holder holds with already | ⟨rfl, _⟩
    · exact separate.holders slot holder already
    · by_contra outside
      rw [separate.fresh holder (Nat.not_lt.mp outside)] at running
      cases running
  · intro other another here isFixed
    obtain ⟨old, same, args, fixed⟩ := before here
    rw [args]
    exact separate.slot same (fixed ▸ isFixed)
  · exact separate.own
  · intro other another here slot inUse
    rcases running_update here with ⟨rfl, rfl⟩ | ⟨different, same⟩
    · exact mine slot inUse
    · exact others slot other different (separate.kept same slot inUse)
  · intro other another here slot holds
    obtain ⟨old, same, args, _⟩ := before here
    rw [args]
    rcases added slot other holds with already | ⟨rfl, uses⟩
    · exact separate.users same slot already
    · cases running.symm.trans same
      exact uses
  · intro first second queue another here there uses alsoUses
    obtain ⟨old, same, args, _⟩ := before here
    obtain ⟨otherOld, otherSame, otherArgs, _⟩ := before there
    exact separate.alone same otherSame (args ▸ uses) (otherArgs ▸ alsoUses)

theorem Separate.register (separate : Separate state) (taken : register id tag state = some after) :
    Separate after := by
  rw [Runtime.register] at taken
  split at taken
  · contradiction
  · rename_i queue running
    simp only [Option.ite_none_right_eq_some] at taken
    obtain ⟨⟨uses, _, empty⟩, taken⟩ := taken
    cases taken
    refine separate.retable running rfl rfl ?_ ?_ ?_
    · intro slot other _ holds
      have different : slot ≠ tag := by
        rintro rfl
        simp [empty] at holds
      rw [Function.update_of_ne different]
      exact holds
    · intro slot inUse
      by_cases equal : slot = tag
      · rw [equal, Function.update_self]
      · simp only [Function.update_of_ne equal] at inUse ⊢
        exact separate.kept running slot inUse
    · intro slot holder holds
      by_cases equal : slot = tag
      · rw [equal, Function.update_self] at holds
        exact .inr ⟨(Option.some.inj holds).symm, uses⟩
      · rw [Function.update_of_ne equal] at holds
        exact .inl holds

theorem Separate.unregister (separate : Separate state) (taken : unregister id tag state = some after) :
    Separate after := by
  rw [Runtime.unregister] at taken
  split at taken
  · contradiction
  · rename_i queue running
    simp only [Option.ite_none_right_eq_some] at taken
    obtain ⟨inUse, taken⟩ := taken
    cases taken
    have held : state.bufferTable tag = some id := separate.kept running tag inUse
    refine separate.retable running rfl rfl ?_ ?_ ?_
    · intro slot other different holds
      have elsewhere : slot ≠ tag := by
        rintro rfl
        exact different (Option.some.inj (holds.symm.trans held))
      rw [Function.update_of_ne elsewhere]
      exact holds
    · intro slot still
      by_cases equal : slot = tag
      · simp only [equal, Function.update_self, Bool.false_eq_true] at still
      · simp only [Function.update_of_ne equal] at still ⊢
        exact separate.kept running slot still
    · intro slot holder holds
      by_cases equal : slot = tag
      · rw [equal, Function.update_self] at holds
        cases holds
      · rw [Function.update_of_ne equal] at holds
        exact .inl holds

theorem Separate.finish (separate : Separate state) (permitted : apart sizes state (.finish id))
    (taken : finish id state = some after) : Separate after := by
  rw [Runtime.finish] at taken
  split at taken
  · contradiction
  · rename_i queue running
    cases taken
    have remains {other : Nat} {another : Instance}
        (here : (state.setRunning id none).running other = some another) :
        other ≠ id ∧ state.running other = some another := by
      by_cases equal : other = id
      · subst equal
        simp [State.setRunning] at here
      · simp only [State.setRunning, Function.update_of_ne equal] at here
        exact ⟨equal, here⟩
    constructor
    · intro other bound
      by_cases equal : other = id
      · subst equal
        simp [State.setRunning]
      · simp only [State.setRunning, Function.update_of_ne equal]
        exact separate.fresh other bound
    · exact separate.holders
    · intro other another here isFixed
      obtain ⟨different, same⟩ := remains here
      by_cases fixed : queue.fixed = true
      · have out := permitted queue running fixed other another different same
        simp [out] at isFixed
      · simp only [fixed, Bool.false_eq_true, if_false]
        exact separate.slot same isFixed
    · exact separate.own
    · intro other another here
      exact separate.kept (remains here).2
    · intro other another here
      exact separate.users (remains here).2
    · intro first second queue another here there
      exact separate.alone (remains here).2 (remains there).2

/-! ## The start of a queue -/

/-- The check of the buffer table clears a slot, of a queue that uses the table, and does
nothing else. -/
theorem probe_cases {args : Args} {table cleared : Nat → Option Nat}
    (probed : probe sizes args table = .ok cleared) :
    cleared = table ∨
      usesBuffers args.flags = true ∧ ∃ slot, cleared = Function.update table slot none := by
  rw [probe] at probed
  split at probed
  · rename_i uses
    split at probed
    · rename_i updated changed
      cases probed
      simp only [update, Option.ite_none_right_eq_some, Option.some.injEq] at changed
      exact .inr ⟨uses, _, changed.2.symm⟩
    · contradiction
  · cases probed
    exact .inl rfl

theorem probe_holds {args : Args} {table cleared : Nat → Option Nat} {slot holder : Nat}
    (probed : probe sizes args table = .ok cleared) (now : cleared slot = some holder) :
    table slot = some holder := by
  rcases probe_cases probed with rfl | ⟨_, empty, rfl⟩
  · exact now
  · by_cases equal : slot = empty
    · simp [equal] at now
    · rwa [Function.update_of_ne equal] at now

theorem update_ublkcFd {table : Nat → Option Nat} {size fd : Nat}
    (updated : (update size table ublkcFdSlot (some fd)).isSome = true) :
    ((update size table ublkcFdSlot (some fd)).getD table) ublkcFdSlot.toNat = some fd := by
  rw [update] at updated ⊢
  split
  · rw [Option.getD_some, Function.update_self]
  · rename_i outside
    rw [if_neg outside] at updated
    cases updated

theorem update_isSome_iff {Slot : Type} (size : Nat) (table : Nat → Option Slot) (index : Int)
    (slot : Option Slot) : (update size table index slot).isSome = true ↔ 0 ≤ index ∧ index < size := by
  rw [update]
  split
  · rename_i inside
    exact iff_of_true rfl inside
  · rename_i outside
    exact iff_of_false Bool.false_ne_true outside

theorem probe_ok_iff (args : Args) (table : Nat → Option Nat) :
    (∃ cleared, probe sizes args table = .ok cleared) ↔
      (usesBuffers args.flags = true → 0 < args.queueDepth ∧ args.queueDepth ≤ sizes.nrBuffers) := by
  have fits := update_isSome_iff sizes.nrBuffers table ((args.queueDepth : Int) - 1) none
  have inside : (0 ≤ (args.queueDepth : Int) - 1 ∧ (args.queueDepth : Int) - 1 < sizes.nrBuffers) ↔
      0 < args.queueDepth ∧ args.queueDepth ≤ sizes.nrBuffers := by omega
  rw [← inside, ← fits, probe]
  split
  · rename_i uses
    split
    · rename_i changed
      simp [changed]
    · rename_i refused
      simp [refused, uses]
  · rename_i unused
    simp [unused]

/-- `run_dev` throws before its queue has started exactly when a check fails. -/
theorem invoke_ok_iff (args : Args) (state : State) :
    (∃ after, invoke sizes args state = .ok after) ↔ starts sizes args := by
  rw [invoke, starts, ← probe_ok_iff args state.bufferTable, ← Nat.not_le]
  split
  · rename_i beyond
    simp [beyond]
  · rename_i known
    cases probe sizes args state.bufferTable <;> simp [known]

theorem Separate.start {args : Args} (separate : Separate state) (permitted : apart sizes state (.start args))
    (taken : invoke sizes args state = .ok after) : Separate after := by
  replace permitted := permitted ((invoke_ok_iff args state).mp ⟨after, taken⟩)
  rw [invoke] at taken
  split at taken
  · contradiction
  split at taken
  · contradiction
  rename_i cleared probed
  cases taken
  constructor
  · intro other bound
    have different : other ≠ state.started := by
      simp only at bound
      omega
    simp only [Function.update_of_ne different]
    exact separate.fresh other (by simp only at bound; omega)
  · intro slot holder now
    have before := separate.holders slot holder (probe_holds probed now)
    simp only
    omega
  · intro other another here fixed
    rcases running_update here with ⟨rfl, rfl⟩ | ⟨_, same⟩
    · exact update_ublkcFd fixed
    · have fd := (permitted other another same).1 fixed
      cases updated : update sizes.nrFiles state.fdTable ublkcFdSlot (some args.ublkcFd) with
      | none => exact separate.slot same fixed
      | some table =>
          have slot := update_ublkcFd (by rw [updated]; rfl)
          rw [fd, ← slot, updated]
  · exact separate.own
  · intro other another here slot inUse
    rcases running_update here with ⟨rfl, rfl⟩ | ⟨_, same⟩
    · cases inUse
    · have held := separate.kept same slot inUse
      rcases probe_cases probed with unchanged | ⟨uses, _⟩
      · rw [unchanged]
        exact held
      · have unused := (permitted other another same).2 uses
        rw [separate.users same slot held] at unused
        cases unused
  · intro other another here slot now
    have held := probe_holds probed now
    rcases running_update here with ⟨rfl, rfl⟩ | ⟨_, same⟩
    · have before := separate.holders slot state.started held
      omega
    · exact separate.users same slot held
  · intro first second queue another here there uses alsoUses
    rcases running_update here with ⟨rfl, rfl⟩ | ⟨_, same⟩
    · rcases running_update there with ⟨rfl, _⟩ | ⟨_, otherSame⟩
      · rfl
      · have unused := (permitted second another otherSame).2 uses
        rw [alsoUses] at unused
        cases unused
    · rcases running_update there with ⟨rfl, rfl⟩ | ⟨_, otherSame⟩
      · have unused := (permitted first queue same).2 alsoUses
        rw [uses] at unused
        cases unused
      · exact separate.alone same otherSame uses alsoUses

theorem Separate.reachable (reached : Reachable (runtime sizes) (apart sizes) state) : Separate state := by
  refine reached.invariant Separate .initial fun {before after action} _ separate permitted taken => ?_
  cases action with
  | start args =>
      simp only [runtime, step] at taken
      split at taken
      · rename_i invoked
        cases taken
        exact separate.start permitted invoked
      · cases taken
        exact separate
  | issue id => exact separate.issue taken
  | register id tag => exact separate.register taken
  | unregister id tag => exact separate.unregister taken
  | finish id => exact separate.finish permitted taken

/-- Queues that are kept apart do not interfere. -/
theorem queues_independent (reached : Reachable (runtime sizes) (apart sizes) state) : Independent state :=
  (Separate.reachable reached).independent

/-- The only queue of a device that copies nothing. -/
def zeroCopyQueue : Args := ⟨3, 0, 1, ublkFSupportZeroCopy, 1⟩

/-- It runs alone, with a command and a request in its slot; a second one of two tags has no
room in the buffer table and throws. -/
theorem queues_independent_alone :
    ∃ state, Reachable (runtime ⟨1, 1⟩) (apart ⟨1, 1⟩) state ∧ state.issued = [⟨0, 3, some 3⟩] ∧
      state.bufferTable 0 = some 0 ∧ Independent state := by
  have alone : apart ⟨1, 1⟩ initial (.start zeroCopyQueue) := fun _ _ _ running => nomatch running
  have started : Reachable (runtime ⟨1, 1⟩) (apart ⟨1, 1⟩) _ := .next .initial alone rfl
  have issued := started.next (show apart _ _ (.issue 0) from trivial) rfl
  have registered := issued.next (show apart _ _ (.register 0 0) from trivial) rfl
  have thrown := registered.next (show apart _ _ (.start { zeroCopyQueue with queueDepth := 2 }) from
    fun fits => absurd (fits.2 (by decide)).2 (by decide)) rfl
  exact ⟨_, thrown, rfl, rfl, queues_independent thrown⟩

/-- A second queue takes the slot of the first one's device, and empties the slot of a
request in flight. -/
theorem second_queue_interferes :
    (∃ state, Reachable (runtime ⟨1, 0⟩) (fun _ _ => True) state ∧ state.issued = [⟨0, 3, some 4⟩] ∧
      ¬ Independent state) ∧
    ∃ state, Reachable (runtime ⟨1, 1⟩) (fun _ _ => True) state ∧
      (state.running 0).any (fun queue => queue.inUse 0) = true ∧ state.bufferTable 0 = none ∧
      ¬ Independent state := by
  constructor
  · obtain ⟨state, reached, issued⟩ := exists_of_replay (runtime ⟨1, 0⟩) (fun _ _ => True)
      [.start ⟨3, 0, 1, 0, 1⟩, .start ⟨4, 0, 1, 0, 1⟩, .issue 0]
      (fun state => state.issued = [⟨0, 3, some 4⟩]) (by decide)
    refine ⟨state, reached, issued, fun independent => ?_⟩
    have resolved := independent.own ⟨0, 3, some 4⟩ (by simp [issued])
    cases resolved
  · obtain ⟨state, reached, inUse, empty⟩ := exists_of_replay (runtime ⟨1, 1⟩) (fun _ _ => True)
      [.start zeroCopyQueue, .register 0 0, .start zeroCopyQueue]
      (fun state => (state.running 0).any (fun queue => queue.inUse 0) = true ∧ state.bufferTable 0 = none)
      (by decide)
    refine ⟨state, reached, inUse, empty, fun independent => ?_⟩
    cases running : state.running 0 with
    | none => simp [running] at inUse
    | some queue =>
        have held := independent.kept running 0 (by simpa [running] using inUse)
        rw [empty] at held
        cases held

end Ublk.Queue.Runtime
