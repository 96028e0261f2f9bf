import Ublk.Machine.Guarded
import Ublk.Shm.Server

namespace Ublk.Shm

open Ublk.Machine

variable {flags : BitVec 32} {session after : Session} {action : Action} {server : Server}

/-! # The life of a session

The law of a session's events, and the facts about the session at each suspension
from which every step obeys it. Clean-up responsibility passes from one guard to the
other with the sign of the result, so errors must carry positive codes.
-/

/-- What must have happened before an event of a session. A release is made once,
for the session's own index and mapping, in order, and not while the client of a
successful registration is still there. -/
def Lawful (front : List Event) : Event → Prop
  | .registered _ => (∀ other, .registered other ∉ front) ∧ ∀ base size, .unmapped base size ∉ front
  | .handleRegShm index _ _ => ∃ own : Nat, index = own ∧ .registered own ∈ front
  | .sent res => 0 ≤ res.toInt → ∃ (index : Nat) (base size : Nat), .registered index ∈ front ∧
      .handleRegShm index base size ∈ front ∧ .regShmSucceeded ∈ front
  | .unregister index => (∀ other, .unregister other ∉ front) ∧
      (∃ own : Nat, index = own ∧ .registered own ∈ front) ∧
      ((∃ res, .sent res ∈ front ∧ 0 ≤ res.toInt) → ∃ why, .hangup why ∈ front)
  | .unregistered index => (∀ other, .unregistered other ∉ front) ∧ .unregister index ∈ front
  | .handleUnregShm index =>
      (∀ other, .handleUnregShm other ∉ front) ∧ .unregistered index ∈ front ∧
      ∃ base size, .handleRegShm index base size ∈ front
  | .unmapped base size => (∀ otherBase otherSize, .unmapped otherBase otherSize ∉ front) ∧
      (∃ readOnly, .mapped base size readOnly ∈ front) ∧
      ∀ index : Nat, .registered index ∈ front → .unregistered index ∈ front
  | _ => True

def Event.isRegistered : Event → Bool
  | .registered _ => true
  | _ => false

def Event.isSent : Event → Bool
  | .sent _ => true
  | _ => false

/-- The events behind the unregistration, and all events of a release. -/
def Event.isLateRelease : Event → Bool
  | .handleUnregShm _ => true
  | .unmapped _ _ => true
  | _ => false

def Event.isRelease : Event → Bool
  | .unregister _ => true
  | .unregistered _ => true
  | event => event.isLateRelease

def Absent (kind : Event → Bool) (history : List Event) : Prop :=
  ∀ event ∈ history, kind event = false

@[simp] theorem absent_nil (kind : Event → Bool) : Absent kind [] := by
  simp [Absent]

@[simp] theorem absent_snoc (kind : Event → Bool) (history : List Event) (event : Event) :
    Absent kind (history ++ [event]) ↔ Absent kind history ∧ kind event = false := by
  simp [Absent, or_imp, forall_and]

theorem mem_of_mem_snoc {history : List Event} {event last : Event} (kind : Event → Bool)
    (here : kind event = true) (other : kind last = false) (member : event ∈ history ++ [last]) :
    event ∈ history := by
  rcases List.mem_append.mp member with before | now
  · exact before
  · cases List.mem_singleton.mp now
    simp [here] at other

theorem Absent.not_mem {kind : Event → Bool} {history : List Event} {event : Event}
    (absent : Absent kind history)
    (here : kind event = true) : event ∉ history := fun member => by
  simp [absent event member] at here

theorem Absent.late {history : List Event} (absent : Absent Event.isRelease history) :
    Absent Event.isLateRelease history := by
  intro event member
  have none := absent event member
  cases event <;> simp_all [Event.isRelease, Event.isLateRelease]

/-! ## Facts about the history -/

/-- `index` is the one the driver gave out, and `handle_reg_shm` was called with it. -/
def Own (index : Nat) (history : List Event) : Prop :=
  .registered index ∈ history ∧ ∀ other, .registered other ∈ history → other = index

def Called (index : Nat) (history : List Event) : Prop :=
  ∃ base size, .handleRegShm index base size ∈ history

def Known (index : Int) (history : List Event) : Prop :=
  (index = -1 ∧ Absent Event.isRegistered history) ∨
    ∃ own : Nat, index = own ∧ Own own history ∧ Called own history

/-- A nonnegative result was sent only to a client that is gone. -/
def Discharged (history : List Event) : Prop :=
  (∃ res, .sent res ∈ history ∧ 0 ≤ res.toInt) → ∃ why, .hangup why ∈ history

def Mapped (session : Session) : Prop :=
  session.base ≠ 0 → ∃ readOnly, .mapped session.base session.size readOnly ∈ session.history

/-- How far the release has come at each suspension of the clean-up task. -/
def Progress (index : Int) (history : List Event) : CleanupPc → Prop
  | .scheduled => Absent Event.isRelease history
  | .queryingInfo => index ≠ -1 ∧ Absent Event.isRelease history
  | .unregistering =>
      index ≠ -1 ∧ .unregister index ∈ history ∧ Absent Event.isLateRelease history ∧
      ∀ other, .unregistered other ∉ history
  | .unregistered => index ≠ -1 ∧ .unregistered index ∈ history ∧ Absent Event.isLateRelease history
  | .ended => True

structure Pristine (session : Session) : Prop where
  unspawned : ∀ guard, session.cleanups guard = none
  unsent : Absent Event.isSent session.history
  unreleased : Absent Event.isRelease session.history

structure Unregistered (session : Session) : Prop extends Pristine session where
  unindexed : session.index = -1
  unregistered : Absent Event.isRegistered session.history

/-- The client has its index, and only the end of the session will release it. -/
structure Serving (session : Session) : Prop where
  unspawned : ∀ guard, session.cleanups guard = none
  unreleased : Absent Event.isRelease session.history
  index : ∃ own : Nat, session.index = own ∧ Own own session.history ∧ Called own session.history
  mapped : Mapped session

/-- One clean-up task, with a copy of the session. -/
structure Holding (session : Session) (guard : Guard) (task : Cleanup) : Prop where
  spawned : session.cleanups guard = some task
  only : ∀ other, other ≠ guard → session.cleanups other = none
  index : task.index = session.index
  base : task.base = session.base
  size : task.size = session.size
  known : Known session.index session.history
  mapped : Mapped session
  discharged : Discharged session.history

structure Releasing (session : Session) (guard : Guard) (task : Cleanup) : Prop
    extends Holding session guard task where
  progress : Progress task.index session.history task.pc

/-- What holds where `shm_session` is suspended. -/
def Facts (session : Session) : Prop :=
  match session.pc with
  | .scheduled | .receiving | .stating => session.base = 0 ∧ Unregistered session
  | .queryingInfo | .registering => Mapped session ∧ Unregistered session
  | .registered index => Mapped session ∧ Pristine session ∧ Own index session.history
  | .callingReg => Mapped session ∧ Pristine session ∧
      ∃ own : Nat, session.index = own ∧ Own own session.history ∧ Called own session.history
  | .sending res =>
      (0 ≤ res.toInt → Serving session) ∧ (res.toInt < 0 → ∃ guard task, Releasing session guard task)
  | .awaitingClose res => 0 ≤ res.toInt ∧ Serving session
  | .ended => (∀ guard, session.cleanups guard = none) ∨ ∃ guard task, Releasing session guard task

structure Life (session : Session) : Prop where
  lawful : Guarded Lawful session.history
  facts : Facts session

/-! ## Events that change none of this -/

def Event.isCall : Event → Bool
  | .handleRegShm _ _ _ => true
  | _ => false

def Event.inert (event : Event) : Bool :=
  !event.isCall && !event.isRegistered && !event.isSent && !event.isRelease

section Inert

variable {history : List Event} {event : Event}

theorem Event.of_inert (inert : event.inert = true) :
    event.isRegistered = false ∧ event.isSent = false ∧ event.isRelease = false := by
  simp only [Event.inert, Bool.and_eq_true, Bool.not_eq_true'] at inert
  exact ⟨inert.1.1.2, inert.1.2, inert.2⟩

theorem Own.snoc {index : Nat} (own : Own index history) (other : event.isRegistered = false) :
    Own index (history ++ [event]) := by
  refine ⟨List.mem_append_left _ own.1, fun given member => ?_⟩
  exact own.2 given (mem_of_mem_snoc Event.isRegistered rfl other member)

theorem Called.snoc {index : Nat} (called : Called index history) :
    Called index (history ++ [event]) := by
  obtain ⟨base, size, member⟩ := called
  exact ⟨base, size, List.mem_append_left _ member⟩

theorem Known.snoc {index : Int} (known : Known index history)
    (other : event.isRegistered = false) :
    Known index (history ++ [event]) := by
  rcases known with ⟨unindexed, absent⟩ | ⟨own, same, mine, called⟩
  · exact .inl ⟨unindexed, (absent_snoc _ _ _).mpr ⟨absent, other⟩⟩
  · exact .inr ⟨own, same, mine.snoc other, called.snoc⟩

theorem Discharged.snoc (discharged : Discharged history) (other : event.isSent = false) :
    Discharged (history ++ [event]) := by
  rintro ⟨res, member, success⟩
  have before := mem_of_mem_snoc Event.isSent rfl other member
  obtain ⟨why, gone⟩ := discharged ⟨res, before, success⟩
  exact ⟨why, List.mem_append_left _ gone⟩

theorem Progress.snoc {index : Int} {pc : CleanupPc} (progress : Progress index history pc)
    (other : event.isRelease = false) : Progress index (history ++ [event]) pc := by
  have late : event.isLateRelease = false := by
    cases event <;> simp_all [Event.isRelease, Event.isLateRelease]
  cases pc with
  | scheduled => exact (absent_snoc _ _ _).mpr ⟨progress, other⟩
  | queryingInfo => exact ⟨progress.1, (absent_snoc _ _ _).mpr ⟨progress.2, other⟩⟩
  | unregistering =>
      refine ⟨progress.1, List.mem_append_left _ progress.2.1,
        (absent_snoc _ _ _).mpr ⟨progress.2.2.1, late⟩, ?_⟩
      intro index member
      exact progress.2.2.2 index (mem_of_mem_snoc Event.isRelease rfl other member)
  | unregistered =>
      exact ⟨progress.1, List.mem_append_left _ progress.2.1,
        (absent_snoc _ _ _).mpr ⟨progress.2.2, late⟩⟩
  | ended => trivial

end Inert

theorem Pristine.of_same (pristine : Pristine session)
    (cleanups : after.cleanups = session.cleanups)
    (history : after.history = session.history) : Pristine after :=
  ⟨cleanups ▸ pristine.unspawned, history ▸ pristine.unsent, history ▸ pristine.unreleased⟩

theorem Unregistered.of_same (unregistered : Unregistered session)
    (cleanups : after.cleanups = session.cleanups)
    (history : after.history = session.history) (index : after.index = session.index) :
    Unregistered after :=
  ⟨unregistered.toPristine.of_same cleanups history, index ▸ unregistered.unindexed,
    history ▸ unregistered.unregistered⟩

theorem Serving.atPc {pc : Pc} (serving : Serving session) : Serving { session with pc } :=
  ⟨serving.unspawned, serving.unreleased, serving.index, serving.mapped⟩

theorem Mapped.record {event : Event} (mapped : Mapped session) :
    Mapped (session.record event) := by
  intro nonnull
  obtain ⟨readOnly, member⟩ := mapped nonnull
  exact ⟨readOnly, List.mem_append_left _ member⟩

section Task

variable {event : Event} {guard : Guard} {task : Cleanup}

theorem Holding.record (holding : Holding session guard task)
    (registered : event.isRegistered = false)
    (sent : event.isSent = false) : Holding (session.record event) guard task where
  spawned := holding.spawned
  only := holding.only
  index := holding.index
  base := holding.base
  size := holding.size
  known := holding.known.snoc registered
  mapped := holding.mapped.record
  discharged := holding.discharged.snoc sent

theorem Holding.setCleanup {pc : CleanupPc} (holding : Holding session guard task) :
    Holding (session.setCleanup guard task pc) guard { task with pc } where
  spawned := by simp [Session.setCleanup]
  only := fun other different => by
    simp [Session.setCleanup, Function.update_of_ne different, holding.only other different]
  index := holding.index
  base := holding.base
  size := holding.size
  known := holding.known
  mapped := holding.mapped
  discharged := holding.discharged

/-- A task with an index works on the one the driver gave out. -/
theorem Holding.owned (holding : Holding session guard task) (indexed : task.index ≠ -1) :
    ∃ own : Nat, task.index = own ∧ Own own session.history ∧ Called own session.history := by
  rw [holding.index] at indexed ⊢
  exact holding.known.resolve_left fun unindexed => indexed unindexed.1

theorem Releasing.record (releasing : Releasing session guard task) (inert : event.inert = true) :
    Releasing (session.record event) guard task := by
  obtain ⟨registered, sent, release⟩ := event.of_inert inert
  exact ⟨releasing.toHolding.record registered sent, releasing.progress.snoc release⟩

theorem Releasing.atPc {pc : Pc} (releasing : Releasing session guard task) :
    Releasing { session with pc } guard task :=
  ⟨⟨releasing.spawned, releasing.only, releasing.index, releasing.base, releasing.size, releasing.known,
    releasing.mapped, releasing.discharged⟩, releasing.progress⟩

theorem Releasing.close (releasing : Releasing session guard task) :
    Releasing session.close guard task := by
  have received : Releasing (session.record (.closedReceived session.receivedFd)) guard task :=
    releasing.record rfl
  have client : Releasing ((session.record (.closedReceived session.receivedFd)).record .closedClient) guard task :=
    received.record rfl
  exact client.atPc

end Task

theorem Known.absent {index : Int} {history : List Event} (known : Known index history)
    (unindexed : index = -1) :
    Absent Event.isRegistered history := by
  rcases known with ⟨_, absent⟩ | ⟨own, same, _⟩
  · exact absent
  · omega

/-- `d3` spawns the task of a client that is gone. -/
theorem Serving.hungUp {why : Hangup} (serving : Serving session) :
    Releasing ((session.record (.hangup why)).cleanup .session) .session
      { index := session.index, base := session.base, size := session.size, pc := .scheduled } where
  spawned := by simp [Session.cleanup, Session.record]
  only := fun other different => by
    simp [Session.cleanup, Session.record, Function.update_of_ne different, serving.unspawned other]
  index := rfl
  base := rfl
  size := rfl
  known := (Known.snoc (.inr serving.index) rfl)
  mapped := serving.mapped.record
  discharged := fun _ => ⟨why, by simp [Session.cleanup, Session.record]⟩
  progress := (absent_snoc _ _ _).mpr ⟨serving.unreleased, rfl⟩

theorem lawful_inert {history : List Event} {event : Event} (inert : event.inert = true) :
    Lawful history event := by
  cases event <;> trivial

/-- Only `shm_session` that has nothing left to release has a task. -/
theorem Facts.releasing {guard : Guard} {task : Cleanup} (facts : Facts session)
    (spawned : session.cleanups guard = some task) :
    Releasing session guard task ∧ (session.pc = .ended ∨ ∃ res, session.pc = .sending res ∧ res.toInt < 0) := by
  have idle (none : ∀ guard, session.cleanups guard = none) : False := by
    simp [none guard] at spawned
  have found (some : ∃ guard task, Releasing session guard task) : Releasing session guard task := by
    obtain ⟨other, copy, releasing⟩ := some
    by_cases same : guard = other
    · subst same
      cases releasing.spawned.symm.trans spawned
      exact releasing
    · simp [releasing.only guard same] at spawned
  cases pc : session.pc with
  | sending res =>
      simp only [Facts, pc] at facts
      by_cases success : 0 ≤ res.toInt
      · exact (idle (facts.1 success).unspawned).elim
      · exact ⟨found (facts.2 (by omega)), .inr ⟨res, rfl, by omega⟩⟩
  | ended =>
      simp only [Facts, pc] at facts
      rcases facts with none | some
      · exact (idle none).elim
      · exact ⟨found some, .inl rfl⟩
  | awaitingClose res =>
      simp only [Facts, pc] at facts
      exact (idle facts.2.unspawned).elim
  | registered index =>
      simp only [Facts, pc] at facts
      exact (idle facts.2.1.unspawned).elim
  | callingReg =>
      simp only [Facts, pc] at facts
      exact (idle facts.2.1.unspawned).elim
  | _ =>
      simp only [Facts, pc] at facts
      exact (idle facts.2.unspawned).elim

theorem Facts.of_releasing {guard : Guard} {task : Cleanup}
    (releasing : Releasing session guard task)
    (pc : session.pc = .ended ∨ ∃ res, session.pc = .sending res ∧ res.toInt < 0) :
    Facts session := by
  rcases pc with pc | ⟨res, pc, failure⟩
  · simp only [Facts, pc]
    exact .inr ⟨guard, task, releasing⟩
  · simp only [Facts, pc]
    exact ⟨fun success => by omega, fun _ => ⟨guard, task, releasing⟩⟩

/-- With the result sent, its sign says who releases. -/
theorem Facts.result {res : BitVec 32} (facts : Facts session)
    (pc : session.pc = .sending res ∨ session.pc = .awaitingClose res) :
    (0 ≤ res.toInt → Serving session) ∧
    (res.toInt < 0 → ∃ guard task, Releasing session guard task) := by
  rcases pc with pc | pc
  · simpa only [Facts, pc] using facts
  · simp only [Facts, pc] at facts
    exact ⟨fun _ => facts.2, fun failure => by omega⟩

theorem Pristine.record {event : Event} (pristine : Pristine session) (sent : event.isSent = false)
    (release : event.isRelease = false) : Pristine (session.record event) :=
  ⟨pristine.unspawned, (absent_snoc _ _ _).mpr ⟨pristine.unsent, sent⟩,
    (absent_snoc _ _ _).mpr ⟨pristine.unreleased, release⟩⟩

theorem Unregistered.record {event : Event} (unregistered : Unregistered session)
    (inert : event.inert = true) :
    Unregistered (session.record event) := by
  obtain ⟨registered, sent, release⟩ := event.of_inert inert
  exact ⟨unregistered.toPristine.record sent release, unregistered.unindexed,
    (absent_snoc _ _ _).mpr ⟨unregistered.unregistered, registered⟩⟩

/-- The part of the facts that a failing `handle` hands to its clean-up task. -/
theorem Facts.failing (facts : Facts session)
    (pc : session.pc = .stating ∨ session.pc = .queryingInfo ∨ session.pc = .registering ∨
      session.pc = .callingReg) :
    Pristine session ∧ Known session.index session.history ∧ Mapped session ∧
      (session.pc = .stating → session.base = 0) := by
  rcases pc with pc | pc | pc | pc
  · simp only [Facts, pc] at facts
    obtain ⟨unmapped, unregistered⟩ := facts
    exact ⟨unregistered.toPristine, .inl ⟨unregistered.unindexed, unregistered.unregistered⟩,
      fun nonnull => absurd unmapped nonnull, fun _ => unmapped⟩
  · simp only [Facts, pc] at facts
    exact ⟨facts.2.toPristine, .inl ⟨facts.2.unindexed, facts.2.unregistered⟩, facts.1,
      fun other => by simp [pc] at other⟩
  · simp only [Facts, pc] at facts
    exact ⟨facts.2.toPristine, .inl ⟨facts.2.unindexed, facts.2.unregistered⟩, facts.1,
      fun other => by simp [pc] at other⟩
  · simp only [Facts, pc] at facts
    exact ⟨facts.2.1, .inr facts.2.2, facts.1, fun other => by simp [pc] at other⟩

namespace Life

/-- A failed `handle` leaves its clean-up task and sends a negative result. -/
theorem handleFailed {size : Nat} {how : Session.HandleEnd} (life : Life session)
    (pc : session.pc = .stating ∨ session.pc = .queryingInfo ∨ session.pc = .registering ∨
      session.pc = .callingReg)
    (known : session.pc ≠ .stating → size = session.size) (failed : how ≠ .value)
    (negative : how.res.toInt < 0) :
    Life (({ session with size } : Session).handleEnded how) := by
  obtain ⟨pristine, index, mapped, unmapped⟩ := life.facts.failing pc
  have released : Absent Event.isRelease (session.history ++ [.sent how.res]) :=
    (absent_snoc _ _ _).mpr ⟨pristine.unreleased, rfl⟩
  have releasing : Releasing (({ session with size } : Session).handleEnded how) .handle
      { index := session.index, base := session.base, size, pc := .scheduled } := by
    simp only [Session.handleEnded, failed, ↓reduceIte]
    exact
      { spawned := by simp [Session.cleanup, Session.record]
        only := fun other different => by
          simp [Session.cleanup, Session.record, Function.update_of_ne different,
            pristine.unspawned other]
        index := rfl
        base := rfl
        size := rfl
        known := index.snoc rfl
        mapped := fun nonnull => by
          -- Only a failed `mmap` ends `handle` with a size of which nothing is mapped.
          have mappedBefore : session.pc ≠ .stating := fun before => nonnull (unmapped before)
          obtain rfl := known mappedBefore
          exact mapped.record nonnull
        discharged := by
          rintro ⟨res, member, success⟩
          rcases List.mem_append.mp member with before | now
          · exact (pristine.unsent.not_mem rfl before).elim
          · cases List.mem_singleton.mp now
            omega
        progress := released }
  refine ⟨?_, .of_releasing releasing (.inr ⟨how.res, rfl, negative⟩)⟩
  rw [Session.handleEnded_history]
  exact life.lawful.snoc fun success => by omega

/-! ## Up to the result -/

theorem started (life : Life session) (pc : session.pc = .scheduled) :
    Life { session with pc := .receiving } := by
  have facts := life.facts
  simp only [Facts, pc] at facts
  exact ⟨life.lawful, facts.1, facts.2.of_same rfl rfl rfl⟩

theorem neverStarted (life : Life session) (pc : session.pc = .scheduled) :
    Life { session with pc := .ended } := by
  have facts := life.facts
  simp only [Facts, pc] at facts
  exact ⟨life.lawful, .inl facts.2.unspawned⟩

theorem received {fds : List Int} (life : Life session) (pc : session.pc = .receiving) :
    Life { session.record (.installed fds) with receivedFd := fds.headD (-1), pc := .stating } := by
  have facts := life.facts
  simp only [Facts, pc] at facts
  have recorded : Unregistered (session.record (.installed fds)) := facts.2.record rfl
  exact ⟨life.lawful.snoc (lawful_inert rfl), facts.1, recorded.of_same rfl rfl rfl⟩

theorem turnedAway {before : List Event} (life : Life session) (pc : session.pc = .receiving)
    (harmless : ∀ event ∈ before, ∃ fds, event = .installed fds) :
    Life { session with history := session.history ++ before ++ [.closedClient], pc := .ended } := by
  have facts := life.facts
  simp only [Facts, pc] at facts
  refine ⟨Guarded.snoc (life.lawful.append fun front event member => ?_) (lawful_inert rfl),
    .inl facts.2.unspawned⟩
  obtain ⟨fds, rfl⟩ := harmless event member
  exact lawful_inert rfl

theorem mapped {size base : Nat} {readOnly : Bool} (life : Life session)
    (pc : session.pc = .stating) :
    Life { session.record (.mapped base size readOnly) with size, base, pc := .queryingInfo } := by
  have facts := life.facts
  simp only [Facts, pc] at facts
  have recorded : Unregistered (session.record (.mapped base size readOnly)) := facts.2.record rfl
  exact ⟨life.lawful.snoc (lawful_inert rfl), fun _ => ⟨readOnly, by simp [Session.record]⟩,
    recorded.of_same rfl rfl rfl⟩

theorem regQueried (life : Life session) (pc : session.pc = .queryingInfo) :
    Life { session.record (.register session.base session.size flags) with pc := .registering } := by
  have facts := life.facts
  simp only [Facts, pc] at facts
  have recorded : Unregistered (session.record (.register session.base session.size flags)) :=
    facts.2.record rfl
  exact ⟨life.lawful.snoc (lawful_inert rfl), facts.1.record, recorded.of_same rfl rfl rfl⟩

/-- The driver gives out the first and only index of the session. -/
theorem regExecuted {index : Nat} (life : Life session) (pc : session.pc = .registering) :
    Life { session.record (.registered index) with pc := .registered index } := by
  have facts := life.facts
  simp only [Facts, pc] at facts
  obtain ⟨mapped, unregistered⟩ := facts
  have first : ∀ other, .registered other ∉ session.history :=
    fun _ => unregistered.unregistered.not_mem rfl
  refine ⟨life.lawful.snoc ⟨first, fun _ _ => unregistered.unreleased.not_mem rfl⟩, mapped.record,
    (unregistered.toPristine.record rfl rfl).of_same rfl rfl, by simp [Session.record],
    fun other member => ?_⟩
  rcases List.mem_append.mp member with before | now
  · exact (first other before).elim
  · cases List.mem_singleton.mp now
    rfl

theorem regObserved {index : Nat} (life : Life session) (pc : session.pc = .registered index) :
    Life { session.record (.handleRegShm index session.base session.size) with
      index := (index : Int), pc := .callingReg } := by
  have facts := life.facts
  simp only [Facts, pc] at facts
  obtain ⟨mapped, pristine, own⟩ := facts
  exact ⟨life.lawful.snoc ⟨index, rfl, own.1⟩, mapped.record,
    (pristine.record rfl rfl).of_same rfl rfl,
    index, rfl, own.snoc rfl, session.base, session.size, by simp [Session.record]⟩

/-- Behind `handle_reg_shm` the result is 0, and no guard of `handle` runs. -/
theorem regHandled (life : Life session) (pc : session.pc = .callingReg) :
    Life ((session.record .regShmSucceeded).handleEnded .value) := by
  have facts := life.facts
  simp only [Facts, pc] at facts
  obtain ⟨mapped, pristine, own, same, mine, base, size, called⟩ := facts
  have succeeded : Guarded Lawful (session.history ++ [.regShmSucceeded]) :=
    life.lawful.snoc (lawful_inert rfl)
  refine ⟨succeeded.snoc fun _ => ⟨own, base, size, ?_, ?_, ?_⟩, fun _ => ?_, fun failure => ?_⟩
  · exact List.mem_append_left _ mine.1
  · exact List.mem_append_left _ called
  · simp
  · exact
      { unspawned := pristine.unspawned
        unreleased := ((absent_snoc _ _ _).mpr ⟨(absent_snoc _ _ _).mpr ⟨pristine.unreleased, rfl⟩, rfl⟩)
        index := ⟨own, same, (mine.snoc rfl).snoc rfl, Called.snoc (Called.snoc ⟨base, size, called⟩)⟩
        mapped := mapped.record.record }
  · exact absurd failure (by decide)

/-! ## From the result to the end -/

theorem resultSent {res : BitVec 32} (life : Life session) (pc : session.pc = .sending res)
    (success : 0 ≤ res.toInt) : Life { session with pc := .awaitingClose res } := by
  have facts := life.facts
  simp only [Facts, pc] at facts
  exact ⟨life.lawful, success, (facts.1 success).atPc⟩

/-- The guards at the end of the session only close descriptors once a task is there. -/
theorem close {guard : Guard} {task : Cleanup} (lawful : Guarded Lawful session.history)
    (releasing : Releasing session guard task) : Life session.close :=
  ⟨(lawful.snoc (lawful_inert rfl)).snoc (lawful_inert rfl), .of_releasing releasing.close (.inl rfl)⟩

/-- A session that ends with its result sent leaves one clean-up task, its own or
that of `handle`. -/
theorem hungUp {res : BitVec 32} {why : Hangup} (life : Life session)
    (pc : session.pc = .sending res ∨ session.pc = .awaitingClose res) :
    Life ((session.record (.hangup why)).finish res) := by
  have recorded : Guarded Lawful (session.record (.hangup why)).history :=
    life.lawful.snoc (lawful_inert rfl)
  obtain ⟨serving, releasing⟩ := life.facts.result pc
  rw [Session.finish]
  by_cases success : 0 ≤ res.toInt
  · rw [if_pos success]
    exact close recorded ((serving success).hungUp)
  · rw [if_neg success]
    obtain ⟨guard, task, releasing⟩ := releasing (by omega)
    exact close recorded (releasing.record rfl)

/-! ## The clean-up task -/

section Task

variable {guard : Guard} {task : Cleanup}

/-- A task at one of its suspensions: its copy, its progress, and where the session is. -/
theorem suspended {pc : CleanupPc} (life : Life session) (spawned : session.cleanups guard = some task)
    (here : task.pc = pc) :
    Holding session guard task ∧ Progress task.index session.history pc ∧
      (session.pc = .ended ∨ ∃ res, session.pc = .sending res ∧ res.toInt < 0) := by
  obtain ⟨releasing, place⟩ := life.facts.releasing spawned
  exact ⟨releasing.toHolding, here ▸ releasing.progress, place⟩

theorem setCleanup {pc : CleanupPc} (life : Life session)
    (spawned : session.cleanups guard = some task)
    (progress : Progress task.index session.history pc) :
    Life (session.setCleanup guard task pc) := by
  obtain ⟨holding, _, place⟩ := life.suspended spawned rfl
  exact ⟨life.lawful, .of_releasing ⟨holding.setCleanup, progress⟩ place⟩

theorem cleanupRun (life : Life session) (spawned : session.cleanups guard = some task)
    (pc : task.pc = .scheduled) (indexed : task.index ≠ -1) :
    Life (session.setCleanup guard task .queryingInfo) := by
  obtain ⟨_, unreleased, _⟩ := life.suspended spawned pc
  exact life.setCleanup spawned ⟨indexed, unreleased⟩

theorem cleanupQueried (life : Life session) (spawned : session.cleanups guard = some task)
    (pc : task.pc = .queryingInfo) :
    Life ((session.record (.unregister task.index)).setCleanup guard task .unregistering) := by
  obtain ⟨holding, ⟨indexed, unreleased⟩, place⟩ := life.suspended spawned pc
  obtain ⟨own, same, mine, _⟩ := holding.owned indexed
  have lawful : Guarded Lawful (session.history ++ [.unregister task.index]) :=
    life.lawful.snoc ⟨fun _ => unreleased.not_mem rfl, ⟨own, same, mine.1⟩, holding.discharged⟩
  refine ⟨lawful, .of_releasing ⟨(holding.record rfl rfl).setCleanup, indexed, ?_, ?_,
    fun other member => ?_⟩ place⟩
  · exact List.mem_concat_self
  · exact (absent_snoc _ _ _).mpr ⟨unreleased.late, rfl⟩
  · rcases List.mem_append.mp member with before | now
    · exact unreleased.not_mem rfl before
    · simp at now

theorem cleanupExecuted (life : Life session) (spawned : session.cleanups guard = some task)
    (pc : task.pc = .unregistering) :
    Life ((session.record (.unregistered task.index)).setCleanup guard task .unregistered) := by
  obtain ⟨holding, ⟨indexed, issued, unreleased, first⟩, place⟩ := life.suspended spawned pc
  refine ⟨life.lawful.snoc ⟨first, issued⟩,
    .of_releasing ⟨(holding.record rfl rfl).setCleanup, indexed, ?_, ?_⟩ place⟩
  · exact List.mem_concat_self
  · exact (absent_snoc _ _ _).mpr ⟨unreleased, rfl⟩

/-- What `munmap` needs: it was not called before, and no index is left. -/
theorem unmap (lawful : Guarded Lawful session.history) (holding : Holding session guard task)
    (place : session.pc = .ended ∨ ∃ res, session.pc = .sending res ∧ res.toInt < 0)
    (first : ∀ base size, .unmapped base size ∉ session.history)
    (unregistered : ∀ index : Nat, .registered index ∈ session.history → .unregistered index ∈ session.history) :
    Life (session.unmap guard task) := by
  rw [Session.unmap]
  by_cases nonnull : task.base ≠ 0
  · rw [if_pos nonnull]
    have mapped := holding.mapped (holding.base ▸ nonnull)
    rw [← holding.base, ← holding.size] at mapped
    exact ⟨lawful.snoc ⟨first, mapped, unregistered⟩,
      .of_releasing ⟨(holding.record rfl rfl).setCleanup, trivial⟩ place⟩
  · rw [if_neg nonnull]
    exact ⟨lawful, .of_releasing ⟨holding.setCleanup, trivial⟩ place⟩

theorem cleanupUnmap (life : Life session) (spawned : session.cleanups guard = some task)
    (pc : task.pc = .scheduled) (unindexed : task.index = -1) :
    Life (session.unmap guard task) := by
  obtain ⟨holding, unreleased, place⟩ := life.suspended spawned pc
  have unregistered := holding.known.absent (holding.index ▸ unindexed)
  exact unmap life.lawful holding place (fun _ _ => unreleased.not_mem rfl)
    (fun _ member => (unregistered.not_mem rfl member).elim)

theorem cleanupObserved (life : Life session) (spawned : session.cleanups guard = some task)
    (pc : task.pc = .unregistered) :
    Life ((session.record (.handleUnregShm task.index)).unmap guard task) := by
  obtain ⟨holding, ⟨indexed, unregistered, unreleased⟩, place⟩ := life.suspended spawned pc
  obtain ⟨own, same, mine, base, size, called⟩ := holding.owned indexed
  have lawful : Guarded Lawful (session.record (.handleUnregShm task.index)).history :=
    life.lawful.snoc ⟨fun _ => unreleased.not_mem rfl, unregistered, base, size, same ▸ called⟩
  refine unmap lawful (holding.record rfl rfl) place (fun base size member => ?_)
    (fun index member => List.mem_append_left _ ?_)
  · rcases List.mem_append.mp member with before | now
    · exact unreleased.not_mem rfl before
    · simp at now
  · rw [mine.2 index (mem_of_mem_snoc Event.isRegistered rfl rfl member), ← same]
    exact unregistered

end Task

/-- Every step of a session keeps its law, as long as errors carry positive codes. -/
theorem step (life : Life session) (positive : errorsPositive action = true)
    (moved : Move flags session action after) : Life after := by
  cases moved with
  | started pc => exact life.started pc
  | neverStarted pc => exact life.neverStarted pc
  | received pc => exact life.received pc
  | turnedAway before pc harmless => exact life.turnedAway pc harmless
  | mapped pc nonnull => exact life.mapped pc
  | handleFailed size pc known failed negative alone =>
      exact life.handleFailed pc known failed (negative positive)
  | regQueried pc => exact life.regQueried pc
  | regExecuted pc => exact life.regExecuted pc
  | regObserved pc => exact life.regObserved pc
  | regHandled pc => exact life.regHandled pc
  | resultSent pc success => exact life.resultSent pc success
  | failureSent pc failure =>
      obtain ⟨guard, task, releasing⟩ := (life.facts.result (.inl pc)).2 failure
      exact close life.lawful releasing
  | hungUp pc alone => exact life.hungUp pc
  | cleanupRun spawned pc indexed => exact life.cleanupRun spawned pc indexed
  | cleanupUnmap spawned pc unindexed => exact life.cleanupUnmap spawned pc unindexed
  | cleanupDropped spawned pc => exact life.setCleanup spawned trivial
  | cleanupQueried spawned pc => exact life.cleanupQueried spawned pc
  | cleanupUnqueried spawned pc => exact life.setCleanup spawned trivial
  | cleanupExecuted spawned pc => exact life.cleanupExecuted spawned pc
  | cleanupRefused spawned pc => exact life.setCleanup spawned trivial
  | cleanupObserved spawned pc => exact life.cleanupObserved spawned pc

theorem new : Life .new :=
  ⟨guarded_nil, rfl, ⟨fun _ => rfl, absent_nil _, absent_nil _⟩, rfl, absent_nil _⟩

theorem reachable {permits : Server → ServerAction → Prop}
    (positive : ∀ {server action}, permits server action → onSessions errorsPositive action = true)
    (reached : Reachable (shmServer flags) permits server) (id : Nat) : Life (server.sessions id) :=
  session_invariant (fun _ action => errorsPositive action = true) (fun allowed => positive allowed) new
    (fun life alright moved => life.step alright moved) reached id

end Life

end Ublk.Shm
