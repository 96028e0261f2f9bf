import Ublk.Shm.Server

namespace Ublk.Shm

open Ublk.Machine

variable {flags : BitVec 32} {session next : Session} {action : Action} {server : Server}

/-! # The descriptors of a session

`shm_session` receives into `char control[CMSG_SPACE(sizeof(int))]` and takes one
descriptor out of it. The kernel fills whatever is there behind the header, padding
included, and every descriptor it installs is one that the session has to close.
-/

def sizeofInt : Nat := 4

def sizeofCmsghdr : Nat := 16

/-- `CMSG_ALIGN`: up to a multiple of `sizeof(size_t)`. -/
def cmsgAlign (len : Nat) : Nat := (len + 8 - 1) / 8 * 8

def cmsgSpace (len : Nat) : Nat := cmsgAlign len + cmsgAlign sizeofCmsghdr

/-- How many of the descriptors in a message the kernel installs in the server. -/
def installs (sent : Nat) : Nat := min sent ((cmsgSpace sizeofInt - sizeofCmsghdr) / sizeofInt)

theorem installs_eq (sent : Nat) : installs sent = min sent 2 := rfl

/-- The kernel installs descriptors under numbers that were not in use. -/
def Fresh (fds : List Int) : Prop := fds.Nodup ∧ ∀ fd ∈ fds, 0 ≤ fd

instance (fds : List Int) : Decidable (Fresh fds) := inferInstanceAs (Decidable (_ ∧ _))

def installsFresh : Action → Bool
  | .received (.value fds) => decide (Fresh fds)
  | _ => true

def Event.ofDescriptor : Event → Bool
  | .installed _ => true
  | .closedReceived _ => true
  | .closedClient => true
  | _ => false

def Session.descriptorEvents (session : Session) : List Event := session.history.filter Event.ofDescriptor

def closings : List Int → List Event
  | [] => [.closedClient]
  | fd :: _ => [.closedReceived fd, .closedClient]

/-- Between `recvmsg` and the end a session holds what it was given, and knows the
first of it. -/
def HoldsDescriptors (session : Session) : Prop :=
  ∃ fd rest, Fresh (fd :: rest) ∧ session.receivedFd = fd ∧
    session.descriptorEvents = [.installed (fd :: rest)]

def Ledger (session : Session) : Prop :=
  match session.pc with
  | .scheduled => session.descriptorEvents = []
  | .receiving => session.descriptorEvents = []
  | .ended => session.descriptorEvents = [] ∨ session.descriptorEvents = [.closedClient] ∨
      ∃ fds, Fresh fds ∧ session.descriptorEvents = .installed fds :: closings fds
  | _ => HoldsDescriptors session

def Pc.holding : Pc → Bool
  | .scheduled => false
  | .receiving => false
  | .ended => false
  | _ => true

theorem Ledger.holds (ledger : Ledger session) (holding : session.pc.holding = true) : HoldsDescriptors session := by
  rw [Ledger] at ledger
  cases pc : session.pc <;> simp_all [Pc.holding]

theorem HoldsDescriptors.ledger (holds : HoldsDescriptors session) (holding : session.pc.holding = true) : Ledger session := by
  rw [Ledger]
  cases pc : session.pc <;> simp_all [Pc.holding]

/-- A step of a clean-up task is no step of the session itself. -/
theorem Ledger.congr (ledger : Ledger session) (pc : next.pc = session.pc)
    (receivedFd : next.receivedFd = session.receivedFd)
    (events : next.descriptorEvents = session.descriptorEvents) : Ledger next := by
  simpa only [Ledger, HoldsDescriptors, pc, receivedFd, events] using ledger

theorem Ledger.forward (ledger : Ledger session) (holding : session.pc.holding = true)
    (still : next.pc.holding = true) (receivedFd : next.receivedFd = session.receivedFd)
    (events : next.descriptorEvents = session.descriptorEvents) : Ledger next := by
  refine HoldsDescriptors.ledger ?_ still
  simpa only [HoldsDescriptors, receivedFd, events] using ledger.holds holding

theorem Session.descriptorEvents_other {event : Event} (other : event.ofDescriptor = false)
    (history : next.history = session.history ++ [event]) :
    next.descriptorEvents = session.descriptorEvents := by
  have dropped : [event].filter Event.ofDescriptor = [] := by simp [other]
  rw [descriptorEvents, history, List.filter_append, dropped, List.append_nil, descriptorEvents]

theorem Ledger.ended (ledger : Ledger session) (holding : session.pc.holding = true)
    (ended : next.pc = .ended)
    (events : next.descriptorEvents =
      session.descriptorEvents ++ [.closedReceived session.receivedFd, .closedClient]) :
    Ledger next := by
  obtain ⟨fd, rest, fresh, receivedFd, held⟩ := ledger.holds holding
  rw [Ledger]
  rw [ended]
  refine .inr (.inr ⟨fd :: rest, fresh, ?_⟩)
  rw [events, held, receivedFd]
  rfl

@[simp] theorem Session.handleEnded_receivedFd (session : Session) (how : Session.HandleEnd) :
    (session.handleEnded how).receivedFd = session.receivedFd := by
  rw [handleEnded]
  split <;> rfl

@[simp] theorem Session.unmap_receivedFd (session : Session) (guard : Guard) (task : Cleanup) :
    (session.unmap guard task).receivedFd = session.receivedFd := by
  rw [unmap]
  split <;> rfl

theorem Session.unmap_descriptorEvents (session : Session) (guard : Guard) (task : Cleanup) :
    (session.unmap guard task).descriptorEvents = session.descriptorEvents := by
  simp only [descriptorEvents, unmap_history, List.filter_append]
  split <;> simp [Event.ofDescriptor]

theorem Ledger.unmap (ledger : Ledger session) (guard : Guard) (task : Cleanup) :
    Ledger (session.unmap guard task) :=
  ledger.congr (session.unmap_pc guard task) (session.unmap_receivedFd guard task)
    (session.unmap_descriptorEvents guard task)

theorem Ledger.received {answer : Awaited (List Int)} (ledger : Ledger session)
    (fresh : installsFresh (.received answer) = true) (taken : session.received answer = some next) :
    Ledger next := by
  simp only [Session.received] at taken
  split at taken
  · rename_i pc
    have empty : session.descriptorEvents = [] := by simpa only [Ledger, pc] using ledger
    simp only [Session.descriptorEvents] at empty
    cases answer with
    | value fds =>
        simp only [installsFresh, decide_eq_true_eq] at fresh
        simp only at taken
        split at taken
        · rename_i none
          cases taken
          -- a descriptor is not negative, so there was none
          cases fds with
          | nil =>
              refine .inr (.inr ⟨[], fresh, ?_⟩)
              simp [Session.descriptorEvents, Session.record, List.filter_append, empty, Event.ofDescriptor, closings]
          | cons fd rest =>
              have nonnegative : 0 ≤ fd := fresh.2 fd List.mem_cons_self
              simp only [List.headD_cons] at none
              omega
        · rename_i some
          cases taken
          cases fds with
          | nil => exact absurd rfl some
          | cons fd rest =>
              refine ⟨fd, rest, fresh, rfl, ?_⟩
              simp [Session.descriptorEvents, Session.record, List.filter_append, empty, Event.ofDescriptor]
    | error err =>
        cases taken
        refine .inr (.inl ?_)
        simp [Session.descriptorEvents, Session.record, List.filter_append, empty, Event.ofDescriptor]
    | stopped =>
        cases taken
        refine .inr (.inl ?_)
        simp [Session.descriptorEvents, Session.record, List.filter_append, empty, Event.ofDescriptor]
  · contradiction

theorem Ledger.step (ledger : Ledger session) (fresh : installsFresh action = true)
    (taken : session.step flags action = some next) : Ledger next := by
  by_cases receives : ∃ answer, action = .received answer
  · obtain ⟨answer, rfl⟩ := receives
    exact ledger.received fresh taken
  cases Session.step_move taken with
  | started pc =>
      simp only [Ledger, pc] at ledger
      exact ledger
  | neverStarted pc =>
      simp only [Ledger, pc] at ledger
      exact .inl ledger
  | received => exact absurd ⟨_, rfl⟩ receives
  | turnedAway => exact absurd ⟨_, rfl⟩ receives
  | mapped pc =>
      exact ledger.forward (by rw [pc]; rfl) rfl rfl (Session.descriptorEvents_other rfl rfl)
  | handleFailed size pc =>
      refine ledger.forward ?_ rfl (by simp) (by simp [Session.descriptorEvents, Event.ofDescriptor])
      rcases pc with pc | pc | pc | pc <;> rw [pc] <;> rfl
  | regQueried pc =>
      exact ledger.forward (by rw [pc]; rfl) rfl rfl (Session.descriptorEvents_other rfl rfl)
  | regExecuted pc =>
      exact ledger.forward (by rw [pc]; rfl) rfl rfl (Session.descriptorEvents_other rfl rfl)
  | regObserved pc =>
      exact ledger.forward (by rw [pc]; rfl) rfl rfl (Session.descriptorEvents_other rfl rfl)
  | regHandled pc =>
      exact ledger.forward (by rw [pc]; rfl) rfl (by simp [Session.record])
        (by simp [Session.descriptorEvents, Event.ofDescriptor])
  | resultSent pc => exact ledger.forward (by rw [pc]; rfl) rfl rfl rfl
  | failureSent pc =>
      exact ledger.ended (by rw [pc]; rfl) rfl
        (by simp [Session.descriptorEvents, Event.ofDescriptor])
  | hungUp pc =>
      refine ledger.ended ?_ (by simp) (by simp [Session.descriptorEvents, Session.record, Event.ofDescriptor])
      rcases pc with pc | pc <;> rw [pc] <;> rfl
  | cleanupRun => exact ledger.congr rfl rfl rfl
  | cleanupUnmap => exact ledger.unmap _ _
  | cleanupDropped => exact ledger.congr rfl rfl rfl
  | cleanupQueried => exact ledger.congr rfl rfl (Session.descriptorEvents_other rfl rfl)
  | cleanupUnqueried => exact ledger.congr rfl rfl rfl
  | cleanupExecuted => exact ledger.congr rfl rfl (Session.descriptorEvents_other rfl rfl)
  | cleanupRefused => exact ledger.congr rfl rfl rfl
  | @cleanupObserved guard task =>
      have recorded : Ledger (session.record (.handleUnregShm task.index)) :=
        ledger.congr rfl rfl (Session.descriptorEvents_other rfl rfl)
      exact recorded.unmap guard task

theorem Ledger.reachable
    (reached : Reachable (shmServer flags) (fun _ action => onSessions installsFresh action = true) server)
    (id : Nat) : Ledger (server.sessions id) := by
  have start : Ledger .new := rfl
  exact session_step_invariant (fun _ action => installsFresh action = true) (fun allowed => allowed) start
    (fun ledger fresh taken => ledger.step fresh taken) reached id

/-! ## What is closed at the end -/

/-- Every installed descriptor and the accepted one are closed once. -/
def ClosedOnce (history : List Event) (fds : List Int) : Prop :=
  (∀ fd ∈ fds, history.count (.closedReceived fd) = 1) ∧ history.count .closedClient = 1

instance (history : List Event) (fds : List Int) : Decidable (ClosedOnce history fds) :=
  inferInstanceAs (Decidable (_ ∧ _))

theorem Session.count_descriptorEvents (session : Session) {event : Event} (kind : event.ofDescriptor = true) :
    session.history.count event = session.descriptorEvents.count event :=
  (List.count_filter kind).symm

/-- Only the first descriptor is ever closed. -/
theorem closedOnce_iff {fds : List Int} (fresh : Fresh fds)
    (events : session.descriptorEvents = .installed fds :: closings fds) :
    ClosedOnce session.history fds ↔ fds.length ≤ 1 := by
  have counted {event : Event} (kind : event.ofDescriptor = true) :
      session.history.count event = (Event.installed fds :: closings fds).count event := by
    rw [session.count_descriptorEvents kind, events]
  have client : session.history.count .closedClient = 1 := by
    rw [counted rfl]
    cases fds <;> rfl
  match fds, fresh with
  | [], _ => simp [ClosedOnce, client]
  | [fd], _ =>
      have first : session.history.count (.closedReceived fd) = 1 := by
        rw [counted rfl]
        simp [closings]
      simp [ClosedOnce, client, first]
  | fd :: second :: rest, fresh =>
      have other : fd ≠ second := by
        rintro rfl
        simp [Fresh] at fresh
      have left : session.history.count (.closedReceived second) = 0 := by
        rw [counted rfl]
        simp [closings, other]
      refine iff_of_false (fun closed => ?_) (by simp)
      have once := closed.1 second (by simp)
      omega

/-- At the end of a session that was sent a message with `sent` descriptors, each one the
kernel installed is closed once, and so is the client's, if and only if the message
carried no second one. -/
theorem descriptors_closed_iff
    (reached : Reachable (shmServer flags) (fun _ action => onSessions installsFresh action = true) server)
    (id : Nat) (sent : Nat) {fds : List Int}
    (installed : .installed fds ∈ (server.sessions id).history) (message : fds.length = installs sent)
    (ended : (server.sessions id).pc = .ended) :
    ClosedOnce (server.sessions id).history fds ↔ sent ≤ 1 := by
  have recorded : .installed fds ∈ (server.sessions id).descriptorEvents :=
    List.mem_filter.mpr ⟨installed, rfl⟩
  have ledger : Ledger (server.sessions id) := Ledger.reachable reached id
  simp only [Ledger, ended] at ledger
  rcases ledger with none | refused | ⟨held, fresh, events⟩
  · simp [none] at recorded
  · simp [refused] at recorded
  · have same : fds = held := by
      rw [events] at recorded
      cases held <;> simpa [closings] using recorded
    subst same
    rw [closedOnce_iff fresh events, message, installs_eq]
    omega

/-- A client that sends one descriptor, is served and closes the connection. -/
theorem descriptors_closed_served :
    ∃ server, Reachable (shmServer 0) (fun _ action => onSessions installsFresh action = true) server ∧
      (server.sessions 0).pc = .ended ∧ ClosedOnce (server.sessions 0).history [3] := by
  obtain ⟨server, reached, ended, installed⟩ := exists_of_replay (shmServer 0)
    (fun _ action => onSessions installsFresh action = true)
    (Server.registers 0 7 4096 64 ++ Server.answers 0 ++ [.session 0 (.closed (.value 0))])
    (fun server => (server.sessions 0).pc = .ended ∧ .installed [3] ∈ (server.sessions 0).history) (by decide)
  exact ⟨server, reached, ended, (descriptors_closed_iff reached 0 1 installed rfl ended).mpr (by decide)⟩

/-- The padding behind the first descriptor has room for a second one, which nothing
closes. -/
theorem second_descriptor_leaks :
    ∃ server, Reachable (shmServer 0) (fun _ action => onSessions installsFresh action = true) server ∧
      (server.sessions 0).pc = .ended ∧ [3, 4].length = installs 2 ∧
      .installed [3, 4] ∈ (server.sessions 0).history ∧
      ¬ ClosedOnce (server.sessions 0).history [3, 4] :=
  exists_of_replay (shmServer 0) (fun _ action => onSessions installsFresh action = true)
    [.accept, .session 0 .started, .session 0 (.received (.value [3, 4])),
      .session 0 (.stated (.error .other) (.ok 0)), .session 0 (.sent (.value ()))]
    (fun server => (server.sessions 0).pc = .ended ∧ [3, 4].length = installs 2 ∧
      .installed [3, 4] ∈ (server.sessions 0).history ∧
      ¬ ClosedOnce (server.sessions 0).history [3, 4]) (by decide)

end Ublk.Shm
