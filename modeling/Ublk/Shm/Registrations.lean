import Ublk.Shm.Lifecycle

namespace Ublk.Shm

open Ublk.Machine

variable {flags : BitVec 32} {session after : Session} {action : Action} {server next : Server}

/-! # Registrations

The driver's table says the same as the histories of the sessions, so what a session
does in order it also does in order for the driver.
-/

/-- Each event of the driver and the handler belongs to one kind of step. -/
def Event.madeBy : Event → Action → Bool
  | .registered _, .regExecuted _ => true
  | .registered _, _ => false
  | .unregistered _, .cleanupExecuted _ => true
  | .unregistered _, _ => false
  | .handleRegShm _ _ _, .regObserved => true
  | .handleRegShm _ _ _, _ => false
  | _, _ => true

/-- The two steps in which the driver executes a command. -/
def Action.drives : Action → Bool
  | .regExecuted _ => true
  | .cleanupExecuted _ => true
  | _ => false

theorem Action.drives_of_alone (alone : action.concernsOthers = false) : action.drives = false := by
  cases action <;> first | rfl | cases alone

theorem Move.history (moved : Move flags session action after) :
    ∃ more, after.history = session.history ++ more ∧ ∀ event ∈ more, event.madeBy action = true := by
  cases moved with
  | @turnedAway answer before pc harmless =>
      refine ⟨before ++ [.closedClient], by simp, fun event member => ?_⟩
      rcases List.mem_append.mp member with installed | closed
      · obtain ⟨fds, rfl⟩ := harmless event installed
        rfl
      · cases List.mem_singleton.mp closed
        rfl
  | started | neverStarted | resultSent | cleanupRun | cleanupDropped | cleanupUnqueried | cleanupRefused =>
      exact ⟨[], by simp, by simp⟩
  | failureSent => exact ⟨_, Session.close_history _, by simp [Event.madeBy]⟩
  | cleanupUnmap =>
      refine ⟨_, Session.unmap_history _ _ _, ?_⟩
      split <;> simp [Event.madeBy]
  | cleanupObserved =>
      refine ⟨_, (Session.unmap_history _ _ _).trans (List.append_assoc _ _ _), ?_⟩
      split <;> simp [Event.madeBy]
  | hungUp =>
      exact ⟨_, (Session.finish_history _ _).trans (List.append_assoc _ _ _),
        by simp [Event.madeBy]⟩
  | regHandled =>
      exact ⟨_, (Session.handleEnded_history _ _).trans (List.append_assoc _ _ _),
        by simp [Event.madeBy]⟩
  | handleFailed => exact ⟨_, Session.handleEnded_history _ _, by simp [Event.madeBy]⟩
  | received | mapped | regQueried | regExecuted | regObserved | cleanupQueried | cleanupExecuted =>
      exact ⟨[_], rfl, by simp [Event.madeBy]⟩

theorem Move.mem_history_iff {event : Event} (moved : Move flags session action after)
    (elsewhere : event.madeBy action = false) :
    event ∈ after.history ↔ event ∈ session.history := by
  obtain ⟨more, grown, made⟩ := moved.history
  rw [grown, List.mem_append]
  refine ⟨fun either => either.resolve_right fun new => ?_, .inl⟩
  simp [made event new] at elsewhere

def Holds (session : Session) (index : Nat) : Prop :=
  .registered index ∈ session.history ∧ .unregistered index ∉ session.history

def Registrations (server : Server) : Prop :=
  ∀ index id, server.owner index = some id ↔ id < server.accepted ∧ Holds (server.sessions id) index

theorem Move.holds_iff (moved : Move flags session action after) (idle : action.drives = false)
    (index : Nat) :
    Holds after index ↔ Holds session index := by
  have registered : (Event.registered index).madeBy action = false := by
    cases action <;> first | rfl | cases idle
  have unregistered : (Event.unregistered index).madeBy action = false := by
    cases action <;> first | rfl | cases idle
  exact and_congr (moved.mem_history_iff registered)
    (not_congr (moved.mem_history_iff unregistered))

theorem not_holds_registering (life : Life session) (pc : session.pc = .registering) (index : Nat) :
    ¬ Holds session index := by
  have facts := life.facts
  simp only [Facts, pc] at facts
  exact fun held => facts.2.unregistered.not_mem rfl held.1

theorem holds_regExecuted {given : Nat} (life : Life session) (pc : session.pc = .registering)
    (index : Nat) :
    Holds { session.record (.registered given) with pc := .registered given } index ↔ index = given := by
  have facts := life.facts
  simp only [Facts, pc] at facts
  have unregistered : .registered index ∉ session.history := facts.2.unregistered.not_mem rfl
  have unreleased : .unregistered (index : Int) ∉ session.history := facts.2.unreleased.not_mem rfl
  simp [Holds, unregistered, unreleased]

theorem not_holds_new (index : Nat) : ¬ Holds .new index := by
  simp [Holds, Session.new]

/-- The task that waits for its unregistration holds the index until then. -/
theorem Life.holds_unregistering {guard : Guard} {task : Cleanup} (life : Life session)
    (spawned : session.cleanups guard = some task) (pc : task.pc = .unregistering) :
    ∃ own : Nat, task.index = own ∧ ∀ index, Holds session index ↔ index = own := by
  obtain ⟨holding, ⟨indexed, _, _, unreleased⟩, _⟩ := life.suspended spawned pc
  obtain ⟨own, same, mine, _⟩ := holding.owned indexed
  refine ⟨own, same, fun index => ⟨fun held => mine.2 index held.1, ?_⟩⟩
  rintro rfl
  exact ⟨mine.1, unreleased _⟩

theorem not_holds_cleanupExecuted {guard : Guard} {task : Cleanup} (life : Life session)
    (spawned : session.cleanups guard = some task) (pc : task.pc = .unregistering) (index : Nat) :
    ¬ Holds ((session.record (.unregistered task.index)).setCleanup guard task .unregistered) index := by
  obtain ⟨own, same, held⟩ := life.holds_unregistering spawned pc
  rintro ⟨registered, unreleased⟩
  simp only [Session.setCleanup_history, Session.record_history, List.mem_append,
    List.mem_singleton, not_or,
    reduceCtorEq, or_false] at registered unreleased
  have mine : index = own := (held index).mp ⟨registered, unreleased.1⟩
  exact unreleased.2 (by rw [mine, same])

namespace Registrations

theorem initial : Registrations Server.initial := by
  intro index id
  simp [Server.initial]

theorem accept (registrations : Registrations server) :
    Registrations { server with
      sessions := Function.update server.sessions server.accepted .new
      accepted := server.accepted + 1 } := by
  intro index id
  rw [registrations index id]
  by_cases fresh : id = server.accepted
  · subst fresh
    simp [not_holds_new]
  · simp only [Function.update_of_ne fresh]
    exact and_congr_left fun _ => by omega

theorem of_other {id : Nat} {own : Session} {owner : Nat → Option Nat}
    {map : Nat → Option (Nat × Nat)}
    (registrations : Registrations server) (inside : id < server.accepted)
    (others : ∀ index other, other ≠ id → (owner index = some other ↔ server.owner index = some other))
    (mine : ∀ index, owner index = some id ↔ Holds own index) :
    Registrations { server with sessions := Function.update server.sessions id own, owner, map } := by
  intro index other
  by_cases same : other = id
  · subst same
    simp [mine index, inside]
  · simp only [Function.update_of_ne same]
    exact (others index other same).trans (registrations index other)

section Step

variable {id : Nat} {own : Session} {owner : Nat → Option Nat} {map : Nat → Option (Nat × Nat)}

theorem held_iff (registrations : Registrations server) (inside : id < server.accepted) (index : Nat) :
    server.owner index = some id ↔ Holds (server.sessions id) index := by
  rw [registrations index id]
  simp [inside]

/-- A free index goes to the session that registered it. -/
theorem regExecuted {given : Nat} (registrations : Registrations server)
    (inside : id < server.accepted) (life : Life (server.sessions id))
    (pc : (server.sessions id).pc = .registering) (free : server.owner given = none) :
    Registrations { server with
      sessions := Function.update server.sessions id
        { (server.sessions id).record (.registered given) with pc := .registered given }
      owner := Function.update server.owner given (some id)
      map } := by
  refine registrations.of_other inside (fun index other different => ?_) fun index => ?_
  · by_cases same : index = given
    · subst same
      simp [free, Ne.symm different]
    · simp [Function.update_of_ne same]
  · rw [holds_regExecuted life pc]
    by_cases same : index = given
    · simp [same]
    · simp only [Function.update_of_ne same, same, iff_false, registrations.held_iff inside]
      exact not_holds_registering life pc index

/-- An unregistration takes back the session's own index. -/
theorem cleanupExecuted {guard : Guard} {task : Cleanup} (registrations : Registrations server)
    (inside : id < server.accepted) (life : Life (server.sessions id))
    (spawned : (server.sessions id).cleanups guard = some task) (pc : task.pc = .unregistering) :
    Registrations { server with
      sessions := Function.update server.sessions id
        (((server.sessions id).record (.unregistered task.index)).setCleanup guard task .unregistered)
      owner := Function.update server.owner task.index.toNat none
      map } := by
  obtain ⟨given, same, only⟩ := life.holds_unregistering spawned pc
  have mine : server.owner given = some id :=
    (registrations.held_iff inside given).mpr ((only given).mpr rfl)
  have natural : task.index.toNat = given := by simp [same]
  rw [natural]
  refine registrations.of_other inside (fun index other different => ?_) fun index => ?_
  · by_cases equal : index = given
    · subst equal
      simp [mine, Ne.symm different]
    · simp [Function.update_of_ne equal]
  · simp only [not_holds_cleanupExecuted life spawned pc index, iff_false]
    by_cases equal : index = given
    · simp [equal]
    · rw [Function.update_of_ne equal, registrations.held_iff inside, only]
      exact equal

theorem stepSession (registrations : Registrations server) (inside : id < server.accepted)
    (life : Life (server.sessions id)) (moved : Move flags (server.sessions id) action own)
    (driven : driver server.owner id (server.sessions id) action = some owner) :
    Registrations { server with sessions := Function.update server.sessions id own, owner, map } := by
  cases drives : action.drives with
  | false =>
      have same : owner = server.owner := by
        cases action <;> first | exact (Option.some.inj driven).symm | cases drives
      subst same
      exact registrations.of_other inside (fun _ _ _ => Iff.rfl)
        fun index => (registrations.held_iff inside index).trans (moved.holds_iff drives index).symm
  | true =>
      cases moved with
      | regExecuted pc =>
          simp only [driver, Option.ite_none_right_eq_some, Option.some.injEq] at driven
          obtain ⟨free, rfl⟩ := driven
          exact registrations.regExecuted inside life pc free
      | cleanupExecuted spawned pc =>
          simp only [driver, spawned, Option.ite_none_right_eq_some, Option.some.injEq] at driven
          obtain ⟨_, rfl⟩ := driven
          exact registrations.cleanupExecuted inside life spawned pc
      | handleFailed size pc known failed negative alone =>
          simp [Action.drives_of_alone alone] at drives
      | hungUp pc alone => simp [Action.drives_of_alone alone] at drives
      | _ => cases drives

end Step

theorem reachable {permits : Server → ServerAction → Prop}
    (positive : ∀ {server action}, permits server action → onSessions errorsPositive action = true)
    (reached : Reachable (shmServer flags) permits server) : Registrations server := by
  refine reached.invariant _ initial fun before registrations _ taken => ?_
  cases Server.step_move taken with
  | accept accepting => exact registrations.accept
  | stopAccepting accepting => exact registrations
  | session inside moved driven =>
      exact registrations.stepSession inside (Life.reachable positive before _) moved driven
  | join stopped complete => exact registrations

end Registrations

/-- A mapping is given up only when no index is registered for it, and none is later. -/
theorem Life.not_holds_of_unmapped {base size index : Nat} (life : Life session)
    (unmapped : .unmapped base size ∈ session.history) : ¬ Holds session index := by
  rintro ⟨registered, unreleased⟩
  obtain ⟨front, back, split⟩ := List.append_of_mem unmapped
  have before := (life.lawful front _ back split).2.2 index
  rw [split] at registered unreleased
  rcases List.mem_append.mp registered with early | late
  · exact unreleased (List.mem_append_left _ (before early))
  · obtain ⟨middle, rest, again⟩ := List.append_of_mem late
    rcases middle with _ | ⟨first, middle⟩
    · simp at again
    · obtain ⟨rfl, tail⟩ := List.cons.inj again
      have law := life.lawful (front ++ .unmapped base size :: middle) (.registered index) rest
        (by rw [split, tail]; simp)
      exact law.2 base size (by simp)

/-- The lifecycle of every session of the server. -/
theorem session_lifecycle
    (reached : Reachable (shmServer flags) (fun _ action => onSessions errorsPositive action = true) server)
    (id : Nat) :
    Guarded Lawful (server.sessions id).history ∧
      ∀ base size, .unmapped base size ∈ (server.sessions id).history → ∀ index, server.owner index ≠ some id := by
  have life : Life (server.sessions id) := Life.reachable (fun allowed => allowed) reached id
  refine ⟨life.lawful, fun base size unmapped index owned => ?_⟩
  have held := ((Registrations.reachable (fun allowed => allowed) reached index id).mp owned).2
  exact life.not_holds_of_unmapped unmapped held

theorem session_lifecycle_oneClient :
    ∃ server, Reachable (shmServer 0) (fun _ action => onSessions errorsPositive action = true) server ∧
      .unmapped 4096 64 ∈ (server.sessions 0).history ∧ Guarded Lawful (server.sessions 0).history ∧
      ∀ index, server.owner index ≠ some 0 := by
  obtain ⟨server, reached, unmapped⟩ :=
    exists_of_replay (shmServer 0) (fun _ action => onSessions errorsPositive action = true)
      (Server.registers 0 7 4096 64 ++ Server.answers 0 ++ Server.unregisters 0 ++
        [.session 0 (.cleanupObserved .session)])
      (fun server => .unmapped 4096 64 ∈ (server.sessions 0).history) (by decide)
  obtain ⟨lawful, unowned⟩ := session_lifecycle reached 0
  exact ⟨server, reached, unmapped, lawful, unowned 4096 64 unmapped⟩

end Ublk.Shm
