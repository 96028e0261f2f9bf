import Ublk.Shm.Registrations

namespace Ublk.Shm

open Ublk.Machine

variable {flags : BitVec 32} {session after : Session} {action : Action} {server next : Server}

/-! # The handler's map

An index is free for the driver as soon as it is unregistered, but the handler hears
of it only when the clean-up task resumes. Where no index is given to the handler in
between, the map agrees with the driver's table.
-/

/-- The driver has taken the index back and `handle_unreg_shm` is still to be called. -/
def Outstanding (session : Session) (index : Int) : Prop :=
  ∃ guard, ∃ task ∈ session.cleanups guard, task.pc = .unregistered ∧ task.index = index

instance (session : Session) (index : Int) : Decidable (Outstanding session index) :=
  decidable_of_iff ((∃ task ∈ session.cleanups .handle, task.pc = .unregistered ∧ task.index = index) ∨
      ∃ task ∈ session.cleanups .session, task.pc = .unregistered ∧ task.index = index) <| by
    refine ⟨fun either => either.elim (⟨.handle, ·⟩) (⟨.session, ·⟩), ?_⟩
    rintro ⟨guard, found⟩
    cases guard
    · exact .inl found
    · exact .inr found

/-- `handle_reg_shm` is called only when no session owes the handler a
`handle_unreg_shm` for the same index. -/
def callbacksInOrder (server : Server) : ServerAction → Bool
  | .session id .regObserved =>
      match (server.sessions id).pc with
      | .registered index =>
          decide (∀ other < server.accepted, ¬ Outstanding (server.sessions other) index)
      | _ => true
  | _ => true

/-! ## The region of a session -/

/-- Only `statx` and `mmap` change the mapping, and only `regObserved` the index. -/
theorem Move.region_cases (moved : Move flags session action after)
    (other : action ≠ .regObserved) :
    after.region = session.region ∨ session.pc = .stating ∧ after.index = session.index := by
  cases moved with
  | mapped pc nonnull => exact .inr ⟨pc, rfl⟩
  | regObserved pc => exact (other rfl).elim
  | @handleFailed action how size pc known failed negative alone =>
      have same := ({ session with size } : Session).handleEnded_region how
      by_cases stating : session.pc = .stating
      · exact .inr ⟨stating, congrArg Prod.fst same⟩
      · exact .inl (by rw [same, known stating])
  | regHandled | failureSent | hungUp | cleanupRun | cleanupUnmap | cleanupDropped | cleanupQueried
  | cleanupUnqueried | cleanupExecuted | cleanupRefused | cleanupObserved => exact .inl (by simp)
  | _ => exact .inl rfl

theorem Move.index_eq (moved : Move flags session action after) (other : action ≠ .regObserved) :
    after.index = session.index := by
  rcases moved.region_cases other with same | ⟨_, same⟩
  · exact congrArg Prod.fst same
  · exact same

def Pc.beforeCall : Pc → Bool
  | .scheduled | .receiving | .stating | .queryingInfo | .registering | .registered _ => true
  | _ => false

theorem Move.beforeCall (moved : Move flags session action after)
    (early : after.pc.beforeCall = true) :
    session.pc.beforeCall = true := by
  cases moved with
  | started pc | neverStarted pc | received pc | turnedAway _ pc | mapped pc | regQueried pc | regExecuted pc
  | regObserved pc => rw [pc]; rfl
  | handleFailed | regHandled | resultSent | failureSent => cases early
  | @hungUp action res why pc alone => rw [Session.finish_pc] at early; cases early
  | cleanupUnmap | cleanupObserved =>
      rw [Session.unmap_pc] at early
      exact early
  | _ => exact early

/-- `handle_reg_shm` is called with the session's own region, and the region stays. -/
structure Told (session : Session) : Prop where
  early : session.pc.beforeCall = true → session.index = -1 ∧
    ∀ index base size, .handleRegShm index base size ∉ session.history
  region : ∀ index base size, .handleRegShm index base size ∈ session.history →
    session.region = (index, base, size)

namespace Told

theorem new : Told .new where
  early _ := ⟨rfl, fun _ _ _ => by simp [Session.new]⟩
  region _ _ _ member := by simp [Session.new] at member

theorem regObserved {index : Nat} (told : Told session) (pc : session.pc = .registered index) :
    Told { session.record (.handleRegShm index session.base session.size) with
      index := (index : Int), pc := .callingReg } where
  early before := by cases before
  region other base size member := by
    rcases List.mem_append.mp member with called | now
    · exact ((told.early (by rw [pc]; rfl)).2 other base size called).elim
    · cases List.mem_singleton.mp now
      rfl

theorem step (told : Told session) (moved : Move flags session action after) : Told after := by
  by_cases observed : action = .regObserved
  · subst observed
    cases moved with
    | regObserved pc => exact told.regObserved pc
    | handleFailed size pc known failed negative alone => cases alone
    | hungUp pc alone => cases alone
  · have calls (index : Int) (base size : Nat) :
        .handleRegShm index base size ∈ after.history ↔ .handleRegShm index base size ∈ session.history :=
      moved.mem_history_iff (by cases action <;> first | rfl | exact (observed rfl).elim)
    refine ⟨fun before => ?_, fun index base size member => ?_⟩
    · obtain ⟨unindexed, uncalled⟩ := told.early (moved.beforeCall before)
      exact ⟨(moved.index_eq observed).trans unindexed, fun index base size member =>
        uncalled index base size ((calls index base size).mp member)⟩
    · have called := (calls index base size).mp member
      rcases moved.region_cases observed with same | ⟨stating, _⟩
      · exact same.trans (told.region index base size called)
      · exact ((told.early (by rw [stating]; rfl)).2 index base size called).elim

theorem reachable {permits : Server → ServerAction → Prop}
    (reached : Reachable (shmServer flags) permits server)
    (id : Nat) : Told (server.sessions id) :=
  session_invariant (fun _ _ => True) (fun _ => trivial) new (fun told _ moved => told.step moved) reached id

end Told

/-! ## What the handler is owed -/

theorem Outstanding.of_update {guard : Guard} {task : Cleanup} {index : Int}
    (cleanups : after.cleanups = Function.update session.cleanups guard (some task))
    (elsewhere : task.pc = .unregistered → task.index ≠ index)
    (outstanding : Outstanding after index) :
    Outstanding session index := by
  obtain ⟨other, found, spawned, pc, same⟩ := outstanding
  rw [cleanups] at spawned
  by_cases equal : other = guard
  · subst equal
    rw [Function.update_self] at spawned
    cases spawned
    exact (elsewhere pc same).elim
  · rw [Function.update_of_ne equal] at spawned
    exact ⟨other, found, spawned, pc, same⟩

theorem Outstanding.of_setCleanup {guard : Guard} {task : Cleanup} {pc : CleanupPc} {index : Int}
    (outstanding : Outstanding (session.setCleanup guard task pc) index)
    (elsewhere : pc = .unregistered → task.index ≠ index) : Outstanding session index :=
  outstanding.of_update rfl elsewhere

theorem Outstanding.of_handleEnded {how : Session.HandleEnd} {index : Int}
    (outstanding : Outstanding (session.handleEnded how) index) : Outstanding session index := by
  rw [Session.handleEnded] at outstanding
  split at outstanding
  · exact outstanding
  · exact outstanding.of_update rfl fun pc => by cases pc

theorem Outstanding.of_finish {res : BitVec 32} {index : Int}
    (outstanding : Outstanding (session.finish res) index) : Outstanding session index := by
  rw [Session.finish] at outstanding
  split at outstanding
  · exact outstanding.of_update rfl fun pc => by cases pc
  · exact outstanding

theorem Outstanding.of_unmap {guard : Guard} {task : Cleanup} {index : Int}
    (outstanding : Outstanding (session.unmap guard task) index) : Outstanding session index := by
  rw [Session.unmap] at outstanding
  split at outstanding
  · exact outstanding.of_setCleanup fun pc => by cases pc
  · exact outstanding.of_setCleanup fun pc => by cases pc

/-- Only an unregistration in the driver adds to it, and only its own index. -/
theorem Move.outstanding {index : Int} (moved : Move flags session action after)
    (outstanding : Outstanding after index) :
    Outstanding session index ∨ ∃ guard, ∃ task ∈ session.cleanups guard,
      action = .cleanupExecuted guard ∧ task.index = index := by
  cases moved with
  | @cleanupExecuted guard task spawned pc =>
      by_cases same : task.index = index
      · exact .inr ⟨guard, task, spawned, rfl, same⟩
      · have before := outstanding.of_setCleanup fun _ => same
        exact .inl before
  | handleFailed => exact .inl outstanding.of_handleEnded
  | regHandled => exact .inl outstanding.of_handleEnded
  | hungUp => exact .inl outstanding.of_finish
  | cleanupUnmap | cleanupObserved => exact .inl outstanding.of_unmap
  | cleanupRun | cleanupDropped | cleanupQueried | cleanupUnqueried | cleanupRefused =>
      have before := outstanding.of_setCleanup fun pc => by cases pc
      exact .inl before
  | _ => exact .inl outstanding

/-! ## Agreement -/

def Live (server : Server) (index id : Nat) : Prop :=
  server.owner index = some id ∧ (server.sessions id).index = index

/-- For a live index the map has the session's region, and no callback that could
erase it is outstanding. -/
def Agrees (server : Server) : Prop :=
  ∀ index id, Live server index id →
    server.map index = some ((server.sessions id).base, (server.sessions id).size) ∧
      ∀ other < server.accepted, ¬ Outstanding (server.sessions other) index

theorem driver_owner {owner before : Nat → Option Nat} {id index other : Nat}
    (driven : driver before id session action = some owner) (owned : owner index = some other) :
    before index = some other ∨ (action = .regExecuted index ∧ other = id) := by
  cases action with
  | regExecuted given =>
      simp only [driver, Option.ite_none_right_eq_some, Option.some.injEq] at driven
      obtain ⟨_, rfl⟩ := driven
      by_cases same : index = given
      · subst same
        simp only [Function.update_self, Option.some.injEq] at owned
        exact .inr ⟨rfl, owned.symm⟩
      · rw [Function.update_of_ne same] at owned
        exact .inl owned
  | cleanupExecuted guard =>
      simp only [driver] at driven
      split at driven
      · rename_i task _
        simp only [Option.ite_none_right_eq_some, Option.some.injEq] at driven
        obtain ⟨_, rfl⟩ := driven
        by_cases same : index = task.index.toNat
        · subst same
          simp at owned
        · rw [Function.update_of_ne same] at owned
          exact .inl owned
      · contradiction
  | _ =>
      cases driven
      exact .inl owned

section Step

variable {id : Nat} {own : Session} {owner : Nat → Option Nat} {map : Nat → Option (Nat × Nat)}

/-- Steps other than `regObserved` make no index live, and leave the regions of
those that stay so. -/
theorem Live.before {index other : Nat} (told : Told (server.sessions id))
    (moved : Move flags (server.sessions id) action own) (observed : action ≠ .regObserved)
    (driven : driver server.owner id (server.sessions id) action = some owner)
    (live : Live { server with sessions := Function.update server.sessions id own, owner, map } index other) :
    Live server index other ∧ (Function.update server.sessions id own other).region =
      (server.sessions other).region := by
  obtain ⟨owned, indexed⟩ := live
  simp only at owned indexed
  by_cases same : other = id
  · subst same
    rw [Function.update_self, moved.index_eq observed] at indexed
    rw [Function.update_self]
    have late : (server.sessions other).pc.beforeCall = false := by
      by_contra early
      have unindexed := (told.early (by simpa using early)).1
      omega
    rcases driver_owner driven owned with before | ⟨rfl, _⟩
    · refine ⟨⟨before, indexed⟩, (moved.region_cases observed).resolve_right fun stating => ?_⟩
      simp [stating.1, Pc.beforeCall] at late
    · cases moved with
      | regExecuted pc => simp [pc, Pc.beforeCall] at late
      | handleFailed size pc known failed negative alone => cases alone
      | hungUp pc alone => cases alone
  · rw [Function.update_of_ne same] at indexed ⊢
    refine ⟨⟨(driver_owner driven owned).resolve_right fun mine => same mine.2, indexed⟩, rfl⟩

end Step

namespace Agrees

theorem accept (agrees : Agrees server) (registrations : Registrations server) :
    Agrees { server with
      sessions := Function.update server.sessions server.accepted .new
      accepted := server.accepted + 1 } := by
  intro index id live
  have inside : id ≠ server.accepted := by
    have := ((registrations index id).mp live.1).1
    omega
  simp only [Live, Function.update_of_ne inside] at live ⊢
  obtain ⟨stored, none⟩ := agrees index id live
  refine ⟨stored, fun other bound => ?_⟩
  by_cases fresh : other = server.accepted
  · subst fresh
    rw [Function.update_self]
    rintro ⟨guard, task, spawned, _⟩
    cases spawned
  · rw [Function.update_of_ne fresh]
    exact none other (by omega)

section Step

variable {id : Nat} {own : Session} {owner : Nat → Option Nat} {map : Nat → Option (Nat × Nat)} {index other : Nat}

/-- An unregistration owes a callback for its own index only, and that index is not
live any more. -/
theorem settled {any : Nat} (agrees : Agrees server) (told : Told (server.sessions id))
    (moved : Move flags (server.sessions id) action own) (observed : action ≠ .regObserved)
    (driven : driver server.owner id (server.sessions id) action = some owner)
    (live : Live { server with sessions := Function.update server.sessions id own, owner, map } index other)
    (inside : any < server.accepted) :
    ¬ Outstanding (Function.update server.sessions id own any) index := by
  have none := (agrees index other (live.before told moved observed driven).1).2
  by_cases same : any = id
  · subst same
    rw [Function.update_self]
    intro outstanding
    rcases moved.outstanding outstanding with before | ⟨guard, task, spawned, rfl, mine⟩
    · exact none any inside before
    · have taken : (owner index) = Option.none := by
        simp only [driver, Option.mem_def.mp spawned, mine, Int.toNat_natCast,
          Option.ite_none_right_eq_some,
          Option.some.injEq] at driven
        rw [← driven.2, Function.update_self]
      simp [Live, taken] at live
  · rw [Function.update_of_ne same]
    exact none any inside

/-- `handle_unreg_shm` erases an index that is outstanding, so it is not live. -/
theorem callbacks_eq (agrees : Agrees server) (inside : id < server.accepted)
    (life : Life (server.sessions id))
    (moved : Move flags (server.sessions id) action own) (observed : action ≠ .regObserved)
    (live : Live server index other) :
    callbacks server.map (server.sessions id) action index = server.map index := by
  have none := (agrees index other live).2 id inside
  cases action with
  | regObserved => exact (observed rfl).elim
  | cleanupObserved guard =>
      cases moved with
      | @cleanupObserved _ task spawned pc =>
          obtain ⟨holding, ⟨indexed, _⟩, _⟩ := life.suspended spawned pc
          obtain ⟨given, same, _⟩ := holding.owned indexed
          simp only [callbacks, spawned, same, Int.toNat_natCast]
          refine Function.update_of_ne (fun equal => none ⟨guard, task, spawned, pc, ?_⟩) _ _
          rw [same, equal]
      | handleFailed size pc known failed negative alone => cases alone
      | hungUp pc alone => cases alone
  | _ => rfl

/-- `handle_reg_shm` makes its index live and stores the region. -/
theorem regObserved {given : Nat} (agrees : Agrees server) (registrations : Registrations server)
    (life : Life (server.sessions id)) (inside : id < server.accepted)
    (pc : (server.sessions id).pc = .registered given)
    (settled : ∀ other < server.accepted, ¬ Outstanding (server.sessions other) given) :
    Agrees { server with
      sessions := Function.update server.sessions id
        { (server.sessions id).record (.handleRegShm given (server.sessions id).base (server.sessions id).size) with
          index := (given : Int), pc := .callingReg }
      map := Function.update server.map given (some ((server.sessions id).base, (server.sessions id).size)) } := by
  have facts := life.facts
  simp only [Facts, pc] at facts
  obtain ⟨_, pristine, own, _⟩ := facts
  have mine : server.owner given = some id :=
    (registrations given id).mpr ⟨inside, own, pristine.unreleased.not_mem rfl⟩
  -- The cleanups of the session are those it had before.
  have same (any : Nat) (index : Int) (outstanding : Outstanding (Function.update server.sessions id
      { (server.sessions id).record (.handleRegShm given (server.sessions id).base (server.sessions id).size) with
        index := (given : Int), pc := .callingReg } any) index) : Outstanding (server.sessions any) index := by
    by_cases equal : any = id
    · subst equal
      rw [Function.update_self] at outstanding
      exact outstanding
    · rwa [Function.update_of_ne equal] at outstanding
  rintro index other ⟨owned, indexed⟩
  simp only at owned indexed ⊢
  by_cases equal : other = id
  · subst equal
    rw [Function.update_self] at indexed ⊢
    obtain rfl : given = index := Int.natCast_inj.mp indexed
    exact ⟨Function.update_self _ _ _,
      fun any bound outstanding => settled any bound (same any _ outstanding)⟩
  · rw [Function.update_of_ne equal] at indexed ⊢
    have different : index ≠ given := fun equals => by
      rw [equals, mine] at owned
      exact equal (Option.some.inj owned).symm
    obtain ⟨stored, none⟩ := agrees index other ⟨owned, indexed⟩
    rw [Function.update_of_ne different]
    exact ⟨stored, fun any bound outstanding => none any bound (same any _ outstanding)⟩

end Step

theorem step {serverAction : ServerAction} (agrees : Agrees server)
    (registrations : Registrations server)
    (life : ∀ id, Life (server.sessions id)) (told : ∀ id, Told (server.sessions id))
    (ordered : callbacksInOrder server serverAction = true)
    (moved : ServerMove flags server serverAction next) :
    Agrees next := by
  cases moved with
  | accept accepting => exact agrees.accept registrations
  | stopAccepting accepting => exact agrees
  | join stopped complete => exact agrees
  | @session id action own owner inside moved driven =>
      by_cases observed : action = .regObserved
      · subst observed
        cases driven
        cases moved with
        | regObserved pc =>
            simp only [callbacksInOrder, pc, decide_eq_true_eq] at ordered
            simp only [callbacks, pc]
            exact agrees.regObserved registrations (life id) inside pc ordered
        | handleFailed size pc known failed negative alone => cases alone
        | hungUp pc alone => cases alone
      · intro index other live
        obtain ⟨before, region⟩ := live.before (told id) moved observed driven
        refine ⟨?_, fun any bound => agrees.settled (told id) moved observed driven live bound⟩
        obtain ⟨_, mapping⟩ := Prod.mk.inj region
        simp only
        rw [agrees.callbacks_eq inside (life id) moved observed before,
          (agrees index other before).1, ← mapping]

theorem reachable {permits : Server → ServerAction → Prop}
    (permitted : ∀ {server action}, permits server action →
      onSessions errorsPositive action = true ∧ callbacksInOrder server action = true)
    (reached : Reachable (shmServer flags) permits server) : Agrees server := by
  refine reached.invariant _ (fun index id live => ?_) fun before agrees allowed taken => ?_
  · cases live.1
  · exact agrees.step (Registrations.reachable (fun allowed => (permitted allowed).1) before)
      (Life.reachable (fun allowed => (permitted allowed).1) before) (Told.reachable before)
      (permitted allowed).2 (Server.step_move taken)

end Agrees

theorem Life.holds_of_called {index : Nat} {base size : Nat} (life : Life session)
    (called : .handleRegShm index base size ∈ session.history)
    (serving : ∀ other, .unregister other ∉ session.history) : Holds session index := by
  obtain ⟨front, earlier, own, same, registered⟩ := life.lawful.of_mem called
  refine ⟨?_, fun unregistered => ?_⟩
  · rw [Int.natCast_inj.mp same]
    exact earlier registered
  · obtain ⟨front, earlier, _, issued⟩ := life.lawful.of_mem unregistered
    exact serving _ (earlier issued)

/-- In a run where no `handle_reg_shm` overtakes a `handle_unreg_shm` for the same
index, the map has the region of every session that called `handle_reg_shm` and has
not begun to unregister. -/
theorem index_map_agrees {index base size : Nat}
    (reached : Reachable (shmServer flags) (fun server action => onSessions errorsPositive action = true ∧
      callbacksInOrder server action = true) server)
    (id : Nat) (called : .handleRegShm index base size ∈ (server.sessions id).history)
    (serving : ∀ other, .unregister other ∉ (server.sessions id).history) :
    server.map index = some (base, size) := by
  have life : Life (server.sessions id) := Life.reachable (fun allowed => allowed.1) reached id
  obtain ⟨indexed, mapping⟩ := Prod.mk.inj
    ((Told.reachable reached id).region index base size called)
  obtain ⟨rfl, rfl⟩ := Prod.mk.inj mapping
  have inside : id < server.accepted := by
    by_contra outside
    simp [unaccepted_new reached id (by omega), Session.new] at called
  have owned : server.owner index = some id :=
    (Registrations.reachable (fun allowed => allowed.1) reached index id).mpr
      ⟨inside, life.holds_of_called called serving⟩
  exact (Agrees.reachable (fun allowed => allowed) reached index id ⟨owned, indexed⟩).1

theorem index_map_agrees_twoClients :
    ∃ server, Reachable (shmServer 0) (fun server action => onSessions errorsPositive action = true ∧
        callbacksInOrder server action = true) server ∧
      .unregistered 7 ∈ (server.sessions 0).history ∧ server.map 7 = some (8192, 32) := by
  obtain ⟨server, reached, unregistered, called, serving⟩ :=
    exists_of_replay (shmServer 0) (fun server action => onSessions errorsPositive action = true ∧
        callbacksInOrder server action = true)
      (Server.registers 0 7 4096 64 ++ Server.answers 0 ++ Server.unregisters 0 ++ Server.registers 1 7 8192 32 ++
        [.session 0 (.cleanupObserved .session)] ++ Server.answers 1)
      (fun server => .unregistered 7 ∈ (server.sessions 0).history ∧
        .handleRegShm 7 8192 32 ∈ (server.sessions 1).history ∧
        ∀ event ∈ (server.sessions 1).history, event.isRelease = false) (by decide)
  exact ⟨server, reached, unregistered,
    index_map_agrees reached 1 called fun _ => Absent.not_mem serving rfl⟩

/-- Session 0 resumes late: session 1 has its index already, and loses its entry. -/
theorem late_callback_erases :
    ∃ server, Reachable (shmServer 0) (fun _ action => onSessions errorsPositive action = true) server ∧
      .regShmSucceeded ∈ (server.sessions 1).history ∧ .handleRegShm 7 8192 32 ∈ (server.sessions 1).history ∧
      (∀ other, .unregister other ∉ (server.sessions 1).history) ∧ server.owner 7 = some 1 ∧
      server.map 7 = none := by
  obtain ⟨server, reached, succeeded, called, serving, owned, erased⟩ :=
    exists_of_replay (shmServer 0) (fun _ action => onSessions errorsPositive action = true)
      (Server.registers 0 7 4096 64 ++ Server.answers 0 ++ Server.unregisters 0 ++ Server.registers 1 7 8192 32 ++
        Server.answers 1 ++ [.session 0 (.cleanupObserved .session)])
      (fun server => .regShmSucceeded ∈ (server.sessions 1).history ∧
        .handleRegShm 7 8192 32 ∈ (server.sessions 1).history ∧
        (∀ event ∈ (server.sessions 1).history, event.isRelease = false) ∧ server.owner 7 = some 1 ∧
        server.map 7 = none) (by decide)
  exact ⟨server, reached, succeeded, called, fun _ => Absent.not_mem serving rfl, owned, erased⟩

end Ublk.Shm
