import Ublk.Shm.Registrations

namespace Ublk.Shm

open Ublk.Machine

variable {flags : BitVec 32} {session after : Session} {action : Action} {server next : Server}

/-! # Release

Whatever a session holds when it ends, a clean-up task has a copy of it. The task
gives everything back when it is run and none of its commands fails, and the server
completes only after all tasks.
-/

/-- The task of a session that has mapped memory is run, the device is found and the
driver takes the index back. -/
def cleanupSucceeds (session : Session) : Action → Bool
  | .cleanupDropped guard =>
      match session.cleanups guard with
      | some task => task.base = 0
      | none => true
  | .cleanupQueried _ answer => answer.isNone
  | .cleanupRefused _ _ => false
  | _ => true

def cleanupsSucceed (server : Server) : ServerAction → Bool
  | .session id action => cleanupSucceeds (server.sessions id) action
  | _ => true

/-! ## What a session holds -/

def Event.isMapped : Event → Bool
  | .mapped _ _ _ => true
  | _ => false

def Event.acquires (event : Event) : Bool := event.isMapped || event.isRegistered

/-- The mappings and indexes of a history are those of the region. -/
structure Owns (region : Int × Nat × Nat) (history : List Event) : Prop where
  mapping : ∀ base size readOnly, .mapped base size readOnly ∈ history → base ≠ 0 ∧ region.2 = (base, size)
  index : ∀ index : Nat, .registered index ∈ history → region.2.1 ≠ 0 ∧ region.1 = (index : Int)

def Cleanup.region (task : Cleanup) : Int × Nat × Nat := (task.index, task.base, task.size)

def Copied (session : Session) : Prop :=
  ∃ guard, ∃ task ∈ session.cleanups guard, task.region = session.region

/-- What the session has acquired where it is suspended, and who will release it. -/
def Contents (session : Session) : Prop :=
  match session.pc with
  | .scheduled | .receiving | .stating => Absent Event.acquires session.history
  | .queryingInfo | .registering =>
      session.base ≠ 0 ∧ Absent Event.isRegistered session.history ∧ Owns session.region session.history
  | .registered index => session.base ≠ 0 ∧ Owns (index, session.base, session.size) session.history
  | .callingReg => Owns session.region session.history
  | .sending res => Owns session.region session.history ∧ (res.toInt < 0 → Copied session)
  | .awaitingClose res => 0 ≤ res.toInt ∧ Owns session.region session.history
  | .ended =>
      Absent Event.acquires session.history ∨ Owns session.region session.history ∧ Copied session

section Owns

variable {region : Int × Nat × Nat} {history : List Event} {event : Event}

theorem Owns.of_absent (absent : Absent Event.acquires history) : Owns region history :=
  ⟨fun _ _ _ member => (absent.not_mem rfl member).elim, fun _ member => (absent.not_mem rfl member).elim⟩

theorem Owns.append {more : List Event} (owns : Owns region history)
    (absent : Absent Event.acquires more) :
    Owns region (history ++ more) := by
  refine ⟨fun base size readOnly member => ?_, fun index member => ?_⟩
  · rcases List.mem_append.mp member with before | now
    · exact owns.mapping base size readOnly before
    · exact (absent.not_mem rfl now).elim
  · rcases List.mem_append.mp member with before | now
    · exact owns.index index before
    · exact (absent.not_mem rfl now).elim

theorem Absent.append {kind : Event → Bool} {more : List Event} (absent : Absent kind history)
    (others : Absent kind more) : Absent kind (history ++ more) := by
  intro event member
  rcases List.mem_append.mp member with before | now
  · exact absent event before
  · exact others event now

theorem absent_one {kind : Event → Bool} (other : kind event = false) : Absent kind [event] := by
  simpa [Absent] using other

theorem Absent.unregistered (absent : Absent Event.acquires history) :
    Absent Event.isRegistered history := by
  intro event member
  have none := absent event member
  simp only [Event.acquires, Bool.or_eq_false_iff] at none
  exact none.2

end Owns

/-! ## Copies -/

theorem copied_cleanup (session : Session) (guard : Guard) : Copied (session.cleanup guard) :=
  ⟨guard, _, Function.update_self _ _ _, rfl⟩

theorem Copied.setCleanup {guard : Guard} {task : Cleanup} {pc : CleanupPc}
    (copied : Copied session)
    (spawned : session.cleanups guard = some task) : Copied (session.setCleanup guard task pc) := by
  obtain ⟨other, copy, found, same⟩ := copied
  by_cases equal : other = guard
  · subst equal
    cases found.symm.trans spawned
    exact ⟨other, _, Function.update_self _ _ _, same⟩
  · exact ⟨other, copy, (Function.update_of_ne equal _ _).trans found, same⟩

theorem Copied.unmap {guard : Guard} {task : Cleanup} (copied : Copied session)
    (spawned : session.cleanups guard = some task) : Copied (session.unmap guard task) := by
  rw [Session.unmap]
  split
  · have recorded : Copied (session.record (.unmapped task.base task.size)) := copied
    exact recorded.setCleanup spawned
  · exact copied.setCleanup spawned

namespace Contents

/-- Steps that acquire nothing and leave the session where it is: those of its tasks. -/
theorem keep {more : List Event} (contents : Contents session) (pc : after.pc = session.pc)
    (region : after.region = session.region) (history : after.history = session.history ++ more)
    (others : Absent Event.acquires more) (copied : Copied session → Copied after) :
    Contents after := by
  obtain ⟨_, mapping⟩ := Prod.mk.inj region
  obtain ⟨base, size⟩ := Prod.mk.inj mapping
  rw [Contents] at contents ⊢
  rw [pc, region, base, size, history]
  cases place : session.pc with
  | scheduled | receiving | stating =>
      simp only [place] at contents ⊢
      exact contents.append others
  | queryingInfo | registering =>
      simp only [place] at contents ⊢
      exact ⟨contents.1, contents.2.1.append others.unregistered, contents.2.2.append others⟩
  | registered index =>
      simp only [place] at contents ⊢
      exact ⟨contents.1, contents.2.append others⟩
  | callingReg =>
      simp only [place] at contents ⊢
      exact contents.append others
  | sending res =>
      simp only [place] at contents ⊢
      exact ⟨contents.1.append others, fun failure => copied (contents.2 failure)⟩
  | awaitingClose res =>
      simp only [place] at contents ⊢
      exact ⟨contents.1, contents.2.append others⟩
  | ended =>
      simp only [place] at contents ⊢
      exact contents.imp (·.append others) fun held => ⟨held.1.append others, copied held.2⟩

theorem setCleanup {guard : Guard} {task : Cleanup} {pc : CleanupPc} (contents : Contents session)
    (spawned : session.cleanups guard = some task) : Contents (session.setCleanup guard task pc) :=
  contents.keep rfl rfl (List.append_nil _).symm (absent_nil _) (·.setCleanup spawned)

theorem unmap {guard : Guard} {task : Cleanup} (contents : Contents session)
    (spawned : session.cleanups guard = some task) : Contents (session.unmap guard task) := by
  refine contents.keep (by simp) (by simp) (Session.unmap_history _ _ _) ?_ (·.unmap spawned)
  split
  · exact absent_one rfl
  · exact absent_nil _

theorem mapped {size base : Nat} {readOnly : Bool} (contents : Contents session)
    (pc : session.pc = .stating) (nonnull : base ≠ 0) :
    Contents { session.record (.mapped base size readOnly) with size, base, pc := .queryingInfo } := by
  simp only [Contents, pc] at contents ⊢
  have unregistered : Absent Event.isRegistered (session.history ++ [.mapped base size readOnly]) :=
    contents.unregistered.append (absent_one rfl)
  refine ⟨nonnull, unregistered, fun other length mode member => ?_,
    fun index member => (unregistered.not_mem rfl member).elim⟩
  rcases List.mem_append.mp member with before | now
  · exact (contents.not_mem rfl before).elim
  · cases List.mem_singleton.mp now
    exact ⟨nonnull, rfl⟩

theorem regExecuted {given : Nat} (contents : Contents session) (pc : session.pc = .registering) :
    Contents { session.record (.registered given) with pc := .registered given } := by
  simp only [Contents, pc] at contents ⊢
  obtain ⟨nonnull, unregistered, owns⟩ := contents
  refine ⟨nonnull, fun base size readOnly member => ?_, fun index member => ?_⟩
  · exact owns.mapping base size readOnly (mem_of_mem_snoc Event.isMapped rfl rfl member)
  · rcases List.mem_append.mp member with before | now
    · exact (unregistered.not_mem rfl before).elim
    · cases List.mem_singleton.mp now
      exact ⟨nonnull, rfl⟩

theorem handleFailed {size : Nat} {how : Session.HandleEnd} (contents : Contents session)
    (pc : session.pc = .stating ∨ session.pc = .queryingInfo ∨ session.pc = .registering ∨
      session.pc = .callingReg)
    (known : session.pc ≠ .stating → size = session.size) (failed : how ≠ .value) :
    Contents (({ session with size } : Session).handleEnded how) := by
  have owns : Owns ({ session with size } : Session).region session.history := by
    rcases pc with pc | pc | pc | pc
    · simp only [Contents, pc] at contents
      exact .of_absent contents
    · obtain rfl := known (by simp [pc])
      simp only [Contents, pc] at contents
      exact contents.2.2
    · obtain rfl := known (by simp [pc])
      simp only [Contents, pc] at contents
      exact contents.2.2
    · obtain rfl := known (by simp [pc])
      simp only [Contents, pc] at contents
      exact contents
  simp only [Session.handleEnded, failed, ↓reduceIte]
  exact ⟨owns.append (absent_one rfl), fun _ => copied_cleanup _ _⟩

theorem hungUp {res : BitVec 32} {why : Hangup} (contents : Contents session)
    (pc : session.pc = .sending res ∨ session.pc = .awaitingClose res) :
    Contents ((session.record (.hangup why)).finish res) := by
  have held : Owns session.region session.history ∧ (res.toInt < 0 → Copied session) := by
    rcases pc with pc | pc
    · simpa only [Contents, pc] using contents
    · simp only [Contents, pc] at contents
      exact ⟨contents.2, fun failure => by omega⟩
  have owns : Owns session.region (session.history ++ [.hangup why]) :=
    held.1.append (absent_one rfl)
  have closed : Absent Event.acquires [.closedReceived session.receivedFd, .closedClient] :=
    (absent_snoc _ [_] _).mpr ⟨absent_one rfl, rfl⟩
  rw [Session.finish]
  split
  · refine .inr ⟨?_, copied_cleanup (session.record (.hangup why)) .session⟩
    rw [Session.close_history]
    exact owns.append closed
  · refine .inr ⟨?_, held.2 (by omega)⟩
    rw [Session.close_history]
    exact owns.append closed

theorem step (contents : Contents session) (moved : Move flags session action after) :
    Contents after := by
  cases moved with
  | started pc =>
      simp only [Contents, pc] at contents ⊢
      exact contents
  | neverStarted pc =>
      simp only [Contents, pc] at contents ⊢
      exact .inl contents
  | received pc =>
      simp only [Contents, pc] at contents ⊢
      exact contents.append (absent_one rfl)
  | turnedAway before pc harmless =>
      simp only [Contents, pc] at contents ⊢
      refine .inl ((contents.append fun event member => ?_).append (absent_one rfl))
      obtain ⟨fds, rfl⟩ := harmless event member
      rfl
  | mapped pc nonnull => exact contents.mapped pc nonnull
  | handleFailed size pc known failed negative alone => exact contents.handleFailed pc known failed
  | regQueried pc =>
      simp only [Contents, pc] at contents ⊢
      exact ⟨contents.1, contents.2.1.append (absent_one rfl), contents.2.2.append (absent_one rfl)⟩
  | regExecuted pc => exact contents.regExecuted pc
  | regObserved pc =>
      simp only [Contents, pc] at contents ⊢
      exact contents.2.append (absent_one rfl)
  | regHandled pc =>
      simp only [Contents, pc] at contents
      refine ⟨(contents.append (absent_one rfl)).append (absent_one rfl), fun failure => ?_⟩
      exact absurd failure (by decide)
  | resultSent pc success =>
      simp only [Contents, pc] at contents ⊢
      exact ⟨success, contents.1⟩
  | failureSent pc failure =>
      simp only [Contents, pc] at contents
      refine .inr ⟨?_, contents.2 failure⟩
      rw [Session.close_history]
      exact contents.1.append ((absent_snoc _ [_] _).mpr ⟨absent_one rfl, rfl⟩)
  | hungUp pc alone => exact contents.hungUp pc
  | cleanupRun spawned pc indexed => exact contents.setCleanup spawned
  | cleanupUnmap spawned pc unindexed => exact contents.unmap spawned
  | cleanupDropped spawned pc => exact contents.setCleanup spawned
  | cleanupQueried spawned pc =>
      exact contents.keep rfl rfl rfl (absent_one rfl) (·.setCleanup spawned)
  | cleanupUnqueried spawned pc => exact contents.setCleanup spawned
  | cleanupExecuted spawned pc =>
      exact contents.keep rfl rfl rfl (absent_one rfl) (·.setCleanup spawned)
  | cleanupRefused spawned pc => exact contents.setCleanup spawned
  | @cleanupObserved guard task spawned pc =>
      have recorded : Contents (session.record (.handleUnregShm task.index)) :=
        contents.keep rfl rfl rfl (absent_one rfl) id
      exact recorded.unmap spawned

theorem reachable {permits : Server → ServerAction → Prop}
    (reached : Reachable (shmServer flags) permits server)
    (id : Nat) : Contents (server.sessions id) :=
  session_invariant (fun _ _ => True) (fun _ => trivial) (absent_nil _)
    (fun contents _ moved => contents.step moved) reached id

end Contents

/-! ## What a task has done -/

def Done (task : Cleanup) (history : List Event) : Prop :=
  match task.pc with
  | .scheduled | .queryingInfo => True
  | .unregistering | .unregistered => .unregister task.index ∈ history
  | .ended => task.base ≠ 0 →
      (task.index ≠ -1 → .unregister task.index ∈ history) ∧ .unmapped task.base task.size ∈ history

def Tasks (session : Session) : Prop :=
  ∀ guard, ∀ task ∈ session.cleanups guard, Done task session.history

theorem Done.append {task : Cleanup} {history : List Event} (done : Done task history)
    (more : List Event) :
    Done task (history ++ more) := by
  rw [Done] at done ⊢
  split
  · trivial
  · trivial
  · rename_i pc
    simp only [pc] at done
    exact List.mem_append_left _ done
  · rename_i pc
    simp only [pc] at done
    exact List.mem_append_left _ done
  · rename_i pc
    simp only [pc] at done
    intro nonnull
    exact ⟨fun indexed => List.mem_append_left _ ((done nonnull).1 indexed),
      List.mem_append_left _ (done nonnull).2⟩

namespace Tasks

theorem append {more : List Event} (tasks : Tasks session)
    (cleanups : after.cleanups = session.cleanups)
    (history : after.history = session.history ++ more) : Tasks after := by
  intro guard task spawned
  rw [cleanups] at spawned
  rw [history]
  exact (tasks guard task spawned).append more

theorem update {guard : Guard} {task : Cleanup} {more : List Event} (tasks : Tasks session)
    (cleanups : after.cleanups = Function.update session.cleanups guard (some task))
    (history : after.history = session.history ++ more) (done : Done task after.history) :
    Tasks after := by
  intro other found spawned
  rw [cleanups] at spawned
  by_cases equal : other = guard
  · subst equal
    rw [Function.update_self] at spawned
    cases spawned
    exact done
  · rw [Function.update_of_ne equal] at spawned
    rw [history]
    exact (tasks other found spawned).append more

theorem handleEnded {how : Session.HandleEnd} (tasks : Tasks session) :
    Tasks (session.handleEnded how) := by
  rw [Session.handleEnded]
  split
  · exact tasks.append rfl rfl
  · exact tasks.update rfl rfl trivial

theorem finish {res : BitVec 32} (tasks : Tasks session) : Tasks (session.finish res) := by
  rw [Session.finish]
  split
  · exact tasks.update rfl (Session.close_history _) trivial
  · exact tasks.append rfl (Session.close_history _)

theorem unmap {guard : Guard} {task : Cleanup} (tasks : Tasks session)
    (unregistered : task.index ≠ -1 → .unregister task.index ∈ session.history) :
    Tasks (session.unmap guard task) := by
  rw [Session.unmap]
  split
  · refine tasks.update rfl rfl fun _ =>
      ⟨fun indexed => List.mem_append_left _ (unregistered indexed), ?_⟩
    exact List.mem_concat_self
  · rename_i null
    exact tasks.update rfl (List.append_nil _).symm fun nonnull => absurd nonnull null

theorem step (tasks : Tasks session) (succeeds : cleanupSucceeds session action = true)
    (moved : Move flags session action after) : Tasks after := by
  cases moved with
  | turnedAway before pc harmless => exact tasks.append rfl (List.append_assoc _ _ _)
  | started | neverStarted | resultSent => exact tasks.append rfl (List.append_nil _).symm
  | received | mapped | regQueried | regExecuted | regObserved => exact tasks.append rfl rfl
  | @handleFailed action how size pc known failed negative alone =>
      have sized : Tasks { session with size } := tasks
      exact sized.handleEnded
  | regHandled pc =>
      have recorded : Tasks (session.record .regShmSucceeded) := tasks.append rfl rfl
      exact recorded.handleEnded
  | failureSent => exact tasks.append rfl (Session.close_history _)
  | @hungUp action res why pc alone =>
      have recorded : Tasks (session.record (.hangup why)) := tasks.append rfl rfl
      exact recorded.finish
  | cleanupRun => exact tasks.update rfl (List.append_nil _).symm trivial
  | cleanupUnmap spawned pc unindexed => exact tasks.unmap fun indexed => absurd unindexed indexed
  | cleanupDropped spawned pc =>
      simp only [cleanupSucceeds, spawned, decide_eq_true_eq] at succeeds
      exact tasks.update rfl (List.append_nil _).symm fun nonnull => absurd succeeds nonnull
  | cleanupQueried => exact tasks.update rfl rfl List.mem_concat_self
  | cleanupUnqueried => cases succeeds
  | cleanupExecuted spawned pc =>
      have issued := tasks _ _ spawned
      simp only [Done, pc] at issued
      exact tasks.update rfl rfl (List.mem_append_left _ issued)
  | cleanupRefused => cases succeeds
  | @cleanupObserved guard task spawned pc =>
      have issued := tasks _ _ spawned
      simp only [Done, pc] at issued
      have recorded : Tasks (session.record (.handleUnregShm task.index)) := tasks.append rfl rfl
      exact recorded.unmap fun _ => List.mem_append_left _ issued

theorem reachable (reached : Reachable (shmServer flags)
    (fun server action => cleanupsSucceed server action = true) server) (id : Nat) : Tasks (server.sessions id) :=
  session_invariant (fun session action => cleanupSucceeds session action = true) (fun allowed => allowed)
    (fun _ _ spawned => by cases spawned)
    (fun tasks succeeds moved => tasks.step succeeds moved) reached id

end Tasks

/-! ## The end of the server -/

theorem Move.not_complete (moved : Move flags session action after) : ¬ session.complete := by
  rintro ⟨ended, tasks⟩
  have busy {guard : Guard} {task : Cleanup} {pc : CleanupPc}
      (spawned : session.cleanups guard = some task)
      (here : task.pc = pc) : pc = .ended := here.symm.trans (tasks guard task spawned)
  cases moved with
  | started pc | neverStarted pc | received pc | turnedAway _ pc | mapped pc | regQueried pc | regExecuted pc
  | regObserved pc | regHandled pc | resultSent pc | failureSent pc => simp [pc] at ended
  | handleFailed _ pc => simp [ended] at pc
  | hungUp pc => simp [ended] at pc
  | cleanupRun spawned pc | cleanupUnmap spawned pc | cleanupDropped spawned pc | cleanupQueried spawned pc
  | cleanupUnqueried spawned pc | cleanupExecuted spawned pc | cleanupRefused spawned pc
  | cleanupObserved spawned pc => cases busy spawned pc

/-- The scope is joined only when nothing is left in it, and nothing starts after. -/
theorem joined_complete {permits : Server → ServerAction → Prop}
    (reached : Reachable (shmServer flags) permits server)
    (joined : server.joined = true) :
    server.accepting = false ∧ ∀ id < server.accepted, (server.sessions id).complete := by
  revert joined
  refine reached.invariant (fun server => server.joined = true → server.accepting = false ∧
    ∀ id < server.accepted, (server.sessions id).complete) (fun joined => by cases joined) ?_
  intro before after action _ ih _ taken joined
  cases Server.step_move taken with
  | accept accepting =>
      have stopped := (ih joined).1
      simp [accepting] at stopped
  | stopAccepting accepting => exact ⟨rfl, (ih joined).2⟩
  | session inside moved driven => exact (moved.not_complete ((ih joined).2 _ inside)).elim
  | join stopped complete => exact ⟨stopped, complete⟩

/-- What a session that is complete has acquired, its task has released. -/
theorem Contents.released (contents : Contents session) (tasks : Tasks session)
    (complete : session.complete) :
    (∀ base size readOnly, .mapped base size readOnly ∈ session.history → .unmapped base size ∈ session.history) ∧
      ∀ index : Nat, .registered index ∈ session.history → .unregister index ∈ session.history := by
  simp only [Contents, complete.1] at contents
  rcases contents with absent | ⟨owns, guard, task, spawned, same⟩
  · exact ⟨fun _ _ _ member => (absent.not_mem rfl member).elim,
      fun _ member => (absent.not_mem rfl member).elim⟩
  · have done := tasks guard task spawned
    simp only [Done, complete.2 guard task spawned] at done
    rw [← same] at owns
    refine ⟨fun base size readOnly member => ?_, fun index member => ?_⟩
    · obtain ⟨nonnull, mapping⟩ := owns.mapping base size readOnly member
      obtain ⟨rfl, rfl⟩ := Prod.mk.inj mapping
      exact (done nonnull).2
    · obtain ⟨nonnull, own⟩ := owns.index index member
      have indexed : task.index = index := own
      rw [← indexed]
      exact (done nonnull).1 (by omega)

/-- When the server has completed, every region that was mapped has been unmapped,
and every index that was registered has been unregistered or tried to be. -/
theorem no_mapping_leaks
    (reached : Reachable (shmServer flags) (fun server action => cleanupsSucceed server action = true) server)
    (joined : server.joined = true) (id : Nat) :
    (∀ base size readOnly, .mapped base size readOnly ∈ (server.sessions id).history →
        .unmapped base size ∈ (server.sessions id).history) ∧
      ∀ index : Nat, .registered index ∈ (server.sessions id).history →
        .unregister index ∈ (server.sessions id).history := by
  by_cases inside : id < server.accepted
  · exact (Contents.reachable reached id).released (Tasks.reachable reached id)
      ((joined_complete reached joined).2 id inside)
  · simp [unaccepted_new reached id (by omega), Session.new]

theorem no_mapping_leaks_oneClient :
    ∃ server, Reachable (shmServer 0) (fun server action => cleanupsSucceed server action = true) server ∧
      server.joined = true ∧ .mapped 4096 64 false ∈ (server.sessions 0).history ∧
      .unmapped 4096 64 ∈ (server.sessions 0).history := by
  obtain ⟨server, reached, joined, mapped⟩ :=
    exists_of_replay (shmServer 0) (fun server action => cleanupsSucceed server action = true)
      (Server.registers 0 7 4096 64 ++ Server.answers 0 ++ [.acceptStopped] ++ Server.unregisters 0 ++
        [.session 0 (.cleanupObserved .session), .join])
      (fun server => server.joined = true ∧ .mapped 4096 64 false ∈ (server.sessions 0).history) (by decide)
  exact ⟨server, reached, joined, mapped,
    (no_mapping_leaks reached joined 0).1 4096 64 false mapped⟩

/-- The device is gone when the client leaves: the clean-up task ends at the failed
command, before `munmap`. -/
theorem failed_unregister_leaks :
    ∃ server, Reachable (shmServer 0) (fun _ action => onSessions errorsPositive action = true) server ∧
      server.joined = true ∧ .mapped 4096 64 false ∈ (server.sessions 0).history ∧
      (∀ base size, .unmapped base size ∉ (server.sessions 0).history) := by
  obtain ⟨server, reached, joined, mapped, unreleased⟩ :=
    exists_of_replay (shmServer 0) (fun _ action => onSessions errorsPositive action = true)
      (Server.registers 0 7 4096 64 ++ Server.answers 0 ++
        [.session 0 (.closed (.value 0)), .session 0 (.cleanupRun .session), .session 0 (.cleanupQueried .session none),
          .session 0 (.cleanupRefused .session (.systemError 19)), .acceptStopped, .join])
      (fun server => server.joined = true ∧ .mapped 4096 64 false ∈ (server.sessions 0).history ∧
        ∀ event ∈ (server.sessions 0).history, event.isLateRelease = false) (by decide)
  exact ⟨server, reached, joined, mapped, fun _ _ => Absent.not_mem unreleased rfl⟩

end Ublk.Shm
