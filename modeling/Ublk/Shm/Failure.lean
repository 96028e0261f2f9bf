import Ublk.Shm.Server

namespace Ublk.Shm

open Ublk.Machine

/-! # How failures are reported

A completion of `handle_io` becomes the result that is committed, one of
`Session::handle` the result that is sent to the client. Both turn an error code into
its negation, so whether a failure looks like one depends on the sign of the code.
-/

def returned : IoValue → BitVec 32 × BitVec 64
  | .int32 res => (res, 0)
  | .withRes res => (res, 0)
  | .withZoneLba res zoneLba => (res, zoneLba)

/-- A value is passed on, and everything else is a failure. -/
def ReportsIo (outcome : IoOutcome) (committed : BitVec 32 × BitVec 64) : Prop :=
  match outcome with
  | .value value => committed = returned value
  | _ => committed.1.toInt < 0 ∧ committed.2 = 0

def ReportsHandle (how : Session.HandleEnd) (sent : BitVec 32) : Prop :=
  match how with
  | .value => sent = 0
  | _ => sent.toInt < 0

def errorCode : IoError → Option (BitVec 32)
  | .errorCode value => some value
  | .systemError value => some value
  | .exception => none
  | .other => none

/-- A code that is negative when it is negated: a positive one, or the one number that
is its own negation. -/
def Negatable (err : IoError) : Prop :=
  ∀ code, errorCode err = some code → 0 < code.toInt ∨ code = BitVec.intMin 32

theorem neg_negative_iff (code : BitVec 32) :
    (-code).toInt < 0 ↔ 0 < code.toInt ∨ code = BitVec.intMin 32 := by
  have bound := code.isLt
  have least : code = BitVec.intMin 32 ↔ code.toNat = 2147483648 := by
    constructor
    · rintro rfl
      decide
    · intro same
      apply BitVec.eq_of_toNat_eq
      rw [same]
      decide
  rw [least, BitVec.toInt_eq_toNat_cond, BitVec.toInt_eq_toNat_cond, BitVec.toNat_neg]
  split <;> split <;> omega

/-- An error without a code is reported as `EIO`. -/
theorem negated_negative_iff (err : IoError) :
    (-normalizeError err (BitVec.ofInt 32 eio)).toInt < 0 ↔ Negatable err := by
  cases err with
  | errorCode value => simp [normalizeError, Negatable, errorCode, neg_negative_iff]
  | systemError value => simp [normalizeError, Negatable, errorCode, neg_negative_iff]
  | exception =>
      simp only [normalizeError, Negatable, errorCode, reduceCtorEq, false_implies, implies_true, iff_true]
      decide
  | other =>
      simp only [normalizeError, Negatable, errorCode, reduceCtorEq, false_implies, implies_true, iff_true]
      decide

instance (err : IoError) : Decidable (Negatable err) := decidable_of_iff _ (negated_negative_iff err)

theorem reportsIo_iff (outcome : IoOutcome) :
    ReportsIo outcome (wrapHandleIo outcome) ↔ ∀ err, outcome = .error err → Negatable err := by
  cases outcome with
  | value value =>
      refine iff_of_true ?_ (fun _ impossible => nomatch impossible)
      cases value <;> rfl
  | error err =>
      have committed : ReportsIo (.error err) (wrapHandleIo (.error err)) ↔ Negatable err := by
        rw [← negated_negative_iff]
        exact and_iff_left rfl
      rw [committed]
      exact ⟨fun negatable _ same => by cases same; exact negatable, fun all => all err rfl⟩
  | stopped => exact iff_of_true ⟨by decide, rfl⟩ (fun _ impossible => nomatch impossible)

theorem reportsHandle_iff (how : Session.HandleEnd) :
    ReportsHandle how how.res ↔ ∀ err, how = .error err → Negatable err := by
  cases how with
  | value => exact iff_of_true rfl (fun _ impossible => nomatch impossible)
  | error err =>
      have sent : ReportsHandle (.error err) (Session.HandleEnd.error err).res ↔ Negatable err :=
        negated_negative_iff err
      rw [sent]
      exact ⟨fun negatable _ same => by cases same; exact negatable, fun all => all err rfl⟩
  | stopped => exact iff_of_true stopped_negative (fun _ impossible => nomatch impossible)

theorem HandleEnd.negative {how : Session.HandleEnd} (failed : how ≠ .value)
    (negatable : ∀ err, how = .error err → Negatable err) : how.res.toInt < 0 := by
  have reported : ReportsHandle how how.res := (reportsHandle_iff how).mpr negatable
  cases how with
  | value => exact absurd rfl failed
  | error err => exact reported
  | stopped => exact reported

/-! ## At most one clean-up -/

/-- No step ends `handle` with an error that is sent as a success. -/
def errorsNegatable (action : Action) : Prop := ∀ err, action.handleError = some err → Negatable err

def onNegatable : ServerAction → Prop
  | .session _ action => errorsNegatable action
  | _ => True

instance (action : Action) : Decidable (errorsNegatable action) :=
  inferInstanceAs (Decidable (∀ err ∈ action.handleError, Negatable err))

instance (action : ServerAction) : Decidable (onNegatable action) :=
  match action with
  | .session _ action => inferInstanceAs (Decidable (errorsNegatable action))
  | .accept | .acceptFailed _ | .acceptStopped | .join => .isTrue trivial

/-- The clean-up tasks there can be, by where the session is. -/
def CleanedOnce (session : Session) : Prop :=
  match session.pc with
  | .sending res => session.cleanups .session = none ∧ (0 ≤ res.toInt → session.cleanups .handle = none)
  | .awaitingClose res => session.cleanups .session = none ∧ (0 ≤ res.toInt → session.cleanups .handle = none)
  | .ended => session.cleanups .handle = none ∨ session.cleanups .session = none
  | _ => session.cleanups .handle = none ∧ session.cleanups .session = none

section CleanedOnce

variable {flags : BitVec 32} {session next : Session} {action : Action} {guard : Guard} {task : Cleanup}

theorem CleanedOnce.congr (once : CleanedOnce session) (pc : next.pc = session.pc)
    (same : ∀ guard, next.cleanups guard = none ↔ session.cleanups guard = none) : CleanedOnce next := by
  rw [CleanedOnce] at once ⊢
  rwa [pc, same .handle, same .session]

/-- A task that goes on is no new one. -/
theorem CleanedOnce.setCleanup (once : CleanedOnce session) (spawned : session.cleanups guard = some task)
    (pc : CleanupPc) : CleanedOnce (session.setCleanup guard task pc) := by
  refine once.congr rfl fun other => ?_
  by_cases equal : other = guard
  · subst equal
    simp [Session.setCleanup, spawned]
  · simp [Session.setCleanup, Function.update_of_ne equal]

theorem CleanedOnce.unmap (once : CleanedOnce session) (spawned : session.cleanups guard = some task) :
    CleanedOnce (session.unmap guard task) := by
  rw [Session.unmap]
  split
  · have recorded : CleanedOnce (session.record (.unmapped task.base task.size)) := once
    exact recorded.setCleanup spawned .ended
  · exact once.setCleanup spawned .ended

/-- `d` in `handle` spawns the first task, and a negative result keeps `d3` from another. -/
theorem cleanedOnce_handleEnded {how : Session.HandleEnd} (unspawned : session.cleanups .session = none)
    (negative : how.res.toInt < 0) : CleanedOnce (session.handleEnded how) := by
  refine ⟨?_, fun nonnegative => absurd negative (by omega)⟩
  rw [Session.handleEnded]
  split
  · exact unspawned
  · simpa [Session.cleanup, Session.record] using unspawned

theorem cleanedOnce_finish {res : BitVec 32} (unspawned : session.cleanups .session = none)
    (succeeded : 0 ≤ res.toInt → session.cleanups .handle = none) : CleanedOnce (session.finish res) := by
  rw [Session.finish]
  split
  · rename_i nonnegative
    left
    simpa [Session.cleanup, Session.close, Session.record] using succeeded nonnegative
  · exact .inr unspawned

theorem CleanedOnce.move (once : CleanedOnce session) (negatable : errorsNegatable action)
    (moved : Move flags session action next) : CleanedOnce next := by
  cases moved with
  | started pc =>
      simp only [CleanedOnce, pc] at once
      exact once
  | neverStarted pc =>
      simp only [CleanedOnce, pc] at once
      exact .inl once.1
  | received pc =>
      simp only [CleanedOnce, pc] at once
      exact once
  | turnedAway before pc =>
      simp only [CleanedOnce, pc] at once
      exact .inl once.1
  | mapped pc =>
      simp only [CleanedOnce, pc] at once
      exact once
  | @handleFailed action how size pc known failed negative alone cause =>
      have unspawned : session.cleanups .session = none := by
        rcases pc with pc | pc | pc | pc <;> simp only [CleanedOnce, pc] at once <;> exact once.2
      have sent : how.res.toInt < 0 :=
        HandleEnd.negative failed fun err same => negatable err (cause err same)
      exact cleanedOnce_handleEnded unspawned sent
  | regQueried pc =>
      simp only [CleanedOnce, pc] at once
      exact once
  | regExecuted pc =>
      simp only [CleanedOnce, pc] at once
      exact once
  | regObserved pc =>
      simp only [CleanedOnce, pc] at once
      exact once
  | regHandled pc =>
      simp only [CleanedOnce, pc] at once
      exact ⟨once.2, fun _ => once.1⟩
  | resultSent pc =>
      simp only [CleanedOnce, pc] at once
      exact once
  | failureSent pc =>
      simp only [CleanedOnce, pc] at once
      exact .inr once.1
  | @hungUp action res why pc =>
      have sent : session.cleanups .session = none ∧ (0 ≤ res.toInt → session.cleanups .handle = none) := by
        rcases pc with pc | pc <;> simp only [CleanedOnce, pc] at once <;> exact once
      exact cleanedOnce_finish sent.1 sent.2
  | cleanupRun spawned => exact once.setCleanup spawned _
  | cleanupUnmap spawned => exact once.unmap spawned
  | cleanupDropped spawned => exact once.setCleanup spawned _
  | @cleanupQueried guard task spawned =>
      have recorded : CleanedOnce (session.record (.unregister task.index)) := once
      exact recorded.setCleanup spawned _
  | cleanupUnqueried spawned => exact once.setCleanup spawned _
  | @cleanupExecuted guard task spawned =>
      have recorded : CleanedOnce (session.record (.unregistered task.index)) := once
      exact recorded.setCleanup spawned _
  | cleanupRefused spawned => exact once.setCleanup spawned _
  | @cleanupObserved guard task spawned =>
      have recorded : CleanedOnce (session.record (.handleUnregShm task.index)) := once
      exact recorded.unmap spawned

theorem CleanedOnce.reachable {server : Server}
    (reached : Reachable (shmServer flags) (fun _ action => onNegatable action) server) (id : Nat) :
    CleanedOnce (server.sessions id) := by
  have start : CleanedOnce .new := ⟨rfl, rfl⟩
  refine session_invariant (fun _ action => errorsNegatable action) ?_ start ?_ reached id
  · intro server id action allowed
    exact allowed
  · intro session next action once negatable moved
    exact once.move negatable moved

theorem CleanedOnce.only (once : CleanedOnce session) :
    session.cleanups .handle = none ∨ session.cleanups .session = none := by
  cases pc : session.pc with
  | sending res =>
      simp only [CleanedOnce, pc] at once
      exact .inr once.1
  | awaitingClose res =>
      simp only [CleanedOnce, pc] at once
      exact .inr once.1
  | ended =>
      simp only [CleanedOnce, pc] at once
      exact once
  | _ =>
      simp only [CleanedOnce, pc] at once
      exact .inl once.1

end CleanedOnce

/-- A failure is reported as one exactly when its error carries no code, or one whose
negation is negative; and in a run of the server with such errors only, no session
cleans up twice. -/
theorem failure_reported_iff (outcome : IoOutcome) (how : Session.HandleEnd) (flags : BitVec 32) :
    (ReportsIo outcome (wrapHandleIo outcome) ↔ ∀ err, outcome = .error err → Negatable err) ∧
    (ReportsHandle how how.res ↔ ∀ err, how = .error err → Negatable err) ∧
    ∀ server, Reachable (shmServer flags) (fun _ action => onNegatable action) server →
      ∀ id, (server.sessions id).cleanups .handle = none ∨ (server.sessions id).cleanups .session = none :=
  ⟨reportsIo_iff outcome, reportsHandle_iff how, fun _ reached id => (CleanedOnce.reachable reached id).only⟩

/-- A handler without an error code commits a failure; a session whose `handle_reg_shm`
fails cleans up, and once. -/
theorem failure_reported_iff_refused :
    ReportsIo (.error .exception) (wrapHandleIo (.error .exception)) ∧
      ∃ server, Reachable (shmServer 0) (fun _ action => onNegatable action) server ∧
        (server.sessions 0).cleanups .handle ≠ none ∧ (server.sessions 0).cleanups .session = none := by
  constructor
  · apply (failure_reported_iff (.error .exception) .value 0).1.mpr
    rintro err same code known
    cases same
    cases known
  · obtain ⟨server, reached, cleans⟩ := exists_of_replay (shmServer 0) (fun _ action => onNegatable action)
      (Server.registers 0 7 4096 64 ++ [.session 0 .regObserved,
        .session 0 (.regHandled (.error (.errorCode 12))), .session 0 (.sent (.value ()))])
      (fun server => (server.sessions 0).cleanups .handle ≠ none) (by decide)
    exact ⟨server, reached, cleans,
      ((failure_reported_iff (.error .exception) .value 0).2.2 server reached 0).resolve_left cleans⟩

/-- A handler that fails with a negative errno value, as kernel code does, commits a
transfer of five bytes; in the shm server an error with code 0 leads to two clean-ups. -/
theorem failure_committed_as_success :
    (wrapHandleIo (.error (.errorCode (-5)))).1 = 5 ∧
      ∃ server, Reachable (shmServer 0) (fun _ _ => True) server ∧
        (server.sessions 0).cleanups .handle ≠ none ∧ (server.sessions 0).cleanups .session ≠ none := by
  refine ⟨by decide, ?_⟩
  exact exists_of_replay (shmServer 0) (fun _ _ => True)
    (Server.registers 0 7 4096 64 ++ [.session 0 .regObserved,
      .session 0 (.regHandled (.error (.errorCode 0))), .session 0 (.sent (.value ())),
      .session 0 (.closed (.value 0))])
    (fun server => (server.sessions 0).cleanups .handle ≠ none ∧
      (server.sessions 0).cleanups .session ≠ none) (by decide)

end Ublk.Shm
