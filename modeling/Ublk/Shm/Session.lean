import Ublk.Handler
import Mathlib.Logic.Function.Basic

namespace Ublk.Shm

/-! # One session of the shm server

`shm_session` with `Session::handle` inlined, and the clean-up tasks it spawns. A
step ends where a coroutine suspends. A control command is executed by the driver at
one step and its completion is observed at a later one, so that completions of
different sessions can be observed in any order. A stop request makes the operation
that is awaited complete as stopped, without an effect of its own.
-/

inductive Awaited (α : Type) where
  | value (value : α)
  | error (err : IoError)
  | stopped
deriving DecidableEq, Repr

/-- Why the session ends after the result was sent. -/
inductive Hangup where
  | closed
  | sentData
  | failed
  | stopped
deriving DecidableEq, Repr

/-- What a session does that others can see. `register` and `unregister` are the
commands as issued, `registered` and `unregistered` their effect in the driver. -/
inductive Event where
  | installed (fds : List Int)
  | mapped (base size : Nat) (readOnly : Bool)
  | register (base size : Nat) (flags : BitVec 32)
  | registered (index : Nat)
  | handleRegShm (index : Int) (base size : Nat)
  | regShmSucceeded
  | sent (res : BitVec 32)
  | hangup (why : Hangup)
  | unregister (index : Int)
  | unregistered (index : Int)
  | handleUnregShm (index : Int)
  | unmapped (base size : Nat)
  | closedReceived (fd : Int)
  | closedClient
deriving DecidableEq, Repr

/-- Where `shm_session` is suspended. At `registered` the driver has executed the
command and the session has not resumed yet. -/
inductive Pc where
  | scheduled
  | receiving
  | stating
  | queryingInfo
  | registering
  | registered (index : Nat)
  | callingReg
  | sending (res : BitVec 32)
  | awaitingClose (res : BitVec 32)
  | ended
deriving DecidableEq, Repr

inductive CleanupPc where
  | scheduled
  | queryingInfo
  | unregistering
  | unregistered
  | ended
deriving DecidableEq, Repr

/-- A clean-up task works on its own copy of the session. -/
structure Cleanup where
  index : Int
  base : Nat
  size : Nat
  pc : CleanupPc
deriving DecidableEq, Repr

/-- The two guards that spawn a clean-up task: `d` in `Session::handle` and `d3` in
`shm_session`. Each one runs at most once. -/
inductive Guard where
  | handle
  | session
deriving DecidableEq, Repr

/-- The members of `Session`, with a null pointer as 0, and the locals and tasks of
`shm_session`. -/
structure Session where
  pc : Pc
  receivedFd : Int
  size : Nat
  base : Nat
  index : Int
  cleanups : Guard → Option Cleanup
  history : List Event

inductive Action where
  | started
  | neverStarted
  | received (answer : Awaited (List Int))
  | stated (answer : Awaited Nat) (mmap : Except (BitVec 32) Nat)
  | regQueried (answer : Awaited Unit)
  | regExecuted (index : Nat)
  | regRefused (err : IoError)
  | regStopped
  | regObserved
  | regHandled (answer : Awaited Unit)
  | sent (answer : Awaited Unit)
  | closed (answer : Awaited Nat)
  | cleanupRun (guard : Guard)
  | cleanupDropped (guard : Guard)
  | cleanupQueried (guard : Guard) (answer : Option IoError)
  | cleanupExecuted (guard : Guard)
  | cleanupRefused (guard : Guard) (err : IoError)
  | cleanupObserved (guard : Guard)

def ublkShmemBufReadOnly : BitVec 32 := 1 <<< 0

namespace Session

def new : Session where
  pc := .scheduled
  receivedFd := -1
  size := 0
  base := 0
  index := -1
  cleanups := fun _ => none
  history := []

def record (session : Session) (event : Event) : Session :=
  { session with history := session.history ++ [event] }

/-- `Session::cleanup` copies the session and spawns the task. -/
def cleanup (session : Session) (guard : Guard) : Session :=
  { session with
    cleanups := Function.update session.cleanups guard
      (some { index := session.index, base := session.base, size := session.size, pc := .scheduled }) }

/-- The guards `d2` and `d` close both descriptors. -/
def close (session : Session) : Session :=
  { (session.record (.closedReceived session.receivedFd)).record .closedClient with pc := .ended }

/-- `d3` runs first when the session ends. -/
def finish (session : Session) (res : BitVec 32) : Session :=
  if 0 ≤ res.toInt then (session.cleanup .session).close else session.close

/-- How `handle` completes; `shm_session` turns it into the result to send. -/
inductive HandleEnd where
  | value
  | error (err : IoError)
  | stopped
deriving DecidableEq, Repr

def HandleEnd.res : HandleEnd → BitVec 32
  | .value => 0
  | .error err => -normalizeError err (BitVec.ofInt 32 eio)
  | .stopped => -BitVec.ofInt 32 ecanceled

/-- `handle` is over: its guard spawns a clean-up unless it succeeded, and the result
is sent. -/
def handleEnded (session : Session) (how : HandleEnd) : Session :=
  let session := if how = .value then session else session.cleanup .handle
  { session.record (.sent how.res) with pc := .sending how.res }

variable (flags : BitVec 32)

def started (session : Session) : Option Session :=
  match session.pc with
  | .scheduled => some { session with pc := .receiving }
  | _ => none

/-- A stop request before the task was scheduled: it never runs. -/
def neverStarted (session : Session) : Option Session :=
  match session.pc with
  | .scheduled => some { session with pc := .ended }
  | _ => none

/-- The first descriptor of the control message is the received one. -/
def received (session : Session) (answer : Awaited (List Int)) : Option Session :=
  match session.pc with
  | .receiving =>
      match answer with
      | .value fds =>
          let session := session.record (.installed fds)
          let receivedFd := fds.headD (-1)
          if receivedFd = -1 then some { session.record .closedClient with pc := .ended }
          else some { session with receivedFd, pc := .stating }
      | _ => some { session.record .closedClient with pc := .ended }
  | _ => none

/-- Behind `statx` the memory is mapped at once, and the registration begins. -/
def stated (session : Session) (answer : Awaited Nat) (mmap : Except (BitVec 32) Nat) :
    Option Session :=
  match session.pc with
  | .stating =>
      match answer with
      | .value size =>
          let session := { session with size }
          match mmap with
          | .ok base =>
              if base ≠ 0 then
                let readOnly := hasFlag flags ublkShmemBufReadOnly
                some { session.record (.mapped base size readOnly) with base, pc := .queryingInfo }
              else none
          | .error errno => some (session.handleEnded (.error (.systemError errno)))
      | .error err => some (session.handleEnded (.error err))
      | .stopped => some (session.handleEnded .stopped)
  | _ => none

def regQueried (session : Session) (answer : Awaited Unit) : Option Session :=
  match session.pc with
  | .queryingInfo =>
      match answer with
      | .value _ =>
          some { session.record (.register session.base session.size flags) with pc := .registering }
      | .error err => some (session.handleEnded (.error err))
      | .stopped => some (session.handleEnded .stopped)
  | _ => none

def regExecuted (session : Session) (index : Nat) : Option Session :=
  match session.pc with
  | .registering => some { session.record (.registered index) with pc := .registered index }
  | _ => none

def regFailed (session : Session) (how : HandleEnd) : Option Session :=
  match session.pc with
  | .registering => some (session.handleEnded how)
  | _ => none

/-- The session resumes with the index and calls `handle_reg_shm`. -/
def regObserved (session : Session) : Option Session :=
  match session.pc with
  | .registered index =>
      some { session.record (.handleRegShm index session.base session.size) with
        index := (index : Int), pc := .callingReg }
  | _ => none

def regHandled (session : Session) (answer : Awaited Unit) : Option Session :=
  match session.pc with
  | .callingReg =>
      match answer with
      | .value _ => some ((session.record .regShmSucceeded).handleEnded .value)
      | .error err => some (session.handleEnded (.error err))
      | .stopped => some (session.handleEnded .stopped)
  | _ => none

/-- A negative result ends the session after it was sent. -/
def sent (session : Session) (answer : Awaited Unit) : Option Session :=
  match session.pc with
  | .sending res =>
      match answer with
      | .value _ =>
          if res.toInt < 0 then some (session.finish res)
          else some { session with pc := .awaitingClose res }
      | .error _ => some ((session.record (.hangup .failed)).finish res)
      | .stopped => some ((session.record (.hangup .stopped)).finish res)
  | _ => none

def closed (session : Session) (answer : Awaited Nat) : Option Session :=
  match session.pc with
  | .awaitingClose res =>
      let why : Hangup := match answer with
        | .value bytes => if bytes > 0 then .sentData else .closed
        | .error _ => .failed
        | .stopped => .stopped
      some ((session.record (.hangup why)).finish res)
  | _ => none

/-! ## The clean-up task -/

def setCleanup (session : Session) (guard : Guard) (task : Cleanup) (pc : CleanupPc) : Session :=
  { session with cleanups := Function.update session.cleanups guard (some { task with pc }) }

def unmap (session : Session) (guard : Guard) (task : Cleanup) : Session :=
  let session := if task.base ≠ 0 then session.record (.unmapped task.base task.size) else session
  session.setCleanup guard task .ended

/-- What the task does at each of its suspensions. -/
def cleanupStep (session : Session) (guard : Guard) (task : Cleanup) : Action → Option Session
  | .cleanupRun _ =>
      match task.pc with
      | .scheduled =>
          if task.index ≠ -1 then some (session.setCleanup guard task .queryingInfo)
          else some (session.unmap guard task)
      | _ => none
  | .cleanupDropped _ =>
      match task.pc with
      | .scheduled => some (session.setCleanup guard task .ended)
      | _ => none
  | .cleanupQueried _ answer =>
      match task.pc, answer with
      | .queryingInfo, none =>
          some ((session.record (.unregister task.index)).setCleanup guard task .unregistering)
      | .queryingInfo, some _ => some (session.setCleanup guard task .ended)
      | _, _ => none
  | .cleanupExecuted _ =>
      match task.pc with
      | .unregistering =>
          some ((session.record (.unregistered task.index)).setCleanup guard task .unregistered)
      | _ => none
  | .cleanupRefused _ _ =>
      match task.pc with
      | .unregistering => some (session.setCleanup guard task .ended)
      | _ => none
  | .cleanupObserved _ =>
      match task.pc with
      | .unregistered => some ((session.record (.handleUnregShm task.index)).unmap guard task)
      | _ => none
  | _ => none

@[simp] theorem record_history (session : Session) (event : Event) :
    (session.record event).history = session.history ++ [event] := rfl

@[simp] theorem cleanup_history (session : Session) (guard : Guard) :
    (session.cleanup guard).history = session.history := rfl

@[simp] theorem close_history (session : Session) :
    session.close.history = session.history ++ [.closedReceived session.receivedFd, .closedClient] := by
  simp [close]

@[simp] theorem finish_history (session : Session) (res : BitVec 32) :
    (session.finish res).history =
      session.history ++ [.closedReceived session.receivedFd, .closedClient] := by
  rw [finish]
  split <;> simp [cleanup]

@[simp] theorem handleEnded_history (session : Session) (how : HandleEnd) :
    (session.handleEnded how).history = session.history ++ [.sent how.res] := by
  rw [handleEnded]
  split <;> simp

@[simp] theorem setCleanup_history (session : Session) (guard : Guard) (task : Cleanup)
    (pc : CleanupPc) :
    (session.setCleanup guard task pc).history = session.history := rfl

@[simp] theorem unmap_history (session : Session) (guard : Guard) (task : Cleanup) :
    (session.unmap guard task).history =
      session.history ++ if task.base ≠ 0 then [.unmapped task.base task.size] else [] := by
  rw [unmap]
  split <;> simp

/-- What a session says about itself to the handler, and what a task copies. -/
def region (session : Session) : Int × Nat × Nat := (session.index, session.base, session.size)

@[simp] theorem record_region (session : Session) (event : Event) :
    (session.record event).region = session.region := rfl

@[simp] theorem close_region (session : Session) : session.close.region = session.region := rfl

@[simp] theorem finish_region (session : Session) (res : BitVec 32) :
    (session.finish res).region = session.region := by
  rw [finish]
  split <;> rfl

@[simp] theorem handleEnded_region (session : Session) (how : HandleEnd) :
    (session.handleEnded how).region = session.region := by
  rw [handleEnded]
  split <;> rfl

@[simp] theorem setCleanup_region (session : Session) (guard : Guard) (task : Cleanup)
    (pc : CleanupPc) :
    (session.setCleanup guard task pc).region = session.region := rfl

@[simp] theorem unmap_region (session : Session) (guard : Guard) (task : Cleanup) :
    (session.unmap guard task).region = session.region := by
  rw [unmap]
  split <;> rfl

@[simp] theorem finish_pc (session : Session) (res : BitVec 32) :
    (session.finish res).pc = .ended := by
  rw [finish]
  split <;> rfl

@[simp] theorem unmap_pc (session : Session) (guard : Guard) (task : Cleanup) :
    (session.unmap guard task).pc = session.pc := by
  rw [unmap]
  split <;> rfl

end Session

def Action.guard : Action → Option Guard
  | .cleanupRun guard => some guard
  | .cleanupDropped guard => some guard
  | .cleanupQueried guard _ => some guard
  | .cleanupExecuted guard => some guard
  | .cleanupRefused guard _ => some guard
  | .cleanupObserved guard => some guard
  | _ => none

def Session.step (flags : BitVec 32) (session : Session) (action : Action) : Option Session :=
  match action with
  | .started => session.started
  | .neverStarted => session.neverStarted
  | .received answer => session.received answer
  | .stated answer mmap => session.stated flags answer mmap
  | .regQueried answer => session.regQueried flags answer
  | .regExecuted index => session.regExecuted index
  | .regRefused err => session.regFailed (.error err)
  | .regStopped => session.regFailed .stopped
  | .regObserved => session.regObserved
  | .regHandled answer => session.regHandled answer
  | .sent answer => session.sent answer
  | .closed answer => session.closed answer
  | action =>
      match action.guard with
      | none => none
      | some guard =>
          match session.cleanups guard with
          | none => none
          | some task => session.cleanupStep guard task action

/-- Whether an error that ends `handle` carries a positive code, as errno values do. -/
def positiveCode (err : IoError) : Bool :=
  decide (0 < (normalizeError err (BitVec.ofInt 32 eio)).toInt)

def errorsPositive : Action → Bool
  | .stated (.error err) _ => positiveCode err
  | .stated (.value _) (.error errno) => positiveCode (.systemError errno)
  | .regQueried (.error err) => positiveCode err
  | .regRefused err => positiveCode err
  | .regHandled (.error err) => positiveCode err
  | _ => true

/-- The error with which a step ends `handle`. -/
def Action.handleError : Action → Option IoError
  | .stated (.error err) _ => some err
  | .stated (.value _) (.error errno) => some (.systemError errno)
  | .regQueried (.error err) => some err
  | .regRefused err => some err
  | .regHandled (.error err) => some err
  | _ => none

/-- The steps that change the driver's table or call the handler. -/
def Action.concernsOthers : Action → Bool
  | .regExecuted _ => true
  | .regObserved => true
  | .cleanupExecuted _ => true
  | .cleanupObserved _ => true
  | _ => false

/-! ## What a step can do -/

/-- The steps with their guards. All failures of `handle` are one constructor. -/
inductive Move (flags : BitVec 32) (session : Session) : Action → Session → Prop where
  | started (pc : session.pc = .scheduled) :
      Move flags session .started { session with pc := .receiving }
  | neverStarted (pc : session.pc = .scheduled) :
      Move flags session .neverStarted { session with pc := .ended }
  | received {fds : List Int} (pc : session.pc = .receiving) :
      Move flags session (.received (.value fds))
        { session.record (.installed fds) with receivedFd := fds.headD (-1), pc := .stating }
  | turnedAway {answer : Awaited (List Int)} (before : List Event) (pc : session.pc = .receiving)
      (harmless : ∀ event ∈ before, ∃ fds, event = .installed fds) :
      Move flags session (.received answer)
        { session with history := session.history ++ before ++ [.closedClient], pc := .ended }
  | mapped {size base : Nat} {readOnly : Bool} (pc : session.pc = .stating) (nonnull : base ≠ 0) :
      Move flags session (.stated (.value size) (.ok base))
        { session.record (.mapped base size readOnly) with size, base, pc := .queryingInfo }
  | handleFailed {action : Action} {how : Session.HandleEnd} (size : Nat)
      (pc : session.pc = .stating ∨ session.pc = .queryingInfo ∨ session.pc = .registering ∨
        session.pc = .callingReg)
      (known : session.pc ≠ .stating → size = session.size) (failed : how ≠ .value)
      (negative : errorsPositive action = true → how.res.toInt < 0)
      (alone : action.concernsOthers = false)
      (cause : ∀ err, how = .error err → action.handleError = some err) :
      Move flags session action (({ session with size } : Session).handleEnded how)
  | regQueried (pc : session.pc = .queryingInfo) :
      Move flags session (.regQueried (.value ()))
        { session.record (.register session.base session.size flags) with pc := .registering }
  | regExecuted {index : Nat} (pc : session.pc = .registering) :
      Move flags session (.regExecuted index) { session.record (.registered index) with pc := .registered index }
  | regObserved {index : Nat} (pc : session.pc = .registered index) :
      Move flags session .regObserved
        { session.record (.handleRegShm index session.base session.size) with
          index := (index : Int), pc := .callingReg }
  | regHandled (pc : session.pc = .callingReg) :
      Move flags session (.regHandled (.value ())) ((session.record .regShmSucceeded).handleEnded .value)
  | resultSent {res : BitVec 32} (pc : session.pc = .sending res) (success : 0 ≤ res.toInt) :
      Move flags session (.sent (.value ())) { session with pc := .awaitingClose res }
  | failureSent {res : BitVec 32} (pc : session.pc = .sending res) (failure : res.toInt < 0) :
      Move flags session (.sent (.value ())) session.close
  | hungUp {action : Action} {res : BitVec 32} {why : Hangup}
      (pc : session.pc = .sending res ∨ session.pc = .awaitingClose res)
      (alone : action.concernsOthers = false) :
      Move flags session action ((session.record (.hangup why)).finish res)
  | cleanupRun {guard : Guard} {task : Cleanup} (spawned : session.cleanups guard = some task)
      (pc : task.pc = .scheduled) (indexed : task.index ≠ -1) :
      Move flags session (.cleanupRun guard) (session.setCleanup guard task .queryingInfo)
  | cleanupUnmap {guard : Guard} {task : Cleanup} (spawned : session.cleanups guard = some task)
      (pc : task.pc = .scheduled) (unindexed : task.index = -1) :
      Move flags session (.cleanupRun guard) (session.unmap guard task)
  | cleanupDropped {guard : Guard} {task : Cleanup} (spawned : session.cleanups guard = some task)
      (pc : task.pc = .scheduled) :
      Move flags session (.cleanupDropped guard) (session.setCleanup guard task .ended)
  | cleanupQueried {guard : Guard} {task : Cleanup} (spawned : session.cleanups guard = some task)
      (pc : task.pc = .queryingInfo) :
      Move flags session (.cleanupQueried guard none)
        ((session.record (.unregister task.index)).setCleanup guard task .unregistering)
  | cleanupUnqueried {guard : Guard} {task : Cleanup} {err : IoError}
      (spawned : session.cleanups guard = some task) (pc : task.pc = .queryingInfo) :
      Move flags session (.cleanupQueried guard (some err)) (session.setCleanup guard task .ended)
  | cleanupExecuted {guard : Guard} {task : Cleanup} (spawned : session.cleanups guard = some task)
      (pc : task.pc = .unregistering) :
      Move flags session (.cleanupExecuted guard)
        ((session.record (.unregistered task.index)).setCleanup guard task .unregistered)
  | cleanupRefused {guard : Guard} {task : Cleanup} {err : IoError}
      (spawned : session.cleanups guard = some task) (pc : task.pc = .unregistering) :
      Move flags session (.cleanupRefused guard err) (session.setCleanup guard task .ended)
  | cleanupObserved {guard : Guard} {task : Cleanup} (spawned : session.cleanups guard = some task)
      (pc : task.pc = .unregistered) :
      Move flags session (.cleanupObserved guard)
        ((session.record (.handleUnregShm task.index)).unmap guard task)

variable {flags : BitVec 32} {session after : Session} {action : Action}

theorem neg_toInt_neg {value : BitVec 32} (positive : 0 < value.toInt) : (-value).toInt < 0 := by
  have notMin : value ≠ BitVec.intMin 32 := by
    rintro rfl
    simp [BitVec.toInt_intMin] at positive
  rw [BitVec.toInt_neg_of_ne_intMin notMin]
  omega

theorem error_negative {err : IoError} (positive : positiveCode err = true) :
    (Session.HandleEnd.error err).res.toInt < 0 :=
  neg_toInt_neg (by simpa [positiveCode] using positive)

theorem stopped_negative : Session.HandleEnd.stopped.res.toInt < 0 := by decide

theorem received_move {answer : Awaited (List Int)} (taken : session.received answer = some after) :
    Move flags session (.received answer) after := by
  simp only [Session.received] at taken
  split at taken
  · rename_i pc
    cases answer with
    | value fds =>
        simp only at taken
        split at taken
        · cases taken
          exact .turnedAway [.installed fds] pc (by simp)
        · cases taken
          exact .received pc
    | error err =>
        cases taken
        have turned : Move flags session (.received (.error err)) _ := .turnedAway [] pc (by simp)
        simpa [Session.record] using turned
    | stopped =>
        cases taken
        have turned : Move flags session (.received .stopped) _ := .turnedAway [] pc (by simp)
        simpa [Session.record] using turned
  · contradiction

theorem stated_move {answer : Awaited Nat} {mmap : Except (BitVec 32) Nat}
    (taken : session.stated flags answer mmap = some after) :
    Move flags session (.stated answer mmap) after := by
  simp only [Session.stated] at taken
  split at taken
  · rename_i pc
    cases answer with
    | value size =>
        cases mmap with
        | ok base =>
            simp only [ne_eq, ite_not, Option.ite_none_left_eq_some] at taken
            obtain ⟨nonnull, taken⟩ := taken
            cases taken
            exact .mapped pc nonnull
        | error errno =>
            cases taken
            exact .handleFailed size (.inl pc) (fun other => absurd pc other)
              (by simp) error_negative rfl (by simp [Action.handleError])
    | error err =>
        cases taken
        exact .handleFailed session.size (.inl pc) (fun _ => rfl) (by simp) error_negative rfl
          (by simp [Action.handleError])
    | stopped =>
        cases taken
        exact .handleFailed session.size (.inl pc) (fun _ => rfl) (by simp)
          (fun _ => stopped_negative) rfl (by simp)
  · contradiction

theorem regQueried_move {answer : Awaited Unit}
    (taken : session.regQueried flags answer = some after) :
    Move flags session (.regQueried answer) after := by
  simp only [Session.regQueried] at taken
  split at taken
  · rename_i pc
    cases answer with
    | value => cases taken; exact .regQueried pc
    | error err =>
        cases taken
        exact .handleFailed session.size (.inr (.inl pc)) (fun _ => rfl)
          (by simp) error_negative rfl (by simp [Action.handleError])
    | stopped =>
        cases taken
        exact .handleFailed session.size (.inr (.inl pc)) (fun _ => rfl) (by simp)
          (fun _ => stopped_negative) rfl (by simp)
  · contradiction

theorem regFailed_move {how : Session.HandleEnd} (failed : how ≠ .value)
    (negative : errorsPositive action = true → how.res.toInt < 0)
    (alone : action.concernsOthers = false)
    (cause : ∀ err, how = .error err → action.handleError = some err)
    (taken : session.regFailed how = some after) : Move flags session action after := by
  rw [Session.regFailed] at taken
  split at taken
  · rename_i pc
    cases taken
    exact .handleFailed session.size (.inr (.inr (.inl pc))) (fun _ => rfl) failed negative alone cause
  · contradiction

theorem regHandled_move {answer : Awaited Unit} (taken : session.regHandled answer = some after) :
    Move flags session (.regHandled answer) after := by
  simp only [Session.regHandled] at taken
  split at taken
  · rename_i pc
    cases answer with
    | value => cases taken; exact .regHandled pc
    | error err =>
        cases taken
        exact .handleFailed session.size (.inr (.inr (.inr pc))) (fun _ => rfl) (by simp)
          error_negative rfl (by simp [Action.handleError])
    | stopped =>
        cases taken
        exact .handleFailed session.size (.inr (.inr (.inr pc))) (fun _ => rfl) (by simp)
          (fun _ => stopped_negative) rfl (by simp)
  · contradiction

theorem sent_move {answer : Awaited Unit} (taken : session.sent answer = some after) :
    Move flags session (.sent answer) after := by
  rw [Session.sent] at taken
  split at taken
  · rename_i res pc
    cases answer with
    | value =>
        simp only at taken
        split at taken
        · rename_i failure
          cases taken
          have skipped : ¬ 0 ≤ res.toInt := by omega
          have ended : Move flags session (.sent (.value ())) session.close :=
            .failureSent pc failure
          simpa only [Session.finish, skipped, ↓reduceIte] using ended
        · rename_i success
          cases taken
          exact .resultSent pc (by omega)
    | error err => cases taken; exact .hungUp (.inl pc) rfl
    | stopped => cases taken; exact .hungUp (.inl pc) rfl
  · contradiction

theorem cleanup_move {guard : Guard} {task : Cleanup} (spawned : session.cleanups guard = some task)
    (own : action.guard = some guard) (taken : session.cleanupStep guard task action = some after) :
    Move flags session action after := by
  cases action with
  | cleanupRun other =>
      cases own
      simp only [Session.cleanupStep] at taken
      split at taken
      · rename_i pc
        split at taken
        · rename_i indexed
          cases taken
          exact .cleanupRun spawned pc indexed
        · rename_i unindexed
          cases taken
          exact .cleanupUnmap spawned pc (not_not.mp unindexed)
      · contradiction
  | cleanupDropped other =>
      cases own
      simp only [Session.cleanupStep] at taken
      split at taken
      · rename_i pc
        cases taken
        exact .cleanupDropped spawned pc
      · contradiction
  | cleanupQueried other answer =>
      cases own
      simp only [Session.cleanupStep] at taken
      split at taken
      · rename_i pc
        cases taken
        exact .cleanupQueried spawned pc
      · rename_i pc
        cases taken
        exact .cleanupUnqueried spawned pc
      · contradiction
  | cleanupExecuted other =>
      cases own
      simp only [Session.cleanupStep] at taken
      split at taken
      · rename_i pc
        cases taken
        exact .cleanupExecuted spawned pc
      · contradiction
  | cleanupRefused other err =>
      cases own
      simp only [Session.cleanupStep] at taken
      split at taken
      · rename_i pc
        cases taken
        exact .cleanupRefused spawned pc
      · contradiction
  | cleanupObserved other =>
      cases own
      simp only [Session.cleanupStep] at taken
      split at taken
      · rename_i pc
        cases taken
        exact .cleanupObserved spawned pc
      · contradiction
  | _ => cases own

theorem Session.step_move (taken : session.step flags action = some after) :
    Move flags session action after := by
  have task {guard : Guard} (own : action.guard = some guard)
      (taken : (match session.cleanups guard with
        | none => none
        | some task => session.cleanupStep guard task action) = some after) :
      Move flags session action after := by
    split at taken
    · contradiction
    · rename_i task spawned
      exact cleanup_move spawned own taken
  cases action with
  | started =>
      simp only [Session.step, Session.started] at taken
      split at taken
      · rename_i pc
        cases taken
        exact .started pc
      · contradiction
  | neverStarted =>
      simp only [Session.step, Session.neverStarted] at taken
      split at taken
      · rename_i pc
        cases taken
        exact .neverStarted pc
      · contradiction
  | received answer => exact received_move taken
  | stated answer mmap => exact stated_move taken
  | regQueried answer => exact regQueried_move taken
  | regExecuted index =>
      simp only [Session.step, Session.regExecuted] at taken
      split at taken
      · rename_i pc
        cases taken
        exact .regExecuted pc
      · contradiction
  | regRefused err =>
      exact regFailed_move (by simp) error_negative rfl (by simp [Action.handleError]) taken
  | regStopped => exact regFailed_move (by simp) (fun _ => stopped_negative) rfl (by simp) taken
  | regObserved =>
      simp only [Session.step, Session.regObserved] at taken
      split at taken
      · rename_i index pc
        cases taken
        exact .regObserved pc
      · contradiction
  | regHandled answer => exact regHandled_move taken
  | sent answer => exact sent_move taken
  | closed answer =>
      simp only [Session.step, Session.closed] at taken
      split at taken
      · rename_i res pc
        cases taken
        exact .hungUp (.inr pc) rfl
      · contradiction
  | cleanupRun guard => exact task rfl taken
  | cleanupDropped guard => exact task rfl taken
  | cleanupQueried guard answer => exact task rfl taken
  | cleanupExecuted guard => exact task rfl taken
  | cleanupRefused guard err => exact task rfl taken
  | cleanupObserved guard => exact task rfl taken

end Ublk.Shm
