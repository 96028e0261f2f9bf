import Ublk.Ctl.Commands

namespace Ublk.Ctl

open Ublk.Data Ublk.Control

/-! # The exit status of `ublkctl`

Whatever a `co_await` of a command came back with decides how `ublkctl` ends: the first
failure is the last thing that happens, and its error number is the exit status.
-/

def failureOf {α : Type} : Except ControlError α → Option ControlError
  | .error err => some err
  | .ok _ => none

/-- What each `co_await` of a task came back with, in order. -/
def outcomes {State α : Type} (driver : Driver State) (env : Option DevInfo) :
    Script α → State → List (Option ControlError)
  | .done _, _ => []
  | .raw cmd next, state =>
      let (middle, reply) := driver.execute state cmd
      (if reply.res < 0 then some (.system (-reply.res) "") else none) :: outcomes driver env (next reply) middle
  | .getInfo devId stack next, state =>
      let told := (query driver devId stack state).2
      failureOf told :: outcomes driver env (next told) state
  | .fetchInfo devId stack next, state =>
      let told := (lookup driver env devId stack state).2
      failureOf told :: outcomes driver env (next told) state
  | .call given operation devId stack next, state =>
      let (_, middle, received) := perform driver (given.or env) operation devId stack state
      failureOf received :: outcomes driver env (next received) middle

/-! ## Error numbers -/

section Errors

variable {State α : Type} {driver : Driver State} {err : ControlError}

def Positive (err : ControlError) : Prop := 0 < exitStatus (some err)

theorem positive_of_negative {res : Int} (failed : res < 0) (what : String) : Positive (.system (-res) what) :=
  Int.neg_pos_of_neg failed

theorem tryGetDevInfo_positive {field : PathField} {devId : BitVec 32} {answers : Nat → InfoAnswer}
    {fallback : InfoAnswer} {info : DevInfo} {attempt : Nat}
    (failed : (tryGetDevInfo field devId answers fallback info attempt).2 = .error err) : Positive err := by
  simp only [tryGetDevInfo] at failed
  split at failed
  · cases failed
  rename_i refused
  split at failed
  · cases failed
  split at failed
  · split at failed
    · cases failed
    · rename_i refusedAgain
      cases failed
      exact positive_of_negative (by omega) _
  · cases failed
    exact positive_of_negative (by omega) _

/-- An error of the retried function is one of its calls. -/
theorem retry_error {fn : Nat → Tried (Option α)} {sleepMs : Nat} :
    ∀ {more attempt : Nat}, (retry fn sleepMs more attempt).2 = .error err → ∃ call, (fn call).2 = .error err := by
  intro more
  induction more with
  | zero =>
      intro attempt failed
      exact ⟨attempt, failed⟩
  | succ more ih =>
      intro attempt failed
      rw [retry] at failed
      split at failed
      · exact ih failed
      · exact ⟨attempt, failed⟩

theorem query_positive {devId : BitVec 32} {stack : Stack} {state : State}
    (failed : (query driver devId stack state).2 = .error err) : Positive err := by
  rw [query, controlGetDevInfo] at failed
  split at failed
  · cases failed
  · cases failed
    change (0 : Int) < eacces
    decide
  · rename_i events thrown same
    cases failed
    obtain ⟨call, refused⟩ := retry_error (congrArg Prod.snd same)
    exact tryGetDevInfo_positive refused

theorem lookup_positive {env : Option DevInfo} {devId : BitVec 32} {stack : Stack} {state : State}
    (failed : (lookup driver env devId stack state).2 = .error err) : Positive err := by
  cases present : hit env devId with
  | true =>
      obtain ⟨found, -, finds⟩ := @lookup_hit _ driver env devId state present stack
      rw [finds] at failed
      cases failed
  | false =>
      rw [lookup_miss present] at failed
      exact query_positive failed

theorem perform_positive {env : Option DevInfo} {operation : Operation} {devId : BitVec 32} {stack : Stack}
    {state : State} (failed : (perform driver env operation devId stack state).2.2 = .error err) : Positive err := by
  cases finds : (lookup driver env devId stack state).2 with
  | error refused =>
      have same : perform driver env operation devId stack state =
          ((lookup driver env devId stack state).1, state, .error refused) := by
        rw [perform]
        split
        · rename_i log thrown found
          rw [found] at finds
          cases finds
          rw [found]
        · rename_i log info found
          rw [found] at finds
          cases finds
      rw [same] at failed
      cases failed
      exact lookup_positive finds
  | ok info =>
      rw [perform_found finds] at failed
      simp only at failed
      split at failed
      · rename_i refused
        cases failed
        exact positive_of_negative refused ""
      · cases failed

theorem failureOf_eq {result : Except ControlError α} (failed : failureOf result = some err) :
    result = .error err := by
  cases result with
  | error thrown =>
      cases failed
      rfl
  | ok value => cases failed

/-- Every failure has an error number that is not zero. -/
theorem outcomes_positive {env : Option DevInfo} {script : Script α} {state : State}
    (failed : some err ∈ outcomes driver env script state) : Positive err := by
  induction script generalizing state with
  | done result => cases failed
  | raw cmd next ih =>
      rcases List.mem_cons.mp failed with here | later
      · split at here
        · rename_i refused
          cases here
          exact positive_of_negative refused ""
        · cases here
      · exact ih _ later
  | getInfo devId stack next ih =>
      rcases List.mem_cons.mp failed with here | later
      · exact query_positive (failureOf_eq here.symm)
      · exact ih _ later
  | fetchInfo devId stack next ih =>
      rcases List.mem_cons.mp failed with here | later
      · exact lookup_positive (failureOf_eq here.symm)
      · exact ih _ later
  | call given operation devId stack next ih =>
      rcases List.mem_cons.mp failed with here | later
      · exact perform_positive (failureOf_eq here.symm)
      · exact ih _ later

end Errors

/-! ## The first failure ends a task -/

def Throws (err : ControlError) (task : Task) : Prop := ∃ out, task = .done (.ok ⟨out, some err⟩)

/-- The task ends with the exception of a `co_await` that failed, and with `final` if none
did. -/
def Strict (final : Option ControlError) : Task → Prop
  | .done (.error _) => False
  | .done (.ok ended) => ended.thrown = final
  | .raw _ next => ∀ reply : Reply,
      if reply.res < 0 then Throws (.system (-reply.res) "") (next reply) else Strict final (next reply)
  | .getInfo _ _ next => (∀ err, Throws err (next (.error err))) ∧ ∀ info, Strict final (next (.ok info))
  | .fetchInfo _ _ _ => False
  | .call _ _ _ _ next => (∀ err, Throws err (next (.error err))) ∧ ∀ received, Strict final (next (.ok received))

variable {final : Option ControlError}

theorem throws_behind {err : ControlError} {task : Task} (throws : Throws err task) (text : List Char) :
    Throws err (behind text task) := by
  obtain ⟨out, rfl⟩ := throws
  exact ⟨text ++ out, rfl⟩

theorem throws_thenTask {err : ControlError} {first : Task} (throws : Throws err first) (second : Task) :
    Throws err (thenTask first second) := by
  obtain ⟨out, rfl⟩ := throws
  exact ⟨out, rfl⟩

theorem strict_behind {task : Task} (strict : Strict final task) (text : List Char) :
    Strict final (behind text task) := by
  induction task with
  | done result =>
      cases result with
      | error err => exact strict
      | ok ended => exact strict
  | raw cmd next ih =>
      intro reply
      have one := strict reply
      split
      · rename_i refused
        rw [if_pos refused] at one
        exact throws_behind one text
      · rename_i accepted
        rw [if_neg accepted] at one
        exact ih reply one
  | getInfo devId stack next ih =>
      exact ⟨fun err => throws_behind (strict.1 err) text, fun info => ih _ (strict.2 info)⟩
  | fetchInfo devId stack next ih => exact strict
  | call given operation devId stack next ih =>
      exact ⟨fun err => throws_behind (strict.1 err) text, fun received => ih _ (strict.2 received)⟩

theorem strict_thenTask {first second : Task} (strict : Strict none first) (later : Strict final second) :
    Strict final (thenTask first second) := by
  induction first with
  | done result =>
      cases result with
      | error err => exact strict.elim
      | ok ended =>
          obtain ⟨out, thrown⟩ := ended
          cases strict
          exact strict_behind later out
  | raw cmd next ih =>
      intro reply
      have one := strict reply
      split
      · rename_i refused
        rw [if_pos refused] at one
        exact throws_thenTask one second
      · rename_i accepted
        rw [if_neg accepted] at one
        exact ih reply one
  | getInfo devId stack next ih =>
      exact ⟨fun err => throws_thenTask (strict.1 err) second, fun info => ih _ (strict.2 info)⟩
  | fetchInfo devId stack next ih => exact strict.elim
  | call given operation devId stack next ih =>
      exact ⟨fun err => throws_thenTask (strict.1 err) second, fun received => ih _ (strict.2 received)⟩

theorem throws_orThrow {α : Type} (next : α → Task) (err : ControlError) : Throws err (orThrow next (.error err)) :=
  ⟨[], rfl⟩

/-- How a task ended, given what its `co_await`s came back with. -/
structure Concludes (final : Option ControlError) (results : List (Option ControlError)) (ended : Ended) : Prop where
  failed : ∀ err, some err ∈ results → results.getLast? = some (some err) ∧ ended.thrown = some err
  passed : (∀ result ∈ results, result = none) → ended.thrown = final

theorem concludes_throw {err : ControlError} {ended : Ended} (thrown : ended.thrown = some err) :
    Concludes final [some err] ended := by
  constructor
  · intro other member
    cases List.mem_singleton.mp member
    exact ⟨rfl, thrown⟩
  · intro passed
    cases passed _ List.mem_cons_self

theorem Concludes.cons {results : List (Option ControlError)} {ended : Ended}
    (concludes : Concludes final results ended) : Concludes final (none :: results) ended := by
  constructor
  · intro err member
    have later : some err ∈ results := by simpa using member
    obtain ⟨last, thrown⟩ := concludes.failed err later
    refine ⟨?_, thrown⟩
    rw [List.getLast?_cons, last]
    rfl
  · intro passed
    exact concludes.passed fun result member => passed result (List.mem_cons_of_mem _ member)

variable {State : Type} {driver : Driver State} {env : Option DevInfo}

theorem run_throws {err : ControlError} {task : Task} (throws : Throws err task) (state : State) :
    outcomes driver env task state = [] ∧
      ∃ ended, (task.run driver env state).2.2 = .ok ended ∧ ended.thrown = some err := by
  obtain ⟨out, rfl⟩ := throws
  exact ⟨rfl, _, rfl, rfl⟩

/-- A `co_await` that a strict task goes on behind, or that throws. -/
theorem concludes_step {α : Type} {result : Except ControlError α} {next : Except ControlError α → Task}
    (throws : ∀ err, Throws err (next (.error err)))
    (later : ∀ value middle, ∃ ended, ((next (.ok value)).run driver env middle).2.2 = .ok ended ∧
      Concludes final (outcomes driver env (next (.ok value)) middle) ended) (middle : State) :
    ∃ ended, ((next result).run driver env middle).2.2 = .ok ended ∧
      Concludes final (failureOf result :: outcomes driver env (next result) middle) ended := by
  cases result with
  | error err =>
      obtain ⟨nothing, ended, ends, thrown⟩ := @run_throws _ driver env _ _ (throws err) middle
      rw [nothing]
      exact ⟨ended, ends, concludes_throw thrown⟩
  | ok value =>
      obtain ⟨ended, ends, concludes⟩ := later value middle
      exact ⟨ended, ends, concludes.cons⟩

theorem run_strict {task : Task} (strict : Strict final task) (state : State) :
    ∃ ended, (task.run driver env state).2.2 = .ok ended ∧
      Concludes final (outcomes driver env task state) ended := by
  induction task generalizing state with
  | done result =>
      cases result with
      | error err => exact strict.elim
      | ok ended =>
          refine ⟨ended, rfl, ?_, fun _ => strict⟩
          intro err member
          cases member
  | raw cmd next ih =>
      rcases executed : driver.execute state cmd with ⟨middle, reply⟩
      have one := strict reply
      simp only [Script.run, outcomes, executed]
      split
      · rename_i refused
        rw [if_pos refused] at one
        obtain ⟨nothing, ended, ends, thrown⟩ := @run_throws _ driver env _ _ one middle
        rw [nothing]
        exact ⟨ended, ends, concludes_throw thrown⟩
      · rename_i accepted
        rw [if_neg accepted] at one
        obtain ⟨ended, ends, concludes⟩ := ih reply one middle
        exact ⟨ended, ends, concludes.cons⟩
  | getInfo devId stack next ih =>
      exact concludes_step strict.1 (fun info middle => ih _ (strict.2 info) middle) state
  | fetchInfo devId stack next ih => exact strict.elim
  | call given operation devId stack next ih =>
      exact concludes_step strict.1 (fun received middle => ih _ (strict.2 received) middle) _

/-! ## The commands -/

section Commands

variable (stack : Stack) (cpuset : CpuSet)

theorem strict_dumpQueueAffinity (info : DevInfo) (left : Nat) :
    ∀ qId, Strict none (dumpQueueAffinity stack cpuset info qId left) := by
  induction left with
  | zero =>
      intro qId
      rfl
  | succ left ih =>
      intro qId
      exact ⟨throws_orThrow _, fun received => strict_behind (ih (qId + 1)) _⟩

theorem strict_dumpDevice (devId : BitVec 32) (info : DevInfo) : Strict none (dumpDevice stack cpuset devId info) :=
  ⟨throws_orThrow _, fun _ => strict_behind (strict_dumpQueueAffinity stack cpuset info _ 0) _⟩

theorem strict_getDevice (devId : BitVec 32) : Strict none (getDevice stack cpuset devId) :=
  ⟨throws_orThrow _, strict_dumpDevice stack cpuset devId⟩

theorem strict_operate (operation : Operation) (devId : BitVec 32) : Strict none (operate stack operation devId) :=
  ⟨throws_orThrow _, fun _ => rfl⟩

/-- The exception with which the iterator leaves `list`. -/
def directoryError (failure : Option Errno) : Option ControlError := failure.map fun code => .system code.val ""

theorem strict_listDevices (failure : Option Errno) (names : List (List Char)) :
    Strict (directoryError failure) (listDevices stack cpuset failure names) := by
  induction names with
  | nil =>
      cases failure with
      | none => rfl
      | some code => rfl
  | cons name rest ih =>
      rw [listDevices]
      split
      · exact ih
      · exact strict_thenTask (strict_getDevice stack cpuset _) ih

/-- What is thrown though no `co_await` failed. -/
def Cmd.lastError (directory : Directory) : Cmd → Option ControlError
  | .list => directoryError directory.failure
  | _ => none

theorem strict_runCmd (directory : Directory) (cmd : Cmd) :
    Strict (cmd.lastError directory) (runCmd stack cpuset directory cmd) := by
  cases cmd with
  | add devId nrQueues queueDepth maxIoBufBytes flags =>
      intro reply
      by_cases refused : reply.res < 0
      · simp only [refused, if_true]
        exact ⟨[], rfl⟩
      · simp only [refused, if_false]
        exact strict_dumpDevice stack cpuset _ _
  | del devId async => exact strict_operate stack _ devId
  | start devId daemonPid => exact strict_operate stack _ devId
  | stop devId tryStop => exact strict_operate stack _ devId
  | list => exact strict_listDevices stack cpuset _ _
  | get devId => exact strict_getDevice stack cpuset devId
  | startRecovery devId => exact strict_operate stack _ devId
  | recover devId daemonPid => exact strict_operate stack _ devId
  | features =>
      intro reply
      by_cases refused : reply.res < 0
      · simp only [refused, if_true]
        exact ⟨[], rfl⟩
      · simp only [refused, if_false]
        rfl
  | quiesce devId timeoutMs => exact strict_operate stack _ devId

theorem lastError_positive {directory : Directory} {cmd : Cmd} {err : ControlError}
    (ends : cmd.lastError directory = some err) : Positive err := by
  cases cmd with
  | list =>
      obtain ⟨code, -, rfl⟩ := Option.map_eq_some_iff.mp ends
      exact code.property
  | _ => cases ends

theorem lastError_eq_none {directory : Directory} {cmd : Cmd} :
    cmd.lastError directory = none ↔ (cmd = .list → directory.failure = none) := by
  cases cmd with
  | list => simp [Cmd.lastError, directoryError]
  | _ => simp [Cmd.lastError]

theorem exitStatus_eq_zero {thrown : Option ControlError} (positive : ∀ err, thrown = some err → Positive err) :
    exitStatus thrown = 0 ↔ thrown = none := by
  cases thrown with
  | none => simp [exitStatus]
  | some err =>
      have number : 0 < exitStatus (some err) := positive err rfl
      constructor
      · intro zero
        rw [zero] at number
        exact absurd number (Int.lt_irrefl 0)
      · intro absent
        cases absent

/-- `main` returns by how its command ended. -/
theorem ublkctl_ended {driver : Driver State} {directory : Directory} {cmd : Cmd} {state after : State}
    {log : List Entry} {ended : Ended}
    (ran : (runCmd stack cpuset directory cmd).run driver none state = (log, after, .ok ended)) :
    ublkctl stack cpuset driver none directory cmd state =
      ⟨log, after, ended.out, exitStatus ended.thrown⟩ := by
  simp only [ublkctl, ran]

/-- `ublkctl` hides no failure and invents none: it returns zero exactly when the control
device was there, everything that it waited for succeeded, and the iteration of `list`
came to its end. The first operation that fails is the last one, and its error number is
the status. -/
theorem ublkctl_status (driver : Driver State) (control : Option Errno) (directory : Directory) (cmd : Cmd)
    (state : State) :
    let results := outcomes driver none (runCmd stack cpuset directory cmd) state
    let exit := ublkctl stack cpuset driver control directory cmd state
    (exit.status = 0 ↔ control = none ∧ (∀ result ∈ results, result = none) ∧
      (cmd = .list → directory.failure = none)) ∧
    (control = none → ∀ err, some err ∈ results →
      results.getLast? = some (some err) ∧ exit.status = exitStatus (some err)) := by
  intro results exit
  cases control with
  | some code =>
      have nonzero : exit.status ≠ 0 := Int.ne_of_gt code.property
      refine ⟨⟨fun zero => absurd zero nonzero, ?_⟩, ?_⟩
      · rintro ⟨opened, -⟩
        cases opened
      · intro opened
        cases opened
  | none =>
      obtain ⟨ended, ends, concludes⟩ :=
        @run_strict _ _ driver none _ (strict_runCmd stack cpuset directory cmd) state
      have status : exit.status = exitStatus ended.thrown := by
        rcases ran : (runCmd stack cpuset directory cmd).run driver none state with ⟨log, after, result⟩
        rw [ran] at ends
        cases ends
        exact congrArg Exit.status (ublkctl_ended stack cpuset ran)
      constructor
      · by_cases passed : ∀ result ∈ results, result = none
        · have thrown := concludes.passed passed
          rw [status, thrown, exitStatus_eq_zero fun err ends => lastError_positive ends, lastError_eq_none]
          exact ⟨fun complete => ⟨rfl, passed, complete⟩, fun fine => fine.2.2⟩
        · obtain ⟨result, member, failed⟩ : ∃ result ∈ results, result ≠ none := by simpa using passed
          obtain ⟨err, rfl⟩ := Option.ne_none_iff_exists'.mp failed
          have number : 0 < exitStatus (some err) := outcomes_positive member
          rw [status, (concludes.failed err member).2]
          exact ⟨fun zero => absurd zero (Int.ne_of_gt number), fun fine => absurd fine.2.1 passed⟩
      · intro _ err member
        obtain ⟨last, thrown⟩ := concludes.failed err member
        exact ⟨last, by rw [status, thrown]⟩

end Commands

end Ublk.Ctl
