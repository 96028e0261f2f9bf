import Ublk.Queue.Plain
import Ublk.Queue.Batch.Environment

namespace Ublk.Queue

open Ublk.Machine

/-! # `run()` around the workers

Both queues call `init_queue` first and leave `destroy_queue` to a guard, and both
collect the errors of their workers behind a join. `BatchIoQueue` issues `PREP` in
between. What runs inside is a system of its own, which has a result when the join and
the checks behind it are over.
-/

inductive InitEnd where
  | value
  | error (err : IoError)
  | stopped
deriving DecidableEq, Repr

inductive PrepEnd where
  | ok
  | error (code : Int)
  | stopped
deriving DecidableEq, Repr

inductive RunError where
  | init (err : IoError)
  | queue (err : QueueError)
deriving DecidableEq, Repr

inductive Outcome where
  | done
  | error (err : RunError)
  | stopped
deriving DecidableEq, Repr

inductive Stage where
  | initializing
  | preparing
  | running
  | ended (outcome : Outcome)
deriving DecidableEq, Repr

/-- `init` and `prep` are how the two calls have completed, and `destroyed` counts the
calls of `destroy_queue`. -/
structure Run (Body : Type) where
  stage : Stage
  init : Option InitEnd
  prep : Option PrepEnd
  destroyed : Nat
  body : Body

inductive RunAction (BodyAction : Type) where
  | initEnd (how : InitEnd)
  | prepEnd (how : PrepEnd)
  | body (action : BodyAction)

def Batch.RunResult.outcome : Batch.RunResult → Outcome
  | .done => .done
  | .error err => .error (.queue err)
  | .stopped => .stopped

variable {Body BodyAction : Type}

/-- `hooks` is whether the handler is a `QueueHandler`, `prepares` whether the queue
issues `PREP`. -/
structure Shape where
  hooks : Bool
  prepares : Bool

namespace Run

def afterInit (shape : Shape) : Stage := if shape.prepares then .preparing else .running

/-- The guard behind `init_queue` runs on every way out. -/
def finish (shape : Shape) (run : Run Body) (outcome : Outcome) : Run Body :=
  { run with
    stage := .ended outcome
    destroyed := if shape.hooks then run.destroyed + 1 else run.destroyed }

def initEnd (shape : Shape) (run : Run Body) (how : InitEnd) : Option (Run Body) :=
  match run.stage with
  | .initializing =>
      let run := { run with init := some how }
      match how with
      | .value => some { run with stage := afterInit shape }
      | .error err => some { run with stage := .ended (.error (.init err)) }
      | .stopped => some { run with stage := .ended .stopped }
  | _ => none

def prepEnd (shape : Shape) (run : Run Body) (how : PrepEnd) : Option (Run Body) :=
  match run.stage with
  | .preparing =>
      let run := { run with prep := some how }
      match how with
      | .ok => some { run with stage := .running }
      | .error code => some (run.finish shape (.error (.queue (.system code ""))))
      | .stopped => some (run.finish shape .stopped)
  | _ => none

/-- A step of the workers; `run()` goes on when they have a result. -/
def runBody (shape : Shape) (inner : System Body BodyAction) (result : Body → Option Batch.RunResult)
    (run : Run Body) (action : BodyAction) : Option (Run Body) :=
  match run.stage with
  | .running =>
      match inner.step run.body action with
      | none => none
      | some body =>
          match result body with
          | none => some { run with body }
          | some ended => some (({ run with body } : Run Body).finish shape ended.outcome)
  | _ => none

def step (shape : Shape) (inner : System Body BodyAction) (result : Body → Option Batch.RunResult)
    (run : Run Body) : RunAction BodyAction → Option (Run Body)
  | .initEnd how => run.initEnd shape how
  | .prepEnd how => run.prepEnd shape how
  | .body action => run.runBody shape inner result action

end Run

def bracket (shape : Shape) (inner : System Body BodyAction) (result : Body → Option Batch.RunResult) :
    System (Run Body) (RunAction BodyAction) where
  initial :=
    { stage := if shape.hooks then .initializing else Run.afterInit shape
      init := none
      prep := none
      destroyed := 0
      body := inner.initial }
  step := Run.step shape inner result

/-- A condition on the steps of the workers, for the runs of the whole. -/
def onBody (permits : Body → BodyAction → Prop) (run : Run Body) : RunAction BodyAction → Prop
  | .body action => permits run.body action
  | _ => True

instance {permits : Body → BodyAction → Prop} [∀ body action, Decidable (permits body action)] (run : Run Body)
    (action : RunAction BodyAction) : Decidable (onBody permits run action) :=
  match action with
  | .body action => inferInstanceAs (Decidable (permits run.body action))
  | .initEnd _ => .isTrue trivial
  | .prepEnd _ => .isTrue trivial

/-! ## What a run goes through -/

/-- `init_queue` and `PREP` have succeeded, where there are such. -/
def Shape.initialized (shape : Shape) : Option InitEnd := if shape.hooks then some .value else none

def Shape.prepared (shape : Shape) : Option PrepEnd := if shape.prepares then some .ok else none

/-- Where a run can be, with what has happened before. -/
inductive Stands (shape : Shape) (inner : System Body BodyAction) (result : Body → Option Batch.RunResult)
    (permits : Body → BodyAction → Prop) : Run Body → Prop where
  | initializing (hooks : shape.hooks = true) :
      Stands shape inner result permits ⟨.initializing, none, none, 0, inner.initial⟩
  | preparing (prepares : shape.prepares = true) :
      Stands shape inner result permits ⟨.preparing, shape.initialized, none, 0, inner.initial⟩
  | running {body : Body} (reached : Reachable inner permits body) (joining : result body = none) :
      Stands shape inner result permits ⟨.running, shape.initialized, shape.prepared, 0, body⟩
  | initFailed {err : IoError} (hooks : shape.hooks = true) :
      Stands shape inner result permits
        ⟨.ended (.error (.init err)), some (.error err), none, 0, inner.initial⟩
  | initStopped (hooks : shape.hooks = true) :
      Stands shape inner result permits ⟨.ended .stopped, some .stopped, none, 0, inner.initial⟩
  | prepFailed {code : Int} :
      Stands shape inner result permits
        ⟨.ended (.error (.queue (.system code ""))), shape.initialized, some (.error code),
          if shape.hooks then 1 else 0, inner.initial⟩
  | prepStopped :
      Stands shape inner result permits
        ⟨.ended .stopped, shape.initialized, some .stopped, if shape.hooks then 1 else 0, inner.initial⟩
  | finished {before after : Body} {action : BodyAction} {ended : Batch.RunResult}
      (reached : Reachable inner permits before) (joining : result before = none)
      (permitted : permits before action) (taken : inner.step before action = some after)
      (ends : result after = some ended) :
      Stands shape inner result permits
        ⟨.ended ended.outcome, shape.initialized, shape.prepared, if shape.hooks then 1 else 0, after⟩

section

variable {shape : Shape} {inner : System Body BodyAction} {result : Body → Option Batch.RunResult}
  {permits : Body → BodyAction → Prop} {run after : Run Body}

theorem Stands.afterInit (fresh : result inner.initial = none) :
    Stands shape inner result permits ⟨Run.afterInit shape, shape.initialized, none, 0, inner.initial⟩ := by
  rw [Run.afterInit]
  split
  · rename_i prepares
    exact .preparing prepares
  · rename_i direct
    have none : shape.prepared = none := if_neg direct
    rw [← none]
    exact .running .initial fresh

theorem Stands.initial (fresh : result inner.initial = none) :
    Stands shape inner result permits (bracket shape inner result).initial := by
  simp only [bracket]
  split
  · rename_i hooks
    exact .initializing hooks
  · rename_i direct
    have none : shape.initialized = none := if_neg direct
    rw [← none]
    exact .afterInit fresh

theorem Stands.initEnd {how : InitEnd} (fresh : result inner.initial = none)
    (stands : Stands shape inner result permits run) (taken : run.initEnd shape how = some after) :
    Stands shape inner result permits after := by
  cases stands with
  | initializing hooks =>
      cases how with
      | value =>
          have initialized : shape.initialized = some .value := if_pos hooks
          cases taken
          rw [← initialized]
          exact .afterInit fresh
      | error err => cases taken; exact .initFailed hooks
      | stopped => cases taken; exact .initStopped hooks
  | _ => contradiction

theorem Stands.prepEnd {how : PrepEnd} (fresh : result inner.initial = none)
    (stands : Stands shape inner result permits run) (taken : run.prepEnd shape how = some after) :
    Stands shape inner result permits after := by
  cases stands with
  | preparing prepares =>
      cases how with
      | ok =>
          have prepared : shape.prepared = some .ok := if_pos prepares
          cases taken
          rw [← prepared]
          exact .running .initial fresh
      | error code => cases taken; exact .prepFailed
      | stopped => cases taken; exact .prepStopped
  | _ => contradiction

theorem Stands.runBody {action : BodyAction} (stands : Stands shape inner result permits run)
    (permitted : permits run.body action) (taken : run.runBody shape inner result action = some after) :
    Stands shape inner result permits after := by
  cases stands with
  | running reached joining =>
      simp only [Run.runBody] at taken
      split at taken
      · contradiction
      · rename_i body moved
        split at taken
        · rename_i still
          cases taken
          exact .running (reached.next permitted moved) still
        · rename_i ended ends
          cases taken
          exact .finished reached joining permitted moved ends
  | _ => contradiction

theorem Stands.reachable (fresh : result inner.initial = none)
    (reached : Reachable (bracket shape inner result) (onBody permits) run) :
    Stands shape inner result permits run := by
  refine reached.invariant _ (.initial fresh) fun {before after action} _ stands permitted taken => ?_
  cases action with
  | initEnd how => exact stands.initEnd fresh taken
  | prepEnd how => exact stands.prepEnd fresh taken
  | body action => exact stands.runBody permitted taken

end

/-! ## The bracket and the outcome -/

/-- What is to be known of the system inside: whether a handler is at work, whether one
has ever been, whether all tasks have ended, whether none of them failed, and which
error comes first. -/
structure Inside (Body : Type) where
  handling : Body → Prop
  handled : Body → Prop
  joined : Body → Prop
  clean : Body → Prop
  fails : Body → QueueError → Prop

/-- Why a run ends as it does. -/
def Explains (shape : Shape) (inside : Inside Body) (run : Run Body) : Outcome → Prop
  | .done => run.init = shape.initialized ∧ run.prep = shape.prepared ∧ inside.clean run.body
  | .error (.init err) => run.init = some (.error err)
  | .error (.queue err) => run.init = shape.initialized ∧
      ((∃ code, run.prep = some (.error code) ∧ err = .system code "") ∨
        (run.prep = shape.prepared ∧ inside.fails run.body err))
  | .stopped => run.init = some .stopped ∨ (run.init = shape.initialized ∧ run.prep = some .stopped)

def Stage.isEnded : Stage → Bool
  | .ended _ => true
  | _ => false

/-- `destroy_queue` is called once at the end of a run that was initialised, handlers work
only in between, all tasks have ended at the end, and the outcome has exactly one
explanation. -/
structure Bracketed (shape : Shape) (inside : Inside Body) (run : Run Body) : Prop where
  destroyed : run.destroyed = if run.init = some .value ∧ run.stage.isEnded = true then 1 else 0
  handling : inside.handling run.body → run.stage = .running ∧ run.init = shape.initialized
  handled : inside.handled run.body → run.init = shape.initialized
  joined : run.stage.isEnded = true → run.init = shape.initialized → run.prep = shape.prepared →
    inside.joined run.body
  outcome : ∀ outcome, run.stage = .ended outcome → ∀ other, Explains shape inside run other ↔ other = outcome

/-- What the system inside has to guarantee for it. -/
structure Inside.Sound (inside : Inside Body) (inner : System Body BodyAction)
    (result : Body → Option Batch.RunResult) (permits : Body → BodyAction → Prop) : Prop where
  fresh : result inner.initial = none
  idle : ¬ inside.handling inner.initial
  unhandled : ¬ inside.handled inner.initial
  ends : ∀ {before after action ended}, Reachable inner permits before → result before = none →
    permits before action → inner.step before action = some after → result after = some ended →
    inside.joined after ∧ ¬ inside.handling after ∧ ended ≠ .stopped ∧
      (inside.clean after ↔ ended = .done) ∧ ∀ err, inside.fails after err ↔ ended = .error err

section

variable {shape : Shape} {inside : Inside Body} {inner : System Body BodyAction}
  {result : Body → Option Batch.RunResult} {permits : Body → BodyAction → Prop} {run : Run Body}

theorem Shape.initialized_eq_value (shape : Shape) :
    shape.initialized = some .value ↔ shape.hooks = true := by
  cases hooks : shape.hooks <;> simp [Shape.initialized, hooks]

theorem Shape.initialized_ne {shape : Shape} {how : InitEnd} (failed : how ≠ .value) :
    some how ≠ shape.initialized := by
  cases hooks : shape.hooks <;> simp [Shape.initialized, hooks, failed]

theorem Shape.prepared_ne {shape : Shape} {how : PrepEnd} (failed : how ≠ .ok) :
    some how ≠ shape.prepared := by
  cases prepares : shape.prepares <;> simp [Shape.prepared, prepares, failed]

theorem Bracketed.going {stage : Stage} {init : Option InitEnd} {prep : Option PrepEnd} {body : Body}
    (going : stage.isEnded = false) (handling : inside.handling body → stage = .running ∧ init = shape.initialized)
    (handled : inside.handled body → init = shape.initialized) :
    Bracketed shape inside ⟨stage, init, prep, 0, body⟩ where
  destroyed := by simp [going]
  handling := handling
  handled := handled
  joined := by simp [going]
  outcome := by
    rintro outcome rfl
    cases going

/-- A run that has ended without its workers. -/
theorem Bracketed.ended {outcome : Outcome} {init : Option InitEnd} {prep : Option PrepEnd} {destroyed : Nat}
    {body : Body} (destroys : destroyed = if init = some .value then 1 else 0)
    (idle : ¬ inside.handling body) (handled : inside.handled body → init = shape.initialized)
    (joined : init = shape.initialized → prep = shape.prepared → inside.joined body)
    (explained : ∀ other, Explains shape inside ⟨.ended outcome, init, prep, destroyed, body⟩ other ↔ other = outcome) :
    Bracketed shape inside ⟨.ended outcome, init, prep, destroyed, body⟩ where
  destroyed := by simpa [Stage.isEnded] using destroys
  handling := fun busy => absurd busy idle
  handled := handled
  joined := fun _ => joined
  outcome := by
    rintro actual same
    cases same
    exact explained

theorem Bracketed.of_stands (sound : inside.Sound inner result permits)
    (stands : Stands shape inner result permits run) : Bracketed shape inside run := by
  have idle := sound.idle
  have unhandled := sound.unhandled
  have destroys : (if shape.hooks then 1 else 0) = if shape.initialized = some .value then 1 else 0 := by
    simp only [Shape.initialized_eq_value]
  have ready (how : InitEnd) (failed : how ≠ .value) : shape.initialized ≠ some how :=
    (Shape.initialized_ne failed).symm
  cases stands with
  | initializing => exact .going rfl (fun busy => absurd busy idle) fun done => absurd done unhandled
  | preparing => exact .going rfl (fun busy => absurd busy idle) fun done => absurd done unhandled
  | running => exact .going rfl (fun _ => ⟨rfl, rfl⟩) fun _ => rfl
  | @initFailed err hooks =>
      have failed : some (InitEnd.error err) ≠ shape.initialized := Shape.initialized_ne (by simp)
      refine .ended (by simp) idle (fun done => absurd done unhandled) (fun same => absurd same failed) fun other => ?_
      rcases other with _ | ⟨_ | _⟩ | _ <;> simp [Explains, failed, eq_comm]
  | initStopped hooks =>
      have failed : some InitEnd.stopped ≠ shape.initialized := Shape.initialized_ne (by simp)
      refine .ended (by simp) idle (fun done => absurd done unhandled) (fun same => absurd same failed) fun other => ?_
      rcases other with _ | ⟨_ | _⟩ | _ <;> simp [Explains, failed]
  | @prepFailed code =>
      have failed : some (PrepEnd.error code) ≠ shape.prepared := Shape.prepared_ne (by simp)
      refine .ended destroys idle (fun _ => rfl) (fun _ same => absurd same failed) fun other => ?_
      rcases other with _ | ⟨_ | _⟩ | _ <;> simp [Explains, failed, ready]
  | prepStopped =>
      have failed : some PrepEnd.stopped ≠ shape.prepared := Shape.prepared_ne (by simp)
      refine .ended destroys idle (fun _ => rfl) (fun _ same => absurd same failed) fun other => ?_
      rcases other with _ | ⟨_ | _⟩ | _ <;> simp [Explains, failed, ready]
  | @finished _ _ _ ended reached joining permitted taken ends =>
      obtain ⟨joined, idle, running, clean, fails⟩ := sound.ends reached joining permitted taken ends
      have prepared (how : PrepEnd) (failed : how ≠ .ok) : shape.prepared ≠ some how :=
        (Shape.prepared_ne failed).symm
      refine .ended destroys idle (fun _ => rfl) (fun _ _ => joined) fun other => ?_
      cases ended with
      | done =>
          rcases other with _ | ⟨_ | _⟩ | _ <;>
            simp [Explains, ready, prepared, clean, fails, Batch.RunResult.outcome]
      | error err =>
          rcases other with _ | ⟨_ | _⟩ | _ <;>
            simp [Explains, ready, prepared, clean, fails, Batch.RunResult.outcome, eq_comm]
      | stopped => exact absurd rfl running

end

/-! ## `IoQueue::run` -/

namespace Plain

/-- The workers of the queue, and what `run()` finds behind the join. -/
structure Workers where
  workers : Nat → State
  result : Option Batch.RunResult

inductive WorkersAction where
  | worker (tag : Nat) (action : Action)
  | join

/-- The entry of `errs` that a worker leaves. -/
def State.err (state : State) : Option QueueError :=
  match state.pc with
  | .ended err => err
  | _ => none

/-- The first error by tag is thrown again. -/
def verdict (config : Config) (workers : Nat → State) : Batch.RunResult :=
  match (List.range config.queueDepth).findSome? fun tag => (workers tag).err with
  | some err => .error err
  | none => .done

def State.isEnded (state : State) : Bool :=
  match state.pc with
  | .ended _ => true
  | _ => false

def workersStep (config : Config) (state : Workers) : WorkersAction → Option Workers
  | .worker tag action =>
      if tag < config.queueDepth then
        match step config tag (state.workers tag) action with
        | none => none
        | some worker => some { state with workers := Function.update state.workers tag worker }
      else none
  | .join =>
      if state.result = none ∧ ∀ tag < config.queueDepth, (state.workers tag).isEnded = true then
        some { state with result := some (verdict config state.workers) }
      else none

def ioQueue (config : Config) : System Workers WorkersAction where
  initial := { workers := fun _ => initial, result := none }
  step := workersStep config

end Plain

end Ublk.Queue
