import Ublk.Daemon.Run
import Ublk.Data.Count

namespace Ublk.Daemon

open Ublk.Data Ublk.Machine Ublk.Control Ublk.Queue

variable {info : DevInfo} {options : Options} {loop after : Loop} {fd qId : Nat}
  {permits : QueueRun → QueueAction → Prop}

/-! # The queues of a daemon do not see each other

A queue that shares its Runtime with others needs them to be kept apart. In a daemon every
queue has a Runtime of its own, where it is the only one that ever runs; so each queue is
a run of its queue alone, whatever the others do, and the result of the daemon can be
read off theirs.
-/

/-- The Runtime of a loop as the queue on it has used it. -/
abbrev OnItsOwn (info : DevInfo) (options : Options) (tables : Runtime.State) : Prop :=
  Reachable (Runtime.runtime (tableSizes info options)) (Runtime.apart (tableSizes info options)) tables

/-- Only the task of the loop is on its Runtime, with the device in the file table. -/
def Alone (info : DevInfo) (fd qId : Nat) (tables : Runtime.State) : Prop :=
  (∀ id ≠ 0, tables.running id = none) ∧
    ∃ queue, tables.running 0 = some queue ∧ queue.args = runArgs info fd qId ∧ queue.fixed = true

/-- The task of a queue, its Runtime and its run belong together. -/
def Fits (permits : QueueRun → QueueAction → Prop) (info : DevInfo) (options : Options) (fd qId : Nat) (loop : Loop) : Prop :=
  match loop.task with
  | .spawned => loop.tables = Runtime.initial
  | .serving config run =>
      Alone info fd qId loop.tables ∧ (∃ bufBases, config = queueConfig info options qId bufBases) ∧
        Reachable (queueSystem options.hooks config) permits run ∧ run.outcome = none
  | .ended config run err =>
      (∃ bufBases, config = queueConfig info options qId bufBases) ∧
        Reachable (queueSystem options.hooks config) permits run ∧
        ∃ outcome, run.outcome = some outcome ∧ err = outcomeErr outcome
  | .failed (.start _) => Runtime.usesBuffers info.flags = true ∧ info.queueDepth.toNat = 0
  | .failed _ => True

structure Sound (permits : QueueRun → QueueAction → Prop) (info : DevInfo) (options : Options) (fd qId : Nat) (loop : Loop) : Prop where
  tables : OnItsOwn info options loop.tables
  commands : ∀ command ∈ loop.tables.issued, command.own = fd
  fits : Fits permits info options fd qId loop

theorem sound_fresh (info : DevInfo) (options : Options) (fd qId : Nat) :
    Sound permits info options fd qId ⟨Runtime.initial, .spawned⟩ where
  tables := .initial
  commands := fun _ member => nomatch member
  fits := rfl

theorem fdTable_update (info : DevInfo) (options : Options) (table : Nat → Option Nat) (fd : Nat) :
    Runtime.update (tableSizes info options).nrFiles table Runtime.ublkcFdSlot (some fd) =
      some (Function.update table 0 (some fd)) := by
  have room : 0 ≤ Runtime.ublkcFdSlot ∧
      Runtime.ublkcFdSlot < ((tableSizes info options).nrFiles : Int) := by
    simp only [Runtime.ublkcFdSlot, tableSizes]
    omega
  rw [Runtime.update, if_pos room]
  rfl

/-- The tables of a daemon are large enough, so a start fails only for a queue without
tags that would need buffers. -/
theorem invoke_cases (inside : qId < queueCount info) :
    (Runtime.usesBuffers info.flags = true ∧ info.queueDepth.toNat = 0) ∨
    ∃ tables, Runtime.invoke (tableSizes info options) (runArgs info fd qId) Runtime.initial = .ok tables := by
  have range : ¬ (runArgs info fd qId).nrHwQueues ≤ (runArgs info fd qId).qId := Nat.not_le.mpr inside
  rw [Runtime.invoke, if_neg range, Runtime.probe]
  by_cases uses : Runtime.usesBuffers info.flags = true
  · by_cases tags : info.queueDepth.toNat = 0
    · exact .inl ⟨uses, tags⟩
    · right
      have room : (0 : Int) ≤ ((runArgs info fd qId).queueDepth : Int) - 1 ∧
          ((runArgs info fd qId).queueDepth : Int) - 1 < ((tableSizes info options).nrBuffers : Int) := by
        simp only [runArgs, tableSizes, uses, ↓reduceIte]
        omega
      have uses' : Runtime.usesBuffers (runArgs info fd qId).flags = true := uses
      rw [if_pos uses', Runtime.update, if_pos room]
      exact ⟨_, rfl⟩
  · right
    have uses' : ¬ Runtime.usesBuffers (runArgs info fd qId).flags = true := uses
    rw [if_neg uses']
    exact ⟨_, rfl⟩

theorem Alone.of_update {tables : Runtime.State} {running : Nat → Option Runtime.Instance}
    {queue : Runtime.Instance} (others : ∀ id ≠ 0, running id = none)
    (same : tables.running = Function.update running 0 (some queue))
    (args : queue.args = runArgs info fd qId) (fixed : queue.fixed = true) : Alone info fd qId tables := by
  refine ⟨fun id other => ?_, queue, ?_, args, fixed⟩
  · rw [same, Function.update_of_ne other]
    exact others id other
  · rw [same, Function.update_self]

/-- What a start leaves on a fresh Runtime. -/
theorem invoke_alone {tables : Runtime.State}
    (started : Runtime.invoke (tableSizes info options) (runArgs info fd qId) Runtime.initial = .ok tables) :
    OnItsOwn info options tables ∧ Alone info fd qId tables ∧ tables.issued = [] := by
  have taken : (Runtime.runtime (tableSizes info options)).step Runtime.initial
      (.start (runArgs info fd qId)) = some tables := by
    simp only [Runtime.runtime, Runtime.step, started]
  have first : Runtime.apart (tableSizes info options) Runtime.initial (.start (runArgs info fd qId)) := by
    intro _ id queue running
    cases running
  refine ⟨Reachable.initial.next first taken, ?_⟩
  rw [Runtime.invoke] at started
  split at started
  · cases started
  · split at started
    · cases started
    · rename_i bufferTable _
      cases started
      refine ⟨.of_update (fun _ _ => rfl) rfl rfl ?_, rfl⟩
      rw [show (runArgs info fd qId).ublkcFd = fd from rfl, fdTable_update]
      rfl

/-- The Runtime's actions that a queue takes while it serves, on a Runtime of its own. -/
theorem Alone.use {tables changed : Runtime.State} {use : TableUse} (alone : Alone info fd qId tables)
    (reached : OnItsOwn info options tables) (commands : ∀ command ∈ tables.issued, command.own = fd)
    (taken : (match use with
      | .issue => Runtime.issue 0 tables
      | .register tag => Runtime.register 0 tag tables
      | .unregister tag => Runtime.unregister 0 tag tables) = some changed) :
    OnItsOwn info options changed ∧ Alone info fd qId changed ∧ ∀ command ∈ changed.issued, command.own = fd := by
  obtain ⟨others, queue, running, args, fixed⟩ := alone
  cases use with
  | issue =>
      refine ⟨reached.next (show Runtime.apart _ tables (.issue 0) from trivial) taken, ?_⟩
      simp only [Runtime.issue, running] at taken
      cases taken
      refine ⟨⟨others, queue, running, args, fixed⟩, fun command member => ?_⟩
      rcases List.mem_append.mp member with old | new
      · exact commands command old
      · cases List.mem_singleton.mp new
        rw [args]
        rfl
  | register tag =>
      refine ⟨reached.next (show Runtime.apart _ tables (.register 0 tag) from trivial) taken, ?_⟩
      simp only [Runtime.register, running, Option.ite_none_right_eq_some] at taken
      obtain ⟨_, taken⟩ := taken
      cases taken
      exact ⟨.of_update others rfl args fixed, commands⟩
  | unregister tag =>
      refine ⟨reached.next (show Runtime.apart _ tables (.unregister 0 tag) from trivial) taken, ?_⟩
      simp only [Runtime.unregister, running, Option.ite_none_right_eq_some] at taken
      obtain ⟨_, taken⟩ := taken
      cases taken
      exact ⟨.of_update others rfl args fixed, commands⟩

/-- The guard finds its own device in the file table, as nobody else is there. -/
theorem Alone.finish {tables : Runtime.State} (alone : Alone info fd qId tables)
    (reached : OnItsOwn info options tables) :
    OnItsOwn info options (unregisterDevice tables) ∧ (unregisterDevice tables).issued = tables.issued := by
  obtain ⟨others, queue, running, args, fixed⟩ := alone
  have last : Runtime.apart (tableSizes info options) tables (.finish 0) := by
    intro _ _ _ other another different present
    rw [others other different] at present
    cases present
  cases taken : Runtime.finish 0 tables with
  | none => simp [Runtime.finish, running] at taken
  | some changed =>
      have same : changed.issued = tables.issued := by
        simp only [Runtime.finish, running] at taken
        cases taken
        rfl
      rw [unregisterDevice, taken]
      exact ⟨reached.next last taken, same⟩

theorem bracket_fresh {Body BodyAction : Type} (shape : Shape) (inner : System Body BodyAction)
    (result : Body → Option Batch.RunResult) :
    stageOutcome (bracket shape inner result).initial.stage = none := by
  simp only [bracket, Run.afterInit]
  split
  · rfl
  · split <;> rfl

theorem queueSystem_fresh (hooks : Bool) (config : Config) :
    (queueSystem hooks config).initial.outcome = none := by
  simp only [queueSystem]
  split
  · exact bracket_fresh _ _ _
  · exact bracket_fresh _ _ _

theorem Sound.start {made : Except QueueError (Nat → BitVec 64)} (sound : Sound permits info options fd qId loop)
    (inside : qId < queueCount info) (taken : startTask info options fd qId made loop = some after) :
    Sound permits info options fd qId after := by
  simp only [startTask] at taken
  split at taken
  case h_2 => contradiction
  rename_i spawned
  have fresh : loop.tables = Runtime.initial := by
    have fits := sound.fits
    rw [Fits, spawned] at fits
    exact fits
  split at taken
  · rename_i err failed
    cases taken
    refine ⟨sound.tables, sound.commands, ?_⟩
    rw [fresh] at failed
    rcases invoke_cases inside with empty | ⟨tables, succeeded⟩
    · exact empty
    · rw [succeeded] at failed
      cases failed
  · rename_i tables started
    rw [fresh] at started
    obtain ⟨reached, alone, none⟩ := invoke_alone started
    split at taken
    · cases taken
      obtain ⟨left, same⟩ := alone.finish reached
      refine ⟨left, ?_, trivial⟩
      rw [same, none]
      exact fun _ member => nomatch member
    · rename_i bufBases
      cases taken
      refine ⟨reached, ?_, alone, ⟨bufBases, rfl⟩, .initial, ?_⟩
      · rw [none]
        exact fun _ member => nomatch member
      · exact queueSystem_fresh _ _

theorem Sound.queue {action : QueueAction} (sound : Sound permits info options fd qId loop)
    (permitted : ∀ config run, loop.task = .serving config run → permits run action)
    (taken : stepQueue options action loop = some after) : Sound permits info options fd qId after := by
  simp only [stepQueue] at taken
  split at taken
  case h_2 => contradiction
  rename_i config run serving
  have fits := sound.fits
  rw [Fits, serving] at fits
  obtain ⟨alone, made, reached, _⟩ := fits
  split at taken
  · contradiction
  · rename_i next stepped
    have further : Reachable (queueSystem options.hooks config) permits next :=
      reached.next (permitted config run serving) stepped
    split at taken
    · rename_i running
      cases taken
      exact ⟨sound.tables, sound.commands, alone, made, further, running⟩
    · rename_i outcome ended
      cases taken
      obtain ⟨left, same⟩ := alone.finish sound.tables
      exact ⟨left, same ▸ sound.commands, made, further, outcome, ended, rfl⟩

theorem Sound.use {use : TableUse} (sound : Sound permits info options fd qId loop)
    (taken : useTable use loop = some after) : Sound permits info options fd qId after := by
  simp only [useTable] at taken
  split at taken
  case h_2 => contradiction
  rename_i config run serving
  have fits := sound.fits
  rw [Fits, serving] at fits
  obtain ⟨alone, made, reached, running⟩ := fits
  obtain ⟨tables, used, rfl⟩ := Option.map_eq_some_iff.mp taken
  obtain ⟨further, still, commands⟩ := alone.use sound.tables sound.commands used
  refine ⟨further, commands, ?_⟩
  rw [Fits, serving]
  exact ⟨still, made, reached, running⟩

/-! ## The whole daemon -/

/-- No task has been started. -/
def Unstarted (daemon : State) : Prop := daemon.queues = fun _ => ⟨Runtime.initial, .spawned⟩

/-- What a daemon is like at each stage. -/
def Stands (permits : QueueRun → QueueAction → Prop) (info : DevInfo) (options : Options) (daemon : State) : Prop :=
  match daemon.stage with
  | .querying => Unstarted daemon ∧ daemon.ublkcFd = none ∧ daemon.closed = 0 ∧ daemon.loops = 0
  | .makingLoop qId => Unstarted daemon ∧ daemon.ublkcFd = none ∧ daemon.closed = 0 ∧ daemon.loops = qId ∧
      qId < queueCount info
  | .opening => Unstarted daemon ∧ daemon.ublkcFd = none ∧ daemon.closed = 0 ∧
      daemon.loops = queueCount info
  | .joining => daemon.closed = 0 ∧ daemon.loops = queueCount info ∧
      ∃ fd, daemon.ublkcFd = some fd ∧ ∀ qId < queueCount info, Sound permits info options fd qId (daemon.queues qId)
  | .returned how => daemon.loops = 0 ∧
      ((daemon.ublkcFd = none ∧ daemon.closed = 0 ∧ Unstarted daemon ∧ how ≠ .value ()) ∨
        ∃ fd, daemon.ublkcFd = some fd ∧ daemon.closed = 1 ∧ how = verdict info daemon.queues ∧
          ∀ qId < queueCount info, Sound permits info options fd qId (daemon.queues qId) ∧
            (daemon.queues qId).task.isEnded = true)

variable {daemon next : State}

theorem Stands.leave {how : CallEnd Unit} (unstarted : Unstarted daemon) (unopened : daemon.ublkcFd = none)
    (unclosed : daemon.closed = 0) (failed : how ≠ .value ()) : Stands permits info options (daemon.leave how) := by
  refine ⟨rfl, .inl ⟨unopened, ?_, unstarted, failed⟩⟩
  simp [State.leave, unopened, unclosed]

theorem Stands.makeLoop (unstarted : Unstarted daemon) (unopened : daemon.ublkcFd = none)
    (unclosed : daemon.closed = 0) (loops : daemon.loops = qId) (most : qId ≤ queueCount info) :
    Stands permits info options (daemon.makeLoop info qId) := by
  simp only [State.makeLoop]
  split
  · rename_i inside
    exact ⟨unstarted, unopened, unclosed, loops, inside⟩
  · rename_i outside
    exact ⟨unstarted, unopened, unclosed, by simp only; omega⟩

theorem Stands.told {how : CallEnd Unit} (stands : Stands permits info options daemon)
    (taken : daemon.told info how = some next) : Stands permits info options next := by
  simp only [State.told] at taken
  split at taken
  case h_2 => contradiction
  rename_i stage
  rw [Stands, stage] at stands
  obtain ⟨unstarted, unopened, unclosed, loops⟩ := stands
  cases how with
  | value =>
      cases taken
      exact .makeLoop unstarted unopened unclosed loops (Nat.zero_le _)
  | error err =>
      cases taken
      exact .leave unstarted unopened unclosed (by simp)
  | stopped =>
      cases taken
      exact .leave unstarted unopened unclosed (by simp)

theorem Stands.affinity {how : CallEnd Unit} {init : LoopInit} (stands : Stands permits info options daemon)
    (taken : daemon.affinity info options how init = some next) : Stands permits info options next := by
  simp only [State.affinity] at taken
  split at taken
  case h_2 => contradiction
  rename_i qId stage
  rw [Stands, stage] at stands
  obtain ⟨unstarted, unopened, unclosed, loops, inside⟩ := stands
  cases how with
  | error err =>
      cases taken
      exact .leave unstarted unopened unclosed (by simp)
  | stopped =>
      cases taken
      exact .leave unstarted unopened unclosed (by simp)
  | value =>
      simp only at taken
      split at taken
      · cases taken
        exact .leave unstarted unopened unclosed (by simp)
      · cases taken
        exact .makeLoop unstarted unopened unclosed (by simp only; omega) (by omega)

theorem Stands.opened {how : CallEnd Nat} (stands : Stands permits info options daemon)
    (taken : daemon.opened how = some next) : Stands permits info options next := by
  simp only [State.opened] at taken
  split at taken
  case h_2 => contradiction
  rename_i stage
  rw [Stands, stage] at stands
  obtain ⟨unstarted, unopened, unclosed, loops⟩ := stands
  cases how with
  | value fd =>
      cases taken
      refine ⟨unclosed, loops, fd, rfl, fun qId _ => ?_⟩
      simp only
      rw [unstarted]
      exact sound_fresh info options fd qId
  | error err =>
      cases taken
      exact .leave unstarted unopened unclosed (by simp)
  | stopped =>
      cases taken
      exact .leave unstarted unopened unclosed (by simp)

/-- A step of one queue leaves the others alone. -/
theorem Stands.onQueue {act : Nat → Loop → Option Loop} (stands : Stands permits info options daemon)
    (kept : ∀ {fd after}, qId < queueCount info → Sound permits info options fd qId (daemon.queues qId) →
      act fd (daemon.queues qId) = some after → Sound permits info options fd qId after)
    (taken : onQueue info daemon qId act = some next) : Stands permits info options next := by
  simp only [Daemon.onQueue] at taken
  split at taken
  case h_2 => contradiction
  rename_i fd stage device
  simp only [Option.ite_none_right_eq_some] at taken
  obtain ⟨inside, taken⟩ := taken
  obtain ⟨loop, acted, rfl⟩ := Option.map_eq_some_iff.mp taken
  rw [Stands, stage] at stands
  obtain ⟨unclosed, loops, opened, same, sound⟩ := stands
  cases device.symm.trans same
  rw [Stands]
  simp only [State.setLoop, stage]
  refine ⟨unclosed, loops, fd, device, fun other bound => ?_⟩
  by_cases equal : other = qId
  · subst equal
    rw [Function.update_self]
    exact kept inside (sound other inside) acted
  · rw [Function.update_of_ne equal]
    exact sound other bound

theorem Stands.join (stands : Stands permits info options daemon) (taken : join info daemon = some next) :
    Stands permits info options next := by
  simp only [Daemon.join] at taken
  split at taken
  case h_2 => contradiction
  rename_i stage
  simp only [Option.ite_none_right_eq_some] at taken
  obtain ⟨ended, taken⟩ := taken
  cases taken
  rw [Stands, stage] at stands
  obtain ⟨unclosed, loops, fd, device, sound⟩ := stands
  refine ⟨rfl, .inr ⟨fd, device, ?_, rfl, fun qId inside => ⟨sound qId inside, ended qId inside⟩⟩⟩
  simp [State.leave, unclosed, device]

/-- A condition on the steps of the queues, for the runs of the daemon. -/
def onQueues (permits : QueueRun → QueueAction → Prop) (daemon : State) : DaemonAction → Prop
  | .queue qId action => ∀ config run, (daemon.queues qId).task = .serving config run → permits run action
  | _ => True

theorem Stands.reachable (reached : Reachable (daemonRun info options) (onQueues permits) daemon) :
    Stands permits info options daemon := by
  refine reached.invariant _ ⟨rfl, rfl, rfl, rfl⟩ fun {before after action} _ stands permitted taken => ?_
  cases action with
  | told how => exact stands.told taken
  | affinity how init => exact stands.affinity taken
  | opened how => exact stands.opened taken
  | start qId made => exact stands.onQueue (fun inside sound acted => sound.start inside acted) taken
  | queue qId action => exact stands.onQueue (fun _ sound acted => sound.queue permitted acted) taken
  | table qId use => exact stands.onQueue (fun _ sound acted => sound.use acted) taken
  | join => exact stands.join taken

theorem Stands.any (reached : Reachable (daemonRun info options) (fun _ _ => True) daemon) :
    Stands (fun _ _ => True) info options daemon := by
  refine Stands.reachable (reached.weaken fun {_ action} _ => ?_)
  cases action with
  | queue => exact fun _ _ _ => trivial
  | _ => trivial

/-! ## What a caller of `daemon::run` can rely on -/

/-- A run of the queue class that the flags of the device ask for. -/
def QueueRun.Genuine (permits : QueueRun → QueueAction → Prop) (hooks : Bool) (config : Config) : QueueRun → Prop
  | .plain run => hasFlag config.flags ublkFBatchIo = false ∧
      Reachable (plainQueue hooks config) (fun run action => permits (.plain run) (.plain action)) run
  | .batch run => hasFlag config.flags ublkFBatchIo = true ∧
      Reachable (batchQueue hooks config) (fun run action => permits (.batch run) (.batch action)) run

theorem QueueRun.genuine {hooks : Bool} {config : Config} {run : QueueRun}
    (reached : Reachable (queueSystem hooks config) permits run) : run.Genuine permits hooks config := by
  induction reached with
  | initial =>
      simp only [queueSystem]
      split
      · rename_i batch
        exact ⟨batch, .initial⟩
      · rename_i plain
        exact ⟨Bool.eq_false_iff.mpr plain, .initial⟩
  | @next before after action _ permitted taken ih =>
      simp only [queueSystem, queueStep] at taken
      split at taken
      · obtain ⟨further, stepped, rfl⟩ := Option.map_eq_some_iff.mp taken
        exact ⟨ih.1, ih.2.next permitted stepped⟩
      · obtain ⟨further, stepped, rfl⟩ := Option.map_eq_some_iff.mp taken
        exact ⟨ih.1, ih.2.next permitted stepped⟩
      · contradiction

/-- Nothing of another queue reaches this one: its commands go to the device the daemon
opened, its buffers are its own, it runs as its queue alone would, and it was started
unless it needs buffers for no tag at all. -/
structure Isolated (info : DevInfo) (options : Options) (daemon : State) (qId : Nat) : Prop where
  independent : Runtime.Independent (daemon.queues qId).tables
  commands : ∀ command ∈ (daemon.queues qId).tables.issued,
    ∃ fd, daemon.ublkcFd = some fd ∧ command.resolved = some fd
  run : ∀ config run, (daemon.queues qId).task.run = some (config, run) →
    (∃ bufBases, config = queueConfig info options qId bufBases) ∧
      run.Genuine (fun _ _ => True) options.hooks config
  started : (Runtime.usesBuffers info.flags = true → 0 < info.queueDepth.toNat) →
    ∀ err, (daemon.queues qId).task ≠ .failed (.start err)

theorem Sound.isolated (sound : Sound (fun _ _ => True) info options fd qId (daemon.queues qId))
    (device : daemon.ublkcFd = some fd) : Isolated info options daemon qId where
  independent := (Runtime.Separate.reachable sound.tables).independent
  commands := by
    intro command member
    refine ⟨fd, device, ?_⟩
    rw [← sound.commands command member]
    exact (Runtime.Separate.reachable sound.tables).own command member
  run := by
    intro config run here
    have fits := sound.fits
    rw [Fits] at fits
    cases task : (daemon.queues qId).task with
    | serving =>
        simp only [task] at fits here
        cases here
        exact ⟨fits.2.1, QueueRun.genuine fits.2.2.1⟩
    | ended =>
        simp only [task] at fits here
        cases here
        exact ⟨fits.1, QueueRun.genuine fits.2.1⟩
    | spawned => simp [task, Task.run] at here
    | failed => simp [task, Task.run] at here
  started := by
    intro tags err failed
    have fits := sound.fits
    rw [Fits, failed] at fits
    have some := tags fits.1
    omega

theorem Unstarted.isolated (unstarted : Unstarted daemon) : Isolated info options daemon qId where
  independent := by
    rw [unstarted]
    exact Runtime.Separate.initial.independent
  commands := by
    rw [unstarted]
    exact fun _ member => nomatch member
  run := by
    rw [unstarted]
    exact fun _ _ here => nomatch here
  started := by
    rw [unstarted]
    exact fun _ _ failed => nomatch failed

/-- The queues of a daemon are isolated from each other, in every state of every run:
however their starts, steps and ends are interleaved and however the driver and the
handlers answer each of them. -/
theorem daemon_isolates (reached : Reachable (daemonRun info options) (fun _ _ => True) daemon)
    (inside : qId < queueCount info) : Isolated info options daemon qId := by
  have stands := Stands.any reached
  rw [Stands] at stands
  split at stands
  · exact stands.1.isolated
  · exact stands.1.isolated
  · exact stands.1.isolated
  · obtain ⟨_, _, fd, device, sound⟩ := stands
    exact (sound qId inside).isolated device
  · obtain ⟨_, ⟨_, _, unstarted, _⟩ | ⟨fd, device, _, _, sound⟩⟩ := stands
    · exact unstarted.isolated
    · exact (sound qId inside).1.isolated device

/-- A device of two queues with one tag each and zero copy, and the start of its daemon. -/
def twoQueues : DevInfo :=
  ⟨[2, 0, 1, 0] ++ List.replicate 20 0 ++ [1] ++ List.replicate 39 0, by decide⟩

def withHooks : Options := { nrFiles := 0, nrBuffers := 0, hooks := true, pageShift := 12 }

def twoQueuesStarted : List DaemonAction :=
  [.told (.value ()), .affinity (.value ()) ⟨none, 0, 0⟩, .affinity (.value ()) ⟨none, 0, 0⟩,
    .opened (.value 7), .start 1 (.ok fun _ => 0), .start 0 (.ok fun _ => 0)]

theorem daemon_isolates_twoQueues :
    ∃ daemon, Reachable (daemonRun twoQueues withHooks) (fun _ _ => True) daemon ∧
      (daemon.queues 0).tables.issued = [⟨0, 7, some 7⟩] ∧
      (daemon.queues 0).tables.bufferTable 0 = some 0 ∧ (daemon.queues 1).tables.bufferTable 0 = some 0 ∧
      Isolated twoQueues withHooks daemon 0 ∧ Isolated twoQueues withHooks daemon 1 := by
  obtain ⟨daemon, reached, issued, first, second⟩ :=
    exists_of_replay (daemonRun twoQueues withHooks) (fun _ _ => True)
      (twoQueuesStarted ++ [.table 0 .issue, .table 1 (.register 0), .table 0 (.register 0)])
      (fun daemon => (daemon.queues 0).tables.issued = [⟨0, 7, some 7⟩] ∧
        (daemon.queues 0).tables.bufferTable 0 = some 0 ∧ (daemon.queues 1).tables.bufferTable 0 = some 0)
      (by decide)
  exact ⟨daemon, reached, issued, first, second, daemon_isolates reached (by decide),
    daemon_isolates reached (by decide)⟩

/-- How `daemon::run` has come to its end. -/
structure Concluded (info : DevInfo) (daemon : State) (how : CallEnd Unit) : Prop where
  loops : daemon.loops = 0
  closed : daemon.closed = if daemon.ublkcFd.isSome then 1 else 0
  unopened : daemon.ublkcFd = none → how ≠ .value () ∧ ∀ qId, (daemon.queues qId).task = .spawned
  joined : daemon.ublkcFd ≠ none → ∀ qId < queueCount info, (daemon.queues qId).task.isEnded = true
  done : daemon.ublkcFd ≠ none →
    (how = .value () ↔ ∀ qId < queueCount info, (daemon.queues qId).task.err = none)
  failed : daemon.ublkcFd ≠ none → ∀ err, how = .error err ↔
    ∃ qId < queueCount info, (daemon.queues qId).task.err = some err ∧
      ∀ earlier < qId, (daemon.queues earlier).task.err = none

theorem verdict_value {queues : Nat → Loop} :
    verdict info queues = .value () ↔ ∀ qId < queueCount info, (queues qId).task.err = none := by
  rw [verdict]
  cases found : (List.range (queueCount info)).findSome? fun qId => (queues qId).task.err with
  | none => simpa using found
  | some err =>
      obtain ⟨qId, inside, here, _⟩ := findSome?_range_eq_some.mp found
      simp only [reduceCtorEq, false_iff]
      intro clean
      rw [clean qId inside] at here
      cases here

theorem verdict_error {queues : Nat → Loop} {err : DaemonError} :
    verdict info queues = .error err ↔ ∃ qId < queueCount info, (queues qId).task.err = some err ∧
      ∀ earlier < qId, (queues earlier).task.err = none := by
  rw [verdict, ← findSome?_range_eq_some]
  cases (List.range (queueCount info)).findSome? fun qId => (queues qId).task.err <;> simp

/-- `daemon::run` ends when all its queues have ended: with the error of the first queue
that failed, by queue id, or with success if none did. The device is closed once and not
before, and no loop is left. A daemon that could not open the device has started nothing. -/
theorem daemon_concludes (reached : Reachable (daemonRun info options) (fun _ _ => True) daemon) :
    (∀ how, daemon.stage = .returned how → Concluded info daemon how) ∧
    ∀ qId < queueCount info, (∀ how, daemon.stage ≠ .returned how) → (daemon.queues qId).task ≠ .spawned →
      daemon.ublkcFd ≠ none ∧ daemon.closed = 0 ∧ daemon.loops = queueCount info := by
  have stands := Stands.any reached
  constructor
  · intro how stage
    rw [Stands, stage] at stands
    obtain ⟨loops, ⟨device, unclosed, unstarted, failed⟩ | ⟨fd, device, closed, rfl, sound⟩⟩ := stands
    · refine ⟨loops, by simp [device, unclosed], fun _ => ⟨failed, fun qId => by rw [unstarted]⟩, ?_, ?_, ?_⟩
      · exact fun opened => absurd device opened
      · exact fun opened => absurd device opened
      · exact fun opened => absurd device opened
    · refine ⟨loops, by simp [device, closed], ?_, fun _ qId inside => (sound qId inside).2, fun _ => verdict_value,
        fun _ err => verdict_error⟩
      intro unopened
      simp [device] at unopened
  · intro qId inside going started
    rw [Stands] at stands
    split at stands
    · exact absurd (by rw [stands.1]) started
    · exact absurd (by rw [stands.1]) started
    · exact absurd (by rw [stands.1]) started
    · obtain ⟨unclosed, loops, fd, device, _⟩ := stands
      exact ⟨by simp [device], unclosed, loops⟩
    · rename_i how stage
      exact absurd stage (going how)

/-- The second queue fails in `init_queue`, the first one is stopped there. -/
theorem daemon_concludes_twoQueues :
    ∃ daemon how, Reachable (daemonRun twoQueues withHooks) (fun _ _ => True) daemon ∧
      daemon.stage = .returned how ∧ how = .error (.queue (.init .other)) ∧
      Concluded twoQueues daemon how := by
  obtain ⟨daemon, reached, stage⟩ :=
    exists_of_replay (daemonRun twoQueues withHooks) (fun _ _ => True)
      (twoQueuesStarted ++ [.queue 1 (.plain (.initEnd (.error .other))),
        .queue 0 (.plain (.initEnd .stopped)), .join])
      (fun daemon => daemon.stage = .returned (.error (.queue (.init .other)))) (by decide)
  exact ⟨daemon, _, reached, stage, rfl, (daemon_concludes reached).1 _ stage⟩

end Ublk.Daemon
