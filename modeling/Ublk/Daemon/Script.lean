import Ublk.Control.Script
import Ublk.Daemon.Setup

namespace Ublk.Daemon

open Ublk.Data Ublk.Control

/-! # What the daemon operations say to the driver

`daemon_setup_t`, `daemon_configure_t`, `daemon_start_t` and the part of `daemon_run_t`
before its loops run, as scripts. Each of them learns the device info in one place and
writes it into the environment of every operation behind it. `outer` is the stack of the
operation itself, `inner` that of an operation it calls.
-/

def infoNeedsRecovery (info : DevInfo) : Bool :=
  info.state == ublkSDevQuiesced || info.state == ublkSDevFailIo

/-- A control operation whose failure is the failure of the task. -/
def andThen {α : Type} (given : DevInfo) (operation : Operation) (devId : BitVec 32) (inner : Stack)
    (next : Received → Script α) : Script α :=
  .call (some given) operation devId inner fun
    | .error err => .done (.error err)
    | .ok received => next received

/-- `cached_get_dev_info` at the beginning of an operation. -/
def withInfo {α : Type} (devId : BitVec 32) (outer : Stack) (next : DevInfo → Script α) : Script α :=
  .fetchInfo devId outer fun
    | .error err => .done (.error err)
    | .ok info => next info

/-- `setup` behind the query of a device that is there. -/
def setupExisting (inner : Stack) (info : DevInfo) : Script (Bool × DevInfo) :=
  if recoverable info.flags && infoNeedsRecovery info then
    andThen info .startUserRecovery info.devId inner fun _ => .done (.ok (false, info))
  else .done (.ok (false, info))

/-- `daemon_setup_t::invoke`: whether a device was created, and `*info` afterwards. -/
def setupScript (info : DevInfo) (outer inner : Stack) : Script (Bool × DevInfo) :=
  .raw (Raw.addDev info.devId info.val sizeofDevInfo 0) fun reply =>
    if reply.res ≥ 0 then .done (.ok (true, info.fill (clip sizeofDevInfo reply.data)))
    else if info.devId = -1 then .done (.error (.system (-reply.res) ""))
    else if -reply.res ≠ eexist then .done (.error (.system (-reply.res) "add_dev"))
    else .getInfo info.devId outer fun
      | .error err => .done (.error err)
      | .ok told => setupExisting inner told

/-- `daemon_configure_t::invoke`: whether the parameters were applied, and `*params`. -/
def configureScript (devId : BitVec 32) (params : Params) (outer inner : Stack) : Script (Bool × List UInt8) :=
  withInfo devId outer fun info =>
    if info.state = ublkSDevDead then
      andThen info (.setParams params) devId inner fun _ => .done (.ok (true, params.val))
    else andThen info (.getParams params) devId inner fun received => .done (.ok (false, received.object))

/-- `daemon_start_t::invoke`. -/
def startScript (devId daemonPid : BitVec 32) (outer inner : Stack) : Script Unit :=
  withInfo devId outer fun info =>
    if !infoNeedsRecovery info then
      andThen info (.startDev daemonPid) devId inner fun _ => .done (.ok ())
    else if recoverable info.flags then
      andThen info (.endUserRecovery daemonPid) devId inner fun _ => .done (.ok ())
    else .done (.error (.runtime "device can neither be started nor recovered"))

/-- The loop of `daemon_run_t::invoke` over its queues; each `cpuset` is uninitialised. -/
def queueAffinities (info : DevInfo) (devId : BitVec 32) (cpuset : CpuSet) (inner : Stack) :
    Nat → Nat → List (List UInt8) → Script (List (List UInt8))
  | _, 0, known => .done (.ok known)
  | qId, left + 1, known =>
      andThen info (.getQueueAffinity (BitVec.ofNat 16 qId) cpuset) devId inner fun received =>
        queueAffinities info devId cpuset inner (qId + 1) left (known ++ [received.object])

/-- `daemon_run_t::invoke` up to its loops: the affinity of each queue. -/
def affinitiesScript (devId : BitVec 32) (cpuset : CpuSet) (outer inner : Stack) : Script (List (List UInt8)) :=
  withInfo devId outer fun info => queueAffinities info devId cpuset inner 0 info.nrHwQueues.toNat []

/-! ## One query -/

variable {State α : Type} {driver : Driver State}

/-- Every operation of the script is given info about its own device, and the script
asks for nothing else. -/
def PassesOn : Script α → Prop
  | .done _ => True
  | .raw _ _ => False
  | .getInfo _ _ _ => False
  | .fetchInfo _ _ _ => False
  | .call given _ devId _ next => hit given devId = true ∧ ∀ received, PassesOn (next received)

theorem passesOn_andThen {info : DevInfo} {operation : Operation} {devId : BitVec 32} {inner : Stack}
    {next : Received → Script α} (same : info.devId = devId) (later : ∀ received, PassesOn (next received)) :
    PassesOn (andThen info operation devId inner next) := by
  constructor
  · simpa [hit] using same
  · intro received
    cases received with
    | error err => trivial
    | ok received => exact later received

theorem passesOn_queueAffinities {info : DevInfo} {devId : BitVec 32} (same : info.devId = devId)
    (cpuset : CpuSet) (inner : Stack) (left : Nat) :
    ∀ qId known, PassesOn (queueAffinities info devId cpuset inner qId left known) := by
  induction left with
  | zero =>
      intro qId known
      trivial
  | succ left ih =>
      intro qId known
      exact passesOn_andThen same fun received => ih (qId + 1) (known ++ [received.object])

theorem perform_hit {given : Option DevInfo} {operation : Operation} {devId : BitVec 32} (inner : Stack)
    (state : State) (present : hit given devId = true) :
    ∃ cmd, (perform driver given operation devId inner state).1 = [.command cmd] := by
  obtain ⟨found, -, finds⟩ := @lookup_hit _ driver given devId state present inner
  rw [perform_found (congrArg Prod.snd finds), finds]
  exact ⟨_, rfl⟩

theorem or_of_hit {given : Option DevInfo} {devId : BitVec 32} (present : hit given devId = true)
    (env : Option DevInfo) : given.or env = given := by
  cases given with
  | none => cases present
  | some given => rfl

/-- A script that passes its info on never asks the driver, and never looks into its
own environment. -/
theorem run_passesOn {script : Script α} (passesOn : PassesOn script) (env : Option DevInfo) (state : State) :
    script.run driver env state = script.run driver none state ∧
      ∀ entry ∈ (script.run driver env state).1, entry.isCommand = true := by
  induction script generalizing state with
  | done result => exact ⟨rfl, fun _ member => absurd member List.not_mem_nil⟩
  | raw cmd next ih => exact passesOn.elim
  | getInfo devId stack next ih => exact passesOn.elim
  | fetchInfo devId stack next ih => exact passesOn.elim
  | call given operation devId stack next ih =>
      obtain ⟨present, later⟩ := passesOn
      obtain ⟨cmd, sent⟩ := @perform_hit _ driver given operation devId stack state present
      have rest := ih (perform driver given operation devId stack state).2.2 (later _)
        (perform driver given operation devId stack state).2.1
      simp only [Script.run, or_of_hit present, sent]
      constructor
      · rw [rest.1]
      · intro entry member
        rcases List.mem_append.mp member with first | second
        · cases List.mem_singleton.mp first
          rfl
        · exact rest.2 entry second

theorem filter_of_commands {log : List Entry} (commands : ∀ entry ∈ log, entry.isCommand = true) :
    log.filter Entry.isCommand = log :=
  List.filter_eq_self.mpr commands

/-- The driver tells about the device that it was asked about. -/
def Honest (driver : Driver State) (devId : BitVec 32) : Prop :=
  ∀ stack state info, (query driver devId stack state).2 = .ok info → info.devId = devId

theorem lookup_about {devId : BitVec 32} (honest : Honest driver devId) {env : Option DevInfo} {stack : Stack}
    {state : State} {info : DevInfo} (finds : (lookup driver env devId stack state).2 = .ok info) :
    info.devId = devId := by
  cases present : hit env devId with
  | false =>
      rw [lookup_miss present] at finds
      exact honest stack state info finds
  | true =>
      obtain ⟨found, rfl, same⟩ := @lookup_hit _ driver env devId state present stack
      rw [same] at finds
      cases finds
      simpa [hit] using present

/-- The script asks about the device once at most, before its first command, and not at
all in an environment that has the answer. -/
def AsksFirst (driver : Driver State) (devId : BitVec 32) (outer : Stack) (script : Script α) : Prop :=
  ∀ env state,
    (script.run driver env state).1 = (lookup driver env devId outer state).1 ++
      (script.run driver env state).1.filter Entry.isCommand ∧
    ∀ info, (query driver devId outer state).2 = .ok info →
      script.run driver (some info) state =
        ((script.run driver none state).1.filter Entry.isCommand, (script.run driver none state).2)

/-- The run of an operation that begins with `cached_get_dev_info`. -/
theorem run_withInfo {devId : BitVec 32} {outer : Stack} {next : DevInfo → Script α} {env : Option DevInfo}
    {state : State} {info : DevInfo} (finds : (lookup driver env devId outer state).2 = .ok info) :
    (withInfo devId outer next).run driver env state =
      ((lookup driver env devId outer state).1 ++ ((next info).run driver env state).1,
        ((next info).run driver env state).2) := by
  simp only [withInfo, Script.run, finds]

theorem asksFirst_withInfo {devId : BitVec 32} (honest : Honest driver devId) {outer : Stack}
    {next : DevInfo → Script α} (passesOn : ∀ info, info.devId = devId → PassesOn (next info)) :
    AsksFirst driver devId outer (withInfo devId outer next) := by
  intro env state
  constructor
  · cases finds : (lookup driver env devId outer state).2 with
    | error err => simp only [withInfo, Script.run, finds, List.append_nil, filter_lookup]
    | ok info =>
        have commands := (@run_passesOn _ _ driver _ (passesOn info (lookup_about honest finds)) env state).2
        rw [run_withInfo finds]
        simp only [List.filter_append, filter_lookup, filter_of_commands commands, List.nil_append]
  · intro info tells
    have about := honest outer state info tells
    have alike := @run_passesOn _ _ driver _ (passesOn info about) (some info) state
    have missed : (lookup driver none devId outer state).2 = .ok info := by rw [lookup_miss rfl, tells]
    obtain ⟨found, same, finds⟩ := @lookup_hit _ driver (some info) devId state (by simpa [hit] using about) outer
    cases same
    rw [run_withInfo (congrArg Prod.snd finds), run_withInfo missed, finds, alike.1, List.nil_append]
    simp only [List.filter_append, filter_lookup, List.nil_append]
    rw [filter_of_commands (alike.1 ▸ alike.2)]

theorem asksFirst_configure {devId : BitVec 32} (honest : Honest driver devId) (params : Params)
    (outer inner : Stack) : AsksFirst driver devId outer (configureScript devId params outer inner) := by
  apply asksFirst_withInfo honest
  intro info same
  split
  · exact passesOn_andThen same fun _ => trivial
  · exact passesOn_andThen same fun _ => trivial

theorem asksFirst_start {devId : BitVec 32} (honest : Honest driver devId) (daemonPid : BitVec 32)
    (outer inner : Stack) : AsksFirst driver devId outer (startScript devId daemonPid outer inner) := by
  apply asksFirst_withInfo honest
  intro info same
  split
  · exact passesOn_andThen same fun _ => trivial
  · split
    · exact passesOn_andThen same fun _ => trivial
    · trivial

theorem asksFirst_affinities {devId : BitVec 32} (honest : Honest driver devId) (cpuset : CpuSet)
    (outer inner : Stack) : AsksFirst driver devId outer (affinitiesScript devId cpuset outer inner) := by
  apply asksFirst_withInfo honest
  intro info same
  exact passesOn_queueAffinities same cpuset inner _ 0 []

theorem passesOn_setupExisting (inner : Stack) (info : DevInfo) : PassesOn (setupExisting inner info) := by
  rw [setupExisting]
  split
  · exact passesOn_andThen rfl fun _ => trivial
  · trivial

/-- `setup` pays no heed to its environment. It sends `ADD_DEV`, and nothing else unless the
driver says that the device with the caller's id is there already; then it asks about that
device once, and sends commands only after that. -/
def AsksBehindAddDev (driver : Driver State) (info : DevInfo) (outer inner : Stack) : Prop :=
  ∀ env state,
    let addDev := Raw.addDev info.devId info.val sizeofDevInfo 0
    let (middle, reply) := driver.execute state addDev
    let log := ((setupScript info outer inner).run driver env state).1
    (setupScript info outer inner).run driver env state = (setupScript info outer inner).run driver none state ∧
      if reply.res = -eexist ∧ info.devId ≠ -1 then
        ∃ commands, log = .command addDev :: ((query driver info.devId outer middle).1.map .query ++ commands) ∧
          ∀ entry ∈ commands, entry.isCommand = true
      else log = [.command addDev]

theorem asksBehindAddDev_setup (info : DevInfo) (outer inner : Stack) :
    AsksBehindAddDev driver info outer inner := by
  intro env state
  generalize added : driver.execute state (Raw.addDev info.devId info.val sizeofDevInfo 0) = answer
  obtain ⟨middle, reply⟩ := answer
  have refused {res : Int} (same : res = -eexist) : ¬ res ≥ 0 ∧ -res = eexist := by
    rw [same]
    decide
  simp only [setupScript, Script.run, added]
  split
  · rename_i created
    rw [if_neg fun present => (refused present.1).1 created]
    exact ⟨rfl, rfl⟩
  split
  · rename_i fresh
    rw [if_neg fun present => present.2 fresh]
    exact ⟨rfl, rfl⟩
  split
  · rename_i other
    rw [if_neg fun present => other (refused present.1).2]
    exact ⟨rfl, rfl⟩
  rename_i known exist
  rw [if_pos ⟨by omega, known⟩]
  simp only [Script.run]
  cases told : (query driver info.devId outer middle).2 with
  | error err => exact ⟨rfl, [], rfl, by simp⟩
  | ok found =>
      have alike := @run_passesOn _ _ driver _ (passesOn_setupExisting inner found) env middle
      rw [alike.1]
      exact ⟨rfl, _, rfl, alike.1 ▸ alike.2⟩

/-- However a daemon operation runs, it asks the driver about its device once at most.
`configure`, `start` and `run` ask before their first command, and in an environment that
has the answer they do the same without asking; `setup` asks only behind the `EEXIST` of
`ADD_DEV`, and all that it sends later is commands. -/
theorem daemon_asks_once {devId : BitVec 32} (honest : Honest driver devId) (outer inner : Stack) :
    (∀ params, AsksFirst driver devId outer (configureScript devId params outer inner)) ∧
    (∀ daemonPid, AsksFirst driver devId outer (startScript devId daemonPid outer inner)) ∧
    (∀ cpuset, AsksFirst driver devId outer (affinitiesScript devId cpuset outer inner)) ∧
    ∀ info, AsksBehindAddDev driver info outer inner := by
  constructor
  · exact fun params => asksFirst_configure honest params outer inner
  constructor
  · exact fun daemonPid => asksFirst_start honest daemonPid outer inner
  constructor
  · exact fun cpuset => asksFirst_affinities honest cpuset outer inner
  · exact fun info => asksBehindAddDev_setup info outer inner

/-- Every device is there already. -/
def existingDriver (info : DevInfo) : Driver Nat :=
  { countingDriver info with
    execute := fun count cmd => (count + 1, ⟨if cmd.op = ublkUCmdAddDev then -eexist else 0, []⟩) }

/-- A driver that tells about device 0 is honest about that device; `start` asks first, and
`setup` asks as the device is there. -/
theorem daemon_asks_once_existingDriver :
    let info : DevInfo := Object.zero sizeofDevInfo
    let stack : Stack := ⟨Object.zero devPathLen, Object.zero devPathLen, info⟩
    (∀ daemonPid, AsksFirst (existingDriver info) 0 stack (startScript 0 daemonPid stack stack)) ∧
    ∃ commands, ((setupScript info stack stack).run (existingDriver info) none 0).1 =
      .command (Raw.addDev 0 info.val sizeofDevInfo 0) ::
        ((query (existingDriver info) 0 stack 1).1.map .query ++ commands) := by
  intro info stack
  have honest : Honest (existingDriver info) 0 := by
    intro stack count told tells
    have same : (query (existingDriver info) 0 stack count).2 = .ok info :=
      query_countingDriver 0 stack count
    rw [same] at tells
    cases tells
    decide
  have asks := daemon_asks_once honest stack stack
  obtain ⟨_, commands, log, _⟩ := asks.2.2.2 info none 0
  exact ⟨asks.2.1, commands, log⟩

end Ublk.Daemon
