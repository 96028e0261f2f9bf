import Mathlib.Data.List.TakeWhile
import Ublk.Ctl.Status

namespace Ublk.Ctl

open Ublk.Data Ublk.Control

/-! # What `list` prints

`list` asks about one device after the other and prints on the way. On a driver that
changes nothing when it is asked, that is a report on every device of the directory,
taken from one state of the driver.
-/

/-! ## Tasks that only ask -/

def asks (op : BitVec 32) : Bool :=
  op == ublkUCmdGetParams || op == ublkUCmdGetQueueAffinity || op == ublkUCmdGetFeatures

/-- A query of the device info, or a command that only asks. -/
def Asks : Entry → Prop
  | .query _ => True
  | .command cmd => asks cmd.op = true

def AskingOperation (operation : Operation) : Prop :=
  ∀ unprivileged field devId, asks (operation.command unprivileged field devId).op = true

/-- Nothing that is sent on any way through the script changes the driver. -/
def AsksOnly {α : Type} : Script α → Prop
  | .done _ => True
  | .raw cmd next => asks cmd.op = true ∧ ∀ reply, AsksOnly (next reply)
  | .getInfo _ _ next => ∀ told, AsksOnly (next told)
  | .fetchInfo _ _ next => ∀ told, AsksOnly (next told)
  | .call _ operation _ _ next => AskingOperation operation ∧ ∀ received, AsksOnly (next received)

/-- The driver changes nothing when it is asked. -/
def Quiet {State : Type} (driver : Driver State) : Prop :=
  ∀ state cmd, asks cmd.op = true → (driver.execute state cmd).1 = state

theorem asking_getParams (params : Params) : AskingOperation (.getParams params) := by
  intro unprivileged field devId
  cases unprivileged with
  | true => rfl
  | false => rfl

theorem asking_getQueueAffinity (qId : BitVec 16) (cpuset : CpuSet) :
    AskingOperation (.getQueueAffinity qId cpuset) := by
  intro unprivileged field devId
  cases unprivileged with
  | true => rfl
  | false => rfl

theorem asksOnly_bind {α β : Type} {script : Script α} {next : Except ControlError α → Script β}
    (first : AsksOnly script) (second : ∀ result, AsksOnly (next result)) : AsksOnly (script.bind next) := by
  induction script with
  | done result => exact second result
  | raw cmd later ih => exact ⟨first.1, fun reply => ih reply (first.2 reply)⟩
  | getInfo devId stack later ih => exact fun told => ih told (first told)
  | fetchInfo devId stack later ih => exact fun told => ih told (first told)
  | call given operation devId stack later ih => exact ⟨first.1, fun received => ih received (first.2 received)⟩

theorem asksOnly_behind {task : Task} (only : AsksOnly task) (text : List Char) : AsksOnly (behind text task) :=
  asksOnly_bind only fun _ => trivial

theorem asksOnly_thenTask {first second : Task} (before : AsksOnly first) (after : AsksOnly second) :
    AsksOnly (thenTask first second) := by
  apply asksOnly_bind before
  intro result
  cases result with
  | error err => trivial
  | ok ended =>
      obtain ⟨out, thrown⟩ := ended
      cases thrown with
      | none => exact asksOnly_behind after out
      | some err => trivial

theorem asksOnly_orThrow {α : Type} {next : α → Task} (only : ∀ value, AsksOnly (next value))
    (result : Except ControlError α) : AsksOnly (orThrow next result) := by
  cases result with
  | error err => trivial
  | ok value => exact only value

section Commands

variable (stack : Stack) (cpuset : CpuSet)

theorem asksOnly_dumpQueueAffinity (info : DevInfo) (left : Nat) :
    ∀ qId, AsksOnly (dumpQueueAffinity stack cpuset info qId left) := by
  induction left with
  | zero =>
      intro qId
      trivial
  | succ left ih =>
      intro qId
      exact ⟨asking_getQueueAffinity _ cpuset, asksOnly_orThrow fun received => asksOnly_behind (ih (qId + 1)) _⟩

theorem asksOnly_getDevice (devId : BitVec 32) : AsksOnly (getDevice stack cpuset devId) := by
  apply asksOnly_orThrow
  intro info
  refine ⟨asking_getParams _, asksOnly_orThrow fun params => ?_⟩
  exact asksOnly_behind (asksOnly_dumpQueueAffinity stack cpuset info _ 0) _

theorem asksOnly_listDevices (failure : Option Errno) (names : List (List Char)) :
    AsksOnly (listDevices stack cpuset failure names) := by
  induction names with
  | nil =>
      cases failure with
      | none => trivial
      | some code => trivial
  | cons name rest ih =>
      rw [listDevices]
      split
      · exact ih
      · exact asksOnly_thenTask (asksOnly_getDevice stack cpuset _) ih

end Commands

section Runs

variable {State α : Type} {driver : Driver State} {env : Option DevInfo}

theorem asks_queries (events : List InfoEvent) : ∀ entry ∈ events.map Entry.query, Asks entry := by
  intro entry member
  obtain ⟨event, -, rfl⟩ := List.mem_map.mp member
  trivial

theorem asks_lookup (devId : BitVec 32) (stack : Stack) (state : State) :
    ∀ entry ∈ (lookup driver env devId stack state).1, Asks entry := by
  intro entry member
  simp only [lookup] at member
  split at member
  · cases member
  · exact asks_queries _ entry member

/-- One operation that only asks. -/
theorem perform_asks {operation : Operation} (asking : AskingOperation operation) (devId : BitVec 32)
    (stack : Stack) (state : State) :
    (∀ entry ∈ (perform driver env operation devId stack state).1, Asks entry) ∧
      (Quiet driver → (perform driver env operation devId stack state).2.1 = state) := by
  have queries := @asks_lookup _ driver env devId stack state
  cases finds : lookup driver env devId stack state with
  | mk log told =>
      rw [finds] at queries
      cases told with
      | error err =>
          simp only [perform, finds]
          exact ⟨queries, fun _ => trivial⟩
      | ok info =>
          simp only [perform, finds]
          constructor
          · intro entry member
            rcases List.mem_append.mp member with asked | sent
            · exact queries entry asked
            · cases List.mem_singleton.mp sent
              exact asking _ _ _
          · intro quiet
            exact quiet state _ (asking _ _ _)

theorem run_asksOnly {script : Script α} (only : AsksOnly script) (state : State) :
    (∀ entry ∈ (script.run driver env state).1, Asks entry) ∧
      (Quiet driver → (script.run driver env state).2.1 = state) := by
  induction script generalizing state with
  | done result => exact ⟨fun entry member => absurd member List.not_mem_nil, fun _ => rfl⟩
  | raw cmd next ih =>
      have later := ih _ (only.2 (driver.execute state cmd).2) (driver.execute state cmd).1
      constructor
      · intro entry member
        rcases List.mem_cons.mp member with rfl | rest
        · exact only.1
        · exact later.1 entry rest
      · intro quiet
        exact (later.2 quiet).trans (quiet state cmd only.1)
  | getInfo devId stack next ih =>
      have later := ih _ (only (query driver devId stack state).2) state
      constructor
      · intro entry member
        rcases List.mem_append.mp member with asked | rest
        · exact asks_queries _ entry asked
        · exact later.1 entry rest
      · exact later.2
  | fetchInfo devId stack next ih =>
      have later := ih _ (only (lookup driver env devId stack state).2) state
      constructor
      · intro entry member
        rcases List.mem_append.mp member with asked | rest
        · exact asks_lookup devId stack state entry asked
        · exact later.1 entry rest
      · exact later.2
  | call given operation devId stack next ih =>
      have one := @perform_asks _ driver (given.or env) operation only.1 devId stack state
      have later := ih _ (only.2 (perform driver (given.or env) operation devId stack state).2.2)
        (perform driver (given.or env) operation devId stack state).2.1
      constructor
      · intro entry member
        rcases List.mem_append.mp member with asked | rest
        · exact one.1 entry asked
        · exact later.1 entry rest
      · intro quiet
        exact (later.2 quiet).trans (one.2 quiet)

end Runs

/-! ## Reports -/

/-- What there is to tell about a device. -/
structure Device where
  devId : BitVec 32
  info : DevInfo
  params : List UInt8
  affinity : List (List UInt8)

def queueLines (qId : Nat) : List (List UInt8) → List Char
  | [] => []
  | cpuset :: rest => queueLine qId cpuset ++ queueLines (qId + 1) rest

def Device.report (device : Device) : List Char :=
  dumpDevInfo device.devId device.info device.params ++ queueLines 0 device.affinity

section Reports

variable {State : Type} (driver : Driver State) (stack : Stack) (cpuset : CpuSet)

def queueAffinity (info : DevInfo) (state : State) (qId : Nat) : Except ControlError (List UInt8) :=
  (perform driver none (.getQueueAffinity (BitVec.ofNat 16 qId) cpuset) info.devId stack state).2.2.map
    Received.object

/-- What the driver tells about a device in one of its states. -/
def describe (state : State) (devId : BitVec 32) : Except ControlError Device := do
  let info ← (query driver devId { stack with info := Object.zero sizeofDevInfo } state).2
  let received ← (perform driver none (.getParams (Params.withLen (Object.zero sizeofParams))) devId stack state).2.2
  let affinity ← (List.range' 0 info.nrHwQueues.toNat).mapM (queueAffinity driver stack cpuset info state)
  return ⟨devId, info, received.object, affinity⟩

/-- A task printed what was to be told, or ended with the error that kept it from that. -/
def Tells (expected : Except ControlError (List Char)) (result : Except ControlError Ended) : Prop :=
  match expected with
  | .ok text => result = .ok ⟨text, none⟩
  | .error err => ∃ out, result = .ok ⟨out, some err⟩

variable {driver stack cpuset}

theorem run_behind (text : List Char) (task : Task) (state : State) :
    ((behind text task).run driver none state).2.2 =
      (task.run driver none state).2.2.map fun ended => ⟨text ++ ended.out, ended.thrown⟩ := by
  rw [behind, Script.run_bind]
  rfl

theorem tells_behind {expected : Except ControlError (List Char)} {task : Task} {state : State}
    (tells : Tells expected (task.run driver none state).2.2) (text : List Char) :
    Tells (expected.map (text ++ ·)) ((behind text task).run driver none state).2.2 := by
  rw [run_behind]
  cases expected with
  | ok later =>
      rw [tells]
      rfl
  | error err =>
      obtain ⟨out, thrown⟩ := tells
      rw [thrown]
      exact ⟨text ++ out, rfl⟩

theorem tells_dumpQueueAffinity (quiet : Quiet driver) (info : DevInfo) (state : State) (left : Nat) :
    ∀ qId, Tells (((List.range' qId left).mapM (queueAffinity driver stack cpuset info state)).map (queueLines qId))
      ((dumpQueueAffinity stack cpuset info qId left).run driver none state).2.2 := by
  induction left with
  | zero =>
      intro qId
      rfl
  | succ left ih =>
      intro qId
      have same : (perform driver none (.getQueueAffinity (BitVec.ofNat 16 qId) cpuset) info.devId stack
          state).2.1 = state :=
        (perform_asks (asking_getQueueAffinity _ cpuset) info.devId stack state).2 quiet
      simp only [dumpQueueAffinity, Script.run, Option.or_none, same, List.range'_succ, List.mapM_cons]
      have first : queueAffinity driver stack cpuset info state qId =
        (perform driver none (.getQueueAffinity (BitVec.ofNat 16 qId) cpuset) info.devId stack state).2.2.map
          Received.object := rfl
      rw [first]
      cases (perform driver none (.getQueueAffinity (BitVec.ofNat 16 qId) cpuset) info.devId stack state).2.2 with
      | error err => exact ⟨[], rfl⟩
      | ok received =>
          have rest := tells_behind (ih (qId + 1)) (queueLine qId received.object)
          simp only [orThrow]
          cases later : (List.range' (qId + 1) left).mapM (queueAffinity driver stack cpuset info state) with
          | error err =>
              rw [later] at rest
              exact rest
          | ok sets =>
              rw [later] at rest
              exact rest

theorem tells_getDevice (quiet : Quiet driver) (state : State) (devId : BitVec 32) :
    Tells ((describe driver stack cpuset state devId).map Device.report)
      ((getDevice stack cpuset devId).run driver none state).2.2 := by
  simp only [getDevice, Script.run, describe]
  cases (query driver devId { stack with info := Object.zero sizeofDevInfo } state).2 with
  | error err => exact ⟨[], rfl⟩
  | ok info =>
      have same := (@perform_asks _ driver none _ (asking_getParams (Params.withLen (Object.zero sizeofParams)))
        devId stack state).2 quiet
      simp only [orThrow, dumpDevice, Script.run, Option.or_none, same]
      cases (perform driver none (.getParams (Params.withLen (Object.zero sizeofParams))) devId stack state).2.2 with
      | error err => exact ⟨[], rfl⟩
      | ok received =>
          have rest := tells_behind
            (@tells_dumpQueueAffinity _ driver stack cpuset quiet info state info.nrHwQueues.toNat 0)
            (dumpDevInfo devId info received.object)
          change Tells (Except.map Device.report (((List.range' 0 info.nrHwQueues.toNat).mapM
            (queueAffinity driver stack cpuset info state)).bind fun affinity =>
              .ok ⟨devId, info, received.object, affinity⟩)) _
          cases later : (List.range' 0 info.nrHwQueues.toNat).mapM
              (queueAffinity driver stack cpuset info state) with
          | error err =>
              rw [later] at rest
              exact rest
          | ok sets =>
              rw [later] at rest
              exact rest

/-- How far a listing came: to the end of the directory, or to the first device about
which the driver does not tell all. -/
def Listed (describe : BitVec 32 → Except ControlError Device) (failure : Option Errno) (devIds : List (BitVec 32))
    (ended : Ended) : Prop :=
  (∃ devices, devIds.mapM describe = .ok devices ∧
    ended = ⟨devices.flatMap Device.report, directoryError failure⟩) ∨
  ∃ before devices failing after err, devIds = before ++ failing :: after ∧
    before.mapM describe = .ok devices ∧ describe failing = .error err ∧
    devices.flatMap Device.report <+: ended.out ∧ ended.thrown = some err

theorem Listed.cons {describe : BitVec 32 → Except ControlError Device} {failure : Option Errno}
    {devIds : List (BitVec 32)} {ended : Ended} (listed : Listed describe failure devIds ended) {devId : BitVec 32}
    {device : Device} (told : describe devId = .ok device) :
    Listed describe failure (devId :: devIds) ⟨device.report ++ ended.out, ended.thrown⟩ := by
  rcases listed with ⟨devices, all, rfl⟩ | ⟨before, devices, failing, after, err, rfl, some, failed, printed, thrown⟩
  · refine .inl ⟨device :: devices, ?_, rfl⟩
    rw [List.mapM_cons, told, all]
    rfl
  · refine .inr ⟨devId :: before, device :: devices, failing, after, err, rfl, ?_, failed, ?_, thrown⟩
    · rw [List.mapM_cons, told, some]
      rfl
    · rw [List.flatMap_cons]
      exact (List.prefix_append_right_inj _).mpr printed

theorem run_thenTask_thrown {first : Task} {state : State} {out : List Char} {err : ControlError} (second : Task)
    (thrown : (first.run driver none state).2.2 = .ok ⟨out, some err⟩) :
    ((thenTask first second).run driver none state).2.2 = .ok ⟨out, some err⟩ := by
  rw [thenTask, Script.run_bind]
  simp only [thrown]
  rfl

theorem run_thenTask_passed {first : Task} {state : State} {out : List Char} (second : Task)
    (passed : (first.run driver none state).2.2 = .ok ⟨out, none⟩) :
    ((thenTask first second).run driver none state).2.2 =
      ((behind out second).run driver none (first.run driver none state).2.1).2.2 := by
  rw [thenTask, Script.run_bind]
  simp only [passed]
  rfl

theorem run_listDevices (quiet : Quiet driver) (state : State) (failure : Option Errno) (names : List (List Char)) :
    ∃ ended, ((listDevices stack cpuset failure names).run driver none state).2.2 = .ok ended ∧
      Listed (describe driver stack cpuset state) failure (names.filterMap devIdOf) ended := by
  induction names with
  | nil =>
      cases failure with
      | none => exact ⟨_, rfl, .inl ⟨[], rfl, rfl⟩⟩
      | some code => exact ⟨_, rfl, .inl ⟨[], rfl, rfl⟩⟩
  | cons name rest ih =>
      cases accepted : devIdOf name with
      | none =>
          rw [List.filterMap_cons_none accepted]
          simpa only [listDevices, accepted] using ih
      | some devId =>
        rw [List.filterMap_cons_some accepted]
        simp only [listDevices, accepted]
        have tells := @tells_getDevice _ driver stack cpuset quiet state devId
        cases told : describe driver stack cpuset state devId with
        | error err =>
            rw [told] at tells
            obtain ⟨out, thrown⟩ := tells
            refine ⟨_, run_thenTask_thrown _ thrown, .inr ⟨[], [], devId, _, err, rfl, rfl, told, ?_, rfl⟩⟩
            exact List.nil_prefix
        | ok device =>
            rw [told] at tells
            have same := (@run_asksOnly _ _ driver none _ (asksOnly_getDevice stack cpuset devId) state).2 quiet
            obtain ⟨ended, ends, listed⟩ := ih
            refine ⟨_, ?_, listed.cons told⟩
            rw [run_thenTask_passed _ tells, same, run_behind, ends]
            rfl

end Reports

/-! ## Names -/

def devName (devId : BitVec 32) : List Char := "ublkc".toList ++ decimal devId.toNat

theorem fromChars_decimal {value : Nat} (fits : value < 2 ^ 64) : fromChars (decimal value) = some (value, []) := by
  have digits : (decimal value).takeWhile Char.isDigit = decimal value :=
    List.takeWhile_eq_self_iff.mpr fun _ member => decimal_digits member
  have number : Nat.ofDigitChars 10 (decimal value) 0 = value := Nat.ofDigitChars_ten_toDigits
  have some : (decimal value).isEmpty = false := List.isEmpty_eq_false_iff.mpr Nat.toDigits_ne_nil
  have small : ¬ 2 ^ 64 ≤ value := Nat.not_le.mpr fits
  simp only [fromChars, digits, number, some, small, decide_false, Bool.or_self, Bool.false_eq_true, if_false,
    List.drop_length]

/-- No device is passed over. -/
theorem devIdOf_devName (devId : BitVec 32) : devIdOf (devName devId) = some devId := by
  have named : "ublkc".toList.isPrefixOf (devName devId) = true := by
    rw [List.isPrefixOf_iff_prefix]
    exact List.prefix_append _ _
  have number : (devName devId).drop 5 = decimal devId.toNat := rfl
  rw [devIdOf, named, if_pos rfl, number, fromChars_decimal (by omega)]
  simp only [BitVec.ofNat_toNat, BitVec.setWidth_eq]

theorem filterMap_devName (devIds : List (BitVec 32)) : (devIds.map devName).filterMap devIdOf = devIds := by
  rw [List.filterMap_map]
  have each : devIdOf ∘ devName = some := funext devIdOf_devName
  rw [each, List.filterMap_some]

/-- `list` prints a report on every device of the directory, in its order, all of them
taken from the state the driver is in, and sends nothing that could change it. It stops
at the first device that cannot be read, with the error of that device and the reports
on all devices before. -/
theorem list_prints_devices {State : Type} {driver : Driver State} (quiet : Quiet driver) (stack : Stack)
    (cpuset : CpuSet) (directory : Directory) (state : State) :
    let exit := ublkctl stack cpuset driver none directory .list state
    exit.state = state ∧ (∀ entry ∈ exit.log, Asks entry) ∧
    (∀ devIds, directory.names = devIds.map devName → directory.names.filterMap devIdOf = devIds) ∧
    ∃ thrown, exit.status = exitStatus thrown ∧
      Listed (describe driver stack cpuset state) directory.failure (directory.names.filterMap devIdOf)
        ⟨exit.out, thrown⟩ := by
  intro exit
  obtain ⟨asked, same⟩ := @run_asksOnly _ _ driver none _
    (asksOnly_listDevices stack cpuset directory.failure directory.names) state
  obtain ⟨ended, ends, listed⟩ := @run_listDevices _ driver stack cpuset quiet state directory.failure directory.names
  have unchanged := same quiet
  rcases ran : (listDevices stack cpuset directory.failure directory.names).run driver none state with
    ⟨log, after, result⟩
  rw [ran] at ends asked unchanged
  cases ends
  have whole : exit = ⟨log, after, ended.out, exitStatus ended.thrown⟩ := ublkctl_ended stack cpuset ran
  rw [whole]
  refine ⟨unchanged, asked, ?_, ended.thrown, rfl, listed⟩
  intro devIds names
  rw [names]
  exact filterMap_devName devIds

/-- A driver without a state cannot change. -/
def silentDriver (info : DevInfo) : Driver Unit where
  execute _ _ := ((), ⟨0, []⟩)
  answers _ _ _ := ⟨0, clip sizeofDevInfo info.val⟩
  fallback _ _ := ⟨0, clip sizeofDevInfo info.val⟩

theorem list_prints_devices_silentDriver :
    let stack : Stack := ⟨Object.zero devPathLen, Object.zero devPathLen, Object.zero sizeofDevInfo⟩
    let directory : Directory := ⟨[devName 0, "ublkb0".toList, devName 1], none⟩
    let exit := ublkctl stack (Object.zero sizeofCpuSet) (silentDriver (Object.zero sizeofDevInfo)) none directory
      .list ()
    ∃ thrown, exit.status = exitStatus thrown ∧
      Listed (describe (silentDriver (Object.zero sizeofDevInfo)) stack (Object.zero sizeofCpuSet) ()) none [0, 1]
        ⟨exit.out, thrown⟩ := by
  intro stack directory
  have quiet : Quiet (silentDriver (Object.zero sizeofDevInfo)) := fun _ _ _ => rfl
  exact (list_prints_devices quiet stack (Object.zero sizeofCpuSet) directory ()).2.2.2

end Ublk.Ctl
