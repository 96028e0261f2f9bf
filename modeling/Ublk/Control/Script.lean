import Ublk.Control.Answers

namespace Ublk.Control

open Ublk.Data

/-! # Conversations with the driver

Every control operation begins with `cached_get_dev_info`: device info from the
environment of the task takes the place of a query if it is about the same device, and
the daemon operations pass what they were told on to the operations inside them. A
script is what such a task does next, given the answers so far; it runs against any
driver, in an environment with or without device info.
-/

/-- A completed command: its result word and what the driver wrote. -/
structure Reply where
  res : Int
  data : List UInt8
deriving DecidableEq, Repr

/-- The driver. A query of the device info changes nothing in it; `answers` and
`fallback` are how one is answered that begins now. -/
structure Driver (State : Type) where
  execute : State → CtrlCmd → State × Reply
  answers : State → BitVec 32 → Nat → InfoAnswer
  fallback : State → BitVec 32 → InfoAnswer

/-- What is on the stack of an operation before it is written. -/
structure Stack where
  field : PathField
  queryField : PathField
  info : DevInfo

inductive Entry where
  | query (event : InfoEvent)
  | command (cmd : CtrlCmd)
deriving DecidableEq, Repr

def Entry.isCommand : Entry → Bool
  | .command _ => true
  | .query _ => false

/-- The driver writes no more than there is room for. -/
def clip (size : Nat) (data : List UInt8) : Filling size := ⟨data.take size, List.length_take_le _ _⟩

/-- What a caller gets: a value, of `control_register_shm_buf_t` alone, and what is left in
the object that was passed, where there is one. -/
structure Received where
  value : Option Int := none
  object : List UInt8 := []
deriving DecidableEq, Repr

/-- What an operation makes of the reply to its command. -/
def Operation.received (unprivileged : Bool) (field : PathField) (devId : BitVec 32) (reply : Reply) :
    Operation → Received
  | .getQueueAffinity qId cpuset =>
      { object := controlGetQueueAffinityResult unprivileged field devId qId cpuset
          (clip sizeofCpuSet reply.data) }
  | .getParams params =>
      { object := controlGetParamsResult unprivileged field devId params (clip sizeofParams reply.data) }
  | .registerShmBuf _ => { value := some reply.res }
  | _ => {}

/-- `raw` is a command without device info and `getInfo` a query past the environment;
`fetchInfo` is a `cached_get_dev_info` of the task itself. A `call` may have its own device
info written into its environment. -/
inductive Script (α : Type) where
  | done (result : Except ControlError α)
  | raw (cmd : CtrlCmd) (next : Reply → Script α)
  | getInfo (devId : BitVec 32) (stack : Stack) (next : Except ControlError DevInfo → Script α)
  | fetchInfo (devId : BitVec 32) (stack : Stack) (next : Except ControlError DevInfo → Script α)
  | call (given : Option DevInfo) (operation : Operation) (devId : BitVec 32) (stack : Stack)
      (next : Except ControlError Received → Script α)

variable {State α : Type} (driver : Driver State)

def query (devId : BitVec 32) (stack : Stack) (state : State) : Tried DevInfo :=
  controlGetDevInfo stack.queryField devId (driver.answers state devId) (driver.fallback state devId) stack.info

/-- Whether the environment has info about the device. -/
def hit (env : Option DevInfo) (devId : BitVec 32) : Bool := env.any fun info => info.devId == devId

def lookup (env : Option DevInfo) (devId : BitVec 32) (stack : Stack) (state : State) :
    List Entry × Except ControlError DevInfo :=
  let asked := query driver devId stack state
  (if hit env devId then [] else asked.1.map .query, cachedGetDevInfo env devId asked.2)

/-- One control operation. -/
def perform (env : Option DevInfo) (operation : Operation) (devId : BitVec 32) (stack : Stack) (state : State) :
    List Entry × State × Except ControlError Received :=
  match lookup driver env devId stack state with
  | (log, .error err) => (log, state, .error err)
  | (log, .ok info) =>
      let unprivileged := isUnprivileged info.flags
      let cmd := operation.command unprivileged stack.field devId
      let (after, reply) := driver.execute state cmd
      (log ++ [.command cmd], after,
        if reply.res < 0 then .error (.system (-reply.res) "")
        else .ok (operation.received unprivileged stack.field devId reply))

def Script.run (env : Option DevInfo) : Script α → State → List Entry × State × Except ControlError α
  | .done result, state => ([], state, result)
  | .raw cmd next, state =>
      let (middle, reply) := driver.execute state cmd
      let (later, after, result) := (next reply).run env middle
      (.command cmd :: later, after, result)
  | .getInfo devId stack next, state =>
      let (log, told) := query driver devId stack state
      let (later, after, result) := (next told).run env state
      (log.map .query ++ later, after, result)
  | .fetchInfo devId stack next, state =>
      let (log, told) := lookup driver env devId stack state
      let (later, after, result) := (next told).run env state
      (log ++ later, after, result)
  | .call given operation devId stack next, state =>
      let (log, middle, received) := perform driver (given.or env) operation devId stack state
      let (later, after, result) := (next received).run env middle
      (log ++ later, after, result)

/-- A task that goes on with the result of another. -/
def Script.bind {β : Type} (next : Except ControlError α → Script β) : Script α → Script β
  | .done result => next result
  | .raw cmd later => .raw cmd fun reply => (later reply).bind next
  | .getInfo devId stack later => .getInfo devId stack fun told => (later told).bind next
  | .fetchInfo devId stack later => .fetchInfo devId stack fun told => (later told).bind next
  | .call given operation devId stack later =>
      .call given operation devId stack fun received => (later received).bind next

theorem Script.run_bind {β : Type} (env : Option DevInfo) (next : Except ControlError α → Script β)
    (script : Script α) (state : State) :
    (script.bind next).run driver env state =
      let (log, middle, result) := script.run driver env state
      let (later, after, final) := (next result).run driver env middle
      (log ++ later, after, final) := by
  induction script generalizing state with
  | done result => rfl
  | raw cmd later ih => simp only [Script.bind, Script.run, ih, List.cons_append]
  | getInfo devId stack later ih => simp only [Script.bind, Script.run, ih, List.append_assoc]
  | fetchInfo devId stack later ih => simp only [Script.bind, Script.run, ih, List.append_assoc]
  | call given operation devId stack later ih => simp only [Script.bind, Script.run, ih, List.append_assoc]

/-! ## Where the environment is asked -/

section Lookup

variable {driver} {env : Option DevInfo} {devId : BitVec 32} {state : State}

theorem lookup_hit (present : hit env devId = true) (stack : Stack) :
    ∃ found, env = some found ∧ lookup driver env devId stack state = ([], .ok found) := by
  cases env with
  | none => simp [hit] at present
  | some found =>
      have same : found.devId = devId := by simpa [hit] using present
      exact ⟨found, rfl, by simp [lookup, hit, same, cachedGetDevInfo]⟩

theorem lookup_miss (absent : hit env devId = false) (stack : Stack) :
    lookup driver env devId stack state =
      ((query driver devId stack state).1.map .query, (query driver devId stack state).2) := by
  cases env with
  | none => simp [lookup, hit, cachedGetDevInfo]
  | some found =>
      have other : ¬ found.devId = devId := by simpa [hit] using absent
      simp [lookup, hit, other, cachedGetDevInfo]

theorem filter_queries (events : List InfoEvent) :
    (events.map Entry.query).filter Entry.isCommand = [] := by
  simp [List.filter_map, Function.comp_def, Entry.isCommand]

theorem filter_lookup (stack : Stack) :
    (lookup driver env devId stack state).1.filter Entry.isCommand = [] := by
  simp only [lookup]
  split
  · rfl
  · exact filter_queries _

end Lookup

/-! ## Device info that the caller keeps

Only its privilege mode decides how an operation talks to the driver, so old device
info is as good as new while that mode stays.
-/

/-- The task itself looks at nothing in the environment; its operations do. -/
def Script.CallsOnly : Script α → Prop
  | .done _ => True
  | .raw _ next => ∀ reply, (next reply).CallsOnly
  | .getInfo _ _ next => ∀ told, (next told).CallsOnly
  | .fetchInfo _ _ _ => False
  | .call _ _ _ _ next => ∀ received, (next received).CallsOnly

/-- The driver answers every query about the device of `info`, and the mode it tells is
that of `info`, as long as `kept` holds. -/
structure Steady (info : DevInfo) (kept : State → Prop) : Prop where
  closed : ∀ {state} cmd, kept state → kept (driver.execute state cmd).1
  mode : ∀ {state} stack, kept state → ∃ told, (query driver info.devId stack state).2 = .ok told ∧
    isUnprivileged told.flags = isUnprivileged info.flags

/-- The same commands in the same order, the same state of the driver and the same result. -/
def SameWork {β : Type} (left right : List Entry × State × β) : Prop :=
  left.1.filter Entry.isCommand = right.1.filter Entry.isCommand ∧ left.2 = right.2

variable {driver} {info : DevInfo} {kept : State → Prop}

theorem perform_kept (env : Option DevInfo) (operation : Operation) (devId : BitVec 32) (stack : Stack)
    {state : State} (closed : ∀ {state} cmd, kept state → kept (driver.execute state cmd).1)
    (holds : kept state) : kept (perform driver env operation devId stack state).2.1 := by
  rw [perform]
  split
  · exact holds
  · exact closed _ holds

theorem perform_found {env : Option DevInfo} {operation : Operation} {devId : BitVec 32} {stack : Stack}
    {state : State} {found : DevInfo} (finds : (lookup driver env devId stack state).2 = .ok found) :
    let unprivileged := isUnprivileged found.flags
    let cmd := operation.command unprivileged stack.field devId
    let (after, reply) := driver.execute state cmd
    perform driver env operation devId stack state =
      ((lookup driver env devId stack state).1 ++ [.command cmd], after,
        if reply.res < 0 then .error (.system (-reply.res) "")
        else .ok (operation.received unprivileged stack.field devId reply)) := by
  rw [perform]
  split
  · rename_i same
    rw [same] at finds
    cases finds
  · rename_i same
    rw [same] at finds
    cases finds
    rw [same]

/-- Only the mode of the info that was found matters. -/
theorem perform_sameWork {left right : Option DevInfo} {operation : Operation} {devId : BitVec 32} {stack : Stack}
    {state : State} {first second : DevInfo}
    (leftFinds : (lookup driver left devId stack state).2 = .ok first)
    (rightFinds : (lookup driver right devId stack state).2 = .ok second)
    (mode : isUnprivileged second.flags = isUnprivileged first.flags) :
    SameWork (perform driver left operation devId stack state)
      (perform driver right operation devId stack state) := by
  rw [perform_found leftFinds, perform_found rightFinds, mode]
  constructor
  · simp only [List.filter_append, filter_lookup]
  · rfl

theorem perform_cached (steady : Steady driver info kept) {state : State} (holds : kept state)
    (given : Option DevInfo) (operation : Operation) (devId : BitVec 32) (stack : Stack) :
    SameWork (perform driver (given.or (some info)) operation devId stack state)
      (perform driver (given.or none) operation devId stack state) := by
  cases given with
  | some given => exact ⟨rfl, rfl⟩
  | none =>
      change SameWork (perform driver (some info) operation devId stack state)
        (perform driver none operation devId stack state)
      have missed := @lookup_miss _ driver none devId state rfl stack
      by_cases same : info.devId = devId
      · subst same
        obtain ⟨told, tells, mode⟩ := steady.mode stack holds
        obtain ⟨found, same, finds⟩ := @lookup_hit _ driver (some info) info.devId state (by simp [hit]) stack
        cases same
        have asked : (lookup driver none info.devId stack state).2 = .ok told := by rw [missed, tells]
        exact perform_sameWork (congrArg Prod.snd finds) asked mode
      · -- info about another device is no info
        have absent : hit (some info) devId = false := by simpa [hit] using same
        have alike : lookup driver (some info) devId stack state = lookup driver none devId stack state := by
          rw [lookup_miss absent, missed]
        simp only [perform, alike]
        exact ⟨rfl, rfl⟩

/-- Device info in the environment spares queries and changes nothing else: whatever
sequence of operations a task chooses from the answers it gets, they send the same
commands and have the same results as if each of them had asked. -/
theorem run_cached (steady : Steady driver info kept) {script : Script α} (callsOnly : script.CallsOnly)
    {state : State} (holds : kept state) :
    SameWork (script.run driver (some info) state) (script.run driver none state) := by
  induction script generalizing state with
  | done result => exact ⟨rfl, rfl⟩
  | raw cmd next ih =>
      obtain ⟨commands, rest⟩ := ih _ (callsOnly (driver.execute state cmd).2) (steady.closed cmd holds)
      constructor
      · simp only [Script.run, List.filter_cons, commands]
      · exact rest
  | getInfo devId stack next ih =>
      obtain ⟨commands, rest⟩ := ih _ (callsOnly (query driver devId stack state).2) holds
      constructor
      · simp only [Script.run, List.filter_append, commands]
      · exact rest
  | fetchInfo devId stack next ih => exact callsOnly.elim
  | call given operation devId stack next ih =>
      have work := perform_cached steady holds given operation devId stack
      have middle := perform_kept (given.or none) operation devId stack steady.closed holds
      obtain ⟨sent, after⟩ := work
      simp only [SameWork, Script.run, List.filter_append, sent, after]
      obtain ⟨commands, rest⟩ := ih _ (callsOnly _) middle
      rw [commands]
      exact ⟨rfl, rest⟩

/-- A driver that counts the commands it executes, and tells the same about every device. -/
def countingDriver (info : DevInfo) : Driver Nat where
  execute count _ := (count + 1, ⟨0, []⟩)
  answers _ _ _ := ⟨0, ⟨info.val, Nat.le_of_eq info.property⟩⟩
  fallback _ _ := ⟨0, ⟨info.val, Nat.le_of_eq info.property⟩⟩

theorem query_countingDriver (devId : BitVec 32) (stack : Stack) (count : Nat) :
    (query (countingDriver info) devId stack count).2 = .ok info := by
  apply controlGetDevInfo_decided (Nat.zero_le 20)
  · intro earlier less
    omega
  · have whole := @Object.fill_whole sizeofDevInfo (Object.zero sizeofDevInfo)
      ⟨info.val, Nat.le_of_eq info.property⟩ info.property
    simp [tryGetDevInfo, countingDriver, Subtype.ext_iff, whole]

/-- A task that registers a buffer and unregisters it under the index it is given. -/
def registerAndUnregister (stack : Stack) : Script Unit :=
  .call none (.registerShmBuf (Object.zero sizeofShmemBufReg)) 0 stack fun
    | .error err => .done (.error err)
    | .ok received =>
        .call none (.unregisterShmBuf (BitVec.ofInt 64 (received.value.getD 0))) 0 stack fun removed =>
          .done (removed.map fun _ => ())

theorem run_cached_registerAndUnregister :
    let script := registerAndUnregister
      ⟨Object.zero devPathLen, Object.zero devPathLen, Object.zero sizeofDevInfo⟩
    SameWork (script.run (countingDriver (Object.zero sizeofDevInfo)) (some (Object.zero sizeofDevInfo)) 0)
      (script.run (countingDriver (Object.zero sizeofDevInfo)) none 0) := by
  apply @run_cached Nat Unit _ _ (fun _ => True)
  · constructor
    · intro _ _ _
      trivial
    · intro count stack _
      exact ⟨_, query_countingDriver _ stack count, rfl⟩
  · intro received
    cases received with
    | error err => trivial
    | ok received => exact fun _ => trivial
  · trivial

end Ublk.Control
