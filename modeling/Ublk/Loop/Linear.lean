import Ublk.Loop.Disk
import Ublk.Queue.Batch.Environment
import Ublk.Queue.CopyBuffer

namespace Ublk.Loop

open Ublk.Data Ublk.Machine Ublk.Queue

/-! # One queue of a loop device

Each tag has a buffer of its own, so what one request finds or leaves there is not touched
by the others. That, and the range of the operations, makes every step of a queue one that
a disk could take.
-/

variable {config : Config} {geometry : Geometry} {tag : Nat} {memory file : Memory} {device after : Device}

/-- Two buffers without a common byte. -/
def Apart (geometry : Geometry) (left right : BitVec 64) : Prop :=
  left.toNat + geometry.maxIoBufBytes.toNat ≤ right.toNat ∨
    right.toNat + geometry.maxIoBufBytes.toNat ≤ left.toNat

/-- The buffers of a queue do not overlap. -/
def Separate (config : Config) (geometry : Geometry) : Prop :=
  ∀ tag < config.queueDepth, ∀ other < config.queueDepth, tag ≠ other →
    Apart geometry (config.getBuf tag) (config.getBuf other)

/-! ## What holds of one tag -/

/-- A request has come in, with its data in the buffer if it is a write. -/
def Waiting (config : Config) (geometry : Geometry) (tag : Nat) (memory : Memory) (iod : IoDesc)
    (events : List DiskEvent) : Prop :=
  ∃ before payload, events = before ++ [.asked tag iod payload] ∧ sends geometry iod payload = true ∧
    (ublksrvGetOp iod = ublkIoOpWrite → slice memory (config.getBuf tag).toNat payload.length = payload)

/-- The result that is going to be committed, and the buffer, agree with what was done. -/
def Ready (config : Config) (geometry : Geometry) (tag : Nat) (memory : Memory) (iod : IoDesc) (res : BitVec 32) :
    DiskOp → Prop
  | .read _ data =>
      ublksrvGetOp iod = ublkIoOpRead ∧ res.toInt = data.length ∧ data.length ≤ geometry.maxIoBufBytes.toNat ∧
        slice memory (config.getBuf tag).toNat data.length = data
  | .write _ data => ublksrvGetOp iod = ublkIoOpWrite ∧ res.toInt = data.length
  | .flush => ublksrvGetOp iod = ublkIoOpFlush ∧ res = 0
  | .nothing => res.toInt < 0

def Performed (config : Config) (geometry : Geometry) (tag : Nat) (memory : Memory) (iod : IoDesc) (res : BitVec 32)
    (events : List DiskEvent) : Prop :=
  ublksrvGetOp iod ≠ ublkIoOpZoneAppend ∧
    ∃ before payload op, events = before ++ [.asked tag iod payload, .performed tag op] ∧
      Ready config geometry tag memory iod res op

/-- A tag by where its worker is. Of a worker that has ended nothing more is to come. -/
def Standing (config : Config) (geometry : Geometry) (tag : Nat) (memory : Memory) (worker : Plain.State)
    (given : BitVec 64) (done : Option IoOutcome) (events : List DiskEvent) : Prop :=
  match worker.pc with
  | .start => done = none ∧ Idle events
  | .fetching _ | .gettingData _ => given = config.getBuf tag ∧ done = none ∧ Idle events
  | .serving _ | .registering => given = config.getBuf tag ∧ done = none ∧
      Waiting config geometry tag memory worker.iod events
  | .handling _ => given = config.getBuf tag ∧
      match done with
      | none => Waiting config geometry tag memory worker.iod events
      | some outcome => Performed config geometry tag memory worker.iod (wrapHandleIo outcome).1 events
  | .handled _ res _ => given = config.getBuf tag ∧ Performed config geometry tag memory worker.iod res events
  | .unregistering res _ => given = config.getBuf tag ∧ Performed config geometry tag memory worker.iod res events
  | .ended _ => True

/-- The buffer of a tag is all of the memory that a tag depends on. -/
def SameBuffer (config : Config) (geometry : Geometry) (tag : Nat) (left right : Memory) : Prop :=
  ∀ count ≤ geometry.maxIoBufBytes.toNat,
    slice left (config.getBuf tag).toNat count = slice right (config.getBuf tag).toNat count

theorem payload_fits {iod : IoDesc} {payload : List UInt8} (sent : sends geometry iod payload = true)
    (writes : ublksrvGetOp iod = ublkIoOpWrite) :
    geometry.admits iod = true ∧ payload.length = sectorSize * iod.nrSectors.toNat := by
  simp only [sends, writes, Bool.and_eq_true, Bool.or_eq_true, bne_iff_ne, ne_eq, beq_iff_eq] at sent
  obtain ⟨⟨_, inside⟩, length⟩ := sent
  constructor
  · simpa using inside
  · simpa using length

theorem read_admitted {iod : IoDesc} {payload : List UInt8} (sent : sends geometry iod payload = true)
    (reads : ublksrvGetOp iod = ublkIoOpRead) : geometry.admits iod = true := by
  simp only [sends, reads, Bool.and_eq_true] at sent
  simpa using sent.1.2

theorem Waiting.elsewhere {left right : Memory} {iod : IoDesc} {events : List DiskEvent}
    (waiting : Waiting config geometry tag left iod events) (same : SameBuffer config geometry tag right left) :
    Waiting config geometry tag right iod events := by
  obtain ⟨before, payload, asked, sent, filled⟩ := waiting
  refine ⟨before, payload, asked, sent, fun writes => ?_⟩
  obtain ⟨admitted, length⟩ := payload_fits sent writes
  rw [same _ (by rw [length]; exact Geometry.admits_buffer admitted)]
  exact filled writes

theorem Performed.elsewhere {left right : Memory} {iod : IoDesc} {res : BitVec 32} {events : List DiskEvent}
    (performed : Performed config geometry tag left iod res events)
    (same : SameBuffer config geometry tag right left) : Performed config geometry tag right iod res events := by
  obtain ⟨plain, before, payload, op, logged, ready⟩ := performed
  refine ⟨plain, before, payload, op, logged, ?_⟩
  cases op with
  | read off data =>
      obtain ⟨reads, result, fits, filled⟩ := ready
      exact ⟨reads, result, fits, (same _ fits).trans filled⟩
  | write off data => exact ready
  | flush => exact ready
  | nothing => exact ready

theorem Standing.elsewhere {left right : Memory} {worker : Plain.State} {given : BitVec 64} {done : Option IoOutcome}
    {events : List DiskEvent} (standing : Standing config geometry tag left worker given done events)
    (same : SameBuffer config geometry tag right left) :
    Standing config geometry tag right worker given done events := by
  simp only [Standing] at standing ⊢
  cases pc : worker.pc with
  | ended err => trivial
  | start | fetching command | gettingData command =>
      simp only [pc] at standing
      exact standing
  | serving ioBuf | registering =>
      simp only [pc] at standing ⊢
      exact ⟨standing.1, standing.2.1, standing.2.2.elsewhere same⟩
  | handling ioBuf =>
      simp only [pc] at standing ⊢
      cases done with
      | none => exact ⟨standing.1, standing.2.elsewhere same⟩
      | some outcome => exact ⟨standing.1, standing.2.elsewhere same⟩
  | handled ioBuf res zoneLba | unregistering res zoneLba =>
      simp only [pc] at standing ⊢
      exact ⟨standing.1, standing.2.elsewhere same⟩

/-! ## One queue -/

def Device.standing (config : Config) (geometry : Geometry) (device : Device) (tag : Nat) : Prop :=
  Standing config geometry tag device.memory (device.queue.workers tag) (device.given tag) (device.done tag)
    (own tag device.log)

def Stands (config : Config) (geometry : Geometry) (device : Device) : Prop :=
  ∀ tag < config.queueDepth, device.standing config geometry tag

/-- No byte outside of one buffer is changed. -/
def Within (geometry : Geometry) (buffer : BitVec 64) (before after : Memory) : Prop :=
  ∀ base, Apart geometry buffer base → ∀ count ≤ geometry.maxIoBufBytes.toNat,
    slice after base.toNat count = slice before base.toNat count

/-- A step of a queue, with the event that it adds to the log. -/
structure Advances (config : Config) (geometry : Geometry) (event : Option DiskEvent) (device after : Device) :
    Prop where
  log : after.log = device.log ++ event.toList
  law : ∀ happened ∈ event, diskLaw geometry device.file device.log happened
  file : after.file = event.toList.foldl DiskEvent.apply device.file
  memory : ∀ base, (∀ tag < config.queueDepth, Apart geometry (config.getBuf tag) base) →
    ∀ count ≤ geometry.maxIoBufBytes.toNat, slice after.memory base.toNat count = slice device.memory base.toNat count
  stands : Stands config geometry after

theorem own_append (tag : Nat) (log events : List DiskEvent) :
    own tag (log ++ events) = own tag log ++ own tag events :=
  List.filter_append ..

theorem own_other {events : List DiskEvent} {other : Nat} (all : ∀ event ∈ events, event.tag = tag)
    (different : other ≠ tag) : own other events = [] := by
  rw [own, List.filter_eq_nil_iff]
  intro event member
  simp [all event member, different.symm]

theorem own_all {events : List DiskEvent} (all : ∀ event ∈ events, event.tag = tag) : own tag events = events := by
  rw [own, List.filter_eq_self]
  intro event member
  simp [all event member]

/-- A step concerns one tag and leaves the others alone. -/
structure Touches (config : Config) (geometry : Geometry) (tag : Nat) (event : Option DiskEvent)
    (device after : Device) : Prop where
  workers : ∀ other ≠ tag, after.queue.workers other = device.queue.workers other
  given : ∀ other ≠ tag, after.given other = device.given other
  done : ∀ other ≠ tag, after.done other = device.done other
  log : after.log = device.log ++ event.toList
  events : ∀ happened ∈ event, happened.tag = tag
  memory : Within geometry (config.getBuf tag) device.memory after.memory

/-- The rule for a step of one tag: the others stand as before. -/
theorem Touches.advances {event : Option DiskEvent} (touches : Touches config geometry tag event device after)
    (separate : Separate config geometry) (stands : Stands config geometry device) (inside : tag < config.queueDepth)
    (law : ∀ happened ∈ event, diskLaw geometry device.file device.log happened)
    (file : after.file = event.toList.foldl DiskEvent.apply device.file)
    (standing : Standing config geometry tag after.memory (after.queue.workers tag) (after.given tag) (after.done tag)
      (own tag device.log ++ event.toList)) : Advances config geometry event device after where
  log := touches.log
  law := law
  file := file
  memory := fun base apart count small => touches.memory base (apart tag inside) count small
  stands := by
    have events : ∀ happened ∈ event.toList, happened.tag = tag := by
      intro happened member
      exact touches.events happened (Option.mem_toList.mp member)
    intro other otherInside
    rw [Device.standing, touches.log, own_append]
    by_cases same : other = tag
    · subst same
      rw [own_all events]
      exact standing
    · rw [own_other events same, List.append_nil, touches.workers other same, touches.given other same,
        touches.done other same]
      apply (stands other otherInside).elsewhere
      exact touches.memory _ (separate tag inside other otherInside (Ne.symm same))

/-- A copy into a buffer stays inside of it. -/
theorem within_copyIn {buffer : BitVec 64} {bytes : List UInt8} (fits : bytes.length ≤ geometry.maxIoBufBytes.toNat)
    (memory : Memory) : Within geometry buffer memory (copyIn memory buffer.toNat bytes) := by
  intro base apart count small
  apply slice_copyIn_apart
  rw [Apart] at apart
  omega

theorem within_refl {buffer : BitVec 64} (memory : Memory) : Within geometry buffer memory memory :=
  fun _ _ _ _ => rfl

/-! ## Steps of a worker -/

variable {action : Plain.Action} {worker : Plain.State} {payload : List UInt8}

/-- A device whose worker has moved. -/
def Device.withWorker (device : Device) (tag : Nat) (worker : Plain.State) : Device :=
  { device with queue := { device.queue with workers := Function.update device.queue.workers tag worker } }

theorem runQueue_worker (taken : device.runQueue config (.worker tag action) payload = some after) :
    ∃ worker, tag < config.queueDepth ∧ device.completes tag action = true ∧
      Plain.Move config tag (device.queue.workers tag) action worker ∧
      after = (worker.history.drop (device.queue.workers tag).history.length).foldl (Device.observe tag payload)
        (device.withWorker tag worker) := by
  simp only [Device.runQueue, Plain.workersStep] at taken
  split at taken
  · contradiction
  rename_i queue stepped
  simp only [Option.ite_none_right_eq_some] at stepped taken
  obtain ⟨inside, stepped⟩ := stepped
  obtain ⟨completes, taken⟩ := taken
  split at stepped
  · contradiction
  rename_i worker moved
  cases stepped
  cases taken
  refine ⟨worker, inside, completes, Plain.step_move moved, ?_⟩
  simp only [Function.update_self, Device.withWorker]

theorem observed_event {event : Plain.Event} (device : Device) (state : Plain.State)
    (recorded : worker.history = state.history ++ [event]) :
    (worker.history.drop state.history.length).foldl (Device.observe tag payload) device =
      device.observe tag payload event := by
  rw [recorded, List.drop_left]
  rfl

theorem observed_silent (device : Device) (state : Plain.State) (same : worker.history = state.history) :
    (worker.history.drop state.history.length).foldl (Device.observe tag payload) device = device := by
  rw [same, List.drop_length]
  rfl

/-- A step that leaves no mark but on the worker and on the address that the driver has. -/
theorem Stands.turn (stands : Stands config geometry device) (separate : Separate config geometry)
    (inside : tag < config.queueDepth) (given : BitVec 64)
    (standing : Standing config geometry tag device.memory worker given (device.done tag) (own tag device.log)) :
    Advances config geometry none device
      { device.withWorker tag worker with given := Function.update device.given tag given } := by
  have touches : Touches config geometry tag none device
      { device.withWorker tag worker with given := Function.update device.given tag given } := {
    workers := fun other different => Function.update_of_ne different ..
    given := fun other different => Function.update_of_ne different ..
    done := fun _ _ => rfl
    log := (List.append_nil _).symm
    events := by simp
    memory := within_refl device.memory }
  apply touches.advances separate stands inside
  · simp
  · rfl
  · simp only [Device.withWorker, Function.update_self, Option.toList_none, List.append_nil]
    exact standing

theorem Stands.silent (stands : Stands config geometry device) (separate : Separate config geometry)
    (inside : tag < config.queueDepth)
    (standing : Standing config geometry tag device.memory worker (device.given tag) (device.done tag)
      (own tag device.log)) : Advances config geometry none device (device.withWorker tag worker) := by
  have turned := stands.turn separate inside (device.given tag) standing
  rw [Function.update_eq_self] at turned
  exact turned

/-- A request is delivered. -/
theorem Stands.delivered (stands : Stands config geometry device) (separate : Separate config geometry)
    (inside : tag < config.queueDepth) {iod : IoDesc} {ioBuf : Bool} {history : List Plain.Event}
    (sent : sends geometry iod payload = true) (known : device.given tag = config.getBuf tag)
    (unfinished : device.done tag = none) (idle : Idle (own tag device.log)) :
    Advances config geometry (some (.asked tag iod payload)) device
      ((device.withWorker tag ⟨.serving ioBuf, iod, history⟩).observe tag payload (.delivered iod)) := by
  have fits (writes : ublksrvGetOp iod = ublkIoOpWrite) : payload.length ≤ geometry.maxIoBufBytes.toNat := by
    obtain ⟨admitted, length⟩ := payload_fits sent writes
    rw [length]
    exact Geometry.admits_buffer admitted
  have touches : Touches config geometry tag (some (.asked tag iod payload)) device
      ((device.withWorker tag ⟨.serving ioBuf, iod, history⟩).observe tag payload (.delivered iod)) := {
    workers := fun other different => Function.update_of_ne different ..
    given := fun _ _ => rfl
    done := fun _ _ => rfl
    log := rfl
    events := by simp [DiskEvent.tag]
    memory := by
      simp only [Device.observe, Device.withWorker]
      split
      · rename_i writes
        rw [known]
        exact within_copyIn (fits writes) _
      · exact within_refl _ }
  apply touches.advances separate stands inside
  · rintro _ ⟨⟩
    exact idle
  · rfl
  · simp only [Device.observe, Device.withWorker, Function.update_self, unfinished]
    refine ⟨known, rfl, _, payload, rfl, sent, ?_⟩
    intro writes
    rw [if_pos writes, known]
    exact slice_copyIn_same ..

/-- The data that the driver takes out of the buffer of a tag. -/
def readBack (config : Config) (tag : Nat) (memory : Memory) (iod : IoDesc) (res : BitVec 32) : List UInt8 :=
  if ublksrvGetOp iod = ublkIoOpRead ∧ 0 ≤ res.toInt then slice memory (config.getBuf tag).toNat res.toNat else []

theorem Ready.answers {iod : IoDesc} {res : BitVec 32} {op : DiskOp}
    (ready : Ready config geometry tag memory iod res op) : Answers res (readBack config tag memory iod res) op := by
  rw [readBack]
  cases op with
  | read off data =>
      obtain ⟨reads, result, _, filled⟩ := ready
      have length : res.toNat = data.length := by
        have positive := BitVec.toInt_eq_toNat_cond res
        have bound := res.isLt
        split at positive <;> omega
      rw [if_pos ⟨reads, by omega⟩, length, filled]
      exact ⟨result, rfl⟩
  | write off data =>
      obtain ⟨writes, result⟩ := ready
      rw [if_neg (by rw [writes]; simp [ublkIoOpWrite, ublkIoOpRead])]
      exact ⟨result, rfl⟩
  | flush =>
      obtain ⟨flushes, result⟩ := ready
      rw [if_neg (by rw [flushes]; simp [ublkIoOpFlush, ublkIoOpRead])]
      exact ⟨result, rfl⟩
  | nothing =>
      have negative : res.toInt < 0 := ready
      rw [if_neg (by omega)]
      exact ⟨negative, rfl⟩

/-- A result is committed. -/
theorem Stands.committed (stands : Stands config geometry device) (separate : Separate config geometry)
    (inside : tag < config.queueDepth) {res : BitVec 32} {zoneLba : BitVec 64}
    (performed : Performed config geometry tag device.memory (device.queue.workers tag).iod res
      (own tag device.log)) :
    let worker := Plain.commitAndFetch config tag res zoneLba (device.queue.workers tag)
    ∃ event, Advances config geometry event device
      ((worker.history.drop (device.queue.workers tag).history.length).foldl (Device.observe tag payload)
        (device.withWorker tag worker)) := by
  obtain ⟨plain, before, sent, op, logged, ready⟩ := performed
  have recorded := @observed_event tag (Plain.commitAndFetch config tag res zoneLba (device.queue.workers tag)) payload
    _ (device.withWorker tag (Plain.commitAndFetch config tag res zoneLba (device.queue.workers tag)))
    (device.queue.workers tag) rfl
  rw [if_neg plain] at recorded
  simp only [recorded]
  have fetching : (Plain.commitAndFetch config tag res zoneLba (device.queue.workers tag)).pc =
    .fetching .commitAndFetchReq := rfl
  generalize Plain.commitAndFetch config tag res zoneLba (device.queue.workers tag) = worker at fetching ⊢
  have touches : Touches config geometry tag
      (some (.answered tag (device.queue.workers tag).iod res
        (readBack config tag device.memory (device.queue.workers tag).iod res)))
      device (Device.observe tag payload (device.withWorker tag worker) (.commitAndFetchReq (device.queue.workers tag).iod
        ⟨config.qId, tag, res, config.getBuf tag, Plain.sqeAddr config tag⟩)) := {
    workers := fun other different => Function.update_of_ne different ..
    given := fun other different => Function.update_of_ne different ..
    done := fun other different => Function.update_of_ne different ..
    log := rfl
    events := by simp [DiskEvent.tag]
    memory := within_refl device.memory }
  refine ⟨_, touches.advances separate stands inside ?_ rfl ?_⟩
  · rintro _ ⟨⟩
    exact ⟨before, sent, op, logged, ready.answers⟩
  · simp only [Device.observe, Device.withWorker, Function.update_self, Standing, fetching]
    exact ⟨trivial, trivial, .inr ⟨_, _, _, _, _, rfl⟩⟩

theorem idle_of_fetches (standing : device.standing config geometry tag)
    (fetches : (device.queue.workers tag).pc.fetches = true) :
    device.given tag = config.getBuf tag ∧ device.done tag = none ∧ Idle (own tag device.log) := by
  simp only [Device.standing, Standing] at standing
  cases pc : (device.queue.workers tag).pc with
  | fetching command | gettingData command =>
      simp only [pc] at standing
      exact standing
  | _ => simp [pc, Plain.Pc.fetches] at fetches

theorem Stands.runQueue (stands : Stands config geometry device) (separate : Separate config geometry)
    {action : Plain.WorkersAction} (permitted : behaves geometry (.queue action payload) = true)
    (taken : device.runQueue config action payload = some after) :
    ∃ event, Advances config geometry event device after := by
  cases action with
  | join =>
      simp only [Device.runQueue, Plain.workersStep] at taken
      split at taken
      · contradiction
      rename_i queue stepped
      simp only [Option.ite_none_right_eq_some] at stepped
      obtain ⟨_, stepped⟩ := stepped
      cases stepped
      cases taken
      refine ⟨none, (List.append_nil _).symm, by simp, rfl, fun _ _ _ _ => rfl, stands⟩
  | worker tag action =>
      obtain ⟨worker, inside, completes, moved, rfl⟩ := runQueue_worker taken
      have standing := stands tag inside
      cases moved with
      | fetch pc =>
          rw [observed_event _ _ rfl]
          simp only [Device.standing, Standing, pc] at standing
          exact ⟨none, stands.turn separate inside (config.getBuf tag) ⟨rfl, standing⟩⟩
      | needGetData pc asks =>
          rw [observed_event _ _ rfl]
          simp only [Device.standing, Standing, pc] at standing
          exact ⟨none, stands.turn separate inside (config.getBuf tag) ⟨rfl, standing.2⟩⟩
      | refused pc negative =>
          rw [observed_silent _ _ rfl]
          exact ⟨none, stands.silent separate inside trivial⟩
      | @delivered reply iod pc delivers =>
          rw [observed_event _ _ rfl]
          obtain ⟨known, unfinished, idle⟩ := idle_of_fetches standing pc
          have sent : sends geometry iod payload = true := by
            simpa [behaves, Int.not_lt.mpr delivers] using permitted
          exact ⟨_, stands.delivered separate inside sent known unfinished idle⟩
      | register pc =>
          rw [observed_event _ _ rfl]
          simp only [Device.standing, Standing, pc] at standing
          exact ⟨none, stands.silent separate inside standing⟩
      | begin pc =>
          rw [observed_silent _ _ rfl]
          simp only [Device.standing, Standing, pc] at standing
          obtain ⟨known, unfinished, waiting⟩ := standing
          refine ⟨none, stands.silent separate inside ?_⟩
          simp only [Standing, unfinished]
          exact ⟨known, waiting⟩
      | registered pc =>
          rw [observed_silent _ _ rfl]
          simp only [Device.standing, Standing, pc] at standing
          obtain ⟨known, unfinished, waiting⟩ := standing
          refine ⟨none, stands.silent separate inside ?_⟩
          simp only [Standing, unfinished]
          exact ⟨known, waiting⟩
      | @handled ioBuf outcome pc =>
          rw [observed_event _ _ rfl]
          have finished : device.done tag = some outcome := by simpa [Device.completes] using completes
          simp only [Device.standing, Standing, pc, finished] at standing
          exact ⟨none, stands.silent separate inside standing⟩
      | unregister pc =>
          rw [observed_event _ _ rfl]
          simp only [Device.standing, Standing, pc] at standing
          exact ⟨none, stands.silent separate inside standing⟩
      | commit pc goesOn =>
          rcases pc with pc | pc
          · simp only [Device.standing, Standing, pc] at standing
            exact stands.committed separate inside standing.2
          · simp only [Device.standing, Standing, pc] at standing
            exact stands.committed separate inside standing.2
      | failed pc fails =>
          rw [observed_silent _ _ rfl]
          exact ⟨none, stands.silent separate inside trivial⟩

/-! ## Steps of the kernel -/

/-- An operation has been executed: the request was waiting, and now its result is ready. -/
theorem Stands.finish (stands : Stands config geometry device) (separate : Separate config geometry)
    (inside : tag < config.queueDepth) {memory contents : Memory} {outcome : IoOutcome} {op : DiskOp} {ioBuf : Bool}
    {before : List DiskEvent} (pc : (device.queue.workers tag).pc = .handling ioBuf)
    (known : device.given tag = config.getBuf tag)
    (asked : own tag device.log = before ++ [.asked tag (device.queue.workers tag).iod payload])
    (plain : ublksrvGetOp (device.queue.workers tag).iod ≠ ublkIoOpZoneAppend)
    (buffer : Within geometry (config.getBuf tag) device.memory memory)
    (applied : contents = op.apply device.file)
    (serves : Serves geometry (device.queue.workers tag).iod payload device.file op)
    (ready : Ready config geometry tag memory (device.queue.workers tag).iod (wrapHandleIo outcome).1 op) :
    Advances config geometry (some (.performed tag op)) device
      (Device.finish { device with memory, file := contents } tag outcome op) := by
  have touches : Touches config geometry tag (some (.performed tag op)) device
      (Device.finish { device with memory, file := contents } tag outcome op) := {
    workers := fun _ _ => rfl
    given := fun _ _ => rfl
    done := fun other different => Function.update_of_ne different ..
    log := rfl
    events := by simp [DiskEvent.tag]
    memory := buffer }
  apply touches.advances separate stands inside
  · rintro _ ⟨⟩
    exact ⟨before, _, payload, asked, serves⟩
  · exact applied
  · simp only [Device.finish, Standing, pc, Function.update_self]
    refine ⟨known, plain, before, payload, op, ?_, ready⟩
    rw [asked, List.append_assoc]
    rfl

theorem handleIo_read {data : IoData} {buf : BitVec 64} {bytes : BitVec 32} {off : BitVec 64}
    (handles : handleIo data = .read buf bytes off) :
    ublksrvGetOp data.iod = ublkIoOpRead ∧ buf = data.buf ∧ bytes = byteCount data.iod ∧ off = byteOffset data.iod := by
  simp only [handleIo] at handles
  split at handles
  · rename_i reads
    cases handles
    exact ⟨reads, rfl, rfl, rfl⟩
  · split at handles
    · cases handles
    · split at handles <;> cases handles

theorem handleIo_write {data : IoData} {buf : BitVec 64} {bytes : BitVec 32} {off : BitVec 64}
    (handles : handleIo data = .write buf bytes off) :
    ublksrvGetOp data.iod = ublkIoOpWrite ∧ buf = data.buf ∧ bytes = byteCount data.iod ∧ off = byteOffset data.iod := by
  simp only [handleIo] at handles
  split at handles
  · cases handles
  · split at handles
    · rename_i writes
      cases handles
      exact ⟨writes, rfl, rfl, rfl⟩
    · split at handles <;> cases handles

theorem handleIo_fsync {data : IoData} (handles : handleIo data = .fsync) :
    ublksrvGetOp data.iod = ublkIoOpFlush := by
  simp only [handleIo] at handles
  split at handles
  · cases handles
  · split at handles
    · cases handles
    · split at handles
      · assumption
      · cases handles

theorem handleIo_result {data : IoData} {res : BitVec 32} (handles : handleIo data = .result res) :
    ublksrvGetOp data.iod ∉ [ublkIoOpRead, ublkIoOpWrite, ublkIoOpFlush] ∧ res.toInt < 0 := by
  simp only [handleIo] at handles
  split at handles
  · cases handles
  · rename_i notRead
    split at handles
    · cases handles
    · rename_i notWrite
      split at handles
      · cases handles
      · rename_i notFlush
        cases handles
        exact ⟨by simp [notRead, notWrite, notFlush], by decide⟩

theorem asksRange_of_admits {data : IoData} (admitted : geometry.admits data.iod = true) :
    AsksRange geometry data data.buf (byteCount data.iod) (byteOffset data.iod) where
  ownBuf := rfl
  first := Geometry.byteOffset_toNat admitted
  whole := Geometry.byteCount_toNat admitted
  room := by
    rw [Geometry.byteCount_toNat admitted]
    exact Geometry.admits_buffer admitted
  inside := by
    rw [Geometry.byteCount_toNat admitted, Geometry.byteOffset_toNat admitted]
    exact Geometry.admits_file admitted

theorem asksFor_of_sends {data : IoData} {payload : List UInt8} (sent : sends geometry data.iod payload = true) :
    AsksFor geometry data (handleIo data) := by
  cases handles : handleIo data with
  | read buf bytes off =>
      obtain ⟨reads, rfl, rfl, rfl⟩ := handleIo_read handles
      exact ⟨reads, asksRange_of_admits (read_admitted sent reads)⟩
  | write buf bytes off =>
      obtain ⟨writes, rfl, rfl, rfl⟩ := handleIo_write handles
      exact ⟨writes, asksRange_of_admits (payload_fits sent writes).1⟩
  | fsync => exact handleIo_fsync handles
  | result res => exact handleIo_result handles

/-- The count of a transfer as the `int32_t` that is committed. -/
theorem transferred_toInt {count : Nat} (small : count < Device.transferLimit) :
    (wrapHandleIo (.value (.int32 (BitVec.ofNat 32 count)))).1.toInt = count := by
  have range : count % 2 ^ 32 = count := Nat.mod_eq_of_lt (by simp only [Device.transferLimit] at small; omega)
  simp only [wrapHandleIo, stoppedAsError, extractIoResult, BitVec.toInt_eq_toNat_cond, BitVec.toNat_ofNat, range]
  simp only [Device.transferLimit] at small
  split <;> omega

theorem plain_of_sends {iod : IoDesc} (sent : sends geometry iod payload = true) :
    ublksrvGetOp iod ≠ ublkIoOpZoneAppend := by
  simp only [sends, Bool.and_eq_true, bne_iff_ne] at sent
  exact sent.1.1

theorem Stands.read (stands : Stands config geometry device) (separate : Separate config geometry)
    (inside : tag < config.queueDepth) {ioBuf : Bool} (pc : (device.queue.workers tag).pc = .handling ioBuf)
    (known : device.given tag = config.getBuf tag)
    (waiting : Waiting config geometry tag device.memory (device.queue.workers tag).iod (own tag device.log))
    (reads : ublksrvGetOp (device.queue.workers tag).iod = ublkIoOpRead) {count : Nat}
    (fits : count ≤ (byteCount (device.queue.workers tag).iod).toNat) (small : count < Device.transferLimit) :
    let off := (byteOffset (device.queue.workers tag).iod).toNat
    let data := slice device.file off count
    Advances config geometry (some (.performed tag (.read off data))) device
      (Device.finish { device with memory := copyIn device.memory (config.getBuf tag).toNat data } tag
        (.value (.int32 (BitVec.ofNat 32 count))) (.read off data)) := by
  obtain ⟨before, payload, asked, sent, _⟩ := waiting
  have admitted := read_admitted sent reads
  have buffer := Geometry.admits_buffer admitted
  have range := Geometry.admits_file admitted
  rw [Geometry.byteCount_toNat admitted] at fits
  rw [Geometry.byteOffset_toNat admitted]
  apply stands.finish separate inside pc known asked (plain_of_sends sent)
  · exact within_copyIn (by rw [length_slice]; omega) _
  · rfl
  · exact ⟨reads, rfl, by rw [length_slice]; exact fits, by rw [length_slice], range⟩
  · refine ⟨reads, ?_, by rw [length_slice]; omega, slice_copyIn_same ..⟩
    rw [length_slice]
    exact transferred_toInt small

theorem Stands.write (stands : Stands config geometry device) (separate : Separate config geometry)
    (inside : tag < config.queueDepth) {ioBuf : Bool} (pc : (device.queue.workers tag).pc = .handling ioBuf)
    (known : device.given tag = config.getBuf tag)
    (waiting : Waiting config geometry tag device.memory (device.queue.workers tag).iod (own tag device.log))
    (writes : ublksrvGetOp (device.queue.workers tag).iod = ublkIoOpWrite) {count : Nat}
    (fits : count ≤ (byteCount (device.queue.workers tag).iod).toNat) (small : count < Device.transferLimit) :
    let off := (byteOffset (device.queue.workers tag).iod).toNat
    let data := slice device.memory (config.getBuf tag).toNat count
    Advances config geometry (some (.performed tag (.write off data))) device
      (Device.finish { device with file := copyIn device.file off data } tag
        (.value (.int32 (BitVec.ofNat 32 count))) (.write off data)) := by
  obtain ⟨before, payload, asked, sent, filled⟩ := waiting
  obtain ⟨admitted, length⟩ := payload_fits sent writes
  have range := Geometry.admits_file admitted
  rw [Geometry.byteCount_toNat admitted, ← length] at fits
  rw [Geometry.byteOffset_toNat admitted]
  apply stands.finish separate inside pc known asked (plain_of_sends sent)
  · exact within_refl device.memory
  · rfl
  · refine ⟨writes, rfl, ?_, length, by rw [length]; exact range⟩
    have taken := take_slice device.memory (config.getBuf tag).toNat fits
    rw [filled writes] at taken
    rw [← taken]
    exact List.take_prefix ..
  · refine ⟨writes, ?_⟩
    rw [length_slice]
    exact transferred_toInt small

theorem failed_negative {err : IoError} (positive : 0 < (normalizeError err (BitVec.ofInt 32 eio)).toInt) :
    (wrapHandleIo (.error err)).1.toInt < 0 := by
  have notMin : normalizeError err (BitVec.ofInt 32 eio) ≠ BitVec.intMin 32 := by
    intro same
    rw [same] at positive
    exact absurd positive (by decide)
  change (-normalizeError err (BitVec.ofInt 32 eio)).toInt < 0
  rw [BitVec.toInt_neg_of_ne_intMin notMin]
  omega

theorem Stands.execute (stands : Stands config geometry device) (separate : Separate config geometry)
    {how : Transfer} (permitted : behaves geometry (.execute tag how) = true)
    (taken : device.execute config geometry tag how = some after) :
    ∃ event, Advances config geometry event device after := by
  simp only [Device.execute] at taken
  split at taken
  case h_2 => contradiction
  rename_i ioBuf pc unfinished
  simp only [Option.ite_none_right_eq_some] at taken
  obtain ⟨inside, taken⟩ := taken
  have standing := stands tag inside
  simp only [Device.standing, Standing, pc, unfinished] at standing
  obtain ⟨known, waiting⟩ := standing
  have waits := waiting
  obtain ⟨before, payload, asked, sent, filled⟩ := waits
  have nothing {outcome : IoOutcome} (negative : (wrapHandleIo outcome).1.toInt < 0) :
      ∃ event, Advances config geometry event device (device.finish tag outcome .nothing) :=
    ⟨_, stands.finish separate inside pc known asked (plain_of_sends sent) (within_refl device.memory) rfl trivial
      negative⟩
  split at taken
  · rename_i res handles
    cases taken
    exact nothing (handleIo_result handles).2
  · rename_i count _
    cases handles : handleIo ⟨config.qId, tag, (device.queue.workers tag).iod, config.getBuf tag⟩ with
    | read buf bytes off =>
        rw [handles] at taken
        simp only [Device.transfer, Option.ite_none_right_eq_some] at taken
        obtain ⟨⟨fits, small, _⟩, taken⟩ := taken
        obtain ⟨reads, rfl, rfl, rfl⟩ := handleIo_read handles
        cases taken
        exact ⟨_, stands.read separate inside pc known waiting reads fits small⟩
    | write buf bytes off =>
        rw [handles] at taken
        simp only [Device.transfer, Option.ite_none_right_eq_some] at taken
        obtain ⟨⟨fits, small⟩, taken⟩ := taken
        obtain ⟨writes, rfl, rfl, rfl⟩ := handleIo_write handles
        cases taken
        exact ⟨_, stands.write separate inside pc known waiting writes fits small⟩
    | fsync =>
        rw [handles] at taken
        simp only [Device.transfer, Option.ite_none_right_eq_some] at taken
        obtain ⟨_, taken⟩ := taken
        have flushes := handleIo_fsync handles
        cases taken
        exact ⟨_, stands.finish separate inside pc known asked (plain_of_sends sent) (within_refl device.memory) rfl
          flushes ⟨flushes, rfl⟩⟩
    | result res =>
        rw [handles] at taken
        cases taken
  · rename_i err _
    cases taken
    apply nothing
    apply failed_negative
    simpa [behaves] using permitted
  · cases taken
    exact nothing (by decide)

/-- Every step of a queue adds at most one event to the log, as a disk would, and keeps to
the buffers of the queue. -/
theorem Stands.step (stands : Stands config geometry device) (separate : Separate config geometry)
    {action : DeviceAction} (permitted : behaves geometry action = true)
    (taken : device.step config geometry action = some after) :
    ∃ event, Advances config geometry event device after := by
  cases action with
  | queue action payload => exact stands.runQueue separate permitted taken
  | execute tag how => exact stands.execute separate permitted taken

end Ublk.Loop
