import Ublk.Queue.Plain
import Ublk.Queue.Batch.Phases

namespace Ublk.Queue.Batch

open Ublk.Machine

variable {config : Config} {state after : State} {tag : Nat}

/-! # The batched queue refines the plain queue

The events of one tag in a batched run are the events of a run of `IoQueue::worker_`
for that tag, with the same descriptors and handler outcomes. The phase of the tag
relates the two: it tells at which point of its loop the plain worker stands.
-/

def Event.ofTag (tag : Nat) : Event → Option TagEvent
  | .tag other event => if other = tag then some event else none
  | _ => none

/-- The events of one tag in a run of the batched queue. -/
def State.trace (tag : Nat) (state : State) : List TagEvent :=
  state.history.filterMap (Event.ofTag tag)

/-- A zone append goes to a device whose commit elements carry the zone address. -/
def ZonedIod (config : Config) (iod : IoDesc) : Prop :=
  ublksrvGetOp iod = ublkIoOpZoneAppend → config.needFZoneLba = true

/-- Where the plain worker of a tag stands in a phase of the tag. -/
def Stands (config : Config) (worker : Plain.State) : Phase → Prop
  | .idle => ∃ command, worker.pc = .fetching command
  | .given => ∃ command, worker.pc = .fetching command
  | .registering iod => worker.iod = iod ∧ worker.pc = .serving true ∧ ZonedIod config iod ∧
      needIoBuf config.flags iod.opFlags = true
  | .handling iod => worker.iod = iod ∧ ZonedIod config iod ∧
      worker.pc = if needIoBuf config.flags iod.opFlags then .registering else .serving false
  | .unregistering iod res zoneLba => worker.iod = iod ∧ worker.pc = .handled true res zoneLba ∧
      ZonedIod config iod ∧ needIoBuf config.flags iod.opFlags = true
  | .handled iod res zoneLba => worker.iod = iod ∧ ZonedIod config iod ∧
      worker.pc = if needIoBuf config.flags iod.opFlags then .unregistering res zoneLba
        else .handled false res zoneLba
  | .broken => False

/-- Both queues commit the same: what the driver reads from the slot of the batched
queue is what it reads from the command of the plain one. -/
theorem commitAndFetchView_eq (inside : tag < config.queueDepth) {iod : IoDesc}
    (zoned : ZonedIod config iod)
    (res : BitVec 32) (zoneLba : BitVec 64) :
    commitAndFetchView config.flags iod
        { qId := config.qId, tag, result := res
          addr := if ublksrvGetOp iod = ublkIoOpZoneAppend then zoneLba else config.getBuf tag
          sqeAddr := Plain.sqeAddr config tag } =
      committedView config tag iod res zoneLba := by
  have depth := config.depthBound
  have named : tag % 65536 = tag := Nat.mod_eq_of_lt (by omega)
  have fallback : hasFlag ublkAutoBufRegFallback ublkAutoBufRegFallback = true := by decide
  simp only [commitAndFetchView, committedView, Plain.sqeAddr]
  by_cases append : ublksrvGetOp iod = ublkIoOpZoneAppend
  · by_cases auto : hasFlag config.flags ublkFAutoBufReg = true <;>
      simp [append, zoned append, auto, ublkSqeAddrToAutoBufReg_encoded, named, fallback]
  · by_cases auto : hasFlag config.flags ublkFAutoBufReg = true <;>
      simp [append, auto, ublkSqeAddrToAutoBufReg_encoded, named, fallback]

theorem trace_record (worker : Plain.State) {event : Plain.Event} {seen : TagEvent} {pc : Plain.Pc}
    (view : event.tagEvent config.flags = some seen) :
    { worker.record event with pc }.trace config.flags = worker.trace config.flags ++ [seen] := by
  simp [Plain.State.trace, Plain.State.record, view]

/-- The plain worker can take steps that show the event and bring it to the phase. -/
def Follows (config : Config) (tag : Nat) (worker : Plain.State) (event : TagEvent)
    (reached : Phase) : Prop :=
  ∃ next, Steps (Plain.ioQueueWorker config tag) (fun _ _ => True) worker next ∧
    Stands config next reached ∧ next.trace config.flags = worker.trace config.flags ++ [event]

section Follows

variable {worker : Plain.State}

/-- The driver writes the descriptor and completes the fetching command. -/
theorem follows_delivered {command : Plain.FetchCommand} {iod : IoDesc}
    (pc : worker.pc = .fetching command) (zoned : ZonedIod config iod) :
    Follows config tag worker (.delivered iod)
      (if needIoBuf config.flags iod.opFlags then .registering iod else .handling iod) := by
  have taken : (Plain.ioQueueWorker config tag).step worker (.answered (.value 0) iod) =
      some { ({ worker with iod } : Plain.State).record (.delivered iod) with
        pc := .serving (needIoBuf config.flags iod.opFlags) } := by
    simp [Plain.ioQueueWorker, Plain.step, Plain.answered, pc, Plain.Reply.result,
      Plain.fetched, ublkIoResNeedGetData, ublkIoResAbort, enodev, Plain.State.record]
  refine ⟨_, .one _ trivial taken, ?_, trace_record { worker with iod } rfl⟩
  by_cases ioBuf : needIoBuf config.flags iod.opFlags = true
  · simp [ioBuf, Stands, Plain.State.record, zoned]
  · simp [ioBuf, Stands, Plain.State.record, zoned]

theorem follows_registerIoBuf {iod : IoDesc} (stands : Stands config worker (.registering iod)) :
    Follows config tag worker (.registerIoBuf (ioBufCmd config.qId tag tag)) (.handling iod) := by
  obtain ⟨same, pc, zone, ioBuf⟩ := stands
  have taken : (Plain.ioQueueWorker config tag).step worker .run =
      some { worker.record (.registerIoBuf (ioBufCmd config.qId tag tag)) with
        pc := .registering } := by
    simp [Plain.ioQueueWorker, Plain.step, Plain.run, pc]
  refine ⟨_, .one _ trivial taken, ?_, trace_record _ rfl⟩
  simp [Stands, Plain.State.record, same, zone, ioBuf]

/-- The answer to the registration, where there was one, and then the handler. -/
theorem follows_handleIo {iod : IoDesc} (stands : Stands config worker (.handling iod))
    (outcome : IoOutcome) :
    Follows config tag worker (.handleIo ⟨config.qId, tag, iod, config.getBuf tag⟩ outcome)
      (if needIoBuf config.flags iod.opFlags then
        .unregistering iod (wrapHandleIo outcome).1 (wrapHandleIo outcome).2
      else .handled iod (wrapHandleIo outcome).1 (wrapHandleIo outcome).2) := by
  obtain ⟨rfl, zone, pc⟩ := stands
  have ready : Steps (Plain.ioQueueWorker config tag) (fun _ _ => True) worker
      { worker with pc := .handling (needIoBuf config.flags worker.iod.opFlags) } := by
    by_cases ioBuf : needIoBuf config.flags worker.iod.opFlags = true
    · refine .one (.registered .ok) trivial ?_
      simp [Plain.ioQueueWorker, Plain.step, Plain.registered, pc, ioBuf]
    · refine .one .run trivial ?_
      simp [Plain.ioQueueWorker, Plain.step, Plain.run, pc, ioBuf]
  have taken : (Plain.ioQueueWorker config tag).step
      { worker with pc := .handling (needIoBuf config.flags worker.iod.opFlags) }
      (.handled outcome) =
      some { worker.record
          (.handleIo ⟨config.qId, tag, worker.iod, config.getBuf tag⟩ outcome) with
        pc := .handled (needIoBuf config.flags worker.iod.opFlags) (wrapHandleIo outcome).1
          (wrapHandleIo outcome).2 } := rfl
  refine ⟨_, ready.trans (.one _ trivial taken), ?_, trace_record _ rfl⟩
  by_cases ioBuf : needIoBuf config.flags worker.iod.opFlags = true
  · simp [ioBuf, Stands, Plain.State.record, zone]
  · simp [ioBuf, Stands, Plain.State.record, zone]

theorem follows_unregisterIoBuf {iod : IoDesc} {res : BitVec 32} {zoneLba : BitVec 64}
    (stands : Stands config worker (.unregistering iod res zoneLba)) :
    Follows config tag worker (.unregisterIoBuf (ioBufCmd config.qId tag tag))
      (.handled iod res zoneLba) := by
  obtain ⟨same, pc, zone, ioBuf⟩ := stands
  have taken : (Plain.ioQueueWorker config tag).step worker .run =
      some { worker.record (.unregisterIoBuf (ioBufCmd config.qId tag tag)) with
        pc := .unregistering res zoneLba } := by
    simp [Plain.ioQueueWorker, Plain.step, Plain.run, pc]
  refine ⟨_, .one _ trivial taken, ?_, trace_record _ rfl⟩
  simp [Stands, Plain.State.record, same, zone, ioBuf]

/-- The commit of the plain worker fetches the next request at once. -/
theorem follows_commit {iod : IoDesc} {res : BitVec 32} {zoneLba : BitVec 64}
    (inside : tag < config.queueDepth) (stands : Stands config worker (.handled iod res zoneLba)) :
    Follows config tag worker (.commit (committedView config tag iod res zoneLba)) .idle := by
  obtain ⟨rfl, zone, pc⟩ := stands
  have steps : Steps (Plain.ioQueueWorker config tag) (fun _ _ => True) worker
      (Plain.commitAndFetch config tag res zoneLba worker) := by
    by_cases ioBuf : needIoBuf config.flags worker.iod.opFlags = true
    · refine .one (.unregistered .ok) trivial ?_
      simp [Plain.ioQueueWorker, Plain.step, Plain.unregistered, pc, ioBuf]
    · refine .one .run trivial ?_
      simp [Plain.ioQueueWorker, Plain.step, Plain.run, pc, ioBuf]
  refine ⟨_, steps, ⟨.commitAndFetchReq, rfl⟩, trace_record _ ?_⟩
  rw [← commitAndFetchView_eq inside zone]
  rfl

end Follows

/-- Each event of the tag is matched by one or two steps of the plain worker. -/
theorem Stands.event {worker : Plain.State} {current : Phase} (inside : tag < config.queueDepth)
    (stands : Stands config worker current) (event : TagEvent)
    (zoned : ∀ iod, event = .delivered iod → ZonedIod config iod)
    (ordered : current.tagged config tag event ≠ .broken) :
    Follows config tag worker event (current.tagged config tag event) := by
  cases current with
  | idle => exact absurd rfl ordered
  | broken => exact stands.elim
  | given =>
      obtain ⟨command, pc⟩ := stands
      cases event with
      | delivered iod => exact follows_delivered pc (zoned iod rfl)
      | _ => exact absurd rfl ordered
  | registering iod =>
      cases event with
      | registerIoBuf cmd =>
          simp only [Phase.tagged] at ordered ⊢
          split at ordered
          · rename_i same
            rw [if_pos same, same]
            exact follows_registerIoBuf stands
          · exact absurd rfl ordered
      | _ => exact absurd rfl ordered
  | handling iod =>
      cases event with
      | handleIo data outcome =>
          simp only [Phase.tagged] at ordered ⊢
          by_cases same : data = ⟨config.qId, tag, iod, config.getBuf tag⟩
          · rw [if_pos same, same]
            exact follows_handleIo stands outcome
          · exact absurd (if_neg same) ordered
      | _ => exact absurd rfl ordered
  | unregistering iod res zoneLba =>
      cases event with
      | unregisterIoBuf cmd =>
          simp only [Phase.tagged] at ordered ⊢
          split at ordered
          · rename_i same
            rw [if_pos same, same]
            exact follows_unregisterIoBuf stands
          · exact absurd rfl ordered
      | _ => exact absurd rfl ordered
  | handled iod res zoneLba =>
      cases event with
      | commit view =>
          simp only [Phase.tagged] at ordered ⊢
          split at ordered
          · rename_i same
            rw [if_pos same, same]
            exact follows_commit inside stands
          · exact absurd rfl ordered
      | _ => exact absurd rfl ordered

theorem Phase.next_broken (event : Event) : Phase.next config tag .broken event = .broken := by
  cases event with
  | wrote => rfl
  | read delivery => simp [Phase.next]
  | tag other event =>
      simp only [Phase.next, Phase.tagged]
      split <;> rfl

/-- A history in which the requests of a tag keep their order is a run of the plain
worker. The induction is on the length of the history, from its end. -/
theorem plain_run_of_phase (inside : tag < config.queueDepth) (history : List Event)
    (zoned : ∀ iod, .tag tag (.delivered iod) ∈ history → ZonedIod config iod)
    (ordered : phase config tag history ≠ .broken) :
    ∃ worker, Reachable (Plain.ioQueueWorker config tag) (fun _ _ => True) worker ∧
      Stands config worker (phase config tag history) ∧
      worker.trace config.flags = history.filterMap (Event.ofTag tag) := by
  induction history using List.reverseRecOn with
  | nil =>
      refine ⟨Plain.fetch config tag Plain.initial, Reachable.initial.steps (.one .run trivial rfl),
        ?_, rfl⟩
      exact ⟨.fetchReq, rfl⟩
  | append_singleton front event ih =>
      rw [phase_append, List.foldl_cons, List.foldl_nil] at ordered ⊢
      have earlier : phase config tag front ≠ .broken := by
        intro broken
        rw [broken, Phase.next_broken] at ordered
        exact ordered rfl
      obtain ⟨worker, reached, stands, same⟩ :=
        ih (fun iod member => zoned iod (List.mem_append_left _ member)) earlier
      rw [List.filterMap_append]
      cases event with
      | wrote delivery =>
          refine ⟨worker, reached, stands, ?_⟩
          simp only [List.filterMap_cons, List.filterMap_nil, Event.ofTag, List.append_nil, same]
      | read delivery =>
          refine ⟨worker, reached, ?_, ?_⟩
          swap
          · simp only [List.filterMap_cons, List.filterMap_nil, Event.ofTag, List.append_nil, same]
          simp only [Phase.next] at ordered ⊢
          split at ordered
          · split at ordered
            · rename_i member idle
              rw [if_pos member, if_pos idle]
              rw [idle.1] at stands
              exact stands
            · exact absurd rfl ordered
          · rename_i absent
            rw [if_neg absent]
            exact stands
      | tag other event =>
          by_cases equal : other = tag
          · subst equal
            rw [Phase.next_tag] at ordered ⊢
            obtain ⟨next, steps, nextStands, trace⟩ := stands.event inside event
              (fun iod delivered => zoned iod (by simp [delivered])) ordered
            refine ⟨next, reached.steps steps, nextStands, ?_⟩
            rw [trace, same]
            simp [Event.ofTag]
          · rw [Phase.next_tag_of_ne equal]
            refine ⟨worker, reached, stands, ?_⟩
            simp only [List.filterMap_cons, List.filterMap_nil, Event.ofTag, equal, ↓reduceIte,
              List.append_nil, same]

/-! ## Zone appends go to zoned devices -/

structure Zoned (config : Config) (state : State) : Prop where
  iod : ∀ tag, ZonedIod config (state.iod tag)
  delivered : ∀ tag iod, .tag tag (.delivered iod) ∈ state.history → ZonedIod config iod

namespace Zoned

theorem of_same (zoned : Zoned config state) (iod : after.iod = state.iod)
    (history : ∀ tag iod, .tag tag (.delivered iod) ∈ after.history →
      .tag tag (.delivered iod) ∈ state.history ∨ iod = state.iod tag) : Zoned config after where
  iod := by
    rw [iod]
    exact zoned.iod
  delivered := by
    intro tag desc member
    rcases history tag desc member with before | rfl
    · exact zoned.delivered tag desc before
    · exact zoned.iod tag

theorem turn {worker : Nat} (zoned : Zoned config state) (turn : Turn config worker state after) :
    Zoned config after := by
  apply zoned.of_same turn.frame.iod
  intro tag iod member
  cases turn with
  | sleep => exact .inl member
  | leave => exact .inl member
  | serve =>
      have origin : .tag tag (.delivered iod) ∈ state.history ∨ (tag = worker ∧ iod = state.iod worker) := by
        simp only [beginRequest] at member
        split at member <;> simpa [State.record, State.setWorker] using member
      rcases origin with before | ⟨rfl, rfl⟩
      · exact .inl before
      · exact .inr rfl

theorem record {event : TagEvent} (zoned : Zoned config state)
    (other : ∀ iod, event ≠ .delivered iod) :
    Zoned config (state.record (.tag tag event)) := by
  refine zoned.of_same rfl fun worker iod member => ?_
  simp only [State.record, List.mem_append, List.mem_singleton, Event.tag.injEq] at member
  rcases member with before | ⟨_, same⟩
  · exact .inl before
  · exact absurd same.symm (other iod)

theorem setWorker {worker : Worker} (zoned : Zoned config state) :
    Zoned config (state.setWorker tag worker) :=
  ⟨zoned.iod, zoned.delivered⟩

theorem publish {res : BitVec 32} {zoneLba : BitVec 64} (zoned : Zoned config state) :
    Zoned config (publish config tag res zoneLba state) :=
  ⟨zoned.iod, zoned.delivered⟩

theorem move {action : Action} (zoned : Zoned config state)
    (permitted : zoneAppendsZoned config action = true)
    (moved : Move config state action after) : Zoned config after := by
  cases moved with
  | deliver =>
      rename_i requests written fetchRing _ _ _
      refine ⟨fun tag => ?_, fun tag iod member => zoned.delivered tag iod (by simpa using member)⟩
      cases found : requests.lookup tag with
      | none => simpa [found] using zoned.iod tag
      | some iod =>
          simp only [found, Option.getD_some]
          simp only [zoneAppendsZoned, List.all_eq_true] at permitted
          obtain ⟨front, back, split, _⟩ := List.lookup_eq_some_iff.mp found
          have allowed := permitted (tag, iod) (by simp [split])
          intro append
          simp only [append, beq_self_eq_true, Bool.not_true, Bool.false_or,
            Bool.and_eq_true] at allowed
          exact allowed.1
  | fetchCb => exact zoned.of_same rfl fun _ _ member => .inl (by simpa using member)
  | turn _ _ turn => exact zoned.turn turn
  | handled _ _ turn => exact (zoned.record (by simp)).publish.turn turn
  | handledRegistered => exact (zoned.record (by simp)).setWorker.record (by simp)
  | unregistered _ _ turn => exact zoned.publish.turn turn
  | accepted => exact zoned.of_same rfl fun _ _ member => .inl (by simpa [commitEvent] using member)
  | _ => exact ⟨zoned.iod, zoned.delivered⟩

theorem reachable {permits : State → Action → Prop}
    (permitted : ∀ {state action}, permits state action → zoneAppendsZoned config action = true)
    (reached : Reachable (batchIoQueue config) permits state) : Zoned config state := by
  refine reached.invariant _ ⟨fun tag append => ?_, ?_⟩ fun _ zoned allowed taken =>
    zoned.move (permitted allowed) (step_move taken)
  · exact absurd append (by simp only [batchIoQueue, initial]; decide)
  · simp [batchIoQueue, initial]

end Zoned

/-- The batched queue refines the plain queue, tag by tag: the events of a tag in a
batched run are a trace of its plain worker. -/
theorem batch_refines_plain
    (reached : Reachable (batchIoQueue config) (fun state action => ownedOnly state action = true ∧
      zoneAppendsZoned config action = true) state)
    (inside : tag < config.queueDepth) :
    ∃ worker, Reachable (Plain.ioQueueWorker config tag) (fun _ _ => True) worker ∧
      worker.trace config.flags = state.trace tag := by
  have phases : Phases config state := Phases.reachable (fun allowed => allowed.1) reached
  have zoned : Zoned config state := Zoned.reachable (fun allowed => allowed.2) reached
  obtain ⟨worker, plain, _, same⟩ :=
    plain_run_of_phase inside state.history (fun iod => zoned.delivered tag iod) (phases.ordered tag)
  exact ⟨worker, plain, same⟩

theorem batch_refines_plain_twoTags :
    ∃ state, Reachable (batchIoQueue twoTags) (fun state action => ownedOnly state action = true ∧
        zoneAppendsZoned twoTags action = true) state ∧
      ((state.trace 0).length = 5 ∧ (state.trace 1).length = 2) ∧
      ∀ tag < 2, ∃ worker, Reachable (Plain.ioQueueWorker twoTags tag) (fun _ _ => True) worker ∧
        worker.trace twoTags.flags = state.trace tag := by
  obtain ⟨state, reached, length⟩ :=
    exists_of_replay (batchIoQueue twoTags)
      (fun state action => ownedOnly state action = true ∧ zoneAppendsZoned twoTags action = true)
      twoTagsFlipped
      (fun state => (state.trace 0).length = 5 ∧ (state.trace 1).length = 2) (by decide +kernel)
  exact ⟨state, reached, length, fun tag inside => batch_refines_plain reached inside⟩

end Ublk.Queue.Batch
