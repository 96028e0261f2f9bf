import Ublk.Queue.Batch.Places

namespace Ublk.Queue.Batch

open Ublk.Data Ublk.Machine

variable {config : Config} {state after : State} {tag : Nat}

/-! # The course of a request

`phase` follows the requests of one tag through the history of a run. A request is
given to `fetch_cb`, delivered to the worker, handled once and committed once, with
the result of its own handler call; any other order is `broken`. The place of a tag
tells its phase, and no run of a driver that hands out its own tags breaks the order.
-/

/-- What the driver takes from the slot of a request with this outcome. -/
def committedView (config : Config) (tag : Nat) (iod : IoDesc) (res : BitVec 32)
    (zoneLba : BitVec 64) :
    CommitView :=
  { result := res
    zoneLba := if ublksrvGetOp iod = ublkIoOpZoneAppend then
        if config.needFZoneLba then some zoneLba else none
      else none
    autoBufReg := if hasFlag config.flags ublkFAutoBufReg then some (tag, true) else none }

/-- `registering` and `unregistering` wait for the command of that name, which the
worker issues without suspending. -/
inductive Phase where
  | idle
  | given
  | registering (iod : IoDesc)
  | handling (iod : IoDesc)
  | unregistering (iod : IoDesc) (res : BitVec 32) (zoneLba : BitVec 64)
  | handled (iod : IoDesc) (res : BitVec 32) (zoneLba : BitVec 64)
  | broken
deriving DecidableEq, Repr

variable (config tag) in
def Phase.tagged : Phase → TagEvent → Phase
  | .given, .delivered iod =>
      if needIoBuf config.flags iod.opFlags then .registering iod else .handling iod
  | .registering iod, .registerIoBuf cmd =>
      if cmd = ioBufCmd config.qId tag tag then .handling iod else .broken
  | .handling iod, .handleIo data outcome =>
      if data = ⟨config.qId, tag, iod, config.getBuf tag⟩ then
        if needIoBuf config.flags iod.opFlags then
          .unregistering iod (wrapHandleIo outcome).1 (wrapHandleIo outcome).2
        else .handled iod (wrapHandleIo outcome).1 (wrapHandleIo outcome).2
      else .broken
  | .unregistering iod res zoneLba, .unregisterIoBuf cmd =>
      if cmd = ioBufCmd config.qId tag tag then .handled iod res zoneLba else .broken
  | .handled iod res zoneLba, .commit view =>
      if view = committedView config tag iod res zoneLba then .idle else .broken
  | _, _ => .broken

variable (config tag) in
def Phase.next (phase : Phase) : Event → Phase
  | .wrote _ => phase
  | .read delivery =>
      if tag ∈ delivery.tags then
        if phase = .idle ∧ delivery.tags.count tag = 1 then .given else .broken
      else phase
  | .tag other event => if other = tag then phase.tagged config tag event else phase

def phase (config : Config) (tag : Nat) (history : List Event) : Phase :=
  history.foldl (Phase.next config tag) .idle

theorem phase_append (front back : List Event) :
    phase config tag (front ++ back) = back.foldl (Phase.next config tag) (phase config tag front) :=
  List.foldl_append

theorem Phase.next_tag_of_ne {current : Phase} {other : Nat} {event : TagEvent}
    (different : other ≠ tag) :
    current.next config tag (.tag other event) = current := by
  simp [Phase.next, different]

theorem Phase.next_tag (current : Phase) (event : TagEvent) :
    current.next config tag (.tag tag event) = current.tagged config tag event := by
  simp [Phase.next]

def Fits (config : Config) (state : State) (tag : Nat) : Place → Phase → Prop
  | .driver, current => current = .idle
  | .ring, current => current = .idle
  | .flagged, current => current = .given
  | .processing, current =>
      match (state.workers tag).pc with
      | .registering => current = .handling (state.iod tag) ∧
          needIoBuf config.flags (state.iod tag).opFlags = true
      | .handling ioBuf => current = .handling (state.iod tag) ∧
          needIoBuf config.flags (state.iod tag).opFlags = ioBuf
      | .unregistering res zoneLba => current = .handled (state.iod tag) res zoneLba
      | _ => False
  | .pendingSlot slot, current => ∃ res zoneLba, current = .handled (state.iod tag) res zoneLba ∧
      (elemAt config state.memory state.index slot).commitView config.flags config.getBatchFlags (state.iod tag) =
        committedView config tag (state.iod tag) res zoneLba
  | .commitSlot slot, current => ∃ res zoneLba, current = .handled (state.iod tag) res zoneLba ∧
      ∀ index nr, state.flusher = .committing index nr →
        (elemAt config state.memory index slot).commitView config.flags config.getBatchFlags (state.iod tag) =
          committedView config tag (state.iod tag) res zoneLba

theorem Fits.not_broken {place : Place} {current : Phase}
    (fits : Fits config state tag place current) :
    current ≠ .broken := by
  rintro rfl
  cases place with
  | driver => cases fits
  | ring => cases fits
  | flagged => cases fits
  | processing =>
      simp only [Fits] at fits
      split at fits <;> simp at fits
  | pendingSlot slot => obtain ⟨_, _, impossible, _⟩ := fits; cases impossible
  | commitSlot slot => obtain ⟨_, _, impossible, _⟩ := fits; cases impossible

structure Phases (config : Config) (state : State) : Prop where
  ordered : ∀ tag, phase config tag state.history ≠ .broken
  fits : ∀ tag place, At config state tag place → Fits config state tag place (phase config tag state.history)

/-- A step does not concern a tag: it gets no new place and no event. -/
def Kept (config : Config) (state after : State) (tag : Nat) : Prop :=
  (∀ place, At config after tag place → At config state tag place ∧
    ∀ current, Fits config state tag place current → Fits config after tag place current) ∧
  phase config tag after.history = phase config tag state.history

/-- A step leaves a tag at a place that fits its events. -/
def Moved (config : Config) (after : State) (tag : Nat) : Prop :=
  ∃ place, At config after tag place ∧ Fits config after tag place (phase config tag after.history)

/-- Since a tag has one place, a step is accounted for by one place of each tag. -/
theorem Phases.step (phases : Phases config state) (owned : Owned config after)
    (accounted : ∀ tag, Kept config state after tag ∨ Moved config after tag) :
    Phases config after where
  ordered := by
    intro tag
    rcases accounted tag with ⟨_, same⟩ | ⟨place, _, fits⟩
    · rw [same]
      exact phases.ordered tag
    · exact fits.not_broken
  fits := by
    intro tag place here
    rcases accounted tag with ⟨kept, same⟩ | ⟨there, moved, fits⟩
    · obtain ⟨before, fitting⟩ := kept place here
      rw [same]
      exact fitting _ (phases.fits tag place before)
    · rw [owned.place_unique here moved]
      exact fits

/-! ## Tags a step does not concern -/

/-- What `Kept` needs, place by place. -/
structure Untouched (config : Config) (state after : State) (tag : Nat) : Prop where
  held : after.held tag = true → state.held tag = true
  ring : tag ∈ after.fetchRing.unseen → tag ∈ state.fetchRing.unseen
  flag : (after.workers tag).flag = true → (state.workers tag).flag = true
  worker : (after.workers tag).processing = true → (after.workers tag).pc = (state.workers tag).pc
  pending : ∀ slot < after.pending, (elemAt config after.memory after.index slot).tag = tag →
    slot < state.pending ∧
      elemAt config after.memory after.index slot = elemAt config state.memory state.index slot
  commit : ∀ slot index nr, after.flusher = .committing index nr → slot < nr →
    (elemAt config after.memory index slot).tag = tag → state.flusher = .committing index nr ∧
      elemAt config after.memory index slot = elemAt config state.memory index slot
  iod : after.iod tag = state.iod tag
  phase : phase config tag after.history = phase config tag state.history

theorem Untouched.kept (untouched : Untouched config state after tag) :
    Kept config state after tag := by
  refine ⟨fun place here => ?_, untouched.phase⟩
  have iod := untouched.iod
  cases place with
  | driver => exact ⟨untouched.held here, fun _ fits => fits⟩
  | ring => exact ⟨untouched.ring here, fun _ fits => fits⟩
  | flagged => exact ⟨untouched.flag here, fun _ fits => fits⟩
  | processing =>
      have pc := untouched.worker here
      refine ⟨?_, fun current fits => ?_⟩
      · simpa only [At, Worker.processing, pc] using here
      · simpa only [Fits, iod, pc] using fits
  | pendingSlot slot =>
      obtain ⟨inside, same⟩ := untouched.pending slot here.1 here.2
      refine ⟨⟨inside, same ▸ here.2⟩, fun current fits => ?_⟩
      simpa only [Fits, iod, same] using fits
  | commitSlot slot =>
      obtain ⟨index, nr, flight, inside, named⟩ := here
      obtain ⟨before, same⟩ := untouched.commit slot index nr flight inside named
      refine ⟨⟨index, nr, before, inside, same ▸ named⟩, fun current fits => ?_⟩
      obtain ⟨res, zoneLba, current, view⟩ := fits
      refine ⟨res, zoneLba, iod ▸ current, fun again count flying => ?_⟩
      cases flight.symm.trans flying
      rw [iod, same]
      exact view index nr before

theorem WorkerFrame.untouched {worker : Nat} (frame : WorkerFrame worker state after)
    (flag : (after.workers tag).flag = true → (state.workers tag).flag = true)
    (pc : (after.workers tag).processing = true → (after.workers tag).pc = (state.workers tag).pc)
    (same : phase config tag after.history = phase config tag state.history) :
    Untouched config state after tag where
  held := by rw [frame.held]; exact id
  ring := by rw [frame.fetchRing]; exact id
  flag := flag
  worker := pc
  pending := by
    rw [frame.pending, frame.index, frame.memory]
    exact fun slot inside _ => ⟨inside, rfl⟩
  commit := by
    rw [frame.memory]
    intro slot index nr flight _ _
    refine ⟨?_, rfl⟩
    rcases frame.flusher with kept | notified
    · exact kept ▸ flight
    · exact notify_committing.mp (notified ▸ flight)
  iod := by rw [frame.iod]
  phase := same

theorem WorkerFrame.untouched_other {worker : Nat} (frame : WorkerFrame worker state after)
    (different : tag ≠ worker)
    (same : phase config tag after.history = phase config tag state.history) :
    Untouched config state after tag :=
  frame.untouched (by rw [frame.others tag different]; exact id) (fun _ => by rw [frame.others tag different]) same

/-! ## Tags a step moves -/

/-- A worker that stops short of a request, with no event. -/
theorem WorkerFrame.phases {worker : Nat} (frame : WorkerFrame worker state after)
    (phases : Phases config state)
    (owned : Owned config after) (history : after.history = state.history)
    (flag : (after.workers worker).flag = (state.workers worker).flag)
    (idle : (after.workers worker).processing = false) : Phases config after := by
  refine phases.step owned fun tag => .inl (frame.untouched ?_ ?_ (by rw [history])).kept
  · by_cases equal : tag = worker
    · rw [equal, flag]; exact id
    · rw [frame.others tag equal]; exact id
  · by_cases equal : tag = worker
    · rw [equal, idle]; simp
    · rw [frame.others tag equal]; exact fun _ => rfl

theorem Phases.turn {worker : Nat} (phases : Phases config state) (owned : Owned config after)
    (rest : (state.workers worker).processing = false)
    (awake : WorkerAwake state.workerStopped (state.workers worker))
    (turn : Turn config worker state after) :
    Phases config after := by
  have frame := turn.frame
  cases turn with
  | sleep =>
      exact frame.phases phases owned rfl (by simp [State.setWorker])
        (by simp [State.setWorker, Worker.processing])
  | leave =>
      exact frame.phases phases owned rfl (by simp [endWorker, State.setWorker])
        (by simp [endWorker, State.setWorker, Worker.processing])
  | serve running woken =>
      apply phases.step owned
      intro tag
      by_cases equal : tag = worker
      · subst equal
        have up : (state.workers tag).flag = true :=
          woken.elim (fun notified => awake.2 notified running) id
        have given : phase config tag state.history = .given := phases.fits tag .flagged up
        refine .inr ⟨.processing, ?_, ?_⟩
        · simp only [At, beginRequest]
          split <;> simp [State.setWorker, State.record, Worker.processing]
        · by_cases ioBuf : needIoBuf config.flags (state.iod tag).opFlags = true
          · simp [Fits, beginRequest, ioBuf, State.setWorker, State.record, phase_append,
              Phase.next, Phase.tagged, given]
          · simp [Fits, beginRequest, ioBuf, State.setWorker, State.record, phase_append,
              Phase.next, Phase.tagged, given]
      · refine .inl (frame.untouched_other equal ?_).kept
        have different : worker ≠ tag := Ne.symm equal
        simp only [beginRequest]
        split <;> simp [State.setWorker, State.record, phase_append, Phase.next, different]

/-- The driver takes from a freshly written slot what the worker put there. -/
theorem commitView_writeSlot {memory : Memory} {index slot : Nat} {iod : IoDesc} {res : BitVec 32}
    {zoneLba : BitVec 64} (inside : tag < config.queueDepth) :
    (elemAt config (writeSlot config memory index slot tag iod res zoneLba) index slot).commitView config.flags
        config.getBatchFlags iod =
      committedView config tag iod res zoneLba := by
  have depth := config.depthBound
  have named : tag % 2 ^ 16 = tag := Nat.mod_eq_of_lt (by omega)
  rw [elemAt_writeSlot, Elem.commitView, committedView, Config.getBatchFlags_fallback, named]
  by_cases auto : hasFlag config.flags ublkFAutoBufReg = true
  · by_cases append : ublksrvGetOp iod = ublkIoOpZoneAppend <;> simp [auto, append]
  · by_cases append : ublksrvGetOp iod = ublkIoOpZoneAppend <;> simp [auto, append]

/-- Filling a slot, with the events of the worker that lead there. -/
theorem Phases.publish {history : List Event} {res : BitVec 32} {zoneLba : BitVec 64}
    (phases : Phases config state) (owned : Owned config state) (inside : tag < config.queueDepth)
    (busy : (state.workers tag).processing = true)
    (others : ∀ other, other ≠ tag → phase config other history = phase config other state.history)
    (current : phase config tag history = .handled (state.iod tag) res zoneLba) :
    Phases config (publish config tag res zoneLba { state with history }) := by
  have recorded : Owned config { state with history } :=
    ⟨⟨owned.index, owned.committing⟩, owned.once⟩
  apply phases.step (recorded.publish inside busy)
  intro other
  have depth := config.depthBound
  have room := owned.room busy
  have next : (state.pending + 1) % 2 ^ 16 = state.pending + 1 := Nat.mod_eq_of_lt (by omega)
  have named : tag % 2 ^ 16 = tag := Nat.mod_eq_of_lt (by omega)
  by_cases equal : other = tag
  · subst equal
    refine .inr ⟨.pendingSlot state.pending, ⟨?_, ?_⟩, res, zoneLba, current,
      commitView_writeSlot inside⟩
    · simp only [Batch.publish]
      omega
    · simp only [Batch.publish, State.setWorker, elemAt_writeSlot, named]
  · refine .inl (Untouched.kept ⟨id, id, ?_, ?_, ?_, ?_, rfl, others other equal⟩)
    · simp only [Batch.publish, State.setWorker, Function.update_of_ne equal]
      exact id
    · simp only [Batch.publish, State.setWorker, Function.update_of_ne equal]
      exact fun _ => trivial
    · simp only [Batch.publish, State.setWorker, next]
      intro slot filled same
      have earlier : slot < state.pending := by
        apply Nat.lt_of_le_of_ne (by omega)
        intro last
        subst last
        rw [elemAt_writeSlot] at same
        exact equal (by rw [← same, named])
      exact ⟨earlier, elemAt_writeSlot_earlier earlier⟩
    · intro slot index nr flight filled _
      have before := publish_committing.mp flight
      change state.flusher = _ at before
      obtain ⟨different, _⟩ := owned.committing index nr before
      simp only [commitTags, before, length_bufferTags] at room
      have space : state.pending + 1 < config.queueDepth := by omega
      exact ⟨before, elemAt_writeSlot_other different owned.index (by omega) space⟩

theorem Phases.deliver {requests : List (Nat × IoDesc)} {written : Delivery} {fetchRing : FetchRing}
    (phases : Phases config state) (ring : RingInStep config state.fetchRing)
    (permitted : ownedOnly state (.deliver requests) = true)
    (delivered : state.fetchRing.deliver config.fetchBufTags (requests.map Prod.fst) = some (written, fetchRing))
    (owned : Owned config
      { state with
        fetchRing
        iod := fun tag => (requests.lookup tag).getD (state.iod tag)
        held := fun tag => state.held tag && !(requests.map Prod.fst).contains tag
        history := state.history ++ [.wrote written] }) :
    Phases config
      { state with
        fetchRing
        iod := fun tag => (requests.lookup tag).getD (state.iod tag)
        held := fun tag => state.held tag && !(requests.map Prod.fst).contains tag
        history := state.history ++ [.wrote written] } := by
  obtain ⟨reader, writer, inStep⟩ := ring
  obtain ⟨_, tags, backlog⟩ := inStep.deliver delivered
  have unseen : fetchRing.unseen = state.fetchRing.unseen ++ requests.map Prod.fst := by
    simp only [FetchRing.unseen, backlog, List.flatMap_append, List.flatMap_singleton, tags]
  apply phases.step owned
  intro tag
  have same : phase config tag (state.history ++ [.wrote written]) = phase config tag state.history := by
    simp [phase_append, Phase.next]
  by_cases member : tag ∈ requests.map Prod.fst
  · have held : state.held tag = true := by
      simp only [ownedOnly, Bool.and_eq_true, List.all_eq_true] at permitted
      obtain ⟨request, present, rfl⟩ := List.mem_map.mp member
      exact permitted.2 request present
    have idle : phase config tag state.history = .idle := phases.fits tag .driver held
    refine .inr ⟨.ring, ?_, same.trans idle⟩
    simp only [At, unseen, List.mem_append]
    exact .inr member
  · have absent : requests.lookup tag = none := by
      rw [List.lookup_eq_none_iff]
      intro request present
      simp only [bne_iff_ne, ne_eq]
      exact fun equal => member (List.mem_map.mpr ⟨request, present, equal.symm⟩)
    refine .inl (Untouched.kept ⟨?_, ?_, id, fun _ => rfl, fun _ inside _ => ⟨inside, rfl⟩,
      fun _ _ _ flight _ _ => ⟨flight, rfl⟩, ?_, same⟩)
    · simp only [Bool.and_eq_true]
      exact And.left
    · simp only [unseen, List.mem_append]
      exact fun either => either.resolve_right member
    · simp [absent]

theorem Phases.fetchCb {read : Delivery} {fetchRing : FetchRing}
    (phases : Phases config state) (ring : RingInStep config state.fetchRing)
    (before : Owned config state)
    (called : state.fetchRing.fetchCb = some (read, fetchRing))
    (owned : Owned config
      { state with
        fetchRing
        workers := read.tags.foldl flagWorker state.workers
        history := state.history ++ [.read read] }) :
    Phases config
      { state with
        fetchRing
        workers := read.tags.foldl flagWorker state.workers
        history := state.history ++ [.read read] } := by
  obtain ⟨reader, writer, inStep⟩ := ring
  have unseen : state.fetchRing.unseen = read.tags ++ fetchRing.unseen := by
    simp only [FetchRing.unseen, (inStep.fetchCb called).2.1, List.flatMap_cons]
  apply phases.step owned
  intro tag
  by_cases member : tag ∈ read.tags
  · have idle : phase config tag state.history = .idle := by
      apply phases.fits tag .ring
      simp only [At, unseen, List.mem_append]
      exact .inl member
    have once : read.tags.count tag = 1 := by
      have most := before.le_one tag
      have positive := List.count_pos_iff.mpr member
      simp only [owners, unseen, List.count_append] at most
      omega
    refine .inr ⟨.flagged, ?_, ?_⟩
    · simp only [At, foldl_flagWorker, member, ↓reduceIte, notify_flag]
    · simp [Fits, phase_append, Phase.next, member, idle, once]
  · refine .inl (Untouched.kept ⟨id, ?_, ?_, ?_, fun _ inside _ => ⟨inside, rfl⟩,
      fun _ _ _ flight _ _ => ⟨flight, rfl⟩, rfl, ?_⟩)
    · simp only [unseen, List.mem_append]
      exact .inr
    · simp only [foldl_flagWorker, member, ↓reduceIte]
      exact id
    · simp only [foldl_flagWorker, member, ↓reduceIte]
      exact fun _ => trivial
    · simp [phase_append, Phase.next, member]

theorem Phases.submit (phases : Phases config state)
    (owned : Owned config
      { state with index := 1 - state.index, pending := 0, flusher := .committing state.index state.pending }) :
    Phases config
      { state with index := 1 - state.index, pending := 0, flusher := .committing state.index state.pending } := by
  apply phases.step owned
  intro tag
  by_cases filled : ∃ slot, At config state tag (.pendingSlot slot)
  · obtain ⟨slot, inside, named⟩ := filled
    obtain ⟨res, zoneLba, current, view⟩ := phases.fits tag (.pendingSlot slot) ⟨inside, named⟩
    refine .inr ⟨.commitSlot slot, ⟨_, _, rfl, inside, named⟩, res, zoneLba, current, ?_⟩
    rintro index nr flight
    cases flight
    exact view
  · refine .inl (Untouched.kept ⟨id, id, id, fun _ => rfl, fun _ none => by simp at none, ?_, rfl, rfl⟩)
    rintro slot index nr flight inside named
    cases flight
    exact absurd ⟨slot, inside, named⟩ filled

/-- The commit events of a buffer end the request of each accepted tag. -/
theorem phase_commits {elems : List Elem} (config : Config) (state : State) (tag : Nat)
    (current : Phase)
    (distinct : (elems.map Elem.tag).Nodup) :
    (∀ elem ∈ elems, elem.tag = tag →
      (elems.map (commitEvent config state)).foldl (Phase.next config tag) current =
        current.tagged config tag
          (.commit (elem.commitView config.flags config.getBatchFlags (state.iod tag)))) ∧
    (tag ∉ elems.map Elem.tag →
      (elems.map (commitEvent config state)).foldl (Phase.next config tag) current = current) := by
  induction elems generalizing current with
  | nil => simp
  | cons first rest ih =>
      obtain ⟨absent, restDistinct⟩ := List.nodup_cons.mp distinct
      simp only [List.map_cons, List.foldl_cons]
      constructor
      · intro elem member named
        by_cases here : first.tag = tag
        · have same : elem = first := by
            rcases List.mem_cons.mp member with same | later
            · exact same
            · exact absurd (List.mem_map.mpr ⟨elem, later, named.trans here.symm⟩) absent
          subst same
          rw [(ih _ restDistinct).2 (here ▸ absent), commitEvent, named, Phase.next_tag]
        · have later : elem ∈ rest :=
            (List.mem_cons.mp member).resolve_left fun same => here (same ▸ named)
          rw [commitEvent, Phase.next_tag_of_ne here]
          exact (ih _ restDistinct).1 elem later named
      · intro outside
        simp only [List.mem_cons, not_or] at outside
        rw [commitEvent, Phase.next_tag_of_ne (Ne.symm outside.1)]
        exact (ih _ restDistinct).2 outside.2

theorem accepted_nodup {index nr count : Nat} (owned : Owned config state)
    (pc : state.flusher = .committing index nr) (partly : count ≤ nr) :
    ((acceptedElems config state.memory index count).map Elem.tag).Nodup := by
  apply List.nodup_iff_count_le_one.mpr
  intro tag
  have most := owned.le_one tag
  have front : (bufferTags config state.memory index count).Sublist (commitTags config state) := by
    simp only [commitTags, pc, bufferTags, acceptedElems, List.map_map]
    exact (List.range_sublist.mpr partly).map _
  have fewer : _ ≤ (commitTags config state).count tag := front.count_le tag
  simp only [owners] at most
  exact fewer.trans (by omega)

theorem Phases.accepted {index nr count : Nat} (phases : Phases config state)
    (before : Owned config state)
    (pc : state.flusher = .committing index nr) (partly : count ≤ nr)
    (owned : Owned config
      { state with
        flusher := .committed nr (.accepted count)
        held := fun tag => state.held tag || ((acceptedElems config state.memory index count).map Elem.tag).contains tag
        history := state.history ++
          (acceptedElems config state.memory index count).map (commitEvent config state) }) :
    Phases config
      { state with
        flusher := .committed nr (.accepted count)
        held := fun tag => state.held tag || ((acceptedElems config state.memory index count).map Elem.tag).contains tag
        history := state.history ++
          (acceptedElems config state.memory index count).map (commitEvent config state) } := by
  apply phases.step owned
  intro tag
  have events := phase_commits config state tag (phase config tag state.history)
    (accepted_nodup before pc partly)
  by_cases member : tag ∈ (acceptedElems config state.memory index count).map Elem.tag
  · obtain ⟨elem, present, named⟩ := List.mem_map.mp member
    obtain ⟨slot, inside, rfl⟩ := List.mem_map.mp present
    have filled : slot < nr := Nat.lt_of_lt_of_le (List.mem_range.mp inside) partly
    obtain ⟨res, zoneLba, current, view⟩ :=
      phases.fits tag (.commitSlot slot) ⟨index, nr, pc, filled, named⟩
    refine .inr ⟨.driver, ?_, ?_⟩
    · simp only [At, Bool.or_eq_true, List.contains_iff_mem]
      exact .inr member
    · have idle := events.1 _ present named
      rw [current, view index nr pc] at idle
      simp only [Fits, phase_append, current, idle]
      simp [Phase.tagged]
  · refine .inl (Untouched.kept ⟨?_, id, id, fun _ => rfl, fun _ inside _ => ⟨inside, rfl⟩, by simp, rfl, ?_⟩)
    · simp only [Bool.or_eq_true, List.contains_iff_mem]
      exact fun either => either.resolve_right member
    · rw [phase_append]
      exact events.2 member

theorem Phases.initial : Phases config (initial config) where
  ordered := by simp [phase, Batch.initial]
  fits := by
    intro tag place here
    cases place with
    | driver => rfl
    | ring => rfl
    | flagged => simp [At, Batch.initial] at here
    | processing => simp [At, Batch.initial, Worker.processing] at here
    | pendingSlot slot => simp [At, Batch.initial] at here
    | commitSlot slot => simp [At, Batch.initial] at here

theorem Phases.finish {worker : Nat} {history : List Event} {res : BitVec 32} {zoneLba : BitVec 64}
    (phases : Phases config state) (awake : Awake config state) (before : Owned config state)
    (owned : Owned config after) (inside : worker < config.queueDepth)
    (busy : (state.workers worker).processing = true)
    (others : ∀ other, other ≠ worker → phase config other history = phase config other state.history)
    (current : phase config worker history = .handled (state.iod worker) res zoneLba)
    (turn : Turn config worker (Batch.publish config worker res zoneLba { state with history }) after) :
    Phases config after := by
  have alive : (state.workers worker).isEnded = false := by
    revert busy
    rw [Worker.processing, Worker.isEnded]
    cases (state.workers worker).pc <;> simp
  have recorded : Awake config { state with history } :=
    ⟨awake.workers, awake.flusher, awake.running⟩
  refine (phases.publish before inside busy others current).turn owned ?_ ?_ turn
  · simp [Worker.processing, publish_pc]
  · exact (recorded.publish alive).workers worker inside

/-- The worker whose buffer was registered goes on to its handler. -/
theorem Phases.registered {worker : Nat} (phases : Phases config state)
    (pc : (state.workers worker).pc = .registering)
    (owned : Owned config (state.setWorker worker { state.workers worker with pc := .handling true })) :
    Phases config (state.setWorker worker { state.workers worker with pc := .handling true }) := by
  have frame := setWorker_frame state worker { state.workers worker with pc := .handling true }
  apply phases.step owned
  intro tag
  by_cases equal : tag = worker
  · subst equal
    have fits := phases.fits tag .processing (by simp [At, Worker.processing, pc])
    simp only [Fits, pc] at fits
    refine .inr ⟨.processing, ?_, ?_⟩
    · simp [At, State.setWorker, Worker.processing]
    · simpa [Fits, State.setWorker] using fits
  · exact .inl (frame.untouched_other equal rfl).kept

theorem Phases.handledRegistered {worker : Nat} {outcome : IoOutcome} (phases : Phases config state)
    (pc : (state.workers worker).pc = .handling true)
    (owned : Owned config (((state.record (.tag worker (.handleIo
      ⟨config.qId, worker, state.iod worker, config.getBuf worker⟩ outcome))).setWorker worker
        { state.workers worker with
          pc := .unregistering (wrapHandleIo outcome).1 (wrapHandleIo outcome).2 }).record
      (.tag worker (.unregisterIoBuf (ioBufCmd config.qId worker worker))))) :
    Phases config (((state.record (.tag worker (.handleIo
      ⟨config.qId, worker, state.iod worker, config.getBuf worker⟩ outcome))).setWorker worker
        { state.workers worker with
          pc := .unregistering (wrapHandleIo outcome).1 (wrapHandleIo outcome).2 }).record
      (.tag worker (.unregisterIoBuf (ioBufCmd config.qId worker worker)))) := by
  have fits := phases.fits worker .processing (by simp [At, Worker.processing, pc])
  simp only [Fits, pc] at fits
  have frame := (setWorker_frame (state.record (.tag worker (.handleIo
    ⟨config.qId, worker, state.iod worker, config.getBuf worker⟩ outcome))) worker
      { state.workers worker with
        pc := .unregistering (wrapHandleIo outcome).1 (wrapHandleIo outcome).2 }).record
    (.tag worker (.unregisterIoBuf (ioBufCmd config.qId worker worker)))
  apply phases.step owned
  intro tag
  by_cases equal : tag = worker
  · subst equal
    refine .inr ⟨.processing, ?_, ?_⟩
    · simp [At, State.setWorker, State.record, Worker.processing]
    · simp [Fits, State.setWorker, State.record, phase_append, Phase.next_tag, fits.1,
        Phase.tagged, fits.2]
  · refine .inl (frame.untouched_other equal ?_).kept
    have different : worker ≠ tag := Ne.symm equal
    simp [State.setWorker, State.record, phase_append, Phase.next, different]

/-- A flusher that submits nothing leaves every place as it is. -/
theorem untouched_flusher {flusher : FlusherPc} (idle : ∀ index nr, flusher ≠ .committing index nr)
    (tag : Nat) : Untouched config state { state with flusher } tag :=
  ⟨id, id, id, fun _ => rfl, fun _ inside _ => ⟨inside, rfl⟩,
    fun _ index nr flight => absurd flight (idle index nr), rfl, rfl⟩

/-- The end of the fetch notifies workers, of which none is busy. -/
theorem untouched_fetchEnded {ended : FetchEnd} (tag : Nat) :
    Untouched config state
      { state with
        fetch := some ended
        workerStopped := true
        workers := fun tag =>
          if tag < config.queueDepth then (state.workers tag).notify else state.workers tag } tag := by
  refine ⟨id, id, ?_, ?_, fun _ inside _ => ⟨inside, rfl⟩,
    fun _ _ _ flight _ _ => ⟨flight, rfl⟩, rfl, rfl⟩
  · simp only
    split
    · rw [notify_flag]; exact id
    · exact id
  · simp only
    split
    · intro busy
      rw [notify_pc_of_ne]
      intro waiting
      simp [Worker.processing, Worker.notify, waiting] at busy
    · exact fun _ => rfl

theorem Phases.move {action : Action} (phases : Phases config state) (awake : Awake config state)
    (ring : RingInStep config state.fetchRing) (before : Owned config state)
    (permitted : ownedOnly state action = true) (moved : Move config state action after) :
    Phases config after := by
  have owned := before.move awake ring permitted moved
  -- Steps that touch no place of any tag, and take places away at most.
  have quiet (untouched : ∀ tag, Untouched config state after tag) : Phases config after :=
    phases.step owned fun tag => .inl (untouched tag).kept
  cases moved with
  | deliver _ _ delivered => exact phases.deliver ring permitted delivered owned
  | fetchCb called => exact phases.fetchCb ring before called owned
  | turn inside pc turn =>
      refine phases.turn owned ?_ (awake.workers _ inside) turn
      rcases pc with pc | pc <;> simp [Worker.processing, pc]
  | registered inside pc => exact phases.registered pc owned
  | registerFailed inside pc =>
      exact (endWorker_frame _ _ _).phases phases owned rfl (by simp [endWorker, State.setWorker])
        (by simp [endWorker, State.setWorker, Worker.processing])
  | handled inside pc turn =>
      rename_i worker outcome
      have fits := phases.fits worker .processing (by simp [At, Worker.processing, pc])
      simp only [Fits, pc] at fits
      refine phases.finish awake before owned inside (by simp [Worker.processing, pc]) ?_ ?_ turn
      · intro other different
        rw [phase_append, List.foldl_cons, Phase.next_tag_of_ne (Ne.symm different), List.foldl_nil]
      · simp [phase_append, Phase.next_tag, fits.1, Phase.tagged, fits.2]
  | handledRegistered inside pc => exact phases.handledRegistered pc owned
  | unregistered inside pc turn =>
      rename_i worker res zoneLba
      have fits := phases.fits worker .processing (by simp [At, Worker.processing, pc])
      simp only [Fits, pc] at fits
      exact phases.finish awake before owned inside (by simp [Worker.processing, pc])
        (fun _ _ => rfl) fits turn
  | unregisterFailed inside pc =>
      exact (endWorker_frame _ _ _).phases phases owned rfl (by simp [endWorker, State.setWorker])
        (by simp [endWorker, State.setWorker, Worker.processing])
  | submit => exact phases.submit owned
  | flusherLeaves => exact quiet (untouched_flusher (by simp))
  | flusherSleeps => exact quiet (untouched_flusher (by simp))
  | flushed => exact quiet (untouched_flusher (by simp))
  | flushFailed => exact quiet (untouched_flusher (by simp))
  | accepted pc partly => exact phases.accepted before pc partly owned
  | refused => exact quiet (untouched_flusher (by simp))
  | fetchEnded => exact quiet untouched_fetchEnded
  | fetchStopped => exact ⟨phases.ordered, phases.fits⟩
  | returned => exact ⟨phases.ordered, phases.fits⟩

theorem Phases.reachable {permits : State → Action → Prop}
    (permitted : ∀ {state action}, permits state action → ownedOnly state action = true)
    (reached : Reachable (batchIoQueue config) permits state) : Phases config state := by
  induction reached with
  | initial => exact .initial
  | next before allowed taken phases =>
      exact phases.move (Awake.reachable before) (RingInStep.reachable before)
        (Owned.reachable permitted before) (permitted allowed) (step_move taken)

end Ublk.Queue.Batch
