import Ublk.Queue.Batch.Phases
import Ublk.Queue.Batch.Ring
import Ublk.Queue.Batch.Shutdown

namespace Ublk.Queue.Batch

open Ublk.Data Ublk.Machine

variable {config : Config} {state after : State} {tag : Nat}

/-! # Requests that get lost

The flusher gives up on the first `COMMIT` that is not accepted in full, and with it
on the results that were not accepted; nothing tells the workers or the fetch. An
orderly stop makes a worker leave that has been flagged and not resumed. The results
here say when neither happens.
-/

/-- A worker serves a request only with its flag up. -/
theorem Turn.phase_of_unflagged {worker : Nat} (turn : Turn config worker state after)
    (awake : WorkerAwake state.workerStopped (state.workers worker))
    (down : (state.workers tag).flag = false) :
    phase config tag after.history = phase config tag state.history := by
  cases turn with
  | sleep => rfl
  | leave => rfl
  | serve running woken =>
      have up : (state.workers worker).flag = true :=
        woken.elim (fun notified => awake.2 notified running) id
      have different : worker ≠ tag := by
        rintro rfl
        simp [down] at up
      simp only [beginRequest]
      split <;> simp [State.setWorker, State.record, phase_append, Phase.next, different]

theorem Turn.phase_of_finished {worker : Nat} {history : List Event} {res : BitVec 32}
    {zoneLba : BitVec 64}
    (turn : Turn config worker (publish config worker res zoneLba { state with history }) after)
    (awake : Awake config state) (inside : worker < config.queueDepth)
    (alive : (state.workers worker).isEnded = false) (different : tag ≠ worker)
    (down : (state.workers tag).flag = false)
    (same : phase config tag history = phase config tag state.history) :
    phase config tag after.history = phase config tag state.history := by
  have recorded : Awake config { state with history } :=
    ⟨awake.workers, awake.flusher, awake.running⟩
  refine (turn.phase_of_unflagged ((recorded.publish alive).workers worker inside) ?_).trans same
  simpa [publish, State.setWorker, Function.update_of_ne different] using down

/-- A tag without an owner takes part in nothing. -/
theorem Move.phase_of_unowned {action : Action} (moved : Move config state action after)
    (ring : RingInStep config state.fetchRing) (awake : Awake config state)
    (owned : Owned config state)
    (unowned : owners config state tag = 0) :
    phase config tag after.history = phase config tag state.history := by
  have nowhere (place : Place) : ¬ At config state tag place := fun here => by
    have positive := here.tally_pos
    rw [owners_eq_tally 0 0] at unowned
    cases place <;> simp only [tally] at positive unowned <;> omega
  have down : (state.workers tag).flag = false := by simpa [At] using nowhere .flagged
  have idle {worker : Nat} (busy : (state.workers worker).processing = true) : tag ≠ worker := by
    rintro rfl
    exact nowhere .processing busy
  cases moved with
  | deliver => simp [phase_append, Phase.next]
  | fetchCb called =>
      obtain ⟨reader, writer, inStep⟩ := ring
      have absent : tag ∉ _ := fun member => nowhere .ring (by
        simp only [At, FetchRing.unseen, (inStep.fetchCb called).2.1, List.flatMap_cons,
          List.mem_append]
        exact .inl member)
      simp [phase_append, Phase.next, absent]
  | turn inside _ turn => exact turn.phase_of_unflagged (awake.workers _ inside) down
  | handled inside pc turn =>
      have different := idle (Worker.processing_at pc rfl)
      apply turn.phase_of_finished awake inside (by simp [Worker.isEnded, pc]) different down
      rw [phase_append, List.foldl_cons, Phase.next_tag_of_ne (Ne.symm different), List.foldl_nil]
  | handledRegistered inside pc =>
      have different := Ne.symm (idle (Worker.processing_at pc rfl))
      simp [State.setWorker, State.record, phase_append, Phase.next, different]
  | unregistered inside pc turn =>
      have different := idle (Worker.processing_at pc rfl)
      exact turn.phase_of_finished awake inside (by simp [Worker.isEnded, pc]) different down rfl
  | accepted pc partly =>
      rename_i index nr count
      rw [phase_append]
      apply (phase_commits _ _ _ _ (accepted_nodup owned pc partly)).2
      intro member
      obtain ⟨slot, inside, named⟩ := mem_bufferTags.mp member
      exact nowhere (.commitSlot slot) ⟨index, nr, pc, by omega, named⟩
  | _ => rfl

/-- In a run where every `COMMIT` is accepted in full and no buffer stays registered,
a tag that is at no place was lost before its handler ran. -/
def LostUnhandled (config : Config) (state : State) : Prop :=
  ∀ tag < config.queueDepth, owners config state tag = 1 ∨
    (owners config state tag = 0 ∧ ∃ iod, phase config tag state.history = .handling iod)

theorem LostUnhandled.move {action : Action} (lost : LostUnhandled config state)
    (phases : Phases config state)
    (awake : Awake config state) (ring : RingInStep config state.fetchRing)
    (owned : Owned config state)
    (permitted : ownedOnly state action = true) (commits : commitsInFull state action = true)
    (unregisters : unregistersSucceed action = true) (moved : Move config state action after) :
    LostUnhandled config after := by
  intro tag inside
  obtain ⟨fewer, same⟩ := owners_move awake ring owned permitted moved tag
  rcases lost tag inside with one | ⟨none, iod, handling⟩
  · by_cases registers : registersSucceed action = true
    · exact .inl ((same (by simp [refusesNothing, registers, unregisters, commits])).trans one)
    · cases moved with
      | registerFailed bound pc =>
          rename_i worker code
          have left := owners_endWorker config tag (some (.system code ""))
            (Worker.processing_at pc rfl)
          by_cases equal : tag = worker
          · subst equal
            have fits := phases.fits tag .processing (Worker.processing_at pc rfl)
            simp only [Fits, pc] at fits
            simp only [↓reduceIte] at left
            exact .inr ⟨by omega, state.iod tag, fits.1⟩
          · rw [if_neg equal] at left
            exact .inl (by omega)
      | _ => simp [registersSucceed] at registers
  · exact .inr ⟨by omega, iod, (moved.phase_of_unowned ring awake owned none).trans handling⟩

/-- The handler has completed, the driver has not taken the result, and it waits in
no slot; `run()` has not failed, and the queue does nothing more on its own. -/
def Forgotten (config : Config) (state : State) : Prop :=
  ∃ tag < config.queueDepth, (∃ iod res zoneLba, phase config tag state.history = .handled iod res zoneLba) ∧
    (∀ slot, ¬ At config state tag (.pendingSlot slot) ∧ ¬ At config state tag (.commitSlot slot)) ∧
    (∀ err, state.result ≠ some (.error err)) ∧
    ∀ action, queueSide action = true → step config state action = none

/-- No handled request is forgotten as long as every `COMMIT` is accepted in full
and no buffer fails to unregister. -/
theorem no_result_forgotten
    (reached : Reachable (batchIoQueue config) (fun state action => ownedOnly state action = true ∧
      commitsInFull state action = true ∧ unregistersSucceed action = true) state) :
    ¬ Forgotten config state := by
  have lost : LostUnhandled config state := by
    induction reached with
    | initial =>
        exact fun tag inside => .inl (by simp [batchIoQueue, owners_initial, share, inside])
    | next before allowed taken ih =>
        exact ih.move (Phases.reachable (fun allowed => allowed.1) before) (Awake.reachable before)
          (RingInStep.reachable before) (Owned.reachable (fun allowed => allowed.1) before) allowed.1 allowed.2.1
          allowed.2.2 (step_move taken)
  have phases : Phases config state := Phases.reachable (fun allowed => allowed.1) reached
  rintro ⟨tag, inside, ⟨iod, res, zoneLba, handled⟩, slots, _, stuck⟩
  rcases lost tag inside with one | ⟨_, _, handling⟩
  · obtain ⟨place, here⟩ := place_exists one
    have fits := phases.fits tag place here
    rw [handled] at fits
    -- Only a busy worker is left, and the answer to its command is outstanding.
    cases place with
    | driver => cases fits
    | ring => cases fits
    | flagged => cases fits
    | processing =>
        cases pc : (state.workers tag).pc with
        | unregistering res zoneLba =>
            have blocked := stuck (.unregistered tag .ok) rfl
            simp [step, inside, unregistered, pc] at blocked
        | _ => simp [Fits, pc] at fits
    | pendingSlot slot => exact (slots slot).1 here
    | commitSlot slot => exact (slots slot).2 here
  · rw [handled] at handling
    cases handling

theorem no_result_forgotten_oneTag :
    ∃ state, Reachable (batchIoQueue oneTag) (fun state action => ownedOnly state action = true ∧
        commitsInFull state action = true ∧ unregistersSucceed action = true) state ∧
      phase oneTag 0 state.history = .handled default 0 0 ∧ ¬ Forgotten oneTag state := by
  obtain ⟨state, reached, handled⟩ :=
    exists_of_replay (batchIoQueue oneTag)
      (fun state action => ownedOnly state action = true ∧ commitsInFull state action = true ∧
        unregistersSucceed action = true)
      oneTagFilled (fun state => phase oneTag 0 state.history = .handled default 0 0)
      (by decide)
  exact ⟨state, reached, handled, no_result_forgotten reached⟩

/-- Two requests in one `COMMIT`, of which the driver accepts the first. -/
def shortCommit : List Action :=
  [.flusherRun, .workerRun 0, .workerRun 1, .deliver [(0, default), (1, default)], .fetchCb,
    .workerRun 0, .workerRun 1, .handled 0 (.value (.int32 0)), .handled 1 (.value (.int32 0)),
    .flusherRun, .commitAnswer (.accepted 1), .flusherRun]

theorem short_commit_forgets :
    ∃ state, Reachable (batchIoQueue twoTags)
        (fun state action => ownedOnly state action = true ∧ fetchEndsIdle twoTags state action = true) state ∧
      Forgotten twoTags state := by
  obtain ⟨state, reached, handled, empty, flusher, waits, quiet⟩ :=
    exists_of_replay (batchIoQueue twoTags)
      (fun state action => ownedOnly state action = true ∧ fetchEndsIdle twoTags state action = true)
      shortCommit
      (fun state => phase twoTags 1 state.history = .handled default 0 0 ∧ state.pending = 0 ∧
        state.flusher.isEnded = true ∧ state.result = none ∧ Quiet twoTags state) (by decide +kernel)
  refine ⟨state, reached, 1, by decide, ⟨_, _, _, handled⟩,
    fun slot => ⟨fun here => ?_, fun here => ?_⟩, ?_,
    fun action side => quiet.stuck side⟩
  · have filled := here.1
    omega
  · obtain ⟨_, _, flight, _⟩ := here
    simp [flight, FlusherPc.isEnded] at flusher
  · simp [waits]

/-! ## An orderly stop -/

theorem FlusherPc.notify_isEnded (pc : FlusherPc) : pc.notify.isEnded = pc.isEnded := by
  cases pc <;> rfl

theorem notify_committed {pc : FlusherPc} {nr : Nat} {answer : CommitAnswer} :
    pc.notify = .committed nr answer ↔ pc = .committed nr answer := by
  cases pc <;> simp [FlusherPc.notify]

/-- What the queue is like on its way out when the driver refuses nothing and no
worker was flagged at the end of the fetch. -/
structure Orderly (config : Config) (state : State) : Prop where
  answers : ∀ nr answer, state.flusher = .committed nr answer → answer = .accepted nr
  flushed : state.flusher.isEnded = true → state.pending = 0 ∧ state.runningWorkers = 0
  unflagged : state.fetch ≠ none → state.fetchRing.completions = [] ∧
    ∀ tag < config.queueDepth, (state.workers tag).flag = false
  returned : state.result ≠ none → state.fetch ≠ none ∧ state.flusher.isEnded = true ∧
    ∀ tag < config.queueDepth, (state.workers tag).isEnded = true

namespace Orderly

/-- While a worker is busy or has yet to leave, the flusher stays and `run()` waits. -/
theorem waits (orderly : Orderly config state) (awake : Awake config state)
    (inside : tag < config.queueDepth)
    (alive : (state.workers tag).isEnded = false) :
    state.flusher.isEnded = false ∧ state.result = none := by
  have running := awake.running_pos inside alive
  constructor
  · cases ended : state.flusher.isEnded with
    | false => rfl
    | true => have idle := (orderly.flushed ended).2; omega
  · cases result : state.result with
    | none => rfl
    | some how =>
        have ended := (orderly.returned (by simp [result])).2.2 tag inside
        simp [alive] at ended

theorem unreturned_fetch (orderly : Orderly config state) (active : state.fetch = none) :
    state.result = none := by
  by_contra result
  exact (orderly.returned result).1 active

theorem unreturned_flusher {pc : FlusherPc} (orderly : Orderly config state)
    (here : state.flusher = pc) (running : pc.isEnded = false) : state.result = none := by
  by_contra result
  have ended := (orderly.returned result).2.1
  simp [here, running] at ended

theorem of_running (orderly : Orderly config state)
    (committed : ∀ nr answer, after.flusher = .committed nr answer → state.flusher = .committed nr answer)
    (flusher : after.flusher.isEnded = false) (result : after.result = none)
    (fetch : after.fetch = state.fetch)
    (ring : after.fetchRing = state.fetchRing)
    (flags : ∀ tag, (after.workers tag).flag = true → (state.workers tag).flag = true) :
    Orderly config after where
  answers := fun nr answer here => orderly.answers nr answer (committed nr answer here)
  flushed := by simp [flusher]
  unflagged := by
    rw [fetch, ring]
    intro finished
    obtain ⟨seen, down⟩ := orderly.unflagged finished
    refine ⟨seen, fun tag inside => Bool.eq_false_iff.mpr fun up => ?_⟩
    simpa [down tag inside] using flags tag up
  returned := by simp [result]

theorem frame {worker : Nat} (orderly : Orderly config state)
    (frame : WorkerFrame worker state after)
    (waits : state.flusher.isEnded = false ∧ state.result = none)
    (flag : (after.workers worker).flag = true → (state.workers worker).flag = true) :
    Orderly config after := by
  refine orderly.of_running (fun nr answer here => ?_) ?_
    (frame.result.trans waits.2) frame.fetch frame.fetchRing
    fun tag up => ?_
  · rcases frame.flusher with same | notified
    · exact same ▸ here
    · exact notify_committed.mp (notified ▸ here)
  · rcases frame.flusher with same | notified
    · rw [same]; exact waits.1
    · rw [notified, FlusherPc.notify_isEnded]; exact waits.1
  · by_cases equal : tag = worker
    · subst equal; exact flag up
    · rwa [frame.others tag equal] at up

theorem turn {worker : Nat} (orderly : Orderly config state)
    (waits : state.flusher.isEnded = false ∧ state.result = none)
    (turn : Turn config worker state after) :
    Orderly config after := by
  apply orderly.frame turn.frame waits
  cases turn with
  | sleep => simp [State.setWorker]
  | leave => simp [endWorker, State.setWorker]
  | serve =>
      simp only [beginRequest]
      split <;> simp [State.setWorker, State.record]

theorem finish {worker : Nat} {history : List Event} {res : BitVec 32} {zoneLba : BitVec 64}
    (orderly : Orderly config state) (waits : state.flusher.isEnded = false ∧ state.result = none)
    (turn : Turn config worker (publish config worker res zoneLba { state with history }) after) :
    Orderly config after := by
  have flusher : (publish config worker res zoneLba { state with history }).flusher.isEnded = false := by
    simp only [publish]
    split
    · rw [FlusherPc.notify_isEnded]; exact waits.1
    · exact waits.1
  have published : Orderly config (publish config worker res zoneLba { state with history }) := by
    refine orderly.of_running (fun nr answer here => ?_) flusher waits.2 rfl rfl fun tag up => ?_
    · simp only [publish] at here
      split at here
      · exact notify_committed.mp here
      · exact here
    · by_cases equal : tag = worker
      · subst equal; simpa [publish, State.setWorker] using up
      · simpa [publish, State.setWorker, Function.update_of_ne equal] using up
  exact published.turn ⟨flusher, waits.2⟩ turn

theorem move {action : Action} (orderly : Orderly config state) (awake : Awake config state)
    (obliging : refusesNothing state action = true)
    (unflagged : fetchEndsUnflagged config state action = true)
    (moved : Move config state action after) : Orderly config after := by
  have waits {worker : Nat} {pc : WorkerPc} (inside : worker < config.queueDepth)
      (here : (state.workers worker).pc = pc) (alive : (⟨true, pc⟩ : Worker).isEnded = false) :=
    orderly.waits awake inside (Worker.alive_at here alive)
  cases moved with
  | deliver active =>
      exact ⟨orderly.answers, orderly.flushed, fun finished => absurd active finished,
        fun result => absurd (orderly.unreturned_fetch active) result⟩
  | fetchCb called =>
      have active : state.fetch = none := by
        by_contra finished
        simp [FetchRing.fetchCb, (orderly.unflagged finished).1] at called
      exact ⟨orderly.answers, orderly.flushed, fun finished => absurd active finished,
        fun result => absurd (orderly.unreturned_fetch active) result⟩
  | turn inside pc turn =>
      refine orderly.turn ?_ turn
      rcases pc with pc | pc
      · exact waits inside pc rfl
      · exact waits inside pc rfl
  | registered inside pc =>
      exact orderly.frame (setWorker_frame _ _ _) (waits inside pc rfl) (by simp [State.setWorker])
  | registerFailed inside pc =>
      exact orderly.frame (endWorker_frame _ _ _) (waits inside pc rfl)
        (by simp [endWorker, State.setWorker])
  | handled inside pc turn => exact orderly.finish (waits inside pc rfl) turn
  | handledRegistered inside pc =>
      exact orderly.frame ((setWorker_frame (state.record _) _ _).record _) (waits inside pc rfl)
        (by simp [State.setWorker, State.record])
  | unregistered inside pc turn => exact orderly.finish (waits inside pc rfl) turn
  | unregisterFailed inside pc =>
      exact orderly.frame (endWorker_frame _ _ _) (waits inside pc rfl)
        (by simp [endWorker, State.setWorker])
  | submit pc =>
      exact ⟨by simp, by simp [FlusherPc.isEnded], orderly.unflagged,
        fun result => absurd (orderly.unreturned_flusher pc rfl) result⟩
  | flusherLeaves pc empty idle =>
      exact ⟨by simp, fun _ => ⟨empty, idle⟩, orderly.unflagged,
        fun result => absurd (orderly.unreturned_flusher pc rfl) result⟩
  | flusherSleeps pc =>
      exact ⟨by simp, by simp [FlusherPc.isEnded], orderly.unflagged,
        fun result => absurd (orderly.unreturned_flusher pc rfl) result⟩
  | flushed pc =>
      exact ⟨by simp, by simp [FlusherPc.isEnded], orderly.unflagged,
        fun result => absurd (orderly.unreturned_flusher pc rfl) result⟩
  | flushFailed pc short => exact absurd (orderly.answers _ _ pc) short
  | accepted pc partly =>
      rename_i index nr count
      have full : count = nr := by
        simpa [refusesNothing, registersSucceed, unregistersSucceed, commitsInFull,
          pc] using obliging
      refine ⟨?_, by simp [FlusherPc.isEnded], orderly.unflagged,
        fun result => absurd (orderly.unreturned_flusher pc rfl) result⟩
      intro _ _ here
      cases here
      rw [full]
  | refused pc => simp [refusesNothing, commitsInFull, pc] at obliging
  | fetchEnded active seen =>
      simp only [fetchEndsUnflagged, List.all_eq_true, List.mem_range,
        Bool.not_eq_true'] at unflagged
      refine ⟨orderly.answers, orderly.flushed, fun _ => ⟨seen, fun tag inside => ?_⟩,
        fun result => absurd (orderly.unreturned_fetch active) result⟩
      simp only [inside, ↓reduceIte, notify_flag]
      exact unflagged tag inside
  | fetchStopped active seen =>
      simp only [fetchEndsUnflagged, List.all_eq_true, List.mem_range,
        Bool.not_eq_true'] at unflagged
      exact ⟨orderly.answers, orderly.flushed, fun _ => ⟨seen, unflagged⟩,
        fun result => absurd (orderly.unreturned_fetch active) result⟩
  | returned finished running workers flusher =>
      exact ⟨orderly.answers, orderly.flushed, orderly.unflagged,
        fun _ => ⟨by simp [finished], flusher, workers⟩⟩

theorem initial : Orderly config (initial config) :=
  ⟨by simp [Batch.initial], by simp [Batch.initial, FlusherPc.isEnded], by simp [Batch.initial],
    by simp [Batch.initial]⟩

theorem reachable {permits : State → Action → Prop}
    (permitted : ∀ {state action}, permits state action →
      refusesNothing state action = true ∧ fetchEndsUnflagged config state action = true)
    (reached : Reachable (batchIoQueue config) permits state) : Orderly config state :=
  reached.invariant _ initial fun before orderly allowed taken =>
    orderly.move (Awake.reachable before) (permitted allowed).1 (permitted allowed).2 (step_move taken)

end Orderly

/-- An orderly stop drops no request, provided no worker is flagged when the fetch
ends: when `run()` completes, every request that `fetch_cb` was given has been
handled and committed once. -/
theorem orderly_stop_drops_nothing
    (reached : Reachable (batchIoQueue config) (fun state action => ownedOnly state action = true ∧
      refusesNothing state action = true ∧ fetchAborts action = true ∧
      fetchEndsUnflagged config state action = true) state)
    (completed : state.result = some .done) :
    ∀ tag < config.queueDepth, phase config tag state.history = .idle := by
  have orderly : Orderly config state :=
    Orderly.reachable (fun allowed => ⟨allowed.2.1, allowed.2.2.2⟩) reached
  have phases : Phases config state := Phases.reachable (fun allowed => allowed.1) reached
  intro tag inside
  have one : owners config state tag = 1 := by
    rw [owners_reachable (fun allowed => ⟨allowed.1, allowed.2.1⟩) reached tag, share,
      if_pos inside]
  obtain ⟨finished, flusher, workers⟩ := orderly.returned (by simp [completed])
  obtain ⟨seen, down⟩ := orderly.unflagged finished
  obtain ⟨place, here⟩ := place_exists one
  cases place with
  | driver => exact phases.fits tag .driver here
  | ring => simp [At, FetchRing.unseen, FetchRing.backlog, seen, FetchRing.backlogFrom] at here
  | flagged => simp [At, down tag inside] at here
  | processing =>
      have ended := workers tag inside
      revert here ended
      simp only [At, Worker.processing, Worker.isEnded]
      cases (state.workers tag).pc <;> simp
  | pendingSlot slot =>
      have none := (orderly.flushed flusher).1
      have filled := here.1
      omega
  | commitSlot slot =>
      obtain ⟨_, _, flight, _⟩ := here
      simp [flight, FlusherPc.isEnded] at flusher

theorem orderly_stop_drops_nothing_oneTag :
    ∃ state, Reachable (batchIoQueue oneTag) (fun state action => ownedOnly state action = true ∧
        refusesNothing state action = true ∧ fetchAborts action = true ∧
        fetchEndsUnflagged oneTag state action = true) state ∧
      state.result = some .done ∧ phase oneTag 0 state.history = .idle := by
  obtain ⟨state, reached, completed⟩ :=
    exists_of_replay (batchIoQueue oneTag)
      (fun state action => ownedOnly state action = true ∧ refusesNothing state action = true ∧
        fetchAborts action = true ∧ fetchEndsUnflagged oneTag state action = true)
      (oneTagFilled ++ [.fetchEnd (.error enodev), .workerRun 0, .flusherRun,
        .commitAnswer (.accepted 1), .flusherRun, .flusherRun, .runReturn])
      (fun state => state.result = some .done) (by decide)
  exact ⟨state, reached, completed, orderly_stop_drops_nothing reached completed 0 (by decide)⟩

/-- The fetch ends between `fetch_cb` and the resumption of the worker it woke. -/
def abortBeforeResume : List Action :=
  oneTagGiven ++ [.fetchEnd (.error enodev), .workerRun 0, .flusherRun, .runReturn]

theorem orderly_stop_drops_flagged :
    ∃ state, Reachable (batchIoQueue oneTag) (fun state action => ownedOnly state action = true ∧
        refusesNothing state action = true ∧ fetchAborts action = true) state ∧
      state.result = some .done ∧ state.reads ≠ [] ∧ phase oneTag 0 state.history = .given := by
  obtain ⟨state, reached, completed, read, given⟩ :=
    exists_of_replay (batchIoQueue oneTag)
      (fun state action => ownedOnly state action = true ∧ refusesNothing state action = true ∧
        fetchAborts action = true)
      abortBeforeResume
      (fun state => state.result = some .done ∧ state.reads ≠ [] ∧
        phase oneTag 0 state.history = .given) (by decide)
  exact ⟨state, reached, completed, read, given⟩

end Ublk.Queue.Batch
