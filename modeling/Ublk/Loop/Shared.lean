import Ublk.Loop.Linear

namespace Ublk.Loop

open Ublk.Data Ublk.Machine Ublk.Queue

/-! # A loop device is a disk

All queues of the server work on one file and in one address space. A step of one of them
keeps to its own buffers and does to the file what its one event says, so the log of all
queues is that of a disk whose requests take effect one after the other.
-/

variable {configs : Nat → Config} {geometry : Geometry} {nrQueues queue : Nat} {memory file : Memory}
  {server : LoopServer} {after : Device}

/-- The buffers of all queues are allocated, and no two of them overlap. -/
structure Buffers (configs : Nat → Config) (geometry : Geometry) (nrQueues : Nat) : Prop where
  allocates : ∀ queue < nrQueues, needAllocBuf (configs queue).flags = true
  apart : ∀ queue < nrQueues, ∀ tag < (configs queue).queueDepth,
    ∀ other < nrQueues, ∀ otherTag < (configs other).queueDepth, (queue, tag) ≠ (other, otherTag) →
      Apart geometry ((configs queue).bufBases tag) ((configs other).bufBases otherTag)

theorem Buffers.getBuf (buffers : Buffers configs geometry nrQueues) (inside : queue < nrQueues) {tag : Nat}
    (tagInside : tag < (configs queue).queueDepth) : (configs queue).getBuf tag = (configs queue).bufBases tag := by
  rw [getBuf_eq tagInside, if_pos (buffers.allocates queue inside)]

theorem Buffers.getBuf_apart (buffers : Buffers configs geometry nrQueues) (inside : queue < nrQueues) {tag : Nat}
    (tagInside : tag < (configs queue).queueDepth) {other otherTag : Nat} (otherInside : other < nrQueues)
    (otherTagInside : otherTag < (configs other).queueDepth) (different : (queue, tag) ≠ (other, otherTag)) :
    Apart geometry ((configs queue).getBuf tag) ((configs other).getBuf otherTag) := by
  rw [buffers.getBuf inside tagInside, buffers.getBuf otherInside otherTagInside]
  exact buffers.apart queue inside tag tagInside other otherInside otherTag otherTagInside different

theorem Buffers.separate (buffers : Buffers configs geometry nrQueues) (inside : queue < nrQueues) :
    Separate (configs queue) geometry := by
  intro tag tagInside other otherInside different
  apply buffers.getBuf_apart inside tagInside inside otherInside
  intro same
  cases same
  exact different rfl

structure Sound (configs : Nat → Config) (geometry : Geometry) (nrQueues : Nat) (file : Memory)
    (server : LoopServer) : Prop where
  law : Guarded (loopLaw geometry file) server.log
  contents : server.file = contentsAfter file server.log
  logs : ∀ queue, (server.queues queue).log = queueLog queue server.log
  queues : ∀ queue < nrQueues, Stands (configs queue) geometry (server.device queue)

theorem queueLog_append (queue : Nat) (log entries : List (Nat × DiskEvent)) :
    queueLog queue (log ++ entries) = queueLog queue log ++ queueLog queue entries := by
  simp only [queueLog, List.filter_append, List.map_append]

theorem queueLog_map_self (queue : Nat) (events : List DiskEvent) :
    queueLog queue (events.map fun event => (queue, event)) = events := by
  simp [queueLog, List.filter_map, Function.comp_def]

theorem queueLog_map_other {other : Nat} (different : other ≠ queue) (events : List DiskEvent) :
    queueLog other (events.map fun event => (queue, event)) = [] := by
  simp [queueLog, List.filter_map, Function.comp_def, different.symm]

theorem contentsAfter_append (log : List (Nat × DiskEvent)) (events : List DiskEvent) :
    contentsAfter file (log ++ events.map fun event => (queue, event)) =
      events.foldl DiskEvent.apply (contentsAfter file log) := by
  rw [contentsAfter, List.foldl_append, List.foldl_map]
  rfl

/-- The server behind a step of one of its queues. -/
def LoopServer.stepped (server : LoopServer) (queue : Nat) (event : Option DiskEvent) (after : Device) : LoopServer where
  queues := Function.update server.queues queue after
  memory := after.memory
  file := after.file
  log := server.log ++ event.toList.map fun event => (queue, event)

/-- The other queues stand as before: the buffers of the queue that steps are elsewhere. -/
theorem Sound.other (sound : Sound configs geometry nrQueues file server)
    (buffers : Buffers configs geometry nrQueues) (inside : queue < nrQueues) {event : Option DiskEvent}
    (advances : Advances (configs queue) geometry event (server.device queue) after) {other : Nat}
    (otherInside : other < nrQueues) (different : other ≠ queue) :
    Stands (configs other) geometry ((server.stepped queue event after).device other) := by
  intro tag tagInside
  have standing := sound.queues other otherInside tag tagInside
  have kept : (server.stepped queue event after).queues other = server.queues other :=
    Function.update_of_ne different ..
  simp only [Device.standing, LoopServer.device, kept] at standing ⊢
  apply standing.elsewhere
  apply advances.memory
  intro ownTag ownInside
  apply buffers.getBuf_apart inside ownInside otherInside tagInside
  intro same
  cases same
  exact different rfl

theorem Sound.stepped (sound : Sound configs geometry nrQueues file server)
    (buffers : Buffers configs geometry nrQueues) (inside : queue < nrQueues) {event : Option DiskEvent}
    (advances : Advances (configs queue) geometry event (server.device queue) after) :
    Sound configs geometry nrQueues file (server.stepped queue event after) where
  law := by
    cases event with
    | none => simpa [LoopServer.stepped] using sound.law
    | some happened =>
        apply sound.law.snoc
        have obeys := advances.law happened rfl
        rw [loopLaw, ← sound.contents, ← sound.logs]
        exact obeys
  contents := by
    simp only [LoopServer.stepped]
    rw [contentsAfter_append, ← sound.contents]
    exact advances.file
  logs := by
    intro other
    simp only [LoopServer.stepped, queueLog_append, ← sound.logs]
    by_cases same : other = queue
    · subst same
      rw [Function.update_self, queueLog_map_self]
      exact advances.log
    · rw [Function.update_of_ne same, queueLog_map_other same, List.append_nil]
  queues := by
    intro other otherInside
    by_cases same : other = queue
    · subst same
      have own : (server.stepped other event after).device other = after := by
        simp only [LoopServer.device, LoopServer.stepped, Function.update_self]
      rw [own]
      exact advances.stands
    · exact sound.other buffers inside advances otherInside same

theorem Sound.step (sound : Sound configs geometry nrQueues file server) (buffers : Buffers configs geometry nrQueues)
    {action : Nat × DeviceAction} (permitted : behaves geometry action.2 = true) {next : LoopServer}
    (taken : server.step geometry configs nrQueues action = some next) :
    Sound configs geometry nrQueues file next := by
  obtain ⟨queue, action⟩ := action
  simp only [LoopServer.step, Option.ite_none_right_eq_some] at taken
  obtain ⟨inside, taken⟩ := taken
  split at taken
  · contradiction
  rename_i after stepped
  cases taken
  obtain ⟨event, advances⟩ := (sound.queues queue inside).step (buffers.separate inside) permitted stepped
  have added : after.log.drop (server.queues queue).log.length = event.toList := by
    have grown : after.log = (server.queues queue).log ++ event.toList := advances.log
    rw [grown, List.drop_left]
  rw [added]
  exact sound.stepped buffers inside advances

theorem Sound.awaits (sound : Sound configs geometry nrQueues file server) :
    Awaits geometry configs nrQueues server := by
  intro queue inside tag tagInside ioBuf pc unfinished
  have standing := sound.queues queue inside tag tagInside
  simp only [Device.standing, Standing, LoopServer.device, pc, unfinished] at standing
  obtain ⟨_, before, payload, _, sent, _⟩ := standing
  exact asksFor_of_sends sent

/-- The log of a loop device is that of a disk. In every state of every run, with any number
of queues, any number of requests open on each and their operations executed in any order,
whole or in part: every request takes effect at one moment between its arrival and its
answer, in the range of its sectors and inside of the file; a read returns the contents at
that moment, whichever queues they were written through, a write leaves a prefix of its data
there, the answer says how much, and a request without effect is answered with an error. The
file is what these operations have made of it, and nothing else. A handler asks for all
bytes of its request, never for more or fewer. -/
theorem loop_is_disk (buffers : Buffers configs geometry nrQueues)
    (reached : Reachable (loopServer geometry configs nrQueues memory file)
      (fun _ action => behaves geometry action.2 = true) server) :
    Guarded (loopLaw geometry file) server.log ∧ server.file = contentsAfter file server.log ∧
      Awaits geometry configs nrQueues server := by
  have sound : Sound configs geometry nrQueues file server := by
    induction reached with
    | initial =>
        refine ⟨guarded_nil, rfl, fun _ => rfl, ?_⟩
        intro queue _ tag _
        exact ⟨rfl, .inl rfl⟩
    | @next before after action _ permitted taken ih => exact ih.step buffers permitted taken
  exact ⟨sound.law, sound.contents, sound.awaits⟩

/-- A device of one sector, with two queues of one tag each. -/
def oneSector : Geometry := { fileSize := 512, maxIoBufBytes := 512 }

def twoQueues (queue : Nat) : Config :=
  { Batch.oneTag with qId := queue, bufBases := fun _ => BitVec.ofNat 64 (4096 * (queue + 1)) }

/-- A request for the sector, with the commit that ends it. -/
def serveRequest (queue : Nat) (op : BitVec 32) (payload : List UInt8) (count : Nat) : List (Nat × DeviceAction) :=
  [.queue (.worker 0 (.answered (.value 0) ⟨op, 1, 0, 0⟩)) payload, .queue (.worker 0 .run) [],
    .execute 0 (.transferred count), .queue (.worker 0 (.handled (.value (.int32 (BitVec.ofNat 32 count))))) [],
    .queue (.worker 0 .run) []].map fun action => (queue, action)

/-- The first two bytes of a write are transferred, and read back through the other queue;
then another read is with its handler. -/
theorem loop_is_disk_twoQueues :
    ∃ server, Reachable (loopServer oneSector twoQueues 2 (fun _ => 0) (fun _ => 0))
        (fun _ action => behaves oneSector action.2 = true) server ∧
      (1, .answered 0 ⟨0, 1, 0, 0⟩ 3 [7, 7, 0]) ∈ server.log ∧
      Guarded (loopLaw oneSector (fun _ => 0)) server.log ∧
      AsksFor oneSector ⟨0, 0, ⟨0, 1, 0, 0⟩, 4096⟩ (handleIo ⟨0, 0, ⟨0, 1, 0, 0⟩, 4096⟩) := by
  obtain ⟨server, reached, answered, pc, unfinished, iod⟩ :=
    exists_of_replay (loopServer oneSector twoQueues 2 (fun _ => 0) (fun _ => 0))
      (fun _ action => behaves oneSector action.2 = true)
      ((0, .queue (.worker 0 .run) []) :: (1, .queue (.worker 0 .run) []) ::
        serveRequest 0 1 (List.replicate 512 7) 2 ++ serveRequest 1 0 [] 3 ++ (serveRequest 0 0 [] 0).take 2)
      (fun server => (1, .answered 0 ⟨0, 1, 0, 0⟩ 3 [7, 7, 0]) ∈ server.log ∧
        ((server.queues 0).queue.workers 0).pc = .handling false ∧ (server.queues 0).done 0 = none ∧
        ((server.queues 0).queue.workers 0).iod = ⟨0, 1, 0, 0⟩) (by decide +kernel)
  have buffers : Buffers twoQueues oneSector 2 := by
    constructor
    · intro queue _
      change needAllocBuf Batch.oneTag.flags = true
      decide
    · intro queue inside tag tagInside other otherInside otherTag otherTagInside different
      have single : tag = otherTag := by
        simp only [twoQueues, Batch.oneTag] at tagInside otherTagInside
        omega
      have queues : queue ≠ other := fun same => different (by rw [same, single])
      obtain ⟨rfl, rfl⟩ | ⟨rfl, rfl⟩ : queue = 0 ∧ other = 1 ∨ queue = 1 ∧ other = 0 := by omega
      · left
        simp only [twoQueues, oneSector]
        decide
      · right
        simp only [twoQueues, oneSector]
        decide
  obtain ⟨law, _, awaits⟩ := loop_is_disk buffers reached
  have asks := awaits 0 (by decide) 0 (by decide) false pc unfinished
  rw [iod] at asks
  exact ⟨server, reached, answered, law, asks⟩

end Ublk.Loop
