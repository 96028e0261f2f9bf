import Ublk.Machine.Story
import Ublk.Queue.Plain

namespace Ublk.Queue.Plain

open Ublk.Machine

/-! # The protocol of a tag

What is to be seen of a worker of the plain queue when the driver and the handler
give a certain sequence of answers: the commands and calls it makes, with the answers
between them.
-/

inductive Entry where
  | did (event : Event)
  | answered (reply : Reply)
  | registered (answer : Answer)
  | unregistered (answer : Answer)
deriving DecidableEq

def Action.entries : Action → List Entry
  | .run => []
  | .answered reply _ => [.answered reply]
  | .registered answer => [.registered answer]
  | .handled _ => []
  | .unregistered answer => [.unregistered answer]

/-- The answer, and what the worker does then. -/
def shown (before : State) (action : Action) (after : State) : List Entry :=
  action.entries ++ (after.history.drop before.history.length).map .did

/-- The end of a worker is told with its error. -/
abbrev Telling := Story Entry (Option QueueError)

/-- What the driver answers to a fetching command, to `NEED_GET_DATA` if that is
issued, and the descriptor it leaves. -/
structure FetchAnswer where
  reply : Reply
  getData : Reply
  iod : IoDesc

structure Round where
  reg : Answer
  outcome : IoOutcome
  unreg : Answer
  next : FetchAnswer

/-- An answer completes a fetch if it is not negative. -/
def completes (command : FetchCommand) (result : Int) (iod : IoDesc) : Telling :=
  if result = ublkIoResAbort then .stops none
  else if result < 0 then .stops (some (.system (-result) command.what))
  else .seen [.did (.delivered iod)]

/-- The outcome of registering or unregistering a buffer. -/
def passes : Answer → Telling
  | .ok => .silent
  | .error code => .stops (some (.system code ""))

variable (config : Config) (tag : Nat)

/-- `GETDATA` follows exactly a `NEED_GET_DATA` answer. -/
def awaits (command : FetchCommand) (answer : FetchAnswer) : Telling :=
  (Story.seen [.answered answer.reply]).followedBy <|
    if answer.reply.result = ublkIoResNeedGetData then
      (Story.seen [.did (.needGetData
          { qId := config.qId, tag, result := 0, addr := config.getBuf tag, sqeAddr := 0 }),
        .answered answer.getData]).followedBy (completes command answer.getData.result answer.iod)
    else completes command answer.reply.result answer.iod

/-- A commit has the result of the handler, and the zone address for a zone append. -/
def commits (iod : IoDesc) (res : BitVec 32) (zoneLba : BitVec 64) (next : FetchAnswer) : Telling :=
  (Story.seen [.did (.commitAndFetchReq iod
      { qId := config.qId
        tag
        result := res
        addr := if ublksrvGetOp iod = ublkIoOpZoneAppend then zoneLba else config.getBuf tag
        sqeAddr := sqeAddr config tag })]).followedBy (awaits config tag .commitAndFetchReq next)

def finishes (ioBuf : Bool) (iod : IoDesc) (res : BitVec 32) (zoneLba : BitVec 64) (round : Round) : Telling :=
  if ioBuf then
    ((Story.seen [.did (.unregisterIoBuf (ioBufCmd config.qId tag tag)), .unregistered round.unreg]).followedBy
      (passes round.unreg)).followedBy (commits config tag iod res zoneLba round.next)
  else commits config tag iod res zoneLba round.next

/-- From the call of the handler on; whatever it completes with, the turn goes on. -/
def handles (ioBuf : Bool) (iod : IoDesc) (round : Round) : Telling :=
  (Story.seen [.did (.handleIo { qId := config.qId, tag, iod, buf := config.getBuf tag } round.outcome)]).followedBy
    (finishes config tag ioBuf iod (wrapHandleIo round.outcome).1 (wrapHandleIo round.outcome).2 round)

/-- One turn of the loop for the request in `iod`. -/
def serves (ioBuf : Bool) (iod : IoDesc) (round : Round) : Telling :=
  if ioBuf then
    ((Story.seen [.did (.registerIoBuf (ioBufCmd config.qId tag tag)), .registered round.reg]).followedBy
      (passes round.reg)).followedBy (handles config tag ioBuf iod round)
  else handles config tag ioBuf iod round

def loops (iod : IoDesc) : List Round → Telling
  | [] => .silent
  | round :: rest =>
      (serves config tag (needIoBuf config.flags iod.opFlags) iod round).followedBy (loops round.next.iod rest)

/-- The whole of it: `FETCH`, and then as many turns as there are answers for. -/
def protocol (first : FetchAnswer) (rounds : List Round) : Telling :=
  ((Story.seen [.did (.fetchReq
      { qId := config.qId
        tag
        result := 0
        addr := config.getBuf tag
        sqeAddr := sqeAddr config tag })]).followedBy (awaits config tag .fetchReq first)).followedBy
    (loops config tag first.iod rounds)

/-! ## Every log is the beginning of a story -/

/-- Answers that are still to come: those of the turn the worker is in, and of later
turns. -/
structure Script where
  round : Round
  rounds : List Round

/-- What is to come, by where the worker is. -/
def later (state : State) (script : Script) : Telling :=
  match state.pc with
  | .start => protocol config tag script.round.next script.rounds
  | .fetching command =>
      (awaits config tag command script.round.next).followedBy
        (loops config tag script.round.next.iod script.rounds)
  | .gettingData command =>
      ((Story.seen [.answered script.round.next.getData]).followedBy
        (completes command script.round.next.getData.result script.round.next.iod)).followedBy
        (loops config tag script.round.next.iod script.rounds)
  | .serving ioBuf =>
      (serves config tag ioBuf state.iod script.round).followedBy
        (loops config tag script.round.next.iod script.rounds)
  | .registering =>
      (((Story.seen [.registered script.round.reg]).followedBy (passes script.round.reg)).followedBy
        (handles config tag true state.iod script.round)).followedBy
        (loops config tag script.round.next.iod script.rounds)
  | .handling ioBuf =>
      (handles config tag ioBuf state.iod script.round).followedBy
        (loops config tag script.round.next.iod script.rounds)
  | .handled ioBuf res zoneLba =>
      (finishes config tag ioBuf state.iod res zoneLba script.round).followedBy
        (loops config tag script.round.next.iod script.rounds)
  | .unregistering res zoneLba =>
      (((Story.seen [.unregistered script.round.unreg]).followedBy (passes script.round.unreg)).followedBy
        (commits config tag state.iod res zoneLba script.round.next)).followedBy
        (loops config tag script.round.next.iod script.rounds)
  | .ended err => .stops err

variable {config : Config} {tag : Nat} {state before after : State}

theorem shown_eq {action : Action} {events : List Event} (recorded : after.history = before.history ++ events) :
    shown before action after = action.entries ++ events.map .did := by
  simp [shown, recorded]

variable (config tag before)

variable {config tag before}

def Fits (ending : Option (Option QueueError)) (state : State) : Prop :=
  ∀ err, state.pc = .ended err ↔ ending = some err

/-- The worker goes on so that exactly `story` is to be seen of it. -/
abbrev Tells (config : Config) (tag : Nat) (story : Telling) (state : State) : Prop :=
  Follows (ioQueueWorker config tag) shown Fits story state

variable {rest : Telling} {answer : FetchAnswer} {round : Round}

theorem Tells.step (action : Action) (events : List Event)
    (taken : Plain.step config tag before action = some after)
    (recorded : after.history = before.history ++ events) (next : Tells config tag rest after) :
    Tells config tag ((Story.seen (action.entries ++ events.map .did)).followedBy rest) before :=
  Follows.step action taken (shown_eq recorded) next

theorem Tells.ended {err : Option QueueError} (pc : state.pc = .ended err) :
    Tells config tag (.stops err) state :=
  Follows.stops (by simp [Fits, pc])

end Ublk.Queue.Plain
