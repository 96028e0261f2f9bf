import Ublk.Machine.Run
import Ublk.Queue.Trace

namespace Ublk.Queue.Plain

open Ublk.Machine

/-! # `IoQueue::worker_`

The coroutine of one tag of the plain queue. It shares nothing with the workers of
other tags, so it is a system of its own. A step ends at every suspension and at
every event, which is finer than the scheduling and cannot be observed from outside.
-/

/-- The two commands that return a request, and their name in an error. -/
inductive FetchCommand where
  | fetchReq
  | commitAndFetchReq
deriving DecidableEq, Repr

def FetchCommand.what : FetchCommand → String
  | .fetchReq => "fetch_req"
  | .commitAndFetchReq => "commit_and_fetch_req"

/-- Commands are recorded when they are issued, a commit with the request it ends. -/
inductive Event where
  | fetchReq (cmd : IoCmd)
  | needGetData (cmd : IoCmd)
  | delivered (iod : IoDesc)
  | registerIoBuf (cmd : IoCmd)
  | handleIo (data : IoData) (outcome : IoOutcome)
  | unregisterIoBuf (cmd : IoCmd)
  | commitAndFetchReq (iod : IoDesc) (cmd : IoCmd)
deriving DecidableEq, Repr

/-- What the driver answers to a fetching command; `upon_error` negates an error. -/
inductive Reply where
  | value (res : Int)
  | error (code : Int)
deriving DecidableEq, Repr

def Reply.result : Reply → Int
  | .value res => res
  | .error code => -code

/-- Where the worker is: waiting for a command or for the handler, or, at
`serving` and `handled`, before the next event. -/
inductive Pc where
  | start
  | fetching (command : FetchCommand)
  | gettingData (command : FetchCommand)
  | serving (ioBuf : Bool)
  | registering
  | handling (ioBuf : Bool)
  | handled (ioBuf : Bool) (res : BitVec 32) (zoneLba : BitVec 64)
  | unregistering (res : BitVec 32) (zoneLba : BitVec 64)
  | ended (err : Option QueueError)
deriving DecidableEq, Repr

/-- `iod` is the descriptor slot of the tag. -/
structure State where
  pc : Pc
  iod : IoDesc
  history : List Event
deriving DecidableEq, Repr

/-- While a fetching command is in flight the driver may rewrite the slot. -/
inductive Action where
  | run
  | answered (reply : Reply) (iod : IoDesc)
  | registered (answer : Answer)
  | handled (outcome : IoOutcome)
  | unregistered (answer : Answer)
deriving DecidableEq, Repr

def State.record (state : State) (event : Event) : State :=
  { state with history := state.history ++ [event] }

variable (config : Config) (tag : Nat)

def sqeAddr : BitVec 64 :=
  if hasFlag config.flags ublkFAutoBufReg then
    ublkAutoBufRegToSqeAddr
      { index := BitVec.ofNat 16 tag, flags := ublkAutoBufRegFallback, reserved0 := 0, reserved1 := 0 }
  else 0

def fetch (state : State) : State :=
  let cmd : IoCmd :=
    { qId := config.qId, tag, result := 0, addr := config.getBuf tag, sqeAddr := sqeAddr config tag }
  { state.record (.fetchReq cmd) with pc := .fetching .fetchReq }

def needGetData (command : FetchCommand) (state : State) : State :=
  let cmd : IoCmd := { qId := config.qId, tag, result := 0, addr := config.getBuf tag, sqeAddr := 0 }
  { state.record (.needGetData cmd) with pc := .gettingData command }

/-- The checks behind a fetching command, and the top of the loop. -/
def fetched (command : FetchCommand) (r : Int) (state : State) : State :=
  if r = ublkIoResAbort then { state with pc := .ended none }
  else if r < 0 then { state with pc := .ended (some (.system (-r) command.what)) }
  else
    let ioBuf := needIoBuf config.flags state.iod.opFlags
    { state.record (.delivered state.iod) with pc := .serving ioBuf }

/-- The commit that ends the loop body. A zone append returns its address in place
of the buffer, which such a device does not have. -/
def commitAndFetch (res : BitVec 32) (zoneLba : BitVec 64) (state : State) : State :=
  let currBufAddr := if ublksrvGetOp state.iod = ublkIoOpZoneAppend then zoneLba else config.getBuf tag
  let cmd : IoCmd :=
    { qId := config.qId, tag, result := res, addr := currBufAddr, sqeAddr := sqeAddr config tag }
  { state.record (.commitAndFetchReq state.iod cmd) with pc := .fetching .commitAndFetchReq }

def run (state : State) : Option State :=
  match state.pc with
  | .start => some (fetch config tag state)
  | .serving true =>
      some { state.record (.registerIoBuf (ioBufCmd config.qId tag tag)) with pc := .registering }
  | .serving false => some { state with pc := .handling false }
  | .handled true res zoneLba =>
      some { state.record (.unregisterIoBuf (ioBufCmd config.qId tag tag)) with
        pc := .unregistering res zoneLba }
  | .handled false res zoneLba => some (commitAndFetch config tag res zoneLba state)
  | _ => none

def answered (reply : Reply) (iod : IoDesc) (state : State) : Option State :=
  match state.pc with
  | .fetching command =>
      let r := reply.result
      if r = ublkIoResNeedGetData then some (needGetData config tag command { state with iod })
      else some (fetched config command r { state with iod })
  | .gettingData command => some (fetched config command reply.result { state with iod })
  | _ => none

def registered (answer : Answer) (state : State) : Option State :=
  match state.pc, answer with
  | .registering, .ok => some { state with pc := .handling true }
  | .registering, .error code => some { state with pc := .ended (some (.system code "")) }
  | _, _ => none

def handled (outcome : IoOutcome) (state : State) : Option State :=
  match state.pc with
  | .handling ioBuf =>
      let ioData : IoData := { qId := config.qId, tag, iod := state.iod, buf := config.getBuf tag }
      let (res, zoneLba) := wrapHandleIo outcome
      some { state.record (.handleIo ioData outcome) with pc := .handled ioBuf res zoneLba }
  | _ => none

def unregistered (answer : Answer) (state : State) : Option State :=
  match state.pc, answer with
  | .unregistering res zoneLba, .ok => some (commitAndFetch config tag res zoneLba state)
  | .unregistering _ _, .error code => some { state with pc := .ended (some (.system code "")) }
  | _, _ => none

def step (state : State) : Action → Option State
  | .run => run config tag state
  | .answered reply iod => answered config tag reply iod state
  | .registered answer => registered answer state
  | .handled outcome => handled config tag outcome state
  | .unregistered answer => unregistered config tag answer state

def initial : State where
  pc := .start
  iod := default
  history := []

def ioQueueWorker : System State Action where
  initial := initial
  step := step config tag

/-- The event of the tag that an event of the worker is; commands that only fetch
have no counterpart in the batched queue. -/
def Event.tagEvent (flags : BitVec 64) : Event → Option TagEvent
  | .fetchReq _ => none
  | .needGetData _ => none
  | .delivered iod => some (.delivered iod)
  | .registerIoBuf cmd => some (.registerIoBuf cmd)
  | .handleIo data outcome => some (.handleIo data outcome)
  | .unregisterIoBuf cmd => some (.unregisterIoBuf cmd)
  | .commitAndFetchReq iod cmd => some (.commit (commitAndFetchView flags iod cmd))

def State.trace (flags : BitVec 64) (state : State) : List TagEvent :=
  state.history.filterMap (Event.tagEvent flags)

end Ublk.Queue.Plain
