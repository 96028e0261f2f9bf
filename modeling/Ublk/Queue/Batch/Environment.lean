import Ublk.Queue.Batch.Model

namespace Ublk.Queue.Batch

/-! # What the environment of a run does

Conditions on the answers of the driver and on the end of the fetch, each on the
state before an action. A result about runs names the conditions it assumes.
-/

/-- The driver hands out tags it owns, each once in a delivery. -/
def ownedOnly (state : State) : Action → Bool
  | .deliver requests =>
      decide (requests.map Prod.fst).Nodup && requests.all fun request => state.held request.1
  | _ => true

def registersSucceed : Action → Bool
  | .registered _ answer => answer == .ok
  | _ => true

def unregistersSucceed : Action → Bool
  | .unregistered _ answer => answer == .ok
  | _ => true

def commitsInFull (state : State) : Action → Bool
  | .commitAnswer answer =>
      match state.flusher with
      | .committing _ nr => answer == .accepted nr
      | _ => true
  | _ => true

/-- The driver refuses nothing the queue asks for. -/
def refusesNothing (state : State) (action : Action) : Bool :=
  registersSucceed action && unregistersSucceed action && commitsInFull state action

def fetchGoesOn : Action → Bool
  | .fetchEnd _ => false
  | _ => true

def fetchNotStopped : Action → Bool
  | .fetchEnd .stopped => false
  | _ => true

def fetchAborts : Action → Bool
  | .fetchEnd ended => ended == .error enodev
  | _ => true

/-- The driver ends the fetch only when it owns every tag. -/
def fetchEndsIdle (config : Config) (state : State) : Action → Bool
  | .fetchEnd _ => (List.range config.queueDepth).all state.held
  | _ => true

/-- The fetch ends while every request that `fetch_cb` was given has been taken up. -/
def fetchEndsUnflagged (config : Config) (state : State) : Action → Bool
  | .fetchEnd _ => (List.range config.queueDepth).all fun tag => !(state.workers tag).flag
  | _ => true

/-- Zone appends go to zoned devices, which copy no data through a buffer. -/
def zoneAppendsZoned (config : Config) : Action → Bool
  | .deliver requests => requests.all fun request =>
      !(ublksrvGetOp request.2 == ublkIoOpZoneAppend) ||
        (config.needFZoneLba && !needAllocBuf config.flags)
  | _ => true

/-- Everything but a new delivery and the end of the fetch: the coroutines of the
queue, the completions of the commands they issued, and the handler. -/
def queueSide : Action → Bool
  | .deliver _ => false
  | .fetchEnd _ => false
  | _ => true

/-- A queue of one tag without optional features, for runs on fixed inputs. -/
def oneTag : Config where
  qId := 0
  flags := 0
  queueDepth := 1
  pageShift := 12
  bufBases := fun _ => 0x1000
  depthBound := by decide
  pageBound := by decide

/-- The start of `oneTag`: the flusher and the worker go to sleep. -/
def oneTagAsleep : List Action := [.flusherRun, .workerRun 0]

def oneTagGiven : List Action := oneTagAsleep ++ [.deliver [(0, default)], .fetchCb]

def oneTagFilled : List Action := oneTagGiven ++ [.workerRun 0, .handled 0 (.value (.int32 0))]

def twoTags : Config := { oneTag with queueDepth := 2, depthBound := by decide }

/-- While one result is with the driver the other goes to the second half of the commit
buffer, and that of the next request behind it. -/
def twoTagsFlipped : List Action :=
  [.flusherRun, .workerRun 0, .workerRun 1, .deliver [(0, default), (1, default)], .fetchCb,
    .workerRun 0, .handled 0 (.value (.int32 0)), .flusherRun,
    .workerRun 1, .handled 1 (.value (.int32 0)), .commitAnswer (.accepted 1),
    .deliver [(0, default)], .fetchCb, .workerRun 0, .handled 0 (.value (.int32 0))]

end Ublk.Queue.Batch
