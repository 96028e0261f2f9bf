import Ublk.Machine.Run
import Ublk.Shm.Session

namespace Ublk.Shm

open Ublk.Machine

/-! # The shm server

`shm_server_run` from the moment it listens: the accept loop, its sessions, the
driver's table of registered buffers and the map of a handler that does what the
guide describes. Everything spawned lives in one scope, and the server completes
when the scope is joined.
-/

/-- `owner` is the driver's table, with the session that registered an index. `map`
is kept by the handler: `handle_reg_shm` stores a region, `handle_unreg_shm` erases. -/
structure Server where
  sessions : Nat → Session
  accepted : Nat
  owner : Nat → Option Nat
  map : Nat → Option (Nat × Nat)
  accepting : Bool
  err : Option IoError
  joined : Bool

inductive ServerAction where
  | accept
  | acceptFailed (err : IoError)
  | acceptStopped
  | session (id : Nat) (action : Action)
  | join

/-- What the driver does in a step of a session: it gives out free indexes only, and
takes back registered ones. -/
def driver (owner : Nat → Option Nat) (id : Nat) (session : Session) :
    Action → Option (Nat → Option Nat)
  | .regExecuted index =>
      if owner index = none then some (Function.update owner index (some id)) else none
  | .cleanupExecuted guard =>
      match session.cleanups guard with
      | some task =>
          if owner task.index.toNat ≠ none then some (Function.update owner task.index.toNat none) else none
      | none => none
  | _ => some owner

def callbacks (map : Nat → Option (Nat × Nat)) (session : Session) :
    Action → Nat → Option (Nat × Nat)
  | .regObserved =>
      match session.pc with
      | .registered index => Function.update map index (some (session.base, session.size))
      | _ => map
  | .cleanupObserved guard =>
      match session.cleanups guard with
      | some task => Function.update map task.index.toNat none
      | none => map
  | _ => map

def Session.complete (session : Session) : Prop :=
  session.pc = .ended ∧ ∀ guard, ∀ task ∈ session.cleanups guard, task.pc = .ended

instance (session : Session) : Decidable session.complete :=
  decidable_of_iff (session.pc = .ended ∧ (∀ task ∈ session.cleanups .handle, task.pc = .ended) ∧
      ∀ task ∈ session.cleanups .session, task.pc = .ended) <| by
    refine and_congr_right fun _ => ⟨fun both guard => ?_, fun all => ⟨all .handle, all .session⟩⟩
    cases guard
    · exact both.1
    · exact both.2

namespace Server

variable (flags : BitVec 32)

/-- A session is started with a copy of the server's own. -/
def accept (server : Server) : Option Server :=
  if server.accepting then
    some { server with
      sessions := Function.update server.sessions server.accepted .new
      accepted := server.accepted + 1 }
  else none

/-- The accept loop ends by an error or a stop request. -/
def stopAccepting (server : Server) (err : Option IoError) : Option Server :=
  if server.accepting then some { server with accepting := false, err } else none

def runSession (server : Server) (id : Nat) (action : Action) : Option Server :=
  if id < server.accepted then
    match (server.sessions id).step flags action, driver server.owner id (server.sessions id) action with
    | some session, some owner =>
        some { server with
          sessions := Function.update server.sessions id session
          owner
          map := callbacks server.map (server.sessions id) action }
    | _, _ => none
  else none

def join (server : Server) : Option Server :=
  if server.accepting = false ∧ server.joined = false ∧ ∀ id < server.accepted, (server.sessions id).complete then
    some { server with joined := true }
  else none

def step (server : Server) : ServerAction → Option Server
  | .accept => server.accept
  | .acceptFailed err => server.stopAccepting (some err)
  | .acceptStopped => server.stopAccepting none
  | .session id action => server.runSession flags id action
  | .join => server.join

def initial : Server where
  sessions := fun _ => .new
  accepted := 0
  owner := fun _ => none
  map := fun _ => none
  accepting := true
  err := none
  joined := false

end Server

def shmServer (flags : BitVec 32) : System Server ServerAction where
  initial := Server.initial
  step := Server.step flags

def onSessions (allowed : Action → Bool) : ServerAction → Bool
  | .session _ action => allowed action
  | _ => true

variable {flags : BitVec 32} {server after : Server}

/-- Either one session takes a step, with its part of the driver and the handler, or
no session that was accepted changes. -/
inductive ServerMove (flags : BitVec 32) (server : Server) : ServerAction → Server → Prop where
  | accept (accepting : server.accepting = true) :
      ServerMove flags server .accept
        { server with
          sessions := Function.update server.sessions server.accepted .new
          accepted := server.accepted + 1 }
  | stopAccepting {action : ServerAction} {err : Option IoError}
      (accepting : server.accepting = true) :
      ServerMove flags server action { server with accepting := false, err }
  | session {id : Nat} {action : Action} {session : Session} {owner : Nat → Option Nat}
      (inside : id < server.accepted) (moved : Move flags (server.sessions id) action session)
      (driven : driver server.owner id (server.sessions id) action = some owner) :
      ServerMove flags server (.session id action)
        { server with
          sessions := Function.update server.sessions id session
          owner
          map := callbacks server.map (server.sessions id) action }
  | join (stopped : server.accepting = false)
      (complete : ∀ id < server.accepted, (server.sessions id).complete) :
      ServerMove flags server .join { server with joined := true }

theorem Server.step_move {action : ServerAction} (taken : server.step flags action = some after) :
    ServerMove flags server action after := by
  cases action with
  | accept =>
      simp only [step, accept, Option.ite_none_right_eq_some] at taken
      obtain ⟨accepting, taken⟩ := taken
      cases taken
      exact .accept accepting
  | acceptFailed err =>
      simp only [step, stopAccepting, Option.ite_none_right_eq_some] at taken
      obtain ⟨accepting, taken⟩ := taken
      cases taken
      exact .stopAccepting accepting
  | acceptStopped =>
      simp only [step, stopAccepting, Option.ite_none_right_eq_some] at taken
      obtain ⟨accepting, taken⟩ := taken
      cases taken
      exact .stopAccepting accepting
  | session id action =>
      simp only [step, runSession, Option.ite_none_right_eq_some] at taken
      obtain ⟨inside, taken⟩ := taken
      split at taken
      · rename_i session owner moved driven
        cases taken
        exact .session inside (Session.step_move moved) driven
      · contradiction
  | join =>
      simp only [step, join, Option.ite_none_right_eq_some] at taken
      obtain ⟨⟨stopped, _, complete⟩, taken⟩ := taken
      cases taken
      exact .join stopped complete

theorem unaccepted_new {permits : Server → ServerAction → Prop}
    (reached : Reachable (shmServer flags) permits server) :
    ∀ id, server.accepted ≤ id → server.sessions id = .new := by
  refine reached.invariant (fun server => ∀ id, server.accepted ≤ id → server.sessions id = .new)
    (fun _ _ => rfl) fun _ outside _ taken id bound => ?_
  cases Server.step_move taken with
  | accept =>
      simp only at bound ⊢
      rw [Function.update_of_ne (by omega)]
      exact outside id (by omega)
  | stopAccepting => exact outside id bound
  | session inside moved driven =>
      simp only at bound ⊢
      rw [Function.update_of_ne (by omega)]
      exact outside id bound
  | join => exact outside id bound

/-- A session stays as it is, is spawned, or takes a step of its own. -/
theorem Server.step_session {action : ServerAction} (taken : server.step flags action = some after)
    (id : Nat) :
    after.sessions id = server.sessions id ∨ after.sessions id = .new ∨
      ∃ own, action = .session id own ∧ (server.sessions id).step flags own = some (after.sessions id) := by
  cases action with
  | accept =>
      simp only [step, accept, Option.ite_none_right_eq_some] at taken
      obtain ⟨_, taken⟩ := taken
      cases taken
      by_cases equal : id = server.accepted
      · subst equal
        exact .inr (.inl (Function.update_self ..))
      · exact .inl (Function.update_of_ne equal ..)
  | acceptFailed err =>
      simp only [step, stopAccepting, Option.ite_none_right_eq_some] at taken
      obtain ⟨_, taken⟩ := taken
      cases taken
      exact .inl rfl
  | acceptStopped =>
      simp only [step, stopAccepting, Option.ite_none_right_eq_some] at taken
      obtain ⟨_, taken⟩ := taken
      cases taken
      exact .inl rfl
  | session own action =>
      simp only [step, runSession, Option.ite_none_right_eq_some] at taken
      obtain ⟨_, taken⟩ := taken
      split at taken
      · rename_i session owner moved driven
        cases taken
        by_cases equal : id = own
        · subst equal
          refine .inr (.inr ⟨action, rfl, ?_⟩)
          simpa only [Function.update_self] using moved
        · exact .inl (Function.update_of_ne equal ..)
      · contradiction
  | join =>
      simp only [step, join, Option.ite_none_right_eq_some] at taken
      obtain ⟨_, taken⟩ := taken
      cases taken
      exact .inl rfl

/-- The rule for a property of each session: it holds of a new session and its own
steps keep it. -/
theorem session_step_invariant {property : Session → Prop} {permits : Server → ServerAction → Prop}
    (allowed : Session → Action → Prop)
    (permitted : ∀ {server id action}, permits server (.session id action) → allowed (server.sessions id) action)
    (start : property .new)
    (kept : ∀ {session next action}, property session → allowed session action →
      session.step flags action = some next → property next)
    (reached : Reachable (shmServer flags) permits server) (id : Nat) :
    property (server.sessions id) := by
  induction reached with
  | initial => exact start
  | next _ allow taken ih =>
      rcases Server.step_session taken id with same | fresh | ⟨own, rfl, moved⟩
      · rw [same]
        exact ih
      · rw [fresh]
        exact start
      · exact kept ih (permitted allow) moved

/-- The same rule, with the step in the form of a `Move`. -/
theorem session_invariant {property : Session → Prop} {permits : Server → ServerAction → Prop}
    (allowed : Session → Action → Prop)
    (permitted : ∀ {server id action}, permits server (.session id action) → allowed (server.sessions id) action)
    (start : property .new)
    (kept : ∀ {session next action}, property session → allowed session action →
      Move flags session action next → property next)
    (reached : Reachable (shmServer flags) permits server) (id : Nat) :
    property (server.sessions id) :=
  session_step_invariant allowed permitted start
    (fun holds allow moved => kept holds allow (Session.step_move moved)) reached id

/-! ## Steps of a client that is served -/

/-- From the connection to the index in the driver's table. -/
def Server.registers (id index base size : Nat) : List ServerAction :=
  [.accept, .session id .started, .session id (.received (.value [3])),
    .session id (.stated (.value size) (.ok base)), .session id (.regQueried (.value ())),
    .session id (.regExecuted index)]

/-- The handler is told, and the client gets its result. -/
def Server.answers (id : Nat) : List ServerAction :=
  [.session id .regObserved, .session id (.regHandled (.value ())), .session id (.sent (.value ()))]

/-- The client closes the connection, and the driver takes the index back. -/
def Server.unregisters (id : Nat) : List ServerAction :=
  [.session id (.closed (.value 0)), .session id (.cleanupRun .session), .session id (.cleanupQueried .session none),
    .session id (.cleanupExecuted .session)]

end Ublk.Shm
