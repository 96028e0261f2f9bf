import Ublk.Data.Buffer
import Ublk.Shm.Release

namespace Ublk.Shm

open Ublk.Data Ublk.Machine

/-! # `shm_server_run`

The server from its socket to its end. What is acquired on the way is released by two
guards: one closes the socket, and one, from the moment the name is bound, removes it.
In between the server serves until its scope is joined. A stop request may stop any
operation that is awaited except that join, which waits for all that was spawned.
-/

def sizeofSunPath : Nat := 108
def enoent : BitVec 32 := 2

/-- `addr.sun_path`: the caller's path and a NUL over zeroes. -/
def sunPath (path : List UInt8) : List UInt8 := overwrite (List.replicate sizeofSunPath 0) (path ++ [0])

/-- Where a socket is bound: to a name in the file system, or in the abstract namespace. -/
inductive Address where
  | file (name : List UInt8)
  | abstract (name : List UInt8)
deriving DecidableEq, Repr

/-- What others can see. `unlink` and `bind` are the operations as issued, `bound` and
`listening` their success; `released` and `closed` are the guards. -/
inductive RunEvent where
  | created (fd : Int)
  | unlink (name : List UInt8)
  | bind (fd : Int) (address : Address)
  | bound (address : Address)
  | listen (fd : Int) (backlog : Nat)
  | listening
  | released (name : List UInt8)
  | closed (fd : Int)
deriving DecidableEq, Repr

inductive RunError where
  | failed (err : IoError)
  | lengthError (what : String)
  | systemError (code : BitVec 32) (what : String)
deriving DecidableEq, Repr

inductive RunEnd where
  | value
  | error (err : RunError)
  | stopped
deriving DecidableEq, Repr

inductive Stage where
  | creating
  | unlinking (fd : Int)
  | binding (fd : Int)
  | startingToListen (fd : Int)
  | serving (fd : Int)
  | ended (how : RunEnd)
deriving DecidableEq, Repr

structure ServerRun where
  stage : Stage
  server : Server
  history : List RunEvent

inductive UnlinkEnd where
  | done
  | failed (code : BitVec 32)
  | stopped
deriving DecidableEq, Repr

inductive ServerRunAction where
  | created (answer : Awaited Int)
  | unlinked (answer : UnlinkEnd)
  | bound (answer : Awaited Unit)
  | listening (answer : Awaited Unit)
  | serve (action : ServerAction)

/-- How an operation ends the run that does not complete with a value. -/
def Awaited.end {α : Type} : Awaited α → RunEnd
  | .value _ => .value
  | .error err => .error (.failed err)
  | .stopped => .stopped

namespace ServerRun

variable (flags : BitVec 32) (path : List UInt8)

/-- The name that `unlink` sees. -/
def name : List UInt8 := cString (sunPath path)

/-- The address that `bind` sees in a structure of full length: where `sun_path` begins with
a NUL, all of it is a name, and not one in the file system. -/
def address : Address := if name path = [] then .abstract (sunPath path) else .file (name path)

/-- The guards on the way out of a run whose name may be bound. -/
def leave (run : ServerRun) (fd : Int) (bound : Bool) (how : RunEnd) : ServerRun :=
  { run with
    stage := .ended how
    history := run.history ++ (if bound then [.released (name path)] else []) ++ [.closed fd] }

def created (run : ServerRun) (answer : Awaited Int) : Option ServerRun :=
  match run.stage, answer with
  | .creating, .value fd =>
      let run : ServerRun := { run with history := run.history ++ [.created fd] }
      if path.length ≥ sizeofSunPath then
        some (run.leave path fd false (.error (.lengthError "unix path too long")))
      else some { run with stage := .unlinking fd, history := run.history ++ [.unlink (name path)] }
  | .creating, answer => some { run with stage := .ended answer.end }
  | _, _ => none

/-- Nothing to unlink is as good as an unlinked file. -/
def unlinked (run : ServerRun) (answer : UnlinkEnd) : Option ServerRun :=
  match run.stage with
  | .unlinking fd =>
      let goOn : ServerRun :=
        { run with stage := .binding fd, history := run.history ++ [.bind fd (address path)] }
      match answer with
      | .done => some goOn
      | .failed code =>
          if code ≠ enoent then some (run.leave path fd false (.error (.systemError code "unlink")))
          else some goOn
      | .stopped => some (run.leave path fd false .stopped)
  | _ => none

def bound (run : ServerRun) (answer : Awaited Unit) : Option ServerRun :=
  match run.stage, answer with
  | .binding fd, .value _ =>
      some { run with
        stage := .startingToListen fd
        history := run.history ++ [.bound (address path), .listen fd 128] }
  | .binding fd, answer => some (run.leave path fd false answer.end)
  | _, _ => none

def listening (run : ServerRun) (answer : Awaited Unit) : Option ServerRun :=
  match run.stage, answer with
  | .startingToListen fd, .value _ =>
      some { run with stage := .serving fd, history := run.history ++ [.listening] }
  | .startingToListen fd, answer => some (run.leave path fd true answer.end)
  | _, _ => none

/-- The error of the accept loop is thrown again behind the join. -/
def verdict (server : Server) : RunEnd :=
  match server.err with
  | some err => .error (.failed err)
  | none => .value

def serve (run : ServerRun) (action : ServerAction) : Option ServerRun :=
  match run.stage with
  | .serving fd =>
      match run.server.step flags action with
      | none => none
      | some server =>
          let run := { run with server }
          if server.joined then some (run.leave path fd true (verdict server)) else some run
  | _ => none

def step (run : ServerRun) : ServerRunAction → Option ServerRun
  | .created answer => run.created path answer
  | .unlinked answer => run.unlinked path answer
  | .bound answer => run.bound path answer
  | .listening answer => run.listening path answer
  | .serve action => run.serve flags path action

end ServerRun

def shmServerRun (flags : BitVec 32) (path : List UInt8) : System ServerRun ServerRunAction where
  initial := { stage := .creating, server := .initial, history := [] }
  step := ServerRun.step flags path

/-! ## How it concludes -/

section Conclusion

variable {flags : BitVec 32} {path : List UInt8} {run after : ServerRun} {action : ServerRunAction}

/-- What has been done up to each stage. -/
def trail (path : List UInt8) (fd : Int) : List RunEvent :=
  [.created fd, .unlink (ServerRun.name path), .bind fd (ServerRun.address path),
    .bound (ServerRun.address path), .listen fd 128, .listening]

/-- The ways a run ends, by the operation that did not succeed. The server was joined
exactly when it served. -/
inductive Conclusion (path : List UInt8) (server : Server) : RunEnd → List RunEvent → Prop where
  | noSocket {how : RunEnd} (fails : how ≠ .value) (unserved : server = .initial) :
      Conclusion path server how []
  | tooLong (fd : Int) (long : sizeofSunPath ≤ path.length) (unserved : server = .initial) :
      Conclusion path server (.error (.lengthError "unix path too long")) [.created fd, .closed fd]
  | unbound {how : RunEnd} (fd : Int) (count : Nat) (short : path.length < sizeofSunPath) (early : count = 2 ∨ count = 3)
      (fails : how ≠ .value) (unserved : server = .initial) :
      Conclusion path server how ((trail path fd).take count ++ [.closed fd])
  | unserved {how : RunEnd} (fd : Int) (short : path.length < sizeofSunPath) (fails : how ≠ .value)
      (unserved : server = .initial) :
      Conclusion path server how ((trail path fd).take 5 ++ [.released (ServerRun.name path), .closed fd])
  | served (fd : Int) (short : path.length < sizeofSunPath) (joined : server.joined = true) :
      Conclusion path server (ServerRun.verdict server)
        (trail path fd ++ [.released (ServerRun.name path), .closed fd])

def Progressed (path : List UInt8) (fd : Int) (count : Nat) (run : ServerRun) : Prop :=
  path.length < sizeofSunPath ∧ run.history = (trail path fd).take count ∧ run.server = .initial

def Stands (flags : BitVec 32) (path : List UInt8) (run : ServerRun) : Prop :=
  Reachable (shmServer flags) (fun _ _ => True) run.server ∧
  match run.stage with
  | .creating => run.history = [] ∧ run.server = .initial
  | .unlinking fd => Progressed path fd 2 run
  | .binding fd => Progressed path fd 3 run
  | .startingToListen fd => Progressed path fd 5 run
  | .serving fd => path.length < sizeofSunPath ∧ run.history = trail path fd ∧ run.server.joined = false
  | .ended how => Conclusion path run.server how run.history

theorem Awaited.end_ne_value {α : Type} {answer : Awaited α} (fails : ∀ value, answer ≠ .value value) :
    answer.end ≠ .value := by
  cases answer with
  | value value => exact absurd rfl (fails value)
  | error err => simp [Awaited.end]
  | stopped => simp [Awaited.end]

theorem Stands.created (stands : Stands flags path run) {answer : Awaited Int}
    (taken : run.created path answer = some after) : Stands flags path after := by
  obtain ⟨reached, here⟩ := stands
  simp only [ServerRun.created] at taken
  split at taken
  · rename_i fd stage
    simp only [stage] at here
    obtain ⟨empty, fresh⟩ := here
    split at taken
    · rename_i long
      cases taken
      refine ⟨reached, ?_⟩
      simp only [ServerRun.leave, empty]
      exact .tooLong fd long fresh
    · rename_i short
      cases taken
      exact ⟨reached, Nat.lt_of_not_le short, by simp only [empty]; rfl, fresh⟩
  · rename_i stage fails
    simp only [stage] at here
    obtain ⟨empty, fresh⟩ := here
    cases taken
    refine ⟨reached, ?_⟩
    simp only [empty]
    exact .noSocket (Awaited.end_ne_value fails) fresh
  · contradiction

theorem Stands.unlinked (stands : Stands flags path run) {answer : UnlinkEnd}
    (taken : run.unlinked path answer = some after) : Stands flags path after := by
  obtain ⟨reached, here⟩ := stands
  simp only [ServerRun.unlinked] at taken
  split at taken
  case h_2 => contradiction
  rename_i fd stage
  simp only [stage] at here
  obtain ⟨short, trailed, fresh⟩ := here
  have leaves {how : RunEnd} (fails : how ≠ .value) : Stands flags path (run.leave path fd false how) := by
    refine ⟨reached, ?_⟩
    simp only [ServerRun.leave, trailed]
    exact .unbound fd 2 short (.inl rfl) fails fresh
  have goesOn : Stands flags path
      ⟨.binding fd, run.server, run.history ++ [.bind fd (ServerRun.address path)]⟩ :=
    ⟨reached, short, by simp only [trailed]; rfl, fresh⟩
  cases answer with
  | done =>
      cases taken
      exact goesOn
  | failed code =>
      simp only at taken
      split at taken
      · cases taken
        exact leaves (by simp)
      · cases taken
        exact goesOn
  | stopped =>
      cases taken
      exact leaves (by simp)

theorem Stands.bound (stands : Stands flags path run) {answer : Awaited Unit}
    (taken : run.bound path answer = some after) : Stands flags path after := by
  obtain ⟨reached, here⟩ := stands
  simp only [ServerRun.bound] at taken
  split at taken
  · rename_i fd value stage
    simp only [stage] at here
    obtain ⟨short, trailed, fresh⟩ := here
    cases taken
    exact ⟨reached, short, by simp only [trailed]; rfl, fresh⟩
  · rename_i fd stage fails
    simp only [stage] at here
    obtain ⟨short, trailed, fresh⟩ := here
    cases taken
    refine ⟨reached, ?_⟩
    simp only [ServerRun.leave, trailed]
    exact .unbound fd 3 short (.inr rfl) (Awaited.end_ne_value fails) fresh
  · contradiction

theorem Stands.listening (stands : Stands flags path run) {answer : Awaited Unit}
    (taken : run.listening path answer = some after) : Stands flags path after := by
  obtain ⟨reached, here⟩ := stands
  simp only [ServerRun.listening] at taken
  split at taken
  · rename_i fd value stage
    simp only [stage] at here
    obtain ⟨short, trailed, fresh⟩ := here
    cases taken
    exact ⟨reached, short, by simp only [trailed]; rfl, by simp only [fresh]; rfl⟩
  · rename_i fd stage fails
    simp only [stage] at here
    obtain ⟨short, trailed, fresh⟩ := here
    cases taken
    refine ⟨reached, ?_⟩
    simp only [ServerRun.leave, trailed]
    exact .unserved fd short (Awaited.end_ne_value fails) fresh
  · contradiction

theorem Stands.serve (stands : Stands flags path run) {action : ServerAction}
    (taken : run.serve flags path action = some after) : Stands flags path after := by
  obtain ⟨reached, here⟩ := stands
  simp only [ServerRun.serve] at taken
  split at taken
  case h_2 => contradiction
  rename_i fd stage
  simp only [stage] at here
  obtain ⟨short, trailed, going⟩ := here
  split at taken
  · contradiction
  rename_i server moved
  have later : Reachable (shmServer flags) (fun _ _ => True) server := reached.next trivial moved
  split at taken
  · rename_i joined
    cases taken
    refine ⟨later, ?_⟩
    simp only [ServerRun.leave, trailed]
    exact .served fd short joined
  · rename_i unjoined
    cases taken
    refine ⟨later, ?_⟩
    simp only [stage]
    exact ⟨short, trailed, by simpa using unjoined⟩

theorem Stands.step (stands : Stands flags path run) (taken : run.step flags path action = some after) :
    Stands flags path after := by
  cases action with
  | created answer => exact stands.created taken
  | unlinked answer => exact stands.unlinked taken
  | bound answer => exact stands.bound taken
  | listening answer => exact stands.listening taken
  | serve action => exact stands.serve taken

theorem Stands.reachable {permits : ServerRun → ServerRunAction → Prop}
    (reached : Reachable (shmServerRun flags path) permits run) : Stands flags path run := by
  induction reached with
  | initial => exact ⟨.initial, rfl, rfl⟩
  | next _ _ taken ih => exact ih.step taken

/-- The name that an event removes from the file system. -/
def RunEvent.name : RunEvent → Option (List UInt8)
  | .unlink name => some name
  | .released name => some name
  | _ => none

def RunEvent.address : RunEvent → Option Address
  | .bind _ address => some address
  | .bound address => some address
  | _ => none

/-- `unlink` sees the caller's path up to its first NUL. -/
theorem name_eq (path : List UInt8) : ServerRun.name path = cString path := by
  rw [ServerRun.name, sunPath, overwrite, List.append_assoc]
  exact cString_append_nul path _

theorem sunPath_eq (short : path.length < sizeofSunPath) :
    sunPath path = path ++ List.replicate (sizeofSunPath - path.length) 0 := by
  obtain ⟨more, rest⟩ : ∃ more, sizeofSunPath - path.length = more + 1 :=
    ⟨sizeofSunPath - path.length - 1, by omega⟩
  have behind : sizeofSunPath - (path.length + 1) = more := by omega
  rw [sunPath, overwrite, List.drop_replicate, List.length_append, List.length_singleton, behind, rest,
    List.replicate_succ, List.append_assoc, List.singleton_append]

/-- The caller's path as an address: what is in front of its first NUL, unless that is
nothing. -/
def addressOf (path : List UInt8) : Address :=
  if cString path = [] then .abstract (path ++ List.replicate (sizeofSunPath - path.length) 0)
  else .file (cString path)

theorem address_eq (short : path.length < sizeofSunPath) : ServerRun.address path = addressOf path := by
  rw [ServerRun.address, addressOf, name_eq, sunPath_eq short]

/-- What holds of a run that has ended. -/
structure Concluded (path : List UInt8) (run : ServerRun) (how : RunEnd) : Prop where
  closes : ∀ fd, .created fd ∈ run.history →
    ∃ before, run.history = before ++ [.closed fd] ∧ ∀ other, .closed other ∉ before
  releases : run.history.count (.released (cString path)) = run.history.count (.bound (addressOf path)) ∧
    run.history.count (.bound (addressOf path)) ≤ 1
  names : ∀ event ∈ run.history, ∀ name ∈ event.name,
    name = cString path ∧ path.length < sizeofSunPath
  addresses : ∀ event ∈ run.history, ∀ address ∈ event.address,
    address = addressOf path ∧ path.length < sizeofSunPath
  complete : ∀ id < run.server.accepted, (run.server.sessions id).complete
  value : how = .value ↔ .listening ∈ run.history ∧ run.server.err = none
  thrown : ∀ err, run.server.err = some err → how = .error (.failed err)

theorem verdict_eq_value (server : Server) : ServerRun.verdict server = .value ↔ server.err = none := by
  rw [ServerRun.verdict]
  cases server.err <;> simp

/-- The last event closes the only socket. -/
theorem closes_last (front : List RunEvent) (fd : Int) (own : ∀ other, .created other ∈ front → other = fd)
    (opened : ∀ other, .closed other ∉ front) :
    ∀ other, RunEvent.created other ∈ front ++ [.closed fd] →
      ∃ before, front ++ [.closed fd] = before ++ [.closed other] ∧ ∀ other, .closed other ∉ before := by
  intro other member
  have created : RunEvent.created other ∈ front := by simpa using member
  cases own other created
  exact ⟨front, rfl, opened⟩

theorem Conclusion.closes {server : Server} {how : RunEnd} {history : List RunEvent}
    (conclusion : Conclusion path server how history) :
    ∀ fd, .created fd ∈ history →
      ∃ before, history = before ++ [.closed fd] ∧ ∀ other, .closed other ∉ before := by
  cases conclusion with
  | noSocket => simp
  | tooLong fd => exact closes_last [.created fd] fd (by simp) (by simp)
  | unbound fd count short early =>
      apply closes_last
      · rcases early with rfl | rfl <;> simp [trail]
      · rcases early with rfl | rfl <;> simp [trail]
  | unserved fd => exact closes_last ((trail path fd).take 5 ++ [.released _]) fd (by simp [trail]) (by simp [trail])
  | served fd => exact closes_last (trail path fd ++ [.released _]) fd (by simp [trail]) (by simp [trail])

theorem Conclusion.releases {server : Server} {how : RunEnd} {history : List RunEvent}
    (conclusion : Conclusion path server how history) :
    history.count (.released (cString path)) = history.count (.bound (addressOf path)) ∧
      history.count (.bound (addressOf path)) ≤ 1 := by
  rw [← name_eq path]
  cases conclusion with
  | noSocket => simp
  | tooLong => simp
  | unbound fd count short early => rcases early with rfl | rfl <;> simp [trail]
  | unserved fd short => simp [trail, address_eq short]
  | served fd short => simp [trail, address_eq short]

theorem Conclusion.names {server : Server} {how : RunEnd} {history : List RunEvent}
    (conclusion : Conclusion path server how history) :
    ∀ event ∈ history, ∀ name ∈ event.name, name = cString path ∧ path.length < sizeofSunPath := by
  rw [← name_eq path]
  cases conclusion with
  | noSocket => simp
  | tooLong => simp [RunEvent.name]
  | unbound fd count short early => rcases early with rfl | rfl <;> simp [trail, RunEvent.name, short]
  | unserved fd short => simp [trail, RunEvent.name, short]
  | served fd short => simp [trail, RunEvent.name, short]

theorem Conclusion.addresses {server : Server} {how : RunEnd} {history : List RunEvent}
    (conclusion : Conclusion path server how history) :
    ∀ event ∈ history, ∀ address ∈ event.address, address = addressOf path ∧ path.length < sizeofSunPath := by
  cases conclusion with
  | noSocket => simp
  | tooLong => simp [RunEvent.address]
  | unbound fd count short early =>
      rcases early with rfl | rfl <;> simp [trail, RunEvent.address, short, address_eq short]
  | unserved fd short => simp [trail, RunEvent.address, short, address_eq short]
  | served fd short => simp [trail, RunEvent.address, short, address_eq short]

theorem Conclusion.verdict {server : Server} {how : RunEnd} {history : List RunEvent}
    (conclusion : Conclusion path server how history) :
    (how = .value ↔ .listening ∈ history ∧ server.err = none) ∧
      ∀ err, server.err = some err → how = .error (.failed err) := by
  cases conclusion with
  | noSocket fails unserved => simp [unserved, Server.initial, fails]
  | tooLong fd long unserved => simp [unserved, Server.initial]
  | unbound fd count short early fails unserved =>
      rcases early with rfl | rfl <;> simp [unserved, Server.initial, fails, trail]
  | unserved fd short fails unserved => simp [unserved, Server.initial, fails, trail]
  | served fd short joined =>
      constructor
      · simp [verdict_eq_value, trail]
      · intro err failed
        rw [ServerRun.verdict, failed]

theorem Conclusion.complete {server : Server} {how : RunEnd} {history : List RunEvent}
    (conclusion : Conclusion path server how history)
    (reached : Reachable (shmServer flags) (fun _ _ => True) server) :
    ∀ id < server.accepted, (server.sessions id).complete := by
  cases conclusion with
  | served fd short joined => exact (joined_complete reached joined).2
  | noSocket fails unserved => simp [unserved, Server.initial]
  | tooLong fd long unserved => simp [unserved, Server.initial]
  | unbound fd count short early fails unserved => simp [unserved, Server.initial]
  | unserved fd short fails unserved => simp [unserved, Server.initial]

/-- However `shm_server_run` ends: the socket it created is closed, once and last; what is
removed is the caller's path, if that fits and up to a NUL, and behind the accept loop
exactly if the socket was bound, to that path or in the abstract namespace if it is empty;
every session is over with its clean-up; and it succeeds exactly if it listened and the
accept loop did not fail. -/
theorem shm_run_concludes {how : RunEnd}
    (reached : Reachable (shmServerRun flags path) (fun _ _ => True) run) (ended : run.stage = .ended how) :
    Concluded path run how := by
  obtain ⟨served, stands⟩ := Stands.reachable reached
  simp only [ended] at stands
  obtain ⟨value, thrown⟩ := stands.verdict
  exact {
    closes := stands.closes
    releases := stands.releases
    names := stands.names
    addresses := stands.addresses
    complete := stands.complete served
    value
    thrown }

/-- From the socket to the accept loop, where there was nothing to unlink. -/
def ServerRun.listens (fd : Int) : List ServerRunAction :=
  [.created (.value fd), .unlinked (.failed enoent), .bound (.value ()), .listening (.value ())]

/-- One client comes and goes, and the server is stopped. -/
theorem shm_run_concludes_oneClient :
    ∃ run, Reachable (shmServerRun 0 [47]) (fun _ _ => True) run ∧ run.stage = .ended .value ∧
      Concluded [47] run .value := by
  obtain ⟨run, reached, ended⟩ :=
    exists_of_replay (shmServerRun 0 [47]) (fun _ _ => True)
      (ServerRun.listens 5 ++ List.map .serve (Server.registers 0 7 4096 64 ++ Server.answers 0 ++ [.acceptStopped] ++
        Server.unregisters 0 ++ [.session 0 (.cleanupObserved .session), .join]))
      (fun run => run.stage = .ended .value) (by decide)
  exact ⟨run, reached, ended, shm_run_concludes reached ended⟩

end Conclusion

end Ublk.Shm
