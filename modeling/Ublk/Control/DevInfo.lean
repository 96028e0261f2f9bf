import Ublk.Control.Operations

namespace Ublk.Control

open Ublk.Data

/-! # Querying the device info

`control_get_dev_info_t::invoke` with its `retry` loop. A completed command is its
result word and, where it succeeded, what the driver wrote into the payload; an
error code is negated twice on the way, so the code sees the result word itself.
-/

def eacces : Int := 13
def eopnotsupp : Int := 95

inductive ControlError where
  | system (code : Int) (what : String)
  | runtime (what : String)
deriving DecidableEq, Repr

def sizeofDevInfo : Nat := 64

/-- `struct ublksrv_ctrl_dev_info` as bytes, with the members that are read. -/
abbrev DevInfo := Object sizeofDevInfo

namespace DevInfo

def word (info : DevInfo) (offset width : Nat) : Nat := leValue ((info.val.drop offset).take width)

def nrHwQueues (info : DevInfo) : BitVec 16 := BitVec.ofNat 16 (info.word 0 2)
def queueDepth (info : DevInfo) : BitVec 16 := BitVec.ofNat 16 (info.word 2 2)
def state (info : DevInfo) : Nat := info.word 4 2
def maxIoBufBytes (info : DevInfo) : BitVec 32 := BitVec.ofNat 32 (info.word 8 4)
def devId (info : DevInfo) : BitVec 32 := BitVec.ofNat 32 (info.word 12 4)
def ublksrvPid (info : DevInfo) : BitVec 32 := BitVec.ofNat 32 (info.word 16 4)
def flags (info : DevInfo) : BitVec 64 := BitVec.ofNat 64 (info.word 24 8)
def ownerUid (info : DevInfo) : BitVec 32 := BitVec.ofNat 32 (info.word 40 4)
def ownerGid (info : DevInfo) : BitVec 32 := BitVec.ofNat 32 (info.word 44 4)

end DevInfo

/-- A completed query: a negative result is an error, and nothing was written. -/
structure InfoAnswer where
  res : Int
  payload : Filling sizeofDevInfo

inductive InfoEvent where
  | getDevInfo2 (cmd : CtrlCmd)
  | getDevInfo (cmd : CtrlCmd)
  | pause (ms : Nat)
deriving DecidableEq, Repr

/-- What has happened, and the result so far. `none` asks for another attempt. -/
abbrev Tried (α : Type) := List InfoEvent × Except ControlError α

/-- `retry`: `fn` counts its calls, `more` is the number of calls left. -/
def retry {α : Type} (fn : Nat → Tried (Option α)) (sleepMs : Nat) : Nat → Nat → Tried (Option α)
  | 0, attempt => fn attempt
  | more + 1, attempt =>
      match fn attempt with
      | (events, .ok none) =>
          let (later, result) := retry fn sleepMs more (attempt + 1)
          (events ++ .pause sleepMs :: later, result)
      | outcome => outcome

variable (field : PathField) (devId : BitVec 32) (answers : Nat → InfoAnswer) (fallback : InfoAnswer)
  (info : DevInfo)

/-- The buffer of the query; its payload is value-initialised. -/
def getDevInfo2Cmd : CtrlCmd :=
  Raw.getDevInfo2 devId (devPathBuf field devId (Object.zero sizeofDevInfo).val)
    (devPathLen + sizeofDevInfo) devPathLen

def getDevInfoCmd : CtrlCmd := Raw.getDevInfo devId info.val sizeofDevInfo 0

/-- The body of the retried function. -/
def tryGetDevInfo (attempt : Nat) : Tried (Option DevInfo) :=
  let answer := answers attempt
  let r := answer.res
  let asked := InfoEvent.getDevInfo2 (getDevInfo2Cmd field devId)
  if r ≥ 0 then ([asked], .ok (some ((Object.zero sizeofDevInfo).fill answer.payload)))
  else if r = -eacces then ([asked], .ok none)
  else if r = -eopnotsupp then
    let events := [asked, .getDevInfo (getDevInfoCmd devId info)]
    if fallback.res ≥ 0 then (events, .ok (some (info.fill fallback.payload)))
    else (events, .error (.system (-fallback.res) ""))
  else ([asked], .error (.system (-r) "get_dev_info2"))

def controlGetDevInfo : Tried DevInfo :=
  match retry (tryGetDevInfo field devId answers fallback info) 100 20 0 with
  | (events, .ok (some info)) => (events, .ok info)
  | (events, .ok none) => (events, .error (.system eacces "get_dev_info2"))
  | (events, .error err) => (events, .error err)

/-- `cached_get_dev_info`: device info from the environment, if it is about this device,
takes the place of a query. -/
def cachedGetDevInfo (cached : Option DevInfo) (devId : BitVec 32)
    (query : Except ControlError DevInfo) : Except ControlError DevInfo :=
  match cached with
  | some info => if info.devId = devId then .ok info else query
  | none => query

/-- The first attempt that does not ask for another one decides. -/
theorem retry_decided {α : Type} {fn : Nat → Tried (Option α)} {sleepMs : Nat} {count : Nat} :
    ∀ {more attempt : Nat}, count ≤ more → (∀ earlier < count, (fn (attempt + earlier)).2 = .ok none) →
      (fn (attempt + count)).2 ≠ .ok none →
      (retry fn sleepMs more attempt).2 = (fn (attempt + count)).2 := by
  induction count with
  | zero =>
      intro more attempt _ _ decides
      rw [Nat.add_zero] at decides ⊢
      cases more with
      | zero => rfl
      | succ more =>
          rw [retry]
          split
          · rename_i events undecided
            rw [undecided] at decides
            exact absurd rfl decides
          · rfl
  | succ count ih =>
      intro more attempt most undecided decides
      obtain ⟨more, rfl⟩ : ∃ left, more = left + 1 := ⟨more - 1, by omega⟩
      have first : (fn attempt).2 = .ok none := undecided 0 (by omega)
      have next : attempt + (count + 1) = attempt + 1 + count := by omega
      have shifted : ∀ earlier < count, (fn (attempt + 1 + earlier)).2 = .ok none := by
        intro earlier less
        have one := undecided (earlier + 1) (by omega)
        rwa [Nat.add_comm earlier 1, ← Nat.add_assoc] at one
      rw [next] at decides ⊢
      rw [← ih (by omega : count ≤ more) shifted decides, retry]
      split
      · rfl
      · rename_i other
        exact absurd (Prod.ext rfl first : fn attempt = ((fn attempt).1, .ok none)) (other _)

variable {field devId answers fallback info}

theorem tryGetDevInfo_denied {attempt : Nat} (denied : (answers attempt).res = -eacces) :
    (tryGetDevInfo field devId answers fallback info attempt).2 = .ok none := by
  simp [tryGetDevInfo, denied, eacces]

theorem controlGetDevInfo_decided {count : Nat} {found : DevInfo} (most : count ≤ 20)
    (denied : ∀ earlier < count, (answers earlier).res = -eacces)
    (decided : (tryGetDevInfo field devId answers fallback info count).2 = .ok (some found)) :
    (controlGetDevInfo field devId answers fallback info).2 = .ok found := by
  have retried : (retry (tryGetDevInfo field devId answers fallback info) 100 20 0).2 = .ok (some found) := by
    rw [retry_decided most, Nat.zero_add, decided]
    · intro earlier less
      rw [Nat.zero_add]
      exact tryGetDevInfo_denied (denied earlier less)
    · rw [Nat.zero_add, decided]
      simp
  rw [controlGetDevInfo]
  split
  · rename_i events same
    rw [same] at retried
    cases retried
    rfl
  · rename_i events same
    rw [same] at retried
    cases retried
  · rename_i events err same
    rw [same] at retried
    cases retried

end Ublk.Control
