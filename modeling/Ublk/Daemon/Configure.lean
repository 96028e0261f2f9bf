import Ublk.Control.Answers
import Ublk.Control.Unprivileged

namespace Ublk.Daemon

open Ublk.Data Ublk.Control

/-! # `daemon::configure`

`daemon_configure_t::invoke` against a driver that keeps the parameters of a device.
`SET_PARAMS` stores some normal form of its payload, which may depend on what was
stored before; `GET_PARAMS` returns what is stored.
-/

/-- How a driver normalises new parameters, given those it has. -/
abbrev Normalise := Params → List UInt8 → Params

variable (normalise : Normalise) (field : PathField) (devId : BitVec 32)

def paramsAnswer (stored : Params) : Filling sizeofParams := ⟨stored.val, Nat.le_of_eq stored.property⟩

/-- What `get_params` leaves in a caller's struct while `stored` is what the driver keeps. -/
def getParamsNow (flags : BitVec 64) (stored params : Params) : List UInt8 :=
  controlGetParamsResult (isUnprivileged flags) field devId params (paramsAnswer stored)

def setParamsNow (flags : BitVec 64) (stored params : Params) : Params :=
  let unprivileged := isUnprivileged flags
  normalise stored (decode unprivileged (controlSetParams unprivileged field devId params)).payload

/-- The returned flag, `*params` and the driver's parameters after a completed call.
`info` is the result of `cached_get_dev_info`, which the command behind it uses
again, and `res` the result word of that command. -/
def configure (info : Except ControlError DevInfo) (res : Int) (stored params : Params) :
    Except ControlError (Bool × List UInt8 × Params) :=
  match info with
  | .error err => .error err
  | .ok info =>
      if res < 0 then .error (.system (-res) "")
      else if info.state = ublkSDevDead then
        .ok (true, params.val, setParamsNow normalise field devId info.flags stored params)
      else .ok (false, getParamsNow field devId info.flags stored params, stored)

variable {field devId}

/-- A full answer leaves nothing of the caller's struct. -/
theorem getParamsNow_eq (flags : BitVec 64) (stored params : Params) :
    getParamsNow field devId flags stored params = stored.val := by
  rw [getParamsNow, controlGetParamsResult_eq]
  exact Object.fill_whole _ stored.property

/-- In both modes the driver gets the caller's parameters with a corrected `len`. -/
theorem setParamsNow_eq (flags : BitVec 64) (stored params : Params) :
    setParamsNow normalise field devId flags stored params = normalise stored params.withLen.val := by
  have length : params.withLen.val.length = sizeofParams := params.withLen.property
  rw [setParamsNow]
  cases isUnprivileged flags with
  | true =>
      have decoded := @decode_devPathBuf ublkUCmdSetParams devId (-1) 0 field params.withLen.val
        (by rw [length]; decide)
      rw [length] at decoded
      simp only [controlSetParams, ↓reduceIte, Raw.setParams, Raw.dataCmd, decoded]
  | false =>
      have decoded := @decode_plain ublkUCmdSetParams devId (-1) 0 params.withLen.val (by decide)
        (by rw [length]; decide)
      rw [length] at decoded
      simp only [controlSetParams, Bool.false_eq_true, ↓reduceIte, Raw.setParams, Raw.dataCmd, decoded]

/-- `*params` is what `get_params` would return, into whatever struct, exactly when
the parameters were read back or are their own normal form. -/
theorem configure_effective_iff {info : DevInfo} {res : Int} {stored params next : Params} {applied : Bool}
    {after : List UInt8}
    (completed : configure normalise field devId (.ok info) res stored params = .ok (applied, after, next)) :
    (∀ other, getParamsNow field devId info.flags next other = after) ↔
      info.state ≠ ublkSDevDead ∨ normalise stored params.withLen.val = params := by
  simp only [getParamsNow_eq]
  unfold configure at completed
  split at completed
  · contradiction
  rename_i known same
  cases same
  split at completed
  · contradiction
  split at completed
  · rename_i dead
    cases completed
    rw [setParamsNow_eq]
    simp only [dead, ne_eq, not_true_eq_false, false_or, Subtype.ext_iff]
    exact ⟨fun equal => equal params, fun equal _ => equal⟩
  · rename_i alive
    cases completed
    simp only [getParamsNow_eq, alive, ne_eq, not_false_eq_true, true_or, implies_true]

def storeAsGiven : Normalise := fun stored payload =>
  if whole : payload.length = sizeofParams then ⟨payload, whole⟩ else stored

theorem storeAsGiven_eq (stored params : Params) : storeAsGiven stored params.val = params := by
  have whole : params.val.length = sizeofParams := params.property
  simp only [storeAsGiven, whole, ↓reduceDIte]

/-- New parameters that already say their length are effective as they are. -/
theorem configure_effective_newDevice :
    ∃ after next, configure storeAsGiven (Object.zero devPathLen) 0 (.ok (Object.zero sizeofDevInfo)) 0
        (Object.zero sizeofParams) (Params.withLen (Object.zero sizeofParams)) = .ok (true, after, next) ∧
      ∀ other, getParamsNow (Object.zero devPathLen) 0 (DevInfo.flags (Object.zero sizeofDevInfo))
        next other = after := by
  have completed : configure storeAsGiven (Object.zero devPathLen) 0 (.ok (Object.zero sizeofDevInfo)) 0
      (Object.zero sizeofParams) (Params.withLen (Object.zero sizeofParams)) = .ok (true, _, _) := rfl
  refine ⟨_, _, completed, (configure_effective_iff storeAsGiven completed).mpr (.inr ?_)⟩
  rw [storeAsGiven_eq]
  decide +kernel

/-- The same device with `len` left at zero: the driver stores the length, the caller
never sees it. -/
theorem configure_leaves_len :
    ∃ after next, configure storeAsGiven (Object.zero devPathLen) 0 (.ok (Object.zero sizeofDevInfo)) 0
        (Object.zero sizeofParams) (Object.zero sizeofParams) = .ok (true, after, next) ∧
      getParamsNow (Object.zero devPathLen) 0 (DevInfo.flags (Object.zero sizeofDevInfo))
        next (Object.zero sizeofParams) ≠ after := by
  refine ⟨_, _, rfl, ?_⟩
  rw [getParamsNow_eq, setParamsNow_eq, storeAsGiven_eq]
  decide

end Ublk.Daemon
