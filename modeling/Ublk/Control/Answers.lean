import Ublk.Control.DevInfo

namespace Ublk.Control

open Ublk.Data

/-! # What a query leaves in the caller's struct

The privileged branch lets the driver write into the caller's struct, the other one
copies back a buffer that was zero before. An answer may be shorter than the struct,
as that of a driver with an older `struct ublk_params` is.
-/

section Results

variable (unprivileged : Bool) (field : PathField) (devId : BitVec 32)

/-- `*params` after `control_get_params_t`. -/
def controlGetParamsResult (params : Params) (answer : Filling sizeofParams) : List UInt8 :=
  let object := answered unprivileged (controlGetParams unprivileged field devId params) answer.val
  if unprivileged then object.drop devPathLen else object

def controlGetQueueAffinityResult (qId : BitVec 16) (cpuset : CpuSet) (answer : Filling sizeofCpuSet) :
    List UInt8 :=
  let object :=
    answered unprivileged (controlGetQueueAffinity unprivileged field devId qId cpuset) answer.val
  if unprivileged then object.drop devPathLen else object

end Results

section Layout

variable {op devId : BitVec 32} {queueId : BitVec 16} {data0 : BitVec 64} {size : Nat}

/-- An answer into a buffer with a path in front ends up in its payload. -/
theorem drop_answered_devPathBuf (unprivileged : Bool) (field : PathField) (payload : Object size)
    (answer : Filling size) (expected : expectsPath unprivileged op = true) :
    (answered unprivileged (ctrlCmd op devId queueId data0 (devPathBuf field devId payload.val)
      (devPathLen + size) devPathLen) answer.val).drop devPathLen = (payload.fill answer).val := by
  have pathSize : (BitVec.ofNat 16 devPathLen).toNat = devPathLen := by decide
  simp only [answered, ctrlCmd, expected, ↓reduceIte, pathSize, take_devPathBuf, drop_devPathBuf]
  rw [List.drop_left' (length_fillDevPath field devId)]
  rfl

theorem answered_plain (unprivileged : Bool) (object : Object size) (answer : Filling size) :
    answered unprivileged (ctrlCmd op devId queueId data0 object.val size 0) answer.val =
      (object.fill answer).val := by
  have noPath : (BitVec.ofNat 16 0).toNat = 0 := rfl
  simp only [answered, ctrlCmd, noPath, ite_self, List.take_zero, List.drop_zero, List.nil_append]
  rfl

end Layout

theorem controlGetParamsResult_eq (unprivileged : Bool) (field : PathField) (devId : BitVec 32)
    (params : Params) (answer : Filling sizeofParams) :
    controlGetParamsResult unprivileged field devId params answer =
      (Object.fill (if unprivileged then Params.withLen (Object.zero sizeofParams) else params.withLen)
        answer).val := by
  cases unprivileged with
  | true => exact drop_answered_devPathBuf true field _ answer rfl
  | false => exact answered_plain false params.withLen answer

theorem controlGetQueueAffinityResult_eq (unprivileged : Bool) (field : PathField) (devId : BitVec 32)
    (qId : BitVec 16) (cpuset : CpuSet) (answer : Filling sizeofCpuSet) :
    controlGetQueueAffinityResult unprivileged field devId qId cpuset answer =
      (Object.fill (if unprivileged then Object.zero sizeofCpuSet else cpuset) answer).val := by
  cases unprivileged with
  | true => exact drop_answered_devPathBuf true field _ answer rfl
  | false => exact answered_plain false cpuset answer

/-- What `GET_DEV_INFO2` hands to the caller is the payload of the buffer the driver
answered into. -/
theorem getDevInfo2_payload (unprivileged : Bool) (field : PathField) (devId : BitVec 32)
    (answer : Filling sizeofDevInfo) :
    (answered unprivileged (getDevInfo2Cmd field devId) answer.val).drop devPathLen =
      ((Object.zero sizeofDevInfo).fill answer).val :=
  drop_answered_devPathBuf unprivileged field _ answer (by simp [expectsPath])

theorem getDevInfo_payload (unprivileged : Bool) (devId : BitVec 32) (info : DevInfo)
    (answer : Filling sizeofDevInfo) :
    answered unprivileged (getDevInfoCmd devId info) answer.val = (info.fill answer).val :=
  answered_plain unprivileged info answer

/-! ## When both branches agree -/

/-- Setting `len` first hides the first word of the caller's struct. -/
theorem withLen_fill_eq_iff {params : Params} {answer : Filling sizeofParams} :
    Object.fill (Params.withLen (Object.zero sizeofParams)) answer = params.withLen.fill answer ↔
      ∀ byte ∈ params.val.drop (max 4 answer.val.length), byte = 0 := by
  have behind (object : Params) : object.withLen.val.drop answer.val.length =
      (leBytes 4 sizeofParams).drop answer.val.length ++ object.val.drop (max 4 answer.val.length) := by
    have position : 4 + (answer.val.length - 4) = max 4 answer.val.length := by omega
    simp only [Params.withLen, overwrite, List.drop_append, length_leBytes, List.drop_drop, position]
  have length : (params.val.drop (max 4 answer.val.length)).length =
      sizeofParams - max 4 answer.val.length := by
    rw [List.length_drop, params.property]
  rw [Subtype.ext_iff]
  simp only [Object.fill, overwrite_inj, behind, List.append_cancel_left_eq]
  simp only [Object.zero, List.drop_replicate]
  rw [eq_comm, List.eq_replicate_iff, length]
  exact ⟨fun blank => blank.2, fun blank => ⟨rfl, blank⟩⟩

section DevInfo

variable {field : PathField} {devId : BitVec 32} {info : DevInfo} {answer : Filling sizeofDevInfo}

/-- The query is denied some times and then answered through `GET_DEV_INFO2`. -/
def AnswersDirectly (answers : Nat → InfoAnswer) (answer : Filling sizeofDevInfo) : Prop :=
  ∃ count ≤ 20, (∀ earlier < count, (answers earlier).res = -eacces) ∧
    0 ≤ (answers count).res ∧ (answers count).payload = answer

/-- The driver does not know `GET_DEV_INFO2` and answers `GET_DEV_INFO`. -/
def AnswersFallback (answers : Nat → InfoAnswer) (fallback : InfoAnswer)
    (answer : Filling sizeofDevInfo) : Prop :=
  ∃ count ≤ 20, (∀ earlier < count, (answers earlier).res = -eacces) ∧
    (answers count).res = -eopnotsupp ∧ 0 ≤ fallback.res ∧ fallback.payload = answer

/-- The caller gets the payload of the buffer that was asked with. -/
theorem getDevInfo_direct {answers : Nat → InfoAnswer} (unprivileged : Bool) (fallback : InfoAnswer)
    (direct : AnswersDirectly answers answer) :
    ∃ found, (controlGetDevInfo field devId answers fallback info).2 = .ok found ∧
      found.val = (answered unprivileged (getDevInfo2Cmd field devId) answer.val).drop devPathLen := by
  obtain ⟨count, most, denied, succeeded, rfl⟩ := direct
  have decided : (tryGetDevInfo field devId answers fallback info count).2 =
      .ok (some ((Object.zero sizeofDevInfo).fill (answers count).payload)) := by
    simp [tryGetDevInfo, succeeded]
  exact ⟨_, controlGetDevInfo_decided most denied decided, (getDevInfo2_payload unprivileged field devId _).symm⟩

theorem getDevInfo_fallback {answers : Nat → InfoAnswer} {fallback : InfoAnswer} (unprivileged : Bool)
    (old : AnswersFallback answers fallback answer) :
    ∃ found, (controlGetDevInfo field devId answers fallback info).2 = .ok found ∧
      found.val = answered unprivileged (getDevInfoCmd devId info) answer.val := by
  obtain ⟨count, most, denied, unknown, succeeded, rfl⟩ := old
  have decided : (tryGetDevInfo field devId answers fallback info count).2 =
      .ok (some (info.fill fallback.payload)) := by
    simp [tryGetDevInfo, unknown, succeeded, eopnotsupp, eacces]
  exact ⟨_, controlGetDevInfo_decided most denied decided, (getDevInfo_payload unprivileged devId info _).symm⟩

end DevInfo

/-- The caller's struct is the same in both branches exactly when the answer covers
every byte of it that is not zero; of the parameters, `len` is covered by both. -/
theorem same_answer_iff_blank (field : PathField) (devId : BitVec 32) :
    (∀ params answer, controlGetParamsResult true field devId params answer =
        controlGetParamsResult false field devId params answer ↔
      ∀ byte ∈ params.val.drop (max 4 answer.val.length), byte = 0) ∧
    (∀ qId cpuset answer, controlGetQueueAffinityResult true field devId qId cpuset answer =
        controlGetQueueAffinityResult false field devId qId cpuset answer ↔
      ∀ byte ∈ cpuset.val.drop answer.val.length, byte = 0) ∧
    (∀ info answer direct other old fallback, AnswersDirectly direct answer →
      AnswersFallback old fallback answer →
      ((controlGetDevInfo field devId direct other info).2 =
          (controlGetDevInfo field devId old fallback info).2 ↔
        ∀ byte ∈ info.val.drop answer.val.length, byte = 0)) := by
  refine ⟨?_, ?_, ?_⟩
  · intro params answer
    rw [controlGetParamsResult_eq, controlGetParamsResult_eq, ← Subtype.ext_iff]
    exact withLen_fill_eq_iff
  · intro qId cpuset answer
    rw [controlGetQueueAffinityResult_eq, controlGetQueueAffinityResult_eq, ← Subtype.ext_iff]
    exact zero_fill_eq_iff
  · intro info answer direct other old fallback answersDirectly answersFallback
    obtain ⟨new, tellsNew, payload⟩ := @getDevInfo_direct field devId info _ _ true other answersDirectly
    obtain ⟨found, tellsOld, object⟩ := @getDevInfo_fallback field devId info _ _ _ true answersFallback
    rw [getDevInfo2_payload] at payload
    rw [getDevInfo_payload] at object
    rw [tellsNew, tellsOld, Except.ok.injEq, Subtype.ext_iff, payload, object, ← Subtype.ext_iff]
    exact zero_fill_eq_iff

/-- An old driver fills 44 bytes of a struct that is zero behind them, once directly and once
behind a refusal and a driver without `GET_DEV_INFO2`. -/
theorem same_answer_iff_blank_short :
    let field := Object.zero devPathLen
    let answer : Filling sizeofDevInfo := ⟨List.replicate 44 7, by decide⟩
    let info : DevInfo := ⟨List.replicate 44 1 ++ List.replicate 20 0, by decide⟩
    let denied (attempt : Nat) : InfoAnswer := ⟨if attempt = 0 then -eacces else -eopnotsupp, answer⟩
    (controlGetDevInfo field 3 (fun _ => ⟨0, answer⟩) ⟨0, answer⟩ info).2 =
      (controlGetDevInfo field 3 denied ⟨0, answer⟩ info).2 := by
  intro field answer info denied
  apply ((same_answer_iff_blank field 3).2.2 info answer _ _ denied _ _ _).mpr
  · have rest : info.val.drop answer.val.length = List.replicate 20 0 := rfl
    rw [rest]
    exact fun _ => List.eq_of_mem_replicate
  · exact ⟨0, by decide, by decide, by decide, rfl⟩
  · exact ⟨1, by decide, by decide, rfl, by decide, rfl⟩

/-- A driver that knows the first 40 bytes only, and a struct that was not zeroed:
what lies behind them depends on the mode. -/
theorem short_answer_differs :
    ∃ (params : Params) (answer : Filling sizeofParams), answer.val.length = 40 ∧
      controlGetParamsResult true (Object.zero devPathLen) 0 params answer ≠
        controlGetParamsResult false (Object.zero devPathLen) 0 params answer := by
  refine ⟨⟨List.replicate 152 1, rfl⟩, ⟨List.replicate 40 7, by decide⟩, rfl, ?_⟩
  decide

end Ublk.Control
