import Ublk.Control.DevInfo
import Ublk.Machine.Retry

namespace Ublk.Control

open Ublk.Data Ublk.Machine

/-! # Querying the device info, attempt by attempt

The query of `DevInfo` once more with `*info` as a state that the retried function writes,
so that it can be asked what a failed query leaves there.
-/

variable (field : PathField) (devId : BitVec 32) (answers : Nat → InfoAnswer) (fallback : InfoAnswer)

/-- The retried function: `true` when `*info` was written, `false` for another attempt. -/
def queryDevInfo (attempt : Nat) (info : DevInfo) : Attempt InfoEvent DevInfo ControlError Bool :=
  let answer := answers attempt
  let r := answer.res
  let asked := InfoEvent.getDevInfo2 (getDevInfo2Cmd field devId)
  if r ≥ 0 then ⟨[asked], (Object.zero sizeofDevInfo).fill answer.payload, .ok true⟩
  else if r = -eacces then ⟨[asked], info, .ok false⟩
  else if r = -eopnotsupp then
    let events := [asked, .getDevInfo (getDevInfoCmd devId info)]
    if fallback.res ≥ 0 then ⟨events, info.fill fallback.payload, .ok true⟩
    else ⟨events, info, .error (.system (-fallback.res) "")⟩
  else ⟨[asked], info, .error (.system (-r) "get_dev_info2")⟩

/-- `control_get_dev_info_t::invoke`, with `*info` before and after it. -/
def getDevInfoInto (info : DevInfo) : Attempt InfoEvent DevInfo ControlError Unit :=
  match retries (queryDevInfo field devId answers fallback) (.pause 100) 20 info with
  | ⟨events, info, .ok true⟩ => ⟨events, info, .ok ()⟩
  | ⟨events, info, .ok false⟩ => ⟨events, info, .error (.system eacces "get_dev_info2")⟩
  | ⟨events, info, .error err⟩ => ⟨events, info, .error err⟩

/-- The first attempt that is answered with anything but `EACCES`, if it is made. -/
def deciding : Option Nat := (List.range 21).find? fun attempt => (answers attempt).res != -eacces

def attempts : Nat :=
  match deciding answers with
  | some attempt => attempt + 1
  | none => 21

/-- Whether that answer is one the older command is issued for. -/
def fallsBack : Bool :=
  match deciding answers with
  | some attempt => (answers attempt).res == -eopnotsupp
  | none => false

/-- One query, and a pause in front of each further one. -/
def script (count : Nat) : List InfoEvent :=
  .getDevInfo2 (getDevInfo2Cmd field devId) ::
    (List.range (count - 1)).flatMap fun _ => [.pause 100, .getDevInfo2 (getDevInfo2Cmd field devId)]

def InfoEvent.isGetDevInfo2 : InfoEvent → Bool
  | .getDevInfo2 _ => true
  | _ => false

/-- A query, judged by the answers it gets. -/
structure Queried (info : DevInfo) (out : Attempt InfoEvent DevInfo ControlError Unit) : Prop where
  issued : out.events.countP InfoEvent.isGetDevInfo2 = attempts answers
  most : attempts answers ≤ 21
  events : out.events = script field devId (attempts answers) ++
    if fallsBack answers then [.getDevInfo (getDevInfoCmd devId info)] else []
  succeeds : out.result = .ok () ↔ ∃ k, deciding answers = some k ∧
    (0 ≤ (answers k).res ∨ (answers k).res = -eopnotsupp ∧ 0 ≤ fallback.res)
  payload : ∀ k, deciding answers = some k → 0 ≤ (answers k).res →
    out.state = (Object.zero sizeofDevInfo).fill (answers k).payload
  fallbackPayload : ∀ k, deciding answers = some k → (answers k).res = -eopnotsupp → 0 ≤ fallback.res →
    out.state = info.fill fallback.payload
  unchanged : ∀ err, out.result = .error err → out.state = info
  refused : deciding answers = none → out.result = .error (.system eacces "get_dev_info2")
  error : ∀ k, deciding answers = some k → (answers k).res < 0 → (answers k).res ≠ -eopnotsupp →
    out.result = .error (.system (-(answers k).res) "get_dev_info2")
  fallbackError : ∀ k, deciding answers = some k → (answers k).res = -eopnotsupp → fallback.res < 0 →
    out.result = .error (.system (-fallback.res) "")

section Answers

variable {field devId answers fallback} {info : DevInfo} {attempt : Nat}

theorem queryDevInfo_refused (refused : (answers attempt).res = -eacces) :
    queryDevInfo field devId answers fallback attempt info =
      ⟨[.getDevInfo2 (getDevInfo2Cmd field devId)], info, .ok false⟩ := by
  simp [queryDevInfo, refused, eacces]

theorem queryDevInfo_again (refused : (answers attempt).res = -eacces) :
    Again (queryDevInfo field devId answers fallback) info attempt := by
  rw [Again, queryDevInfo_refused refused]
  exact ⟨rfl, rfl⟩

theorem queryDevInfo_success (success : 0 ≤ (answers attempt).res) :
    queryDevInfo field devId answers fallback attempt info =
      ⟨[.getDevInfo2 (getDevInfo2Cmd field devId)],
        (Object.zero sizeofDevInfo).fill (answers attempt).payload, .ok true⟩ := by
  simp [queryDevInfo, success]

theorem queryDevInfo_fallback (unsupported : (answers attempt).res = -eopnotsupp) :
    queryDevInfo field devId answers fallback attempt info =
      if 0 ≤ fallback.res then
        ⟨[.getDevInfo2 (getDevInfo2Cmd field devId), .getDevInfo (getDevInfoCmd devId info)],
          info.fill fallback.payload, .ok true⟩
      else
        ⟨[.getDevInfo2 (getDevInfo2Cmd field devId), .getDevInfo (getDevInfoCmd devId info)],
          info, .error (.system (-fallback.res) "")⟩ := by
  simp [queryDevInfo, unsupported, eacces, eopnotsupp]

theorem queryDevInfo_error (failed : (answers attempt).res < 0) (other : (answers attempt).res ≠ -eacces)
    (supported : (answers attempt).res ≠ -eopnotsupp) :
    queryDevInfo field devId answers fallback attempt info =
      ⟨[.getDevInfo2 (getDevInfo2Cmd field devId)], info,
        .error (.system (-(answers attempt).res) "get_dev_info2")⟩ := by
  simp [queryDevInfo, failed, other, supported]

/-- What an attempt issues. -/
theorem queryDevInfo_events : (queryDevInfo field devId answers fallback attempt info).events =
    .getDevInfo2 (getDevInfo2Cmd field devId) ::
      if (answers attempt).res = -eopnotsupp then [.getDevInfo (getDevInfoCmd devId info)] else [] := by
  by_cases unsupported : (answers attempt).res = -eopnotsupp
  · rw [queryDevInfo_fallback unsupported, if_pos unsupported]
    split <;> rfl
  · rw [if_neg unsupported]
    by_cases success : 0 ≤ (answers attempt).res
    · rw [queryDevInfo_success success]
    · by_cases refused : (answers attempt).res = -eacces
      · rw [queryDevInfo_refused refused]
      · rw [queryDevInfo_error (by omega) refused unsupported]

theorem queryDevInfo_decides (other : (answers attempt).res ≠ -eacces) :
    (queryDevInfo field devId answers fallback attempt info).result ≠ .ok false := by
  by_cases success : 0 ≤ (answers attempt).res
  · rw [queryDevInfo_success success]
    simp
  · by_cases unsupported : (answers attempt).res = -eopnotsupp
    · rw [queryDevInfo_fallback unsupported]
      split <;> simp
    · rw [queryDevInfo_error (by omega) other unsupported]
      simp

theorem deciding_some (found : deciding answers = some attempt) :
    attempt ≤ 20 ∧ (answers attempt).res ≠ -eacces ∧ ∀ earlier < attempt, (answers earlier).res = -eacces := by
  rw [deciding, List.find?_range_eq_some] at found
  obtain ⟨other, inside, earlier⟩ := found
  refine ⟨by have := List.mem_range.mp inside; omega, by simpa using other, ?_⟩
  intro j less
  simpa using earlier j less

theorem deciding_none (none : deciding answers = none) (most : attempt ≤ 20) :
    (answers attempt).res = -eacces := by
  rw [deciding, List.find?_range_eq_none] at none
  simpa using none attempt (by omega)

theorem later_refused {first count : Nat}
    (refused : ∀ i < count, (answers (first + i)).res = -eacces) :
    later (queryDevInfo field devId answers fallback) (.pause 100) info first count =
      (List.range count).flatMap fun _ => [.pause 100, .getDevInfo2 (getDevInfo2Cmd field devId)] := by
  apply List.flatMap_congr
  intro i member
  rw [queryDevInfo_refused (refused i (List.mem_range.mp member))]

/-- The events of all attempts up to the one that decides. -/
theorem events_decided (found : deciding answers = some attempt) :
    (queryDevInfo field devId answers fallback 0 info).events ++
        later (queryDevInfo field devId answers fallback) (.pause 100) info 1 attempt =
      script field devId (attempts answers) ++
        if fallsBack answers then [.getDevInfo (getDevInfoCmd devId info)] else [] := by
  obtain ⟨_, _, refused⟩ := deciding_some found
  simp only [attempts, fallsBack, found, beq_iff_eq]
  cases attempt with
  | zero =>
      rw [queryDevInfo_events]
      simp [later, script]
  | succ last =>
      have before := @later_refused field devId answers fallback info 1 last
        fun i less => refused (1 + i) (by omega)
      rw [later] at before
      rw [queryDevInfo_refused (refused 0 (by omega)), later, List.range_succ, List.flatMap_append, before,
        List.flatMap_singleton, queryDevInfo_events, Nat.add_comm 1 last, script, Nat.add_sub_cancel,
        List.range_succ, List.flatMap_append, List.flatMap_singleton]
      simp

theorem getDevInfoInto_decided (found : deciding answers = some attempt) :
    getDevInfoInto field devId answers fallback info =
      ⟨script field devId (attempts answers) ++
          (if fallsBack answers then [.getDevInfo (getDevInfoCmd devId info)] else []),
        (queryDevInfo field devId answers fallback attempt info).state,
        (queryDevInfo field devId answers fallback attempt info).result.map fun _ => ()⟩ := by
  obtain ⟨most, other, refused⟩ := deciding_some found
  have decides := @queryDevInfo_decides field devId answers fallback info attempt other
  rw [getDevInfoInto, retries_decided most (fun j less => queryDevInfo_again (refused j less)) decides,
    events_decided found]
  generalize (queryDevInfo field devId answers fallback attempt info).result = result at *
  cases result with
  | error err => rfl
  | ok written =>
      cases written with
      | true => rfl
      | false => contradiction

theorem getDevInfoInto_refused (none : deciding answers = none) :
    getDevInfoInto field devId answers fallback info =
      ⟨script field devId 21, info, .error (.system eacces "get_dev_info2")⟩ := by
  have first := @queryDevInfo_refused field devId answers fallback info 0 (deciding_none none (by omega))
  rw [getDevInfoInto, retries_exhausted (fun j most => queryDevInfo_again (deciding_none none most)),
    later_refused (fun i less => deciding_none none (by omega)), first]
  rfl

theorem countP_script (count : Nat) :
    (script field devId (count + 1)).countP InfoEvent.isGetDevInfo2 = count + 1 := by
  have rest : ((List.range count).flatMap fun _ =>
      [InfoEvent.pause 100, .getDevInfo2 (getDevInfo2Cmd field devId)]).countP InfoEvent.isGetDevInfo2 = count := by
    induction count with
    | zero => rfl
    | succ count ih =>
        rw [List.range_succ, List.flatMap_append, List.countP_append, ih]
        rfl
  rw [script, Nat.add_sub_cancel, List.countP_cons_of_pos rfl, rest]

/-! ## The two models of the query -/

/-- A call of the function as the one that returns what it wrote. -/
def asTried (out : Attempt InfoEvent DevInfo ControlError Bool) : Tried (Option DevInfo) :=
  (out.events, out.result.map fun written => if written then some out.state else none)

theorem tryGetDevInfo_eq : tryGetDevInfo field devId answers fallback info attempt =
    asTried (queryDevInfo field devId answers fallback attempt info) := by
  simp only [tryGetDevInfo, queryDevInfo]
  split
  · rfl
  · split
    · rfl
    · split
      · split <;> rfl
      · rfl

theorem queryDevInfo_cases : Again (queryDevInfo field devId answers fallback) info attempt ∨
    (queryDevInfo field devId answers fallback attempt info).result ≠ .ok false := by
  by_cases refused : (answers attempt).res = -eacces
  · exact .inl (queryDevInfo_again refused)
  · exact .inr (queryDevInfo_decides refused)

theorem retry_again {more : Nat} (again : Again (queryDevInfo field devId answers fallback) info attempt) :
    retry (tryGetDevInfo field devId answers fallback info) 100 (more + 1) attempt =
      ((queryDevInfo field devId answers fallback attempt info).events ++ .pause 100 ::
          (retry (tryGetDevInfo field devId answers fallback info) 100 more (attempt + 1)).1,
        (retry (tryGetDevInfo field devId answers fallback info) 100 more (attempt + 1)).2) := by
  rw [retry, tryGetDevInfo_eq, asTried, again.1]
  rfl

theorem retry_stops {more : Nat}
    (stops : (queryDevInfo field devId answers fallback attempt info).result ≠ .ok false) :
    retry (tryGetDevInfo field devId answers fallback info) 100 more attempt =
      asTried (queryDevInfo field devId answers fallback attempt info) := by
  cases more with
  | zero => exact tryGetDevInfo_eq
  | succ more =>
      rw [retry, tryGetDevInfo_eq, asTried]
      generalize (queryDevInfo field devId answers fallback attempt info).result = result at *
      cases result with
      | error err => rfl
      | ok written =>
          cases written with
          | true => rfl
          | false => contradiction

theorem retryLoop_eq_retry (more : Nat) :
    ∀ attempt, asTried (retryLoop (queryDevInfo field devId answers fallback) (.pause 100) (more + 1) attempt info) =
      (.pause 100 :: (retry (tryGetDevInfo field devId answers fallback info) 100 more attempt).1,
        (retry (tryGetDevInfo field devId answers fallback info) 100 more attempt).2) := by
  induction more with
  | zero =>
      intro attempt
      rw [show retry (tryGetDevInfo field devId answers fallback info) 100 0 attempt =
        asTried (queryDevInfo field devId answers fallback attempt info) from tryGetDevInfo_eq]
      rcases @queryDevInfo_cases field devId answers fallback info attempt with again | stops
      · rw [retryLoop_again again]
        simp [retryLoop, asTried, again.1, Except.map]
      · rw [retryLoop_stops stops]
        rfl
  | succ more ih =>
      intro attempt
      rcases @queryDevInfo_cases field devId answers fallback info attempt with again | stops
      · have behind := ih (attempt + 1)
        rw [asTried, Prod.mk.injEq] at behind
        rw [retry_again again, retryLoop_again again, asTried, behind.1, behind.2]
        rfl
      · rw [retry_stops stops, retryLoop_stops stops]
        rfl

/-- The query of `DevInfo` does the same, and returns what this one leaves in `*info`. -/
theorem controlGetDevInfo_eq : controlGetDevInfo field devId answers fallback info =
    ((getDevInfoInto field devId answers fallback info).events,
      (getDevInfoInto field devId answers fallback info).result.map
        fun _ => (getDevInfoInto field devId answers fallback info).state) := by
  have same : retry (tryGetDevInfo field devId answers fallback info) 100 20 0 =
      asTried (retries (queryDevInfo field devId answers fallback) (.pause 100) 20 info) := by
    rcases @queryDevInfo_cases field devId answers fallback info 0 with again | stops
    · have behind := @retryLoop_eq_retry field devId answers fallback info 19 1
      rw [asTried, Prod.mk.injEq] at behind
      rw [retry_again again, retries_again again, asTried, behind.1, behind.2]
    · rw [retry_stops stops, retries_decided (by omega) (by simp) stops]
      simp [asTried, later]
  rw [controlGetDevInfo, same, getDevInfoInto]
  generalize retries (queryDevInfo field devId answers fallback) (.pause 100) 20 info = out
  obtain ⟨events, state, result⟩ := out
  cases result with
  | error err => rfl
  | ok written => cases written <;> rfl

/-- A query that an attempt decides: what is left to know is what this attempt wrote and how
it ended. -/
theorem queried_decided {state : DevInfo} {result : Except ControlError Unit}
    (found : deciding answers = some attempt)
    (succeeds : result = .ok () ↔
      0 ≤ (answers attempt).res ∨ (answers attempt).res = -eopnotsupp ∧ 0 ≤ fallback.res)
    (payload : 0 ≤ (answers attempt).res → state = (Object.zero sizeofDevInfo).fill (answers attempt).payload)
    (fallbackPayload : (answers attempt).res = -eopnotsupp → 0 ≤ fallback.res →
      state = info.fill fallback.payload)
    (unchanged : ∀ err, result = .error err → state = info)
    (error : (answers attempt).res < 0 → (answers attempt).res ≠ -eopnotsupp →
      result = .error (.system (-(answers attempt).res) "get_dev_info2"))
    (fallbackError : (answers attempt).res = -eopnotsupp → fallback.res < 0 →
      result = .error (.system (-fallback.res) "")) :
    Queried field devId answers fallback info
      ⟨script field devId (attempts answers) ++
        (if fallsBack answers then [.getDevInfo (getDevInfoCmd devId info)] else []), state, result⟩ := by
  have most := (deciding_some found).1
  have count : attempts answers = attempt + 1 := by rw [attempts, found]
  have same : ∀ k, deciding answers = some k → k = attempt := by
    intro k other
    rw [found, Option.some.injEq] at other
    exact other.symm
  constructor
  · change List.countP _ (_ ++ _) = _
    rw [List.countP_append, count, countP_script]
    split <;> rfl
  · omega
  · rfl
  · constructor
    · intro completed
      exact ⟨attempt, found, succeeds.mp completed⟩
    · intro good
      obtain ⟨k, other, answered⟩ := good
      rw [same k other] at answered
      exact succeeds.mpr answered
  · intro k other
    rw [same k other]
    exact payload
  · intro k other
    rw [same k other]
    exact fallbackPayload
  · exact unchanged
  · intro none
    rw [found] at none
    contradiction
  · intro k other
    rw [same k other]
    exact error
  · intro k other
    rw [same k other]
    exact fallbackError

end Answers

/-- For every sequence of answers: what is issued, whether the query succeeds, what it
leaves in `*info` and which error it ends with. -/
theorem get_dev_info_queried (info : DevInfo) :
    Queried field devId answers fallback info (getDevInfoInto field devId answers fallback info) := by
  cases found : deciding answers with
  | none =>
      have count : attempts answers = 21 := by rw [attempts, found]
      have back : fallsBack answers = false := by rw [fallsBack, found]
      rw [getDevInfoInto_refused found]
      exact {
        issued := by
          rw [count]
          exact countP_script 20
        most := by omega
        events := by simp [count, back]
        succeeds := by simp [found]
        payload := by simp [found]
        fallbackPayload := by simp [found]
        unchanged := fun _ _ => rfl
        refused := fun _ => rfl
        error := by simp [found]
        fallbackError := by simp [found] }
  | some k =>
      obtain ⟨_, other, _⟩ := deciding_some found
      have unsupportedCode : eopnotsupp = 95 := rfl
      have classes : 0 ≤ (answers k).res ∨ (answers k).res = -eopnotsupp ∨
          (answers k).res < 0 ∧ (answers k).res ≠ -eopnotsupp := by omega
      rw [getDevInfoInto_decided found]
      rcases classes with success | unsupported | ⟨failed, supported⟩
      · rw [queryDevInfo_success success]
        apply queried_decided found
        all_goals simp [success, Except.map]
        all_goals omega
      · rw [queryDevInfo_fallback unsupported]
        by_cases success : 0 ≤ fallback.res
        · rw [if_pos success]
          apply queried_decided found
          all_goals simp [unsupported, success, Except.map]
          all_goals omega
        · rw [if_neg success]
          apply queried_decided found
          all_goals simp [unsupported, success, Except.map]
          all_goals omega
      · rw [queryDevInfo_error failed other supported]
        apply queried_decided found
        all_goals simp [failed, supported, Except.map]

end Ublk.Control
