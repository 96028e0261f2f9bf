import Ublk.Data.LastWrite
import Mathlib.Data.Nat.Bitwise

namespace Ublk.Daemon

open Ublk.Data

/-! # Runtime options and ring sizes

`ublk::RuntimeOptions` derives from `condy::RuntimeOptions` and shadows two of its
setters. Which setter a call reaches is decided by the static type of its receiver, and
an inherited setter returns a reference to the base class. The other options of condy are
a parameter, as no code here looks at them.
-/

variable {Rest : Type}

/-- `condy::RuntimeOptions`. -/
structure CondyOptions (Rest : Type) where
  sqSize : BitVec 64
  cqSize : BitVec 64
  rest : Rest

/-- `ublk::RuntimeOptions`. -/
structure RuntimeOptions (Rest : Type) extends CondyOptions Rest where
  requestedSqSize : BitVec 64 := 0
  requestedCqSize : BitVec 64 := 0

inductive Setter (Rest : Type) where
  | sqSize (v : BitVec 64)
  | cqSize (v : BitVec 64)
  | inherited (set : Rest → Rest)

/-- The static type of the object a setter is called on. -/
inductive Receiver where
  | condy
  | ublk
deriving DecidableEq, Repr

structure Call (Rest : Type) where
  receiver : Receiver
  setter : Setter Rest

/-- The static type of what the call returns. -/
def Call.returns : Call Rest → Receiver
  | ⟨receiver, .sqSize _⟩ => receiver
  | ⟨receiver, .cqSize _⟩ => receiver
  | ⟨_, .inherited _⟩ => .condy

/-- The calls of one statement, each on what the one before it returned. -/
def chain (receiver : Receiver) : List (Setter Rest) → List (Call Rest)
  | [] => []
  | setter :: rest => ⟨receiver, setter⟩ :: chain (Call.returns ⟨receiver, setter⟩) rest

/-- All calls of a caller: every statement starts from the object itself. -/
def calls (statements : List (List (Setter Rest))) : List (Call Rest) :=
  statements.flatMap (chain .ublk)

def CondyOptions.set (options : CondyOptions Rest) : Setter Rest → CondyOptions Rest
  | .sqSize v => { options with sqSize := v }
  | .cqSize v => { options with cqSize := v }
  | .inherited set => { options with rest := set options.rest }

def RuntimeOptions.call (options : RuntimeOptions Rest) : Call Rest → RuntimeOptions Rest
  | ⟨.ublk, .sqSize v⟩ =>
      { options with requestedSqSize := v, toCondyOptions := options.toCondyOptions.set (.sqSize v) }
  | ⟨.ublk, .cqSize v⟩ =>
      { options with requestedCqSize := v, toCondyOptions := options.toCondyOptions.set (.cqSize v) }
  | ⟨_, setter⟩ => { options with toCondyOptions := options.toCondyOptions.set setter }

/-- `std::max`. -/
def stdMax (left right : BitVec 64) : BitVec 64 := if left < right then right else left

def RuntimeOptions.build (options : RuntimeOptions Rest) (defaultSqSize : BitVec 64) :
    CondyOptions Rest :=
  (options.toCondyOptions.set (.sqSize (stdMax options.requestedSqSize defaultSqSize))).set
    (.cqSize (stdMax options.requestedCqSize (defaultSqSize * 2)))

/-- A caller's object: a fresh one, after all calls. -/
def configured (defaults : CondyOptions Rest) (statements : List (List (Setter Rest))) :
    RuntimeOptions Rest :=
  (calls statements).foldl RuntimeOptions.call { toCondyOptions := defaults }

/-- The options of a queue's loop in `daemon_run_t::invoke`, for an object or a null pointer. -/
def loopOptions (defaults : CondyOptions Rest) (runtimeOptions : Option (RuntimeOptions Rest))
    (queueDepth : BitVec 16) : CondyOptions Rest :=
  match runtimeOptions with
  | some options => options.build (queueDepth.setWidth 64)
  | none => RuntimeOptions.build { toCondyOptions := defaults } (queueDepth.setWidth 64)

/-! ## Requests -/

def Call.sq : Call Rest → Option (BitVec 64)
  | ⟨_, .sqSize v⟩ => some v
  | _ => none

def Call.cq : Call Rest → Option (BitVec 64)
  | ⟨_, .cqSize v⟩ => some v
  | _ => none

/-- A request that `ublk::RuntimeOptions` itself receives. -/
def Call.directSq : Call Rest → Option (BitVec 64)
  | ⟨.ublk, .sqSize v⟩ => some v
  | _ => none

def Call.directCq : Call Rest → Option (BitVec 64)
  | ⟨.ublk, .cqSize v⟩ => some v
  | _ => none

/-- The sizes are large enough for the queue and for the last requests, and the completion
ring is no smaller than the submission ring unless the caller asked for that. -/
structure Honoured (made : List (Call Rest)) (queueDepth : BitVec 16) (built : CondyOptions Rest) :
    Prop where
  sqDepth : queueDepth.toNat ≤ built.sqSize.toNat
  sqRequest : ∀ v, lastWrite Call.sq made = some v → v.toNat ≤ built.sqSize.toNat
  cqDepth : 2 * queueDepth.toNat ≤ built.cqSize.toNat
  cqRequest : ∀ v, lastWrite Call.cq made = some v → v.toNat ≤ built.cqSize.toNat
  accepted : built.sqSize.toNat ≤ built.cqSize.toNat ∨
    ∃ v, lastWrite Call.cq made = some v ∧ v.toNat < built.sqSize.toNat

/-- The last requests are covered by the last direct ones or by the depth, and a direct
request for a large submission ring comes with one for the completion ring. -/
structure Direct (made : List (Call Rest)) (queueDepth : BitVec 16) : Prop where
  sq : ∀ v, lastWrite Call.sq made = some v →
    v.toNat ≤ max ((lastWrite Call.directSq made).getD 0).toNat queueDepth.toNat
  cq : ∀ v, lastWrite Call.cq made = some v →
    v.toNat ≤ max ((lastWrite Call.directCq made).getD 0).toNat (2 * queueDepth.toNat)
  both : lastWrite Call.cq made = none →
    ((lastWrite Call.directSq made).getD 0).toNat ≤ 2 * queueDepth.toNat

theorem stdMax_toNat (left right : BitVec 64) : (stdMax left right).toNat = max left.toNat right.toNat := by
  rw [stdMax]
  split
  · rename_i less
    rw [Nat.max_eq_right (Nat.le_of_lt (BitVec.lt_def.mp less))]
  · rename_i greater
    rw [Nat.max_eq_left (Nat.le_of_not_lt (fun less => greater (BitVec.lt_def.mpr less)))]

variable (defaults : CondyOptions Rest) (statements : List (List (Setter Rest)))

theorem configured_requestedSqSize :
    (configured defaults statements).requestedSqSize =
      (lastWrite Call.directSq (calls statements)).getD 0 := by
  apply foldl_lastWrite RuntimeOptions.requestedSqSize
  intro options call _
  obtain ⟨receiver, setter⟩ := call
  cases receiver <;> cases setter <;> rfl

theorem configured_requestedCqSize :
    (configured defaults statements).requestedCqSize =
      (lastWrite Call.directCq (calls statements)).getD 0 := by
  apply foldl_lastWrite RuntimeOptions.requestedCqSize
  intro options call _
  obtain ⟨receiver, setter⟩ := call
  cases receiver <;> cases setter <;> rfl

theorem lastWrite_directCq {made : List (Call Rest)} (unasked : lastWrite Call.cq made = none) :
    lastWrite Call.directCq made = none := by
  induction made with
  | nil => rfl
  | cons call rest ih =>
      simp only [lastWrite, Option.or_eq_none_iff] at unasked ⊢
      refine ⟨ih unasked.1, ?_⟩
      obtain ⟨receiver, setter⟩ := call
      cases setter with
      | cqSize v =>
          have made := unasked.2
          contradiction
      | sqSize v => cases receiver <;> rfl
      | inherited set => cases receiver <;> rfl

variable (queueDepth : BitVec 16)

theorem build_sqSize (options : RuntimeOptions Rest) :
    (options.build (queueDepth.setWidth 64)).sqSize.toNat =
      max options.requestedSqSize.toNat queueDepth.toNat := by
  have bound := queueDepth.isLt
  have same : (queueDepth.setWidth 64).toNat = queueDepth.toNat := by
    rw [BitVec.toNat_setWidth]
    omega
  rw [← same]
  exact stdMax_toNat _ _

theorem build_cqSize (options : RuntimeOptions Rest) :
    (options.build (queueDepth.setWidth 64)).cqSize.toNat =
      max options.requestedCqSize.toNat (2 * queueDepth.toNat) := by
  have bound := queueDepth.isLt
  have doubled : (queueDepth.setWidth 64 * 2).toNat = 2 * queueDepth.toNat := by
    rw [BitVec.toNat_mul, BitVec.toNat_setWidth, show BitVec.toNat (2 : BitVec 64) = 2 from rfl]
    omega
  rw [← doubled]
  exact stdMax_toNat _ _

/-- For every caller, the rings of a queue's loop honour the requests exactly when these
were made on the object itself, up to what the depth covers anyway. -/
theorem ring_sizes_honoured_iff :
    Honoured (calls statements) queueDepth
        (loopOptions defaults (some (configured defaults statements)) queueDepth) ↔
      Direct (calls statements) queueDepth := by
  have sq := build_sqSize queueDepth (configured defaults statements)
  have cq := build_cqSize queueDepth (configured defaults statements)
  rw [configured_requestedSqSize] at sq
  rw [configured_requestedCqSize] at cq
  rw [loopOptions]
  constructor
  · intro honoured
    constructor
    · intro v last
      rw [← sq]
      exact honoured.sqRequest v last
    · intro v last
      rw [← cq]
      exact honoured.cqRequest v last
    · intro unasked
      rcases honoured.accepted with accepted | ⟨v, requested, _⟩
      · rw [sq, cq, lastWrite_directCq unasked, show Option.getD none (0 : BitVec 64) = 0 from rfl] at accepted
        simp only [BitVec.toNat_zero, BitVec.ofNat_eq_ofNat] at accepted ⊢
        omega
      · rw [unasked] at requested
        contradiction
  · intro direct
    constructor
    · rw [sq]
      exact Nat.le_max_right _ _
    · intro v last
      rw [sq]
      exact direct.sq v last
    · rw [cq]
      exact Nat.le_max_right _ _
    · intro v last
      rw [cq]
      exact direct.cq v last
    · cases last : lastWrite Call.cq (calls statements) with
      | none =>
          have small := direct.both last
          left
          rw [sq, cq]
          omega
      | some v =>
          -- a request that is kept and no smaller than the submission ring is enough
          have kept := direct.cq v last
          rw [← cq] at kept
          rcases Nat.lt_or_ge v.toNat ((configured defaults statements).build
              (queueDepth.setWidth 64)).sqSize.toNat with smaller | covers
          · exact .inr ⟨v, rfl, smaller⟩
          · exact .inl (covers.trans kept)

/-- A request chained after an inherited setter is lost, and a large submission ring alone
leaves a completion ring of twice the depth, which is smaller. -/
theorem ring_sizes_not_honoured :
    (let chained : List (List (Setter Unit)) := [[.inherited id, .sqSize 1024]]
     let options := loopOptions ⟨0, 0, ()⟩ (some (configured ⟨0, 0, ()⟩ chained)) 64
     options.sqSize = 64 ∧ ¬ Honoured (calls chained) 64 options) ∧
    (let large : List (List (Setter Unit)) := [[.sqSize 1024]]
     let options := loopOptions ⟨0, 0, ()⟩ (some (configured ⟨0, 0, ()⟩ large)) 64
     options.sqSize = 1024 ∧ options.cqSize = 128 ∧ ¬ Honoured (calls large) 64 options) := by
  refine ⟨⟨rfl, ?_⟩, rfl, rfl, ?_⟩
  · intro honoured
    exact absurd (honoured.sqRequest 1024 rfl) (by decide)
  · intro honoured
    rcases honoured.accepted with accepted | ⟨v, requested, _⟩
    · exact absurd accepted (by decide)
    · contradiction

end Ublk.Daemon
