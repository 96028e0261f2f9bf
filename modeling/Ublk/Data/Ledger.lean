import Mathlib.Data.Multiset.AddSub

namespace Ublk.Data

/-! # Ledgers of resources

What has been acquired and released, as multisets, so that a resource that was acquired
twice has to be released twice. A release that finds its resource not held changes nothing
and is noted.
-/

variable {R : Type}

structure Ledger (R : Type) where
  acquired : Multiset R
  released : Multiset R
  held : Multiset R
  idle : Multiset R
  balanced : acquired = released + held

namespace Ledger

def empty : Ledger R := ⟨0, 0, 0, 0, rfl⟩

def acquire (ledger : Ledger R) (resource : R) : Ledger R where
  acquired := resource ::ₘ ledger.acquired
  released := ledger.released
  held := resource ::ₘ ledger.held
  idle := ledger.idle
  balanced := by rw [ledger.balanced, Multiset.add_cons]

variable [DecidableEq R]

def release (ledger : Ledger R) (resource : R) : Ledger R :=
  if here : resource ∈ ledger.held then
    { acquired := ledger.acquired
      released := resource ::ₘ ledger.released
      held := ledger.held.erase resource
      idle := ledger.idle
      balanced := by rw [ledger.balanced, Multiset.cons_add, ← Multiset.add_cons, Multiset.cons_erase here] }
  else { ledger with idle := resource ::ₘ ledger.idle }

def releaseAll (ledger : Ledger R) (resources : List R) : Ledger R := resources.foldl release ledger

theorem release_held {ledger : Ledger R} {resource : R} {others : Multiset R}
    (held : ledger.held = resource ::ₘ others) :
    (ledger.release resource).held = others ∧ (ledger.release resource).idle = ledger.idle := by
  have here : resource ∈ ledger.held := by
    rw [held]
    exact Multiset.mem_cons_self _ _
  have erased : ledger.held.erase resource = others := by rw [held, Multiset.erase_cons_head]
  rw [release, dif_pos here]
  exact ⟨erased, rfl⟩

theorem release_idle {ledger : Ledger R} {resource : R} (absent : resource ∉ ledger.held) :
    (ledger.release resource).held = ledger.held ∧
      (ledger.release resource).idle = resource ::ₘ ledger.idle := by
  rw [release, dif_neg absent]
  exact ⟨rfl, rfl⟩

theorem releaseAll_acquired (ledger : Ledger R) (resources : List R) :
    (ledger.releaseAll resources).acquired = ledger.acquired := by
  induction resources generalizing ledger with
  | nil => rfl
  | cons resource rest ih =>
      change ((ledger.release resource).releaseAll rest).acquired = ledger.acquired
      rw [ih, release]
      split <;> rfl

/-- Releasing everything that is held and some more: nothing is held any longer, and what
was too much was idle. -/
theorem releaseAll_owned {ledger : Ledger R} {resources : List R} {extra : Multiset R}
    (owned : ledger.held + extra = resources) :
    (ledger.releaseAll resources).held = 0 ∧
      (ledger.releaseAll resources).idle = ledger.idle + extra := by
  induction resources generalizing ledger extra with
  | nil =>
      have nothing : ledger.held + extra = 0 := owned
      have held : ledger.held = 0 := Multiset.le_zero.mp (nothing ▸ Multiset.le_add_right _ _)
      have none : extra = 0 := Multiset.le_zero.mp (nothing ▸ Multiset.le_add_left _ _)
      exact ⟨held, by rw [none, Multiset.add_zero]; rfl⟩
  | cons resource rest ih =>
      have all : ledger.held + extra = resource ::ₘ (rest : Multiset R) := owned
      by_cases here : resource ∈ ledger.held
      · obtain ⟨others, split⟩ := Multiset.exists_cons_of_mem here
        obtain ⟨held, idle⟩ := release_held split
        have remaining : (ledger.release resource).held + extra = rest := by
          rw [split, Multiset.cons_add, Multiset.cons_inj_right] at all
          rw [held, all]
        obtain ⟨settled, noted⟩ := ih remaining
        exact ⟨settled, by rw [← idle]; exact noted⟩
      · have surplus : resource ∈ extra := by
          have member : resource ∈ ledger.held + extra := by
            rw [all]
            exact Multiset.mem_cons_self _ _
          exact (Multiset.mem_add.mp member).resolve_left here
        obtain ⟨others, split⟩ := Multiset.exists_cons_of_mem surplus
        obtain ⟨held, idle⟩ := release_idle here
        have remaining : (ledger.release resource).held + others = rest := by
          rw [split, Multiset.add_cons, Multiset.cons_inj_right] at all
          rw [held, all]
        obtain ⟨settled, noted⟩ := ih remaining
        refine ⟨settled, ?_⟩
        change (releaseAll (ledger.release resource) rest).idle = ledger.idle + extra
        rw [noted, idle, split, Multiset.cons_add, Multiset.add_cons]

end Ledger

end Ublk.Data
