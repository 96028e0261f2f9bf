import Mathlib.Data.List.Chain
import Mathlib.Data.List.Range

namespace Ublk.Data

/-! # Maximal runs

A set of numbers below a bound, written as the runs of consecutive members it is made of.
-/

structure Run where
  first : Nat
  last : Nat
  ordered : first ≤ last
deriving DecidableEq, Repr

def Run.members (run : Run) : List Nat := List.range' run.first (run.last + 1 - run.first)

/-- The runs of `p` between two bounds: together they are its members in order, and no
two neighbours could be one run. -/
structure IsRuns (p : Nat → Bool) (low high : Nat) (runs : List Run) : Prop where
  covers : runs.flatMap Run.members = (List.range' low (high - low)).filter p
  maximal : runs.IsChain fun run next => run.last + 1 < next.first

variable {p : Nat → Bool} {low high : Nat} {run : Run} {runs : List Run}

theorem Run.mem_members {value : Nat} : value ∈ run.members ↔ run.first ≤ value ∧ value ≤ run.last := by
  have ordered := run.ordered
  rw [Run.members, List.mem_range'_1]
  omega

theorem IsRuns.nil (finished : high ≤ low) : IsRuns p low high [] := by
  constructor
  · rw [Nat.sub_eq_zero_of_le finished]
    rfl
  · exact List.IsChain.nil

theorem IsRuns.skip (behind : IsRuns p (low + 1) high runs) (inside : low < high)
    (absent : p low = false) : IsRuns p low high runs := by
  constructor
  · have first : high - low = high - (low + 1) + 1 := by omega
    rw [behind.covers, first, List.range'_succ, List.filter_cons_of_neg (by simp [absent])]
  · exact behind.maximal

theorem IsRuns.of_mem (all : IsRuns p low high runs) (member : run ∈ runs) :
    low ≤ run.first ∧ run.first < high ∧ p run.first = true := by
  have first : run.first ∈ runs.flatMap Run.members :=
    List.mem_flatMap.mpr ⟨run, member, Run.mem_members.mpr ⟨Nat.le_refl _, run.ordered⟩⟩
  rw [all.covers, List.mem_filter, List.mem_range'_1] at first
  exact ⟨first.1.1, by omega, first.2⟩

theorem IsRuns.cons (behind : IsRuns p (run.last + 1) high runs) (inside : run.last < high)
    (present : ∀ value, run.first ≤ value → value ≤ run.last → p value = true)
    (ended : run.last + 1 = high ∨ p (run.last + 1) = false) : IsRuns p run.first high (run :: runs) := by
  have ordered := run.ordered
  constructor
  · have whole : run.members.filter p = run.members := by
      rw [List.filter_eq_self]
      intro value member
      obtain ⟨above, below⟩ := Run.mem_members.mp member
      exact present value above below
    have count : high - run.first = (run.last + 1 - run.first) + (high - (run.last + 1)) := by omega
    have next : run.first + (run.last + 1 - run.first) = run.last + 1 := by omega
    rw [List.flatMap_cons, behind.covers, count, ← List.range'_append_1, next, List.filter_append,
      ← Run.members, whole]
  · rw [List.isChain_cons]
    refine ⟨?_, behind.maximal⟩
    intro next head
    obtain ⟨above, below, member⟩ := behind.of_mem (List.mem_of_mem_head? head)
    -- the number behind a run is no member, so the next run does not start there
    rcases ended with atEnd | absent
    · omega
    · have distinct : next.first ≠ run.last + 1 := by
        intro same
        rw [same, absent] at member
        contradiction
      omega

end Ublk.Data
