import Mathlib.Algebra.BigOperators.Group.Finset.Basic
import Mathlib.Data.Finset.Card
import Mathlib.Data.Finset.Range
import Mathlib.Data.List.Nodup

namespace Ublk.Data

/-! Counting over the first `n` natural numbers: how a count changes when one
index changes, how many distinct indices there are, and what a search finds. -/

theorem countP_range_congr {n : Nat} {old new : Nat → Bool}
    (same : ∀ index < n, new index = old index) :
    (List.range n).countP new = (List.range n).countP old :=
  List.countP_congr fun index member => by rw [same index (List.mem_range.mp member)]

theorem countP_range_drop {n index : Nat} {old new : Nat → Bool} (inside : index < n)
    (was : old index = true) (now : new index = false)
    (rest : ∀ other, other ≠ index → new other = old other) :
    (List.range n).countP new + 1 = (List.range n).countP old := by
  induction n with
  | zero => omega
  | succ n ih =>
      rw [List.range_succ, List.countP_append, List.countP_append]
      by_cases last : index = n
      · subst last
        have below : (List.range index).countP new = (List.range index).countP old :=
          countP_range_congr fun other less => rest other (by omega)
        rw [below]
        simp [was, now]
      · have below := ih (by omega)
        have top := rest n (by omega)
        simp only [List.countP_singleton, top]
        omega

theorem length_le_of_nodup_below {n : Nat} {values : List Nat} (distinct : values.Nodup)
    (below : ∀ value ∈ values, value < n) : values.length ≤ n := by
  have included : values.toFinset ⊆ Finset.range n := by
    intro value member
    exact Finset.mem_range.mpr (below value (List.mem_toFinset.mp member))
  have cards := Finset.card_le_card included
  rwa [List.toFinset_card_of_nodup distinct, Finset.card_range] at cards

/-- A value that occurs at most once among the entries has one index. -/
theorem index_unique {n value first second : Nat} {entry : Nat → Nat}
    (once : ((List.range n).map entry).count value ≤ 1) (firstInside : first < n)
    (secondInside : second < n)
    (firstEntry : entry first = value) (secondEntry : entry second = value) : first = second := by
  rw [List.count_eq_countP, List.countP_map, List.countP_eq_length_filter] at once
  have member {index : Nat} (inside : index < n) (same : entry index = value) :
      index ∈ (List.range n).filter ((· == value) ∘ entry) := by
    simp [inside, same]
  obtain ⟨only, single⟩ : ∃ only, ∀ index ∈ (List.range n).filter ((· == value) ∘ entry), index = only := by
    cases found : (List.range n).filter ((· == value) ∘ entry) with
    | nil => exact ⟨0, by simp⟩
    | cons head tail =>
        rw [found] at once
        rw [List.length_cons] at once
        have none : tail = [] := List.eq_nil_of_length_eq_zero (by omega)
        exact ⟨head, by simp [none]⟩
  exact (single first (member firstInside firstEntry)).trans
    (single second (member secondInside secondEntry)).symm

/-- The search over an initial segment finds what the smallest number has. -/
theorem findSome?_range_eq_some {β : Type} {find : Nat → Option β} {bound : Nat} {found : β} :
    (List.range bound).findSome? find = some found ↔
      ∃ number < bound, find number = some found ∧ ∀ earlier < number, find earlier = none := by
  induction bound with
  | zero => simp
  | succ bound ih =>
      rw [List.range_succ, List.findSome?_append, Option.or_eq_some_iff, ih, List.findSome?_eq_none_iff]
      simp only [List.mem_range, List.findSome?_singleton]
      constructor
      · rintro (⟨number, inside, here, first⟩ | ⟨none, last⟩)
        · exact ⟨number, by omega, here, first⟩
        · exact ⟨bound, by omega, last, none⟩
      · rintro ⟨number, inside, here, first⟩
        by_cases last : number = bound
        · subst last
          exact .inr ⟨first, here⟩
        · exact .inl ⟨number, by omega, here, first⟩

/-- A sum over an initial segment, when one entry is replaced. -/
theorem sum_range_update {α : Type} {n index : Nat} (inside : index < n) (weight : α → Nat)
    (entries : Nat → α) (entry : α) :
    ∑ i ∈ Finset.range n, weight (Function.update entries index entry i) + weight (entries index) =
      ∑ i ∈ Finset.range n, weight (entries i) + weight entry := by
  have member : index ∈ Finset.range n := Finset.mem_range.mpr inside
  rw [← Finset.add_sum_erase _ _ member,
    ← Finset.add_sum_erase (Finset.range n) (fun i => weight (entries i)) member]
  have rest : ∑ i ∈ (Finset.range n).erase index, weight (Function.update entries index entry i) =
      ∑ i ∈ (Finset.range n).erase index, weight (entries i) := by
    apply Finset.sum_congr rfl
    intro i other
    rw [Function.update_of_ne (Finset.ne_of_mem_erase other)]
  rw [rest, Function.update_self]
  omega

end Ublk.Data
