import Mathlib.Data.List.Basic

namespace Ublk.Data

/-! # Words in one text

A text that grows word by word, with a separator in front of every word but the first.
Words that are not empty and hold no separator are read back by splitting it.
-/

variable {α : Type} (separator : α)

def appendWord (text word : List α) : List α :=
  (if text.isEmpty then text else text ++ [separator]) ++ word

/-- The words of a text; an empty text has none. -/
def readWords [BEq α] (text : List α) : List (List α) :=
  if text.isEmpty then [] else text.splitOn separator

variable {separator}

theorem foldl_appendWord {words : List (List α)} (solid : ∀ word ∈ words, word ≠ []) :
    ∀ {text : List α}, text ≠ [] →
      words.foldl (appendWord separator) text = [separator].intercalate (text :: words) := by
  induction words with
  | nil =>
      intro text _
      simp
  | cons word rest ih =>
      intro text some
      have filled : text.isEmpty = false := List.isEmpty_eq_false_iff.mpr some
      have grown : appendWord separator text word = text ++ separator :: word := by
        simp [appendWord, filled]
      have later := ih (fun other member => solid other (List.mem_cons_of_mem _ member))
        (List.append_ne_nil_of_left_ne_nil some (separator :: word))
      rw [List.foldl_cons, grown, later]
      cases rest with
      | nil => simp
      | cons next rest => simp [List.intercalate_cons_cons]

theorem appendWords_eq_intercalate {words : List (List α)} (solid : ∀ word ∈ words, word ≠ []) :
    words.foldl (appendWord separator) [] = [separator].intercalate words := by
  cases words with
  | nil => rfl
  | cons word rest =>
      have first := solid word List.mem_cons_self
      exact foldl_appendWord (fun other member => solid other (List.mem_cons_of_mem _ member)) first

theorem readWords_appendWords [DecidableEq α] {words : List (List α)}
    (clean : ∀ word ∈ words, word ≠ [] ∧ separator ∉ word) :
    readWords separator (words.foldl (appendWord separator) []) = words := by
  rw [appendWords_eq_intercalate fun word member => (clean word member).1, readWords]
  cases words with
  | nil => rfl
  | cons word rest =>
      have first : word ≠ [] := (clean word List.mem_cons_self).1
      have filled : ([separator].intercalate (word :: rest)).isEmpty = false := by
        cases rest with
        | nil => simpa using first
        | cons next rest => simp [List.intercalate_cons_cons]
      rw [filled, if_neg Bool.false_ne_true]
      apply List.splitOn_intercalate
      · exact fun other member => (clean other member).2
      · simp

end Ublk.Data
