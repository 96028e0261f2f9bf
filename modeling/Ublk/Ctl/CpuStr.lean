import Ublk.Control.Operations
import Ublk.Data.Runs

namespace Ublk.Ctl

open Ublk.Data Ublk.Control

/-! # The CPU list of `ublkctl`

`cpu_str` prints an affinity mask as numbers and ranges. Its two loops share one index;
beside the text the model keeps the indices that were given to `CPU_ISSET`.
-/

def cpuSetsize : Nat := 1024

/-- `CPU_ISSET`, on the bytes of the mask. -/
def cpuIsset (cpu : Nat) (cpuset : CpuSet) : Bool :=
  ((cpuset.val[cpu / 8]?.getD 0).toNat).testBit (cpu % 8)

variable (isset : Nat → Bool)

/-- The inner loop: increment, then test. The index it stops at, and the tests so far. -/
def skipRun (i : Nat) (tested : List Nat) : Nat × List Nat :=
  if i + 1 < cpuSetsize then
    if isset (i + 1) then skipRun (i + 1) (tested ++ [i + 1])
    else (i + 1, tested ++ [i + 1])
  else (i + 1, tested)
termination_by cpuSetsize - i

theorem lt_skipRun (i : Nat) (tested : List Nat) : i < (skipRun isset i tested).1 := by
  fun_induction skipRun isset i tested with
  | case1 i tested inside present ih => omega
  | case2 i tested inside absent => exact Nat.lt_succ_self i
  | case3 i tested outside => exact Nat.lt_succ_self i

/-- The body behind the inner loop. -/
def appendRun (s : List Char) (start last : Nat) : List Char :=
  let s := if s.isEmpty then s else s ++ [' ']
  let s := s ++ decimal start
  if last > start then s ++ ['-'] ++ decimal last else s

/-- The outer loop. -/
def scanCpus (i : Nat) (s : List Char) (tested : List Nat) : List Char × List Nat :=
  if i < cpuSetsize then
    if isset i then
      let next := skipRun isset i (tested ++ [i])
      scanCpus next.1 (appendRun s i (next.1 - 1)) next.2
    else scanCpus (i + 1) s (tested ++ [i])
  else (s, tested)
termination_by cpuSetsize - i
decreasing_by
  · have advanced := lt_skipRun isset i (tested ++ [i])
    omega
  · omega

def cpuStr (cpuset : CpuSet) : List Char := (scanCpus (cpuIsset · cpuset) 0 [] []).1

/-- The indices `cpu_str` tests. -/
def cpuStrTested (cpuset : CpuSet) : List Nat := (scanCpus (cpuIsset · cpuset) 0 [] []).2

/-! ## Reading the list back -/

inductive Item where
  | single (cpu : Nat)
  | range (first last : Nat)
deriving DecidableEq, Repr

def Item.first : Item → Nat
  | .single cpu => cpu
  | .range first _ => first

def Item.last : Item → Nat
  | .single cpu => cpu
  | .range _ last => last

def Item.cpus (item : Item) : List Nat := List.range' item.first (item.last + 1 - item.first)

def readNumber (text : List Char) : Option Nat :=
  if text.isEmpty || !text.all Char.isDigit then none else some (Nat.ofDigitChars 10 text 0)

def readItem (text : List Char) : Option Item :=
  match text.splitOn '-' with
  | [number] => (readNumber number).map .single
  | [first, last] => do
      let first ← readNumber first
      let last ← readNumber last
      some (.range first last)
  | _ => none

def readCpus (text : List Char) : Option (List Item) :=
  if text.isEmpty then some [] else (text.splitOn ' ').mapM readItem

/-! ## Numbers and items -/

theorem decimal_digits {value : Nat} {char : Char} (member : char ∈ decimal value) :
    char.isDigit = true :=
  Nat.isDigit_of_mem_toDigits (by decide) (by decide) member

theorem readNumber_decimal (value : Nat) : readNumber (decimal value) = some value := by
  have digits : (decimal value).all Char.isDigit = true :=
    List.all_eq_true.mpr fun _ member => decimal_digits member
  have some : (decimal value).isEmpty = false := List.isEmpty_eq_false_iff.mpr Nat.toDigits_ne_nil
  have value := @Nat.ofDigitChars_ten_toDigits value
  simp only [readNumber, digits, some, Bool.not_true, Bool.or_self, Bool.false_eq_true, if_false]
  rw [decimal, value]

theorem not_mem_decimal {char : Char} (other : char.isDigit = false) (value : Nat) :
    char ∉ decimal value := by
  intro member
  rw [decimal_digits member] at other
  contradiction

/-- What is printed for a run, and what it is read as. -/
def runText (run : Run) : List Char :=
  if run.last > run.first then decimal run.first ++ ['-'] ++ decimal run.last else decimal run.first

def runItem (run : Run) : Item :=
  if run.last > run.first then .range run.first run.last else .single run.first

theorem runText_ne_nil (run : Run) : runText run ≠ [] := by
  rw [runText]
  split
  · simp
  · exact Nat.toDigits_ne_nil

theorem space_not_mem_runText (run : Run) : ' ' ∉ runText run := by
  have space : ∀ value, ' ' ∉ decimal value := not_mem_decimal rfl
  rw [runText]
  split
  · simp [space]
  · exact space run.first

theorem readItem_runText (run : Run) : readItem (runText run) = some (runItem run) := by
  have dash : ∀ value, '-' ∉ decimal value := not_mem_decimal rfl
  by_cases several : run.last > run.first
  · have parts : (decimal run.first ++ ['-'] ++ decimal run.last).splitOn '-' =
        [decimal run.first, decimal run.last] := by
      rw [List.append_assoc, List.singleton_append,
        List.splitOn_append_cons_self_of_not_mem (dash run.first),
        List.splitOn_eq_singleton (dash run.last)]
    simp only [readItem, runText, runItem, several, if_true, parts, readNumber_decimal]
    rfl
  · have part : (decimal run.first).splitOn '-' = [decimal run.first] :=
      List.splitOn_eq_singleton (dash run.first)
    simp only [readItem, runText, runItem, several, if_false, part, readNumber_decimal]
    rfl

theorem runItem_bounds (run : Run) :
    (runItem run).first = run.first ∧ (runItem run).last = run.last := by
  have ordered := run.ordered
  rw [runItem]
  split
  · exact ⟨rfl, rfl⟩
  · exact ⟨rfl, by simp only [Item.last]; omega⟩

theorem runItem_cpus (run : Run) : (runItem run).cpus = run.members := by
  obtain ⟨first, last⟩ := runItem_bounds run
  rw [Item.cpus, first, last, Run.members]

/-! ## The text of a list of runs -/

def render (runs : List Run) : List Char := [' '].intercalate (runs.map runText)

@[simp] theorem render_isEmpty (runs : List Run) : (render runs).isEmpty = runs.isEmpty := by
  cases runs with
  | nil => rfl
  | cons run rest =>
      cases rest with
      | nil => simp [render, runText_ne_nil]
      | cons next rest => simp [render]

theorem readItems_runText (runs : List Run) : (runs.map runText).mapM readItem = some (runs.map runItem) := by
  induction runs with
  | nil => rfl
  | cons run rest ih =>
      rw [List.map_cons, List.mapM_cons, readItem_runText, ih]
      rfl

theorem readCpus_render (runs : List Run) : readCpus (render runs) = some (runs.map runItem) := by
  rw [readCpus, render_isEmpty]
  cases runs with
  | nil => rfl
  | cons run rest =>
      have parts : (render (run :: rest)).splitOn ' ' = (run :: rest).map runText := by
        apply List.splitOn_intercalate
        · intro text member
          obtain ⟨printed, _, rfl⟩ := List.mem_map.mp member
          exact space_not_mem_runText printed
        · simp
      rw [parts]
      exact readItems_runText (run :: rest)

theorem render_append (runs : List Run) (run : Run) (some : runs ≠ []) :
    render (runs ++ [run]) = render runs ++ [' '] ++ runText run := by
  induction runs with
  | nil => contradiction
  | cons first rest ih =>
      cases rest with
      | nil => simp [render]
      | cons second rest =>
          have tail := ih (by simp)
          simp only [render, List.cons_append, List.map_cons, List.intercalate_cons_cons] at tail ⊢
          rw [tail]
          simp

/-- The text grows by one item, behind a blank unless it is the first. -/
theorem appendRun_render (runs : List Run) (run : Run) :
    appendRun (render runs) run.first run.last = render (runs ++ [run]) := by
  have item (s : List Char) : appendRun s run.first run.last =
      (if s.isEmpty then s else s ++ [' ']) ++ runText run := by
    simp only [appendRun, runText]
    split <;> simp
  rw [item, render_isEmpty]
  cases runs with
  | nil => simp [render]
  | cons first rest => exact (render_append (first :: rest) run (by simp)).symm

/-! ## The loops -/

variable {isset : Nat → Bool} {i : Nat} {tested : List Nat}

/-- Where the inner loop stops: behind the run, with no test outside of the mask. -/
structure RunEnd (isset : Nat → Bool) (i : Nat) (next : Nat × List Nat) : Prop where
  bound : next.1 ≤ cpuSetsize
  members : ∀ cpu, i < cpu → cpu < next.1 → isset cpu = true
  ended : next.1 = cpuSetsize ∨ isset next.1 = false
  tests : ∀ cpu ∈ next.2, cpu < cpuSetsize

theorem bounded_append (bounded : ∀ cpu ∈ tested, cpu < cpuSetsize) (inside : i < cpuSetsize) :
    ∀ cpu ∈ tested ++ [i], cpu < cpuSetsize := by
  intro cpu member
  rcases List.mem_append.mp member with before | here
  · exact bounded cpu before
  · rw [List.mem_singleton.mp here]
    exact inside

theorem skipRun_end (inside : i < cpuSetsize) (bounded : ∀ cpu ∈ tested, cpu < cpuSetsize) :
    RunEnd isset i (skipRun isset i tested) := by
  fun_induction skipRun isset i tested with
  | case1 i tested next present ih =>
      have behind := ih next (bounded_append bounded next)
      refine ⟨behind.bound, ?_, behind.ended, behind.tests⟩
      intro cpu above below
      rcases Nat.eq_or_lt_of_le above with rfl | further
      · exact present
      · exact behind.members cpu further below
  | case2 i tested next absent =>
      refine ⟨Nat.le_of_lt next, ?_, .inr (by simpa using absent), ?_⟩
      · intro cpu above below
        omega
      · exact bounded_append bounded next
  | case3 i tested last =>
      refine ⟨inside, ?_, .inl (by omega), bounded⟩
      intro cpu above below
      omega

/-- The outer loop, from any point of it: the text is that of the runs so far, and grows
by the runs from the index on. -/
theorem scanCpus_spec {s : List Char} {before : List Run} (text : s = render before)
    (bounded : ∀ cpu ∈ tested, cpu < cpuSetsize) :
    ∃ runs, IsRuns isset i cpuSetsize runs ∧
      (scanCpus isset i s tested).1 = render (before ++ runs) ∧
      ∀ cpu ∈ (scanCpus isset i s tested).2, cpu < cpuSetsize := by
  fun_induction scanCpus isset i s tested generalizing before with
  | case1 i s tested inside present next =>
      rename_i ih
      have advanced : i < next.1 := lt_skipRun isset i (tested ++ [i])
      have ends : RunEnd isset i next := skipRun_end inside (bounded_append bounded inside)
      have bound := ends.bound
      obtain ⟨run, rfl, last⟩ : ∃ run : Run, run.first = i ∧ run.last = next.1 - 1 :=
        ⟨⟨i, next.1 - 1, by omega⟩, rfl, rfl⟩
      have behind : run.last + 1 = next.1 := by omega
      have printed : appendRun s run.first (next.1 - 1) = render (before ++ [run]) := by
        rw [text, ← last]
        exact appendRun_render before run
      obtain ⟨runs, rest, joined, allTests⟩ := ih printed ends.tests
      rw [← behind] at rest
      refine ⟨run :: runs, rest.cons (by omega) ?_ (behind ▸ ends.ended), ?_, allTests⟩
      · intro cpu above below
        rcases Nat.eq_or_lt_of_le above with rfl | further
        · exact present
        · exact ends.members cpu further (by omega)
      · rw [joined, List.append_assoc, List.singleton_append]
  | case2 i s tested inside absent ih =>
      obtain ⟨runs, rest, joined, allTests⟩ := ih text (bounded_append bounded inside)
      exact ⟨runs, rest.skip inside (by simpa using absent), joined, allTests⟩
  | case3 i s tested outside =>
      refine ⟨[], IsRuns.nil (Nat.le_of_not_lt outside), ?_, bounded⟩
      rw [text, List.append_nil]

/-- The printed list is read back as the CPUs of the mask in order, in ranges of at least
two that no neighbour could join; both loops end, with no test outside of the mask. -/
theorem cpu_str_exact (cpuset : CpuSet) :
    ∃ items, readCpus (cpuStr cpuset) = some items ∧
      items.flatMap Item.cpus = (List.range cpuSetsize).filter (cpuIsset · cpuset) ∧
      (∀ first last, Item.range first last ∈ items → first < last) ∧
      items.IsChain (fun item next => item.last + 1 < next.first) ∧
      ∀ cpu ∈ cpuStrTested cpuset, cpu < cpuSetsize := by
  obtain ⟨runs, all, printed, tests⟩ :=
    @scanCpus_spec (cpuIsset · cpuset) 0 [] [] [] rfl (by simp)
  refine ⟨runs.map runItem, ?_, ?_, ?_, ?_, tests⟩
  · rw [cpuStr, printed]
    exact readCpus_render runs
  · rw [List.flatMap_map, List.range_eq_range']
    simpa only [runItem_cpus, Nat.sub_zero] using all.covers
  · intro first last member
    obtain ⟨run, _, item⟩ := List.mem_map.mp member
    rw [runItem] at item
    split at item
    · cases item
      assumption
    · contradiction
  · rw [List.isChain_map]
    apply all.maximal.imp
    intro run next apart
    rw [(runItem_bounds run).2, (runItem_bounds next).1]
    exact apart

end Ublk.Ctl
