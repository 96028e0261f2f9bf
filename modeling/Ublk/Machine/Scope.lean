import Ublk.Machine.Run
import Mathlib.Data.List.FinRange

namespace Ublk.Machine

/-! # Bodies that spawn tasks into a scope

A body is a sequence of statements, each of which may end it by an exception. Some of them
spawn a task, which then runs on its own, and a join waits for all tasks of the scope. A
body that is left between a spawn and the next join leaves tasks behind that nobody waits
for.
-/

variable {Step Task : Type}

/-- `call` may throw; `spawn` may throw as well, and then the task is not in the scope. -/
inductive Statement (Step Task : Type) where
  | call (step : Step)
  | spawn (step : Step) (task : Task)
  | join

/-- What is left of the body, the tasks that were spawned and not joined, those of them
that still run, and the step whose exception ended the body. -/
structure Scoped (Step Task : Type) where
  rest : List (Statement Step Task)
  unjoined : List Task
  running : List Task
  thrown : Option Step

inductive ScopeAction (Task : Type) where
  | advance
  | throws
  | ends (task : Task)

section Runs

variable [DecidableEq Task]

def Scoped.step (state : Scoped Step Task) : ScopeAction Task → Option (Scoped Step Task)
  | .advance =>
      match state.thrown, state.rest with
      | none, .call _ :: rest => some { state with rest }
      | none, .spawn _ task :: rest =>
          some { state with rest, unjoined := state.unjoined ++ [task], running := state.running ++ [task] }
      | none, .join :: rest => if state.running = [] then some { state with rest, unjoined := [] } else none
      | _, _ => none
  | .throws =>
      match state.thrown, state.rest with
      | none, .call step :: _ => some { state with thrown := some step }
      | none, .spawn step _ :: _ => some { state with thrown := some step }
      | _, _ => none
  | .ends task => if task ∈ state.running then some { state with running := state.running.erase task } else none

def scopeSystem (body : List (Statement Step Task)) : System (Scoped Step Task) (ScopeAction Task) where
  initial := ⟨body, [], [], none⟩
  step := Scoped.step

/-- The states of all runs: tasks end whenever they like. -/
abbrev InScope (body : List (Statement Step Task)) : Scoped Step Task → Prop :=
  Reachable (scopeSystem body) fun _ _ => True

end Runs

/-- Whether a step of the body can find tasks in the scope, given those there now. -/
def Exposed (step : Step) : List (Statement Step Task) → List Task → Prop
  | [], _ => False
  | .call other :: rest, tasks => other = step ∧ tasks ≠ [] ∨ Exposed step rest tasks
  | .spawn other task :: rest, tasks => other = step ∧ tasks ≠ [] ∨ Exposed step rest (tasks ++ [task])
  | .join :: rest, _ => Exposed step rest []

/-- The tasks in the scope behind some statements. -/
def unjoinedAfter : List (Statement Step Task) → List Task → List Task
  | [], tasks => tasks
  | .call _ :: rest, tasks => unjoinedAfter rest tasks
  | .spawn _ task :: rest, tasks => unjoinedAfter rest (tasks ++ [task])
  | .join :: rest, _ => unjoinedAfter rest []

variable {body : List (Statement Step Task)} {state : Scoped Step Task} {step : Step} {tasks : List Task}

/-- A body that has not been left exposes no more steps than it did at its start, and one
that has been left with tasks in its scope exposed the step that threw. -/
def ExposedOnly (body : List (Statement Step Task)) (state : Scoped Step Task) : Prop :=
  match state.thrown with
  | none => ∀ step, Exposed step state.rest state.unjoined → Exposed step body []
  | some step => state.unjoined ≠ [] → Exposed step body []

section Runs

variable [DecidableEq Task]

theorem exposedOnly_kept {before after : Scoped Step Task} {action : ScopeAction Task}
    (only : ExposedOnly body before) (taken : before.step action = some after) : ExposedOnly body after := by
  obtain ⟨rest, unjoined, running, thrown⟩ := before
  cases action with
  | ends task =>
      simp only [Scoped.step] at taken
      split at taken
      · cases taken
        exact only
      · contradiction
  | advance =>
      cases thrown with
      | some step => simp [Scoped.step] at taken
      | none =>
          match rest with
          | [] => simp [Scoped.step] at taken
          | .call other :: rest =>
              cases taken
              exact fun step exposed => only step (.inr exposed)
          | .spawn other task :: rest =>
              cases taken
              exact fun step exposed => only step (.inr exposed)
          | .join :: rest =>
              simp only [Scoped.step] at taken
              split at taken
              · cases taken
                exact fun step exposed => only step exposed
              · contradiction
  | throws =>
      cases thrown with
      | some step => simp [Scoped.step] at taken
      | none =>
          match rest with
          | [] => simp [Scoped.step] at taken
          | .call other :: rest =>
              cases taken
              exact fun some => only other (.inl ⟨rfl, some⟩)
          | .spawn other task :: rest =>
              cases taken
              exact fun some => only other (.inl ⟨rfl, some⟩)
          | .join :: rest => simp [Scoped.step] at taken

theorem InScope.exposedOnly (reached : InScope body state) : ExposedOnly body state := by
  apply reached.invariant (ExposedOnly body)
  · exact fun step exposed => exposed
  · intro before after action _ only _ taken
    exact exposedOnly_kept only taken

theorem InScope.next {after : Scoped Step Task} (reached : InScope body state) (action : ScopeAction Task)
    (taken : state.step action = some after) : InScope body after :=
  Reachable.next reached trivial taken

/-- All tasks may end in front of the next statement. -/
theorem InScope.drained {rest : List (Statement Step Task)} {running : List Task} {thrown : Option Step}
    (reached : InScope body ⟨rest, tasks, running, thrown⟩) : InScope body ⟨rest, tasks, [], thrown⟩ := by
  induction running with
  | nil => exact reached
  | cons task others ih =>
      apply ih
      apply InScope.next reached (.ends task)
      simp [Scoped.step]

/-- An exposed step can throw while all tasks it finds in the scope still run. -/
theorem InScope.exposed_throws {rest : List (Statement Step Task)}
    (reached : InScope body ⟨rest, tasks, tasks, none⟩) (exposed : Exposed step rest tasks) :
    ∃ state, InScope body state ∧ state.thrown = some step ∧ state.unjoined ≠ [] ∧
      state.running = state.unjoined := by
  induction rest generalizing tasks with
  | nil => contradiction
  | cons statement rest ih =>
      cases statement with
      | call other =>
          rcases exposed with ⟨rfl, some⟩ | behind
          · exact ⟨_, InScope.next reached .throws rfl, rfl, some, rfl⟩
          · exact ih (InScope.next reached .advance rfl) behind
      | spawn other task =>
          rcases exposed with ⟨rfl, some⟩ | behind
          · exact ⟨_, InScope.next reached .throws rfl, rfl, some, rfl⟩
          · exact ih (InScope.next reached .advance rfl) behind
      | join => exact ih (InScope.next reached.drained .advance rfl) exposed

/-- Nothing is left behind by the exceptions of a step exactly when it is not exposed. -/
theorem joined_iff_not_exposed :
    (∀ state, InScope body state → state.thrown = some step → state.unjoined = []) ↔ ¬ Exposed step body [] := by
  constructor
  · intro joined exposed
    obtain ⟨state, reached, thrown, some, _⟩ := InScope.exposed_throws .initial exposed
    exact some (joined state reached thrown)
  · intro hidden state reached thrown
    by_contra some
    have only := reached.exposedOnly
    rw [ExposedOnly, thrown] at only
    exact hidden (only some)

end Runs

/-! ## Composed bodies -/

theorem exposed_append {front back : List (Statement Step Task)} :
    Exposed step (front ++ back) tasks ↔
      Exposed step front tasks ∨ Exposed step back (unjoinedAfter front tasks) := by
  induction front generalizing tasks with
  | nil => simp [Exposed, unjoinedAfter]
  | cons statement front ih =>
      cases statement with
      | call other => simp only [List.cons_append, Exposed, unjoinedAfter, ih, or_assoc]
      | spawn other task => simp only [List.cons_append, Exposed, unjoinedAfter, ih, or_assoc]
      | join => simp only [List.cons_append, Exposed, unjoinedAfter, ih]

theorem unjoinedAfter_calls (steps : List Step) :
    unjoinedAfter (steps.map Statement.call) tasks = tasks := by
  induction steps with
  | nil => rfl
  | cons first rest ih => exact ih

theorem not_exposed_calls (steps : List Step) : ¬ Exposed step (steps.map Statement.call) ([] : List Task) := by
  induction steps with
  | nil => exact id
  | cons first rest ih => simpa [Exposed] using ih

/-- A loop that makes and spawns one task after the other. -/
def spawnLoop (make spawn : Task → Step) (tasks : List Task) : List (Statement Step Task) :=
  tasks.flatMap fun task => [.call (make task), .spawn (spawn task) task]

variable {make spawn : Task → Step}

theorem unjoinedAfter_spawnLoop {added : List Task} :
    unjoinedAfter (spawnLoop make spawn added) tasks = tasks ++ added := by
  induction added generalizing tasks with
  | nil => simp [spawnLoop, unjoinedAfter]
  | cons task rest ih =>
      change unjoinedAfter (spawnLoop make spawn rest) (tasks ++ [task]) = tasks ++ task :: rest
      rw [ih, List.append_assoc, List.singleton_append]

/-- A step of the loop finds the tasks of all earlier rounds. -/
theorem exposed_spawnLoop {added : List Task} :
    Exposed step (spawnLoop make spawn added) tasks ↔
      ∃ front task back, added = front ++ task :: back ∧ (make task = step ∨ spawn task = step) ∧
        tasks ++ front ≠ [] := by
  induction added generalizing tasks with
  | nil => simp [spawnLoop, Exposed]
  | cons first rest ih =>
      have unfolded : Exposed step (spawnLoop make spawn (first :: rest)) tasks ↔
          (make first = step ∨ spawn first = step) ∧ tasks ≠ [] ∨
            Exposed step (spawnLoop make spawn rest) (tasks ++ [first]) := by
        change (make first = step ∧ tasks ≠ [] ∨ spawn first = step ∧ tasks ≠ [] ∨
          Exposed step (spawnLoop make spawn rest) (tasks ++ [first])) ↔ _
        tauto
      rw [unfolded, ih]
      constructor
      · intro exposed
        rcases exposed with ⟨steps, some⟩ | ⟨front, task, back, rfl, steps, some⟩
        · exact ⟨[], first, rest, rfl, steps, by simpa using some⟩
        · exact ⟨first :: front, task, back, rfl, steps, by simp⟩
      · intro found
        obtain ⟨front, task, back, split, steps, some⟩ := found
        cases front with
        | nil =>
            cases split
            exact .inl ⟨steps, by simpa using some⟩
        | cons head front =>
            cases split
            exact .inr ⟨front, task, back, rfl, steps, by simp⟩

theorem exposed_spawnLoop_occupied {added : List Task} (occupied : tasks ≠ []) :
    Exposed step (spawnLoop make spawn added) tasks ↔ ∃ task ∈ added, make task = step ∨ spawn task = step := by
  rw [exposed_spawnLoop]
  constructor
  · intro found
    obtain ⟨front, task, back, rfl, steps, _⟩ := found
    exact ⟨task, by simp, steps⟩
  · intro found
    obtain ⟨task, member, steps⟩ := found
    obtain ⟨front, back, split⟩ := List.append_of_mem member
    exact ⟨front, task, back, split, steps, by simp [occupied]⟩

/-- In a counted loop over an empty scope, only the first round finds nothing there. -/
theorem exposed_spawnLoop_finRange {count : Nat} {make spawn : Fin count → Step} :
    Exposed step (spawnLoop make spawn (List.finRange count)) [] ↔
      ∃ round : Fin count, round.val ≠ 0 ∧ (make round = step ∨ spawn round = step) := by
  have position {front back : List (Fin count)} {round : Fin count}
      (split : List.finRange count = front ++ round :: back) : front.length = round.val := by
    have here : (List.finRange count)[front.length]? = some round := by
      rw [split]
      simp
    rw [List.getElem?_eq_some_iff] at here
    obtain ⟨bound, value⟩ := here
    rw [List.getElem_finRange] at value
    exact congrArg Fin.val value
  rw [exposed_spawnLoop]
  constructor
  · intro found
    obtain ⟨front, round, back, split, steps, some⟩ := found
    refine ⟨round, ?_, steps⟩
    rw [← position split]
    simpa using some
  · intro found
    obtain ⟨round, later, steps⟩ := found
    obtain ⟨front, back, split⟩ := List.append_of_mem (List.mem_finRange round)
    refine ⟨front, round, back, split, steps, ?_⟩
    rw [← position split] at later
    simpa using later

end Ublk.Machine
