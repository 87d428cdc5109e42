import SnapshotRules.Batch.Machine

/-! # Concurrent batches

Tasks take turns. A turn lasts until the task cannot move or has used up its allowance of
steps; a task that has used it up gives way and goes on when no other task can move.
-/

namespace SnapshotRules

/-- A machine with the order in which its tasks go on. -/
structure Schedule (σ : Type) where
  machine : Machine σ
  /-- The tasks whose turns are next. The first one has begun its turn. -/
  due : List Nat
  /-- How many more steps of that turn may count. -/
  allowance : Nat
  /-- The tasks that have given way, latest first. -/
  resting : List Nat

namespace Schedule

variable {σ : Type}

/-- How many counted steps a turn may have. -/
def turnLength : Nat := 128

def start (m : Machine σ) : Schedule σ := ⟨m, [], turnLength, []⟩

/-- The next step of a task in its turn. Without allowance the task gives way instead. -/
def proceed (ctx : Context σ) (registry : Registry) (s : Schedule σ) (i : Nat)
    (others : List Nat) : Option (Schedule σ) :=
  (s.machine.step ctx registry i).map fun m =>
    if s.machine.isCounted i then
      match s.allowance with
      | 0 => ⟨s.machine.turnRound i, others, turnLength, i :: s.resting⟩
      | n + 1 => ⟨m, i :: others, n, s.resting⟩
    else { s with machine := m, due := i :: others }

/-- Begins the turn of the first task that can move and does not rest. -/
def wake (ctx : Context σ) (registry : Registry) (s : Schedule σ) : Option (Schedule σ) :=
  (List.range s.machine.tasks.length).findSome? fun i =>
    if i ∈ s.resting then none
    else { s with allowance := turnLength }.proceed ctx registry i []

/-- What happens next: a step of a turn, the end of a turn, a new turn, or, when no task can
move, the turns of tasks that gave way. When there are none either, time passes. -/
def advance (ctx : Context σ) (registry : Registry) (s : Schedule σ) : Option (Schedule σ) :=
  match s.due with
  | i :: others =>
    match s.proceed ctx registry i others with
    | some next => some next
    | none => some { s with due := others, allowance := turnLength }
  | [] =>
    match s.wake ctx registry, s.resting with
    | some next, _ => some next
    | none, [] => s.machine.expire.map fun m => { s with machine := m }
    | none, resting => some ⟨s.machine, resting, turnLength, []⟩

def runFor (ctx : Context σ) (registry : Registry) : Nat → Schedule σ → Schedule σ
  | 0, s => s
  | n + 1, s =>
    match s.advance ctx registry with
    | some s => runFor ctx registry n s
    | none => s

end Schedule

namespace Machine

variable {σ : Type}

/-- No run of a case takes more steps, the passing of time included. -/
def work (case : Case) : Nat :=
  match parse case.rule with
  | .error _ => 4
  | .ok e => 6 + 3 * e.snapshotRefs.length + e.left.steps + e.right.steps

/-- Runs all tasks to their ends. Turns that begin, end or are put off triple the steps at
most. -/
def run (ctx : Context σ) (registry : Registry) (m : Machine σ) : Machine σ :=
  ((Schedule.start m).runFor ctx registry
    (3 * m.tasks.foldr (fun task n => work task.case + n) 0)).machine

end Machine

namespace Context

variable {σ : Type}

def runConcurrent (ctx : Context σ) (registry : Registry) (permits : Permits) (cases : List Case)
    (state : RunState σ) : Report × RunState σ :=
  let m := (Machine.init state permits cases).run ctx registry
  (m.report, ⟨m.session, m.cancelled⟩)

/-- Runs the cases as tasks, at most `concurrency` at once and at least one. It breaks off when
there cannot be so many permits. -/
def runConcurrent? (ctx : Context σ) (registry : Registry) (concurrency : Nat) (cases : List Case)
    (state : RunState σ) : Option (Report × RunState σ) :=
  (Permits.of? concurrency).map fun permits => ctx.runConcurrent registry permits cases state

variable {ctx : Context σ} {registry : Registry} {concurrency : Nat} {cases : List Case}
  {state : RunState σ}

theorem isSome_runConcurrent?_iff :
    (ctx.runConcurrent? registry concurrency cases state).isSome ↔ concurrency ≤ maxPermits := by
  rw [runConcurrent?, Option.isSome_map, Permits.isSome_of?_iff]

theorem exists_runConcurrent?_eq_some (h : concurrency ≤ maxPermits) : ∃ permits : Permits,
    permits.count = max concurrency 1 ∧ ctx.runConcurrent? registry concurrency cases state =
      some (ctx.runConcurrent registry permits cases state) := by
  obtain ⟨permits, hp⟩ := Option.isSome_iff_exists.mp (Permits.isSome_of?_iff.mpr h)
  refine ⟨permits, Permits.of?_eq_some_iff.mp hp, ?_⟩
  rw [runConcurrent?, hp, Option.map_some]

end Context

end SnapshotRules
