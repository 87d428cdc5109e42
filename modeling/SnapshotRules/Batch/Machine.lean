import SnapshotRules.Batch.Permits
import SnapshotRules.Batch.Report
import SnapshotRules.Snapshot.Join

/-! # Machines

Every rule of a concurrent batch is a task. Tasks share the documents of a session, a limited
number of permits and the flag that cancels them. `Machine.step` lets one task do one thing,
so every order of steps is a possible run.
-/

namespace SnapshotRules

inductive Stage where
  /-- Waits for a permit. -/
  | queued
  | admitted
  | parsed (e : Expression)
  | fetching (e : Expression) (join : Join)
  /-- Has as many checkpoints ahead before it ends with the outcome. -/
  | resolving (checkpoints : Nat) (outcome : Except RuleError Evaluation)
  | finished (outcome : Except RuleError Evaluation)

structure Task where
  case : Case
  stage : Stage

structure Machine (σ : Type) where
  session : Session σ
  cancelled : Bool
  permits : Nat
  /-- The ids whose fetches have not ended. -/
  inFlight : List String
  tasks : List Task

namespace Stage

def expire : Stage → Stage
  | .fetching e join => .fetching e join.expire
  | stage => stage

def isHanging : Stage → Bool
  | .fetching _ join => join.isHanging
  | _ => false

def outcome? : Stage → Option (Except RuleError Evaluation)
  | .finished outcome => some outcome
  | _ => none

/-- Whether the next step counts: one that takes a permit or looks at a slot. -/
def isCounted : Stage → Bool
  | .queued => true
  | .fetching _ join => join.outcome?.isNone
  | _ => false

/-- The task goes on from the other end of what is left to fetch. -/
def turnRound : Stage → Stage
  | .fetching e join => .fetching e { join with backwards := !join.backwards }
  | stage => stage

end Stage

namespace Machine

variable {σ : Type}

def init (state : RunState σ) (permits : Permits) (cases : List Case) : Machine σ :=
  ⟨state.session, state.cancelled, permits.count, [], cases.map fun case => ⟨case, .queued⟩⟩

def setStage (m : Machine σ) (i : Nat) (stage : Stage) : Machine σ :=
  { m with tasks := m.tasks.modify i fun task => { task with stage } }

/-- Ends a task: it gives back its permit and its fetches, and a store failure sets the flag. -/
def finish (m : Machine σ) (i : Nat) (held : List String)
    (outcome : Except RuleError Evaluation) : Machine σ :=
  { m.setStage i (.finished outcome) with
    cancelled := m.cancelled || isStoreFailure outcome
    permits := m.permits + 1
    inFlight := m.inFlight.filter fun id => id ∉ held }

/-- One step of a task in the machine, or `none` when it cannot move. -/
def stepTask (ctx : Context σ) (registry : Registry) (m : Machine σ) (i : Nat) (task : Task) :
    Option (Machine σ) :=
  match task.stage with
  | .queued =>
    if 0 < m.permits then some { m.setStage i .admitted with permits := m.permits - 1 } else none
  | .admitted =>
    if m.cancelled then some (m.finish i [] (.error .cancelled))
    else
      match parse task.case.rule with
      | .error e => some (m.finish i [] (.error (.ofSyntax e)))
      | .ok e => some (m.setStage i (.parsed e))
  | .parsed e =>
    if m.cancelled then some (m.finish i [] (.error .cancelled))
    else
      let known := e.snapshotRefs.filter ctx.isKnown
      some (m.setStage i (.fetching e (.start m.session.documents known)))
  | .fetching e join =>
    match join.outcome? with
    | some (.ok documents) =>
      let scope := ctx.scope registry documents
      let outcome := e.evaluateIn scope false task.case.rule
      some (m.setStage i (.resolving (e.checkpoints scope) outcome))
    | some (.error error) => some (m.finish i join.held (.error (.store error)))
    | none =>
      (join.poll ctx m.session m.inFlight).map fun (join, session, inFlight) =>
        { m.setStage i (.fetching e join) with session, inFlight }
  | .resolving 0 outcome => some (m.finish i [] outcome)
  | .resolving (n + 1) outcome =>
    if m.cancelled then some (m.finish i [] (.error .cancelled))
    else some (m.setStage i (.resolving n outcome))
  | .finished _ => none

/-- One step of the `i`-th task, or `none` when it cannot move. -/
def step (ctx : Context σ) (registry : Registry) (m : Machine σ) (i : Nat) :
    Option (Machine σ) :=
  m.tasks[i]?.bind fun task => stepTask ctx registry m i task

def isCounted (m : Machine σ) (i : Nat) : Bool := m.tasks[i]?.any fun task => task.stage.isCounted

def turnRound (m : Machine σ) (i : Nat) : Machine σ :=
  { m with tasks := m.tasks.modify i fun task => { task with stage := task.stage.turnRound } }

/-- Time passes until every fetch that hangs has run out of it. -/
def expire (m : Machine σ) : Option (Machine σ) :=
  if m.tasks.any fun task => task.stage.isHanging then
    some { m with tasks := m.tasks.map fun task => { task with stage := task.stage.expire } }
  else none

def report (m : Machine σ) : Report :=
  m.tasks.foldl (fun report task =>
    match task.stage.outcome? with
    | some outcome => report.record task.case outcome
    | none => report) .empty

end Machine

end SnapshotRules
