import SnapshotRules.Rule.Evaluation

/-! # Reports

What became of the rules of a batch.
-/

namespace SnapshotRules

structure Case where
  id : String
  rule : String
  deriving DecidableEq

inductive Status where
  | passed
  | failed
  | invalid (error : String)
  | cancelled
  deriving DecidableEq

structure CaseReport where
  id : String
  rule : String
  status : Status
  evaluation : Option Evaluation
  deriving DecidableEq

/-- The results in case order, and the store error that aborted the batch. -/
structure Report where
  results : List CaseReport
  aborted : Option String
  deriving DecidableEq

namespace CaseReport

/-- The result of a case. A rule that a store failure stopped counts as cancelled. -/
def ofOutcome (case : Case) : Except RuleError Evaluation → CaseReport
  | .ok e => ⟨case.id, case.rule, if e.verdict then .passed else .failed, some e⟩
  | .error (.store _) | .error .cancelled => ⟨case.id, case.rule, .cancelled, none⟩
  | .error e => ⟨case.id, case.rule, .invalid e.message, none⟩

end CaseReport

namespace Report

def empty : Report := ⟨[], none⟩

/-- Records the outcome of a case. The first store failure is the one that aborts. -/
def record (r : Report) (case : Case) (outcome : Except RuleError Evaluation) : Report :=
  let failure := match outcome with
    | .error (.store e) => some e.message
    | _ => none
  ⟨r.results ++ [.ofOutcome case outcome], r.aborted.or failure⟩

def passed (r : Report) : Nat := r.results.countP fun c => c.status = .passed

def failed (r : Report) : Nat := r.results.countP fun c => c.status = .failed

def invalid (r : Report) : Nat :=
  r.results.countP fun c => match c.status with
    | .invalid _ => true
    | _ => false

def cancelled (r : Report) : Nat := r.results.countP fun c => c.status = .cancelled

def isAborted (r : Report) : Bool := r.aborted.isSome

/-- Whether the batch ran to its end and every rule passed. -/
def isSuccess (r : Report) : Bool := !r.isAborted && r.passed = r.results.length

end Report

/-- What a runner carries from batch to batch. The flag stays set once a store fails. -/
structure RunState (σ : Type) where
  session : Session σ
  cancelled : Bool

def isStoreFailure : Except RuleError Evaluation → Bool
  | .error (.store _) => true
  | _ => false

end SnapshotRules
