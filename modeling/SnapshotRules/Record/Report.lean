import SnapshotRules.Batch.Report
import SnapshotRules.Record.Evaluation
import SnapshotRules.Record.Stamp

/-! # Written reports

A report as a JSON record. Apart from its results it tells which run it is about.
-/

namespace SnapshotRules

namespace Status

def name : Status → String
  | .passed => "passed"
  | .failed => "failed"
  | .invalid _ => "invalid"
  | .cancelled => "cancelled"

/-- The status of a case and, for an invalid rule, its error. -/
def fields (status : Status) : Entries Value :=
  ("status", .string status.name) :: match status with
    | .invalid error => [("error", .string error)]
    | _ => []

end Status

namespace CaseReport

def fields (c : CaseReport) : Entries Value :=
  [("id", .string c.id), ("rule", .string c.rule)] ++ c.status.fields ++
    c.evaluation.toList.map fun e => ("result", e.toValue)

def toValue (c : CaseReport) : Value := .mapping c.fields

end CaseReport

namespace Report

def fields (stamp : RunStamp) (r : Report) : Entries Value :=
  [("runId", .string stamp.runId), ("startedAt", .string stamp.startedAt),
    ("finishedAt", .string stamp.finishedAt),
    ("results", .sequence (r.results.map CaseReport.toValue))] ++
      r.aborted.toList.map fun error => ("aborted", .string error)

def toValue (stamp : RunStamp) (r : Report) : Value := .mapping (r.fields stamp)

end Report

end SnapshotRules
