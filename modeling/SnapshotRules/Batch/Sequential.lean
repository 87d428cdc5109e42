import SnapshotRules.Batch.Report

/-! # Batches in order

Rules run one after another over one context. A store failure cancels those after it.
-/

namespace SnapshotRules

namespace Context

variable {σ : Type}

/-- Evaluates the cases from one state on and adds their outcomes to a report. -/
def runFrom (ctx : Context σ) (registry : Registry) (report : Report) :
    List Case → RunState σ → Report × RunState σ
  | [], state => (report, state)
  | case :: cases, state =>
    let (outcome, session) := ctx.evaluate registry state.cancelled case.rule state.session
    ctx.runFrom registry (report.record case outcome) cases
      ⟨session, state.cancelled || isStoreFailure outcome⟩

def run (ctx : Context σ) (registry : Registry) (cases : List Case) (state : RunState σ) :
    Report × RunState σ := ctx.runFrom registry .empty cases state

end Context

end SnapshotRules
