import Mathlib
import SnapshotRules.Proofs.Record.RoundTrip
import SnapshotRules.Record.Report

/-! # What written reports tell

A written report has a result for every case report, in order, and tells what has aborted the
batch exactly when something has. Nothing is lost when a report is written.
-/

namespace SnapshotRules

variable {c c' : CaseReport} {r r' : Report} {stamp stamp' : RunStamp} {fields : Entries Value}

def Status.error? : Status → Option String
  | .invalid error => some error
  | .passed | .failed | .cancelled => none

theorem Status.eq_of_name {s s' : Status} (hn : s.name = s'.name) (he : s.error? = s'.error?) :
    s = s' := by
  cases s <;> cases s' <;> simp_all [name, error?]

theorem Evaluation.toValue_inj {e e' : Evaluation} : e.toValue = e'.toValue ↔ e = e' := by
  refine ⟨fun h => ?_, congrArg toValue⟩
  have hread := roundTrips.recovered e
  rw [h, roundTrips.recovered] at hread
  exact (Option.some.inj hread).symm

namespace CaseReport

/-- What the fields of a written result tell. -/
structure WrittenAs (c : CaseReport) (fields : Entries Value) : Prop where
  id : fields.get? "id" = some (.string c.id)
  rule : fields.get? "rule" = some (.string c.rule)
  status : fields.get? "status" = some (.string c.status.name)
  error : fields.get? "error" = c.status.error?.map .string
  result : fields.get? "result" = c.evaluation.map Evaluation.toValue

theorem writtenAs_fields (c : CaseReport) : c.WrittenAs c.fields := by
  obtain ⟨id, rule, status, evaluation⟩ := c
  constructor <;> cases status <;> cases evaluation <;> rfl

theorem WrittenAs.unique (h : c.WrittenAs fields) (h' : c'.WrittenAs fields) : c = c' := by
  have hid : c.id = c'.id := by simpa [h.id] using h'.id
  have hrule : c.rule = c'.rule := by simpa [h.rule] using h'.rule
  have hname : c.status.name = c'.status.name := by simpa [h.status] using h'.status
  have herror : c.status.error? = c'.status.error? :=
    Option.map_injective (fun _ _ => Value.string.inj) (h.error.symm.trans h'.error)
  have hresult : c.evaluation = c'.evaluation :=
    Option.map_injective (fun _ _ => Evaluation.toValue_inj.mp) (h.result.symm.trans h'.result)
  have hstatus := Status.eq_of_name hname herror
  cases c
  cases c'
  simp_all

end CaseReport

namespace Report

/-- What the fields of a written report tell. -/
structure WrittenAs (stamp : RunStamp) (r : Report) (fields : Entries Value) : Prop where
  runId : fields.get? "runId" = some (.string stamp.runId)
  startedAt : fields.get? "startedAt" = some (.string stamp.startedAt)
  finishedAt : fields.get? "finishedAt" = some (.string stamp.finishedAt)
  results : ∃ items : List (Entries Value),
    fields.get? "results" = some (.sequence (items.map .mapping)) ∧
      List.Forall₂ CaseReport.WrittenAs r.results items
  aborted : fields.get? "aborted" = r.aborted.map .string

theorem writtenAs_fields (stamp : RunStamp) (r : Report) : r.WrittenAs stamp (r.fields stamp) := by
  obtain ⟨results, aborted⟩ := r
  constructor
  case results =>
    refine ⟨results.map CaseReport.fields, ?_, ?_⟩
    · rw [List.map_map]
      rfl
    · rw [List.forall₂_map_right_iff]
      exact List.forall₂_same.mpr fun c _ => c.writtenAs_fields
  case aborted => cases aborted <;> rfl
  all_goals rfl

theorem WrittenAs.unique (h : r.WrittenAs stamp fields) (h' : r'.WrittenAs stamp' fields) :
    r = r' ∧ stamp = stamp' := by
  have hrunId : stamp.runId = stamp'.runId := by simpa [h.runId] using h'.runId
  have hstartedAt : stamp.startedAt = stamp'.startedAt := by simpa [h.startedAt] using h'.startedAt
  have hfinishedAt : stamp.finishedAt = stamp'.finishedAt := by
    simpa [h.finishedAt] using h'.finishedAt
  have haborted : r.aborted = r'.aborted :=
    Option.map_injective (fun _ _ => Value.string.inj) (h.aborted.symm.trans h'.aborted)
  have hresults : r.results = r'.results := by
    obtain ⟨items, hitems, hall⟩ := h.results
    obtain ⟨items', hitems', hall'⟩ := h'.results
    rw [hitems, Option.some.injEq, Value.sequence.injEq] at hitems'
    obtain rfl := List.map_injective_iff.mpr (fun _ _ => Value.mapping.inj) hitems'
    have hunique : Relator.LeftUnique CaseReport.WrittenAs := fun _ _ _ =>
      CaseReport.WrittenAs.unique
    exact List.left_unique_forall₂' hunique hall hall'
  cases r
  cases r'
  cases stamp
  cases stamp'
  simp_all

/-- Reports that are written alike are alike, and so are their runs. -/
theorem toValue_inj : r.toValue stamp = r'.toValue stamp' ↔ r = r' ∧ stamp = stamp' := by
  constructor
  · intro h
    have hfields := Value.mapping.inj h
    have hwritten := r'.writtenAs_fields stamp'
    rw [← hfields] at hwritten
    exact (r.writtenAs_fields stamp).unique hwritten
  · rintro ⟨rfl, rfl⟩
    rfl

end Report

end SnapshotRules
