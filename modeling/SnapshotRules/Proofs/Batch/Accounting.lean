import Mathlib
import SnapshotRules.Proofs.Batch.Sequential
import SnapshotRules.Proofs.Snapshot.Answering

/-! # Reports and what happened

Every result of a report tells how its rule was answered, and the text that a report is
aborted with is that of a fetch which failed.
-/

namespace SnapshotRules

open Session

variable {σ : Type} {ctx : Context σ} {registry : Registry} {flag : Bool}
  {s s' : Session σ} {new more : List Event} {case : Case} {outcome : Except RuleError Evaluation}

/-- The report tells what has happened since the flag was as given. -/
structure Report.Accounted (ctx : Context σ) (registry : Registry) (flag : Bool)
    (s : Session σ) (new : List Event) (r : Report) : Prop where
  results : ∀ c ∈ r.results, ∃ case outcome, c = .ofOutcome case outcome ∧
    ctx.Accounts registry flag s new case.rule outcome
  aborted : ∀ text, r.aborted = some text → ∃ e, FailedIn ctx new e ∧ e.message = text

theorem isStopped_of_isStoreFailure (h : ctx.Accounts registry flag s new case.rule outcome)
    (ho : isStoreFailure outcome = true) : IsStopped ctx flag new := by
  unfold isStoreFailure at ho
  split at ho
  · exact .inr ⟨_, h.failedIn⟩
  · exact absurd ho (by simp)

namespace Report

variable {r : Report}

theorem accounted_empty : empty.Accounted ctx registry flag s new :=
  ⟨fun _ hc => absurd hc (by simp [empty]), fun _ ht => absurd ht (by simp [empty])⟩

theorem Accounted.mono (h : r.Accounted ctx registry flag s new)
    (hh : s'.history = s.history ++ more) : r.Accounted ctx registry flag s' (new ++ more) := by
  refine ⟨fun c hc => ?_, fun text ht => ?_⟩
  · obtain ⟨case, outcome, rfl, ho⟩ := h.results c hc
    exact ⟨case, outcome, rfl, ho.mono hh⟩
  · obtain ⟨e, he, ht⟩ := h.aborted text ht
    exact ⟨e, he.append_left more, ht⟩

theorem Accounted.record (h : r.Accounted ctx registry flag s new)
    (ho : ctx.Accounts registry flag s new case.rule outcome) :
    (r.record case outcome).Accounted ctx registry flag s new := by
  refine ⟨fun c hc => ?_, fun text ht => ?_⟩
  · rcases List.mem_append.mp hc with hc | hc
    · exact h.results c hc
    · exact ⟨case, outcome, List.mem_singleton.mp hc, ho⟩
  · rcases Option.or_eq_some_iff.mp ht with ht | ⟨-, ht⟩
    · exact h.aborted text ht
    · split at ht
      · exact ⟨_, ho.failedIn, Option.some.inj ht⟩
      · exact absurd ht (by simp)

theorem Accounted.asks (h : r.Accounted ctx registry false s' new) (he : s.Evolves ctx s' new)
    (hs : s.Keeps) {c : CaseReport} (hc : c ∈ r.results) {e : Expression}
    (hp : parse c.rule = .ok e) {id : String} (hi : id ∈ e.snapshotRefs)
    (hk : ctx.isKnown id = true) (hn : s.documents.get? id = none) :
    (∃ answer, .fetched id answer ∈ new) ∨ ∃ e, FailedIn ctx new e := by
  obtain ⟨case, outcome, rfl, ho⟩ := h.results c hc
  rw [CaseReport.ofOutcome_rule] at hp
  exact ((Context.accounts_of_parse hp).mp ho).asks he hs hi hk hn

end Report

namespace Context

variable {state : RunState σ} {report : Report}

theorem runFrom_accounted (cases : List Case) (he : s.Evolves ctx state.session new)
    (hf : state.cancelled = true → IsStopped ctx flag new)
    (hr : report.Accounted ctx registry flag state.session new) :
    ∃ new, s.Evolves ctx (ctx.runFrom registry report cases state).2.session new ∧
      (ctx.runFrom registry report cases state).1.Accounted ctx registry flag
        (ctx.runFrom registry report cases state).2.session new := by
  induction cases generalizing state report new with
  | nil => exact ⟨new, he, hr⟩
  | cons case cases ih =>
    rw [runFrom]
    rcases hev : ctx.evaluate registry state.cancelled case.rule state.session with ⟨outcome, t⟩
    obtain ⟨more, he', ho⟩ := evaluate_spec hev he.keeps
    have ho := ho.after hf
    refine ih (he.trans he') ?_ ((hr.mono he'.history).record ho)
    intro hc
    rcases (Bool.or_eq_true _ _).mp hc with hc | hc
    · exact (hf hc).append_left more
    · exact isStopped_of_isStoreFailure ho hc

/-- A batch in order reports what has happened. -/
theorem run_accounted (cases : List Case) (hs : state.session.Keeps) :
    ∃ new, state.session.Evolves ctx (ctx.run registry cases state).2.session new ∧
      (ctx.run registry cases state).1.Accounted ctx registry state.cancelled
        (ctx.run registry cases state).2.session new :=
  runFrom_accounted cases (.refl ctx hs) .inl Report.accounted_empty

end Context

end SnapshotRules
