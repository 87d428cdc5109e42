import Mathlib
import SnapshotRules.Batch.Sequential
import SnapshotRules.Proofs.Rule.Resolving

/-! # Results of batches in order

Up to the first store failure every result tells how the rule is evaluated, and from there on
all are cancelled. Nothing is fetched after that failure.
-/

namespace SnapshotRules

/-- The result tells how an evaluation ended that was neither cancelled nor stopped by the
store. -/
structure CaseReport.Tells (r : CaseReport) (outcome : Except RuleError Evaluation) : Prop where
  passed : r.status = .passed ↔ ∃ e, outcome = .ok e ∧ e.verdict = true
  failed : r.status = .failed ↔ ∃ e, outcome = .ok e ∧ e.verdict = false
  invalid (text : String) : r.status = .invalid text ↔
    ∃ e, outcome = .error e ∧ e.isInvalidRule = true ∧ e.message = text
  not_cancelled : r.status ≠ .cancelled
  evaluation : r.evaluation = outcome.toOption

def CaseReport.IsCancelled (r : CaseReport) : Prop := r.status = .cancelled ∧ r.evaluation = none

variable {case : Case} {outcome : Except RuleError Evaluation}

theorem CaseReport.ofOutcome_id : (ofOutcome case outcome).id = case.id := by
  unfold ofOutcome
  split <;> rfl

theorem CaseReport.ofOutcome_rule : (ofOutcome case outcome).rule = case.rule := by
  unfold ofOutcome
  split <;> rfl

theorem CaseReport.isCancelled_ofOutcome (h : isStoreFailure outcome = true) :
    (ofOutcome case outcome).IsCancelled := by
  unfold isStoreFailure at h
  split at h
  · exact ⟨rfl, rfl⟩
  · exact absurd h (by simp)

theorem CaseReport.tells_ofOutcome
    (h : ∀ error, outcome = .error error → error.isInvalidRule = true) :
    (ofOutcome case outcome).Tells outcome := by
  cases outcome with
  | ok e => constructor <;> cases hv : e.verdict <;> simp [ofOutcome, hv, Except.toOption]
  | error error =>
    have hi := h error rfl
    cases error with
    | store e => exact absurd hi (by simp [RuleError.isInvalidRule])
    | cancelled => exact absurd hi (by simp [RuleError.isInvalidRule])
    | _ => constructor <;> simp [ofOutcome, Except.toOption, RuleError.isInvalidRule]

theorem exists_store_of_isStoreFailure (h : isStoreFailure outcome = true) :
    ∃ e, outcome = .error (.store e) := by
  unfold isStoreFailure at h
  split at h
  · exact ⟨_, rfl⟩
  · exact absurd h (by simp)

/-! ## Counts -/

namespace Report

theorem count_add_count (r : Report) :
    r.passed + r.failed + r.invalid + r.cancelled = r.results.length := by
  obtain ⟨results, aborted⟩ := r
  simp only [passed, failed, invalid, cancelled]
  induction results with
  | nil => rfl
  | cons c results ih =>
    simp only [List.countP_cons, List.length_cons]
    cases c.status <;> simp <;> omega

theorem passed_eq_length_iff (r : Report) :
    r.passed = r.results.length ↔ ∀ c ∈ r.results, c.status = .passed := by
  rw [passed, List.countP_eq_length]
  simp

end Report

/-! ## Outcomes after a store failure -/

/-- Cancels all that comes after the first store failure. -/
def settle : List (Except RuleError Evaluation) → List (Except RuleError Evaluation)
  | [] => []
  | o :: os => o :: if isStoreFailure o then os.map fun _ => .error .cancelled else settle os

theorem length_settle (os : List (Except RuleError Evaluation)) :
    (settle os).length = os.length := by
  induction os with
  | nil => rfl
  | cons o os ih =>
    rw [settle]
    split
    · simp
    · rw [List.length_cons, ih, List.length_cons]

theorem getElem?_settle (os : List (Except RuleError Evaluation)) (i : Nat) :
    (settle os)[i]? = os[i]?.map fun o =>
      if i ≤ os.findIdx isStoreFailure then o else .error .cancelled := by
  induction os generalizing i with
  | nil => rfl
  | cons o os ih =>
    rw [settle, List.findIdx_cons]
    cases i with
    | zero => simp
    | succ i =>
      rw [List.getElem?_cons_succ, List.getElem?_cons_succ]
      cases hf : isStoreFailure o with
      | true => simp only [if_true, cond_true, List.getElem?_map]; simp
      | false => simpa using ih i

def firstFailure? : List (Except RuleError Evaluation) → Option String
  | [] => none
  | .error (.store e) :: _ => some e.message
  | _ :: os => firstFailure? os

theorem firstFailure?_cons_of_clear {o : Except RuleError Evaluation}
    (h : isStoreFailure o = false) (os : List (Except RuleError Evaluation)) :
    firstFailure? (o :: os) = firstFailure? os := by
  unfold isStoreFailure at h
  split at h
  · exact absurd h (by simp)
  · next hn =>
    rw [firstFailure?]
    exact hn

theorem firstFailure?_eq_some_iff (os : List (Except RuleError Evaluation)) (text : String) :
    firstFailure? os = some text ↔
      ∃ e, os[os.findIdx isStoreFailure]? = some (.error (.store e)) ∧ e.message = text := by
  induction os with
  | nil => simp [firstFailure?]
  | cons o os ih =>
    cases hf : isStoreFailure o with
    | true =>
      obtain ⟨e, rfl⟩ := exists_store_of_isStoreFailure hf
      simp [firstFailure?, List.findIdx_cons, isStoreFailure]
    | false =>
      rw [firstFailure?_cons_of_clear hf, List.findIdx_cons, hf, cond_false,
        List.getElem?_cons_succ, ih]

namespace Context

variable {σ : Type} {ctx : Context σ} {registry : Registry}

/-- The outcomes of the cases, each evaluated with the flag clear in the session that those
before it leave. -/
def outcomes (ctx : Context σ) (registry : Registry) :
    List Case → Session σ → List (Except RuleError Evaluation)
  | [], _ => []
  | case :: cases, s =>
    (ctx.evaluate registry false case.rule s).1 ::
      ctx.outcomes registry cases (ctx.evaluate registry false case.rule s).2

/-- The session after the cases, each evaluated with the flag clear. -/
def sessionAfter (ctx : Context σ) (registry : Registry) (cases : List Case) (s : Session σ) :
    Session σ :=
  cases.foldl (fun s case => (ctx.evaluate registry false case.rule s).2) s

theorem length_outcomes (cases : List Case) (s : Session σ) :
    (ctx.outcomes registry cases s).length = cases.length := by
  induction cases generalizing s with
  | nil => rfl
  | cons case cases ih => rw [outcomes, List.length_cons, ih, List.length_cons]

theorem exists_evaluate_of_mem_outcomes {cases : List Case} {s : Session σ}
    (h : outcome ∈ ctx.outcomes registry cases s) :
    ∃ rule s', outcome = (ctx.evaluate registry false rule s').1 := by
  induction cases generalizing s with
  | nil => exact absurd h (by simp [outcomes])
  | cons case cases ih =>
    rw [outcomes] at h
    rcases List.mem_cons.mp h with rfl | h
    · exact ⟨case.rule, s, rfl⟩
    · exact ih h

theorem zipWith_replicate_length (cases : List Case) :
    List.zipWith CaseReport.ofOutcome cases (List.replicate cases.length outcome) =
      cases.map fun case => .ofOutcome case outcome := by
  induction cases with
  | nil => rfl
  | cons case cases ih =>
    rw [List.length_cons, List.replicate_succ, List.zipWith_cons_cons, ih, List.map_cons]

theorem runFrom_of_cancelled (report : Report) (cases : List Case) (s : Session σ) :
    ctx.runFrom registry report cases ⟨s, true⟩ =
      (⟨report.results ++ cases.map fun case => .ofOutcome case (.error .cancelled),
        report.aborted⟩, ⟨s, true⟩) := by
  induction cases generalizing report with
  | nil => simp [runFrom]
  | cons case cases ih =>
    rw [runFrom]
    simp only [evaluate_cancelled, Bool.true_or]
    rw [ih]
    simp [Report.record]

theorem record_of_clear {report : Report} (h : isStoreFailure outcome = false) :
    report.record case outcome = ⟨report.results ++ [.ofOutcome case outcome], report.aborted⟩ := by
  unfold isStoreFailure at h
  split at h
  · exact absurd h (by simp)
  · next hn =>
    unfold Report.record
    split
    · next e => exact absurd rfl (hn e)
    · simp

/-- A batch with the flag clear evaluates its cases up to the first store failure. -/
theorem runFrom_of_clear (report : Report) (cases : List Case) (s : Session σ) :
    ctx.runFrom registry report cases ⟨s, false⟩ =
      (⟨report.results ++
          List.zipWith .ofOutcome cases (settle (ctx.outcomes registry cases s)),
        report.aborted.or (firstFailure? (ctx.outcomes registry cases s))⟩,
      ⟨ctx.sessionAfter registry
          (cases.take ((ctx.outcomes registry cases s).findIdx isStoreFailure + 1)) s,
        (firstFailure? (ctx.outcomes registry cases s)).isSome⟩) := by
  induction cases generalizing report s with
  | nil => simp [runFrom, outcomes, settle, firstFailure?, sessionAfter]
  | cons case cases ih =>
    rw [runFrom, outcomes]
    rcases he : ctx.evaluate registry false case.rule s with ⟨outcome, next⟩
    simp only [Bool.false_or, List.findIdx_cons]
    cases hf : isStoreFailure outcome with
    | true =>
      obtain ⟨e, rfl⟩ := exists_store_of_isStoreFailure hf
      rw [runFrom_of_cancelled]
      simp [Report.record, settle, firstFailure?, sessionAfter, isStoreFailure, he]
      rw [length_outcomes, zipWith_replicate_length]
    | false =>
      rw [ih, record_of_clear hf, firstFailure?_cons_of_clear hf, settle, hf]
      simp [sessionAfter, he]

variable {cases : List Case} {s : Session σ}

theorem run_of_clear : ctx.run registry cases ⟨s, false⟩ =
    (⟨List.zipWith .ofOutcome cases (settle (ctx.outcomes registry cases s)),
      firstFailure? (ctx.outcomes registry cases s)⟩,
    ⟨ctx.sessionAfter registry
        (cases.take ((ctx.outcomes registry cases s).findIdx isStoreFailure + 1)) s,
      (firstFailure? (ctx.outcomes registry cases s)).isSome⟩) := by
  rw [run, runFrom_of_clear]
  simp [Report.empty]

theorem run_of_cancelled : ctx.run registry cases ⟨s, true⟩ =
    (⟨cases.map fun case => .ofOutcome case (.error .cancelled), none⟩, ⟨s, true⟩) := by
  rw [run, runFrom_of_cancelled]
  simp [Report.empty]

theorem getElem?_results_of_clear {i : Nat} {r : CaseReport}
    (h : (ctx.run registry cases ⟨s, false⟩).1.results[i]? = some r) :
    ∃ case o, cases[i]? = some case ∧ (ctx.outcomes registry cases s)[i]? = some o ∧
      r = .ofOutcome case
        (if i ≤ (ctx.outcomes registry cases s).findIdx isStoreFailure then o
          else .error .cancelled) := by
  rw [run_of_clear] at h
  obtain ⟨case, o, hc, ho, rfl⟩ := List.getElem?_zipWith_eq_some.mp h
  rw [getElem?_settle] at ho
  obtain ⟨o', ho', rfl⟩ := Option.map_eq_some_iff.mp ho
  exact ⟨case, o', hc, ho', rfl⟩

theorem map_results (ctx : Context σ) (registry : Registry) (cases : List Case)
    (state : RunState σ) :
    (ctx.run registry cases state).1.results.map (fun r => (r.id, r.rule)) =
      cases.map fun case => (case.id, case.rule) := by
  obtain ⟨s, cancelled⟩ := state
  cases cancelled with
  | true => simp [run_of_cancelled, CaseReport.ofOutcome_id, CaseReport.ofOutcome_rule]
  | false =>
    have hl : cases.length = (settle (ctx.outcomes registry cases s)).length := by
      rw [length_settle, length_outcomes]
    rw [run_of_clear]
    simp only [List.map_zipWith, CaseReport.ofOutcome_id, CaseReport.ofOutcome_rule]
    generalize settle (ctx.outcomes registry cases s) = os at hl
    induction cases generalizing os with
    | nil => rfl
    | cons case cases ih =>
      cases os with
      | nil => exact absurd hl (by simp)
      | cons o os => simp [ih os (by simpa using hl)]

theorem length_results (ctx : Context σ) (registry : Registry) (cases : List Case)
    (state : RunState σ) : (ctx.run registry cases state).1.results.length = cases.length := by
  have hl := congrArg List.length (map_results ctx registry cases state)
  rwa [List.length_map, List.length_map] at hl

theorem tells_of_lt {i : Nat} {r : CaseReport}
    (hi : i < (ctx.outcomes registry cases s).findIdx isStoreFailure)
    (h : (ctx.run registry cases ⟨s, false⟩).1.results[i]? = some r) :
    ∃ o, (ctx.outcomes registry cases s)[i]? = some o ∧ r.Tells o := by
  obtain ⟨case, o, -, ho, rfl⟩ := getElem?_results_of_clear h
  rw [if_pos hi.le]
  refine ⟨o, ho, CaseReport.tells_ofOutcome fun error he => ?_⟩
  subst he
  obtain ⟨rule, s', he⟩ := exists_evaluate_of_mem_outcomes (List.mem_of_getElem? ho)
  refine (evaluate_error_cases he.symm).resolve_right ?_
  rintro ⟨e, rfl⟩
  obtain ⟨hl, ho⟩ := List.getElem?_eq_some_iff.mp ho
  have hc := List.not_of_lt_findIdx hi
  rw [ho] at hc
  exact absurd hc (by simp [isStoreFailure])

theorem isCancelled_of_le {i : Nat} {r : CaseReport}
    (hi : (ctx.outcomes registry cases s).findIdx isStoreFailure ≤ i)
    (h : (ctx.run registry cases ⟨s, false⟩).1.results[i]? = some r) : r.IsCancelled := by
  obtain ⟨case, o, -, ho, rfl⟩ := getElem?_results_of_clear h
  split
  · next hle =>
    obtain rfl := Nat.le_antisymm hle hi
    obtain ⟨hl, rfl⟩ := List.getElem?_eq_some_iff.mp ho
    exact CaseReport.isCancelled_ofOutcome (List.findIdx_getElem)
  · exact ⟨rfl, rfl⟩

theorem isAborted_iff : (ctx.run registry cases ⟨s, false⟩).1.isAborted = true ↔
    (ctx.outcomes registry cases s).findIdx isStoreFailure < cases.length := by
  rw [run_of_clear, Report.isAborted, ← length_outcomes cases s, Option.isSome_iff_exists]
  constructor
  · rintro ⟨text, h⟩
    obtain ⟨e, he, -⟩ := (firstFailure?_eq_some_iff _ text).mp h
    exact (List.getElem?_eq_some_iff.mp he).1
  · intro hk
    obtain ⟨e, he⟩ := exists_store_of_isStoreFailure (List.findIdx_getElem (w := hk))
    exact ⟨e.message, (firstFailure?_eq_some_iff _ _).mpr
      ⟨e, List.getElem?_eq_some_iff.mpr ⟨hk, he⟩, rfl⟩⟩

theorem isSuccess_iff (state : RunState σ) : (ctx.run registry cases state).1.isSuccess = true ↔
    ∀ r ∈ (ctx.run registry cases state).1.results, r.status = .passed := by
  rw [Report.isSuccess, Bool.and_eq_true, decide_eq_true_eq, Report.passed_eq_length_iff]
  refine ⟨And.right, fun h => ⟨?_, h⟩⟩
  obtain ⟨s, cancelled⟩ := state
  cases cancelled with
  | true => rw [run_of_cancelled]; rfl
  | false =>
    rw [Bool.not_eq_true', ← Bool.not_eq_true, isAborted_iff]
    intro hk
    have hl := length_results ctx registry cases ⟨s, false⟩
    obtain ⟨r, hr⟩ : ∃ r, (ctx.run registry cases ⟨s, false⟩).1.results[
        (ctx.outcomes registry cases s).findIdx isStoreFailure]? = some r :=
      ⟨_, List.getElem?_eq_getElem (hl ▸ hk)⟩
    have hp := h r (List.mem_of_getElem? hr)
    rw [(isCancelled_of_le le_rfl hr).1] at hp
    exact absurd hp (by simp)

/-- What a batch in order reports, and what it leaves behind. -/
theorem report_of_run (ctx : Context σ) (registry : Registry) (cases : List Case)
    (state : RunState σ) :
    let report := (ctx.run registry cases state).1
    let after := (ctx.run registry cases state).2
    let outcomes := ctx.outcomes registry cases state.session
    let k := outcomes.findIdx isStoreFailure
    report.results.map (fun r => (r.id, r.rule)) = cases.map (fun case => (case.id, case.rule)) ∧
    (state.cancelled = false →
      (∀ i < k, ∀ r, report.results[i]? = some r → ∃ o, outcomes[i]? = some o ∧ r.Tells o) ∧
      (∀ i, k ≤ i → ∀ r, report.results[i]? = some r → r.IsCancelled) ∧
      after.session = ctx.sessionAfter registry (cases.take (k + 1)) state.session ∧
      (∀ text, report.aborted = some text ↔
        ∃ e, outcomes[k]? = some (.error (.store e)) ∧ e.message = text) ∧
      (report.isAborted = true ↔ k < cases.length) ∧ after.cancelled = report.isAborted) ∧
    (state.cancelled = true →
      (∀ r ∈ report.results, r.IsCancelled) ∧ after = state ∧ report.aborted = none) ∧
    report.passed + report.failed + report.invalid + report.cancelled = cases.length ∧
    (report.isSuccess = true ↔ ∀ r ∈ report.results, r.status = .passed) := by
  obtain ⟨s, cancelled⟩ := state
  intro report after outcomes k
  refine ⟨map_results _ _ _ _, ?_, ?_, ?_, isSuccess_iff _⟩
  · rintro rfl
    refine ⟨fun i hi r => tells_of_lt hi, fun i hi r => isCancelled_of_le hi, ?_, fun text => ?_,
      isAborted_iff, ?_⟩
    · simp only [after, run_of_clear]; rfl
    · simp only [report, run_of_clear, firstFailure?_eq_some_iff]; rfl
    · simp only [after, report, run_of_clear]; rfl
  · rintro rfl
    simp only [report, after, run_of_cancelled]
    refine ⟨fun r hr => ?_, trivial, trivial⟩
    obtain ⟨case, -, rfl⟩ := List.mem_map.mp hr
    exact ⟨rfl, rfl⟩
  · rw [Report.count_add_count, length_results]

end Context

end SnapshotRules
