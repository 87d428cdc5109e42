import Mathlib
import SnapshotRules.Proofs.Batch.Progress
import SnapshotRules.Proofs.Batch.Recovery

/-! # Concurrent batches and rules on their own

In whatever order its tasks move, a concurrent batch has one outcome for every case. An outcome
that is neither a cancellation nor a store failure is the one of the rule on its own, because
all that the tasks share are documents of the store.
-/

namespace SnapshotRules

open Session History

variable {σ : Type} {ctx : Context σ} {registry : Registry} {flag stops : Bool} {s : Session σ}
  {new : List Event} {documents : String → Value} {rule : String} {cases : List Case}
  {outcome : Except RuleError Evaluation} {outcomes : List (Except RuleError Evaluation)}
  {m : Machine σ} {state : RunState σ} {permits : Permits} {calls : List Call}

/-! ## Rules on their own -/

namespace Context

/-- The context over a store that has the given documents and never fails. -/
def withDocuments (ctx : Context σ) (documents : String → Value) : Context Unit where
  source := ⟨fun _ id collection => (.found ⟨id, collection, "", 0, documents id⟩, ())⟩
  collections := ctx.collections
  defaultDocument := ctx.defaultDocument
  fetchTimeout := ctx.fetchTimeout

theorem evaluate_withDocuments :
    ((ctx.withDocuments documents).evaluate registry false rule (.start ())).1 =
      ctx.outcomeOver registry documents rule := by
  have hs (ids : List String) : (ctx.withDocuments documents).Serves ids documents () :=
    serves_of_unchanged (fun _ _ => rfl) fun _ _ _ _ => rfl
  exact evaluate_eq_outcomeOver fun e _ => provides_start (hs e.snapshotRefs)

theorem isStoreFailure_outcomeOver :
    isStoreFailure (ctx.outcomeOver registry documents rule) = false := by
  rw [Bool.eq_false_iff]
  intro h
  obtain ⟨error, ho⟩ := exists_store_of_isStoreFailure h
  rw [outcomeOver] at ho
  split at ho
  · next e _ => cases e <;> exact absurd ho (by simp [RuleError.ofSyntax])
  · next e _ =>
    obtain ⟨error, he⟩ := e.exists_call_error ho
    exact absurd he (by simp)

/-- A rule that was neither cancelled nor stopped by the store is evaluated as on its own. -/
theorem Accounts.eq_outcomeOver (h : ctx.Accounts registry flag s new rule outcome)
    (hk : ∀ id v, .kept id v ∈ s.history → v = documents id) :
    (outcome = .error .cancelled ∨ ∃ e, outcome = .error (.store e)) ∧ IsStopped ctx flag new ∨
      outcome = ctx.outcomeOver registry documents rule := by
  cases hp : parse rule with
  | error e =>
    rw [Accounts, hp] at h
    rw [outcomeOver, hp]
    rcases h with ⟨ho, hs⟩ | ho
    · exact .inl ⟨.inl ho, hs⟩
    · exact .inr ho
  | ok e =>
    cases (accounts_of_parse hp).mp h with
    | cancelled hs => exact .inl ⟨.inl rfl, hs⟩
    | failed hf => exact .inl ⟨.inr ⟨_, rfl⟩, .inr ⟨_, hf⟩⟩
    | supplied hd =>
      refine .inr (evaluateIn_supplied hp fun id hi => ?_)
      split
      · next hknown =>
        obtain ⟨v, hv⟩ := hd.complete id hi hknown
        rw [hv, hk id v (hd.kept id v hv)]
      · next hknown =>
        exact Option.eq_none_iff_forall_ne_some.mpr fun v hv => hknown (hd.needed id v hv).2

end Context

/-! ## Batches without failures -/

theorem settle_of_clear (h : ∀ o ∈ outcomes, isStoreFailure o = false) :
    settle outcomes = outcomes := by
  induction outcomes with
  | nil => rfl
  | cons o os ih =>
    obtain ⟨ho, hos⟩ := List.forall_mem_cons.mp h
    rw [settle, ho, if_neg Bool.false_ne_true, ih hos]

theorem firstFailure?_of_clear (h : ∀ o ∈ outcomes, isStoreFailure o = false) :
    firstFailure? outcomes = none := by
  induction outcomes with
  | nil => rfl
  | cons o os ih =>
    obtain ⟨ho, hos⟩ := List.forall_mem_cons.mp h
    rw [firstFailure?_cons_of_clear ho, ih hos]

theorem Context.isStoreFailure_of_mem_outcomesOver :
    ∀ o ∈ cases.map fun case => ctx.outcomeOver registry documents case.rule,
      isStoreFailure o = false :=
  List.forall_mem_map.mpr fun _ _ => isStoreFailure_outcomeOver

theorem Context.run_of_provides {ids : List String} (h : s.Provides ctx ids documents)
    (hr : ∀ case ∈ cases, RefersWithin ids case.rule) :
    (ctx.run registry cases ⟨s, false⟩).1 =
      ⟨List.zipWith .ofOutcome cases
        (cases.map fun case => ctx.outcomeOver registry documents case.rule), none⟩ := by
  rw [run_of_clear, outcomes_of_provides h hr, settle_of_clear isStoreFailure_of_mem_outcomesOver,
    firstFailure?_of_clear isStoreFailure_of_mem_outcomesOver]

/-! ## Finished machines -/

namespace Machine

def finishedTasks (cases : List Case) (outcomes : List (Except RuleError Evaluation)) :
    List Task :=
  List.zipWith (fun case outcome => ⟨case, .finished outcome⟩) cases outcomes

theorem exists_finishedTasks {tasks : List Task}
    (h : ∀ task ∈ tasks, ∃ outcome, task.stage = .finished outcome) :
    ∃ outcomes, outcomes.length = tasks.length ∧
      tasks = finishedTasks (tasks.map Task.case) outcomes := by
  induction tasks with
  | nil => exact ⟨[], rfl, rfl⟩
  | cons task tasks ih =>
    obtain ⟨⟨outcome, ho⟩, htasks⟩ := List.forall_mem_cons.mp h
    obtain ⟨outcomes, hl, hos⟩ := ih htasks
    refine ⟨outcome :: outcomes, congrArg Nat.succ hl, ?_⟩
    rw [finishedTasks, List.map_cons, List.zipWith_cons_cons, ← ho]
    exact congrArg (task :: ·) hos

theorem foldl_record (hl : outcomes.length = cases.length) (report : Report) :
    (finishedTasks cases outcomes).foldl (fun report task =>
      match task.stage.outcome? with
      | some outcome => report.record task.case outcome
      | none => report) report =
      ⟨report.results ++ List.zipWith .ofOutcome cases outcomes,
        report.aborted.or (firstFailure? outcomes)⟩ := by
  induction cases generalizing outcomes report with
  | nil =>
    obtain rfl := List.eq_nil_of_length_eq_zero hl
    simp [finishedTasks, firstFailure?]
  | cons case cases ih =>
    obtain ⟨o, os, rfl⟩ := List.exists_cons_of_length_eq_add_one hl
    have hos := ih (Nat.succ.inj hl) (report.record case o)
    rw [finishedTasks, List.zipWith_cons_cons, List.foldl_cons]
    refine hos.trans ?_
    cases hf : isStoreFailure o with
    | true =>
      obtain ⟨e, rfl⟩ := exists_store_of_isStoreFailure hf
      simp [Report.record, firstFailure?]
    | false =>
      rw [Context.record_of_clear hf, firstFailure?_cons_of_clear hf]
      simp

theorem report_of_finishedTasks (h : m.tasks = finishedTasks cases outcomes)
    (hl : outcomes.length = cases.length) :
    m.report = ⟨List.zipWith .ofOutcome cases outcomes, firstFailure? outcomes⟩ := by
  have hr := foldl_record hl .empty
  rw [report, h]
  exact hr.trans (by simp [Report.empty])

theorem Reaches.exists_outcomes (h : Reaches ctx registry stops (init state permits cases) m)
    (hr : m.AtRest ctx registry) (hs : state.session.Keeps) :
    ∃ outcomes new, outcomes.length = cases.length ∧ m.tasks = finishedTasks cases outcomes ∧
      m.Sound ctx registry (state.cancelled || stops) state.session new := by
  have hb := h.balanced
  obtain ⟨new, hsound⟩ := h.sound hs
  obtain ⟨outcomes, hl, ht⟩ :=
    exists_finishedTasks fun task ht => hr.finished hb permits.positive ht
  have hlen := congrArg List.length hb.cases
  rw [List.length_map] at hlen
  rw [hb.cases] at ht
  exact ⟨outcomes, new, hl.trans hlen, ht, hsound⟩

theorem Sound.kept_eq {s₀ : Session σ} (h : m.Sound ctx registry flag s₀ new) (hs : s₀.Keeps)
    (hkept : ∀ id v, s₀.documents.get? id = some v → v = documents id)
    (ha : Agrees documents new) : ∀ id v, .kept id v ∈ m.session.history → v = documents id := by
  have he := h.shared.evolves
  intro id v hv
  rw [he.history] at hv
  rcases List.mem_append.mp hv with hv | hv
  · exact hkept id v ((hs id v).mpr hv)
  · exact he.grows.kept_eq ha hv

/-- A finished task is evaluated as on its own, unless it was cancelled or the store failed. -/
theorem Sound.outcome_cases {s₀ : Session σ} {i : Nat} {case : Case}
    (h : m.Sound ctx registry flag s₀ new) (ht : m.tasks = finishedTasks cases outcomes)
    (hk : ∀ id v, .kept id v ∈ m.session.history → v = documents id)
    (hc : cases[i]? = some case) (ho : outcomes[i]? = some outcome) :
    (outcome = .error .cancelled ∨ ∃ e, outcome = .error (.store e)) ∧ IsStopped ctx flag new ∨
      outcome = ctx.outcomeOver registry documents case.rule := by
  have hi : m.tasks[i]? = some ⟨case, .finished outcome⟩ := by
    rw [ht, finishedTasks, List.getElem?_zipWith, hc, ho]
  have haccounts : ctx.Accounts registry flag m.session new case.rule outcome :=
    h.stage_of_getElem? hi
  exact haccounts.eq_outcomeOver hk

end Machine

theorem CaseReport.status_ofOutcome_of_stopped {case : Case}
    (h : outcome = .error .cancelled ∨ ∃ e, outcome = .error (.store e)) :
    (ofOutcome case outcome).status = .cancelled := by
  rcases h with rfl | ⟨e, rfl⟩
  · rfl
  · rfl

theorem not_isStopped (h : ∀ id answer, .fetched id answer ∈ new → answer.document?.isSome = true) :
    ¬ IsStopped ctx false new := by
  rintro (hf | ⟨e, id, answer, hm, hf⟩)
  · exact Bool.false_ne_true hf
  · have hd := h id answer hm
    cases answer with
    | found d => exact absurd hf (by simp [Fetched.failure?])
    | missing => exact absurd hf (by simp [Fetched.failure?])
    | unavailable reason => exact absurd hd (by simp [Fetched.document?])
    | hanging => exact absurd hd (by simp [Fetched.document?])

theorem Machine.Sound.outcomes_eq {s₀ : Session σ} (h : m.Sound ctx registry false s₀ new)
    (ht : m.tasks = finishedTasks cases outcomes) (hl : outcomes.length = cases.length)
    (hk : ∀ id v, .kept id v ∈ m.session.history → v = documents id)
    (ha : ∀ id answer, .fetched id answer ∈ new → answer.document?.isSome = true) :
    outcomes = cases.map fun case => ctx.outcomeOver registry documents case.rule := by
  refine List.ext_getElem (by rw [hl, List.length_map]) fun i hi hi' => ?_
  have ho : outcomes[i]? = some outcomes[i] := List.getElem?_eq_getElem hi
  have hc : cases[i]? = some cases[i] := List.getElem?_eq_getElem (hl ▸ hi)
  have houtcome := h.outcome_cases ht hk hc ho
  rw [List.getElem_map]
  exact houtcome.resolve_left fun hstopped => not_isStopped ha hstopped.2

/-- What a concurrent batch reports, for as many tasks at once as there can be permits for. No
interleaving of its tasks goes on forever, and none ends before every case has an outcome. As
long as the store answers with the same documents, which are those that the session has kept, an
outcome is a cancellation, a store failure, or what the rule evaluates to on its own. -/
theorem Runs.report_of_runConcurrent (h : Runs ctx calls state) (registry : Registry)
    (stops : Bool) {concurrency : Nat} (hc : concurrency ≤ maxPermits) (cases : List Case) :
    ∃ permits : Permits, permits.count = max concurrency 1 ∧
    (∃ m, Machine.Reaches ctx registry false (.init state permits cases) m ∧
      m.AtRest ctx registry ∧ ctx.runConcurrent? registry concurrency cases state =
        some (m.report, ⟨m.session, m.cancelled⟩)) ∧
    (WellFounded fun m' m => Machine.Advances ctx registry stops m m') ∧
    ∀ m, Machine.Reaches ctx registry stops (.init state permits cases) m →
      m.AtRest ctx registry → ∃ outcomes new, outcomes.length = cases.length ∧
      m.tasks = Machine.finishedTasks cases outcomes ∧
      m.session.history = state.session.history ++ new ∧
      m.report.results = List.zipWith .ofOutcome cases outcomes ∧
      (∀ text, m.report.aborted = some text ↔
        ∃ e, outcomes[outcomes.findIdx isStoreFailure]? = some (.error (.store e)) ∧
          e.message = text) ∧
      ∀ documents, (∀ id v, state.session.documents.get? id = some v → v = documents id) →
        Agrees documents new →
        (∀ (i : Nat) case (r : CaseReport), cases[i]? = some case →
          m.report.results[i]? = some r → r.status ≠ .cancelled →
          r = .ofOutcome case
            ((ctx.withDocuments documents).evaluate registry false case.rule (.start ())).1) ∧
        (state.cancelled = false → stops = false →
          (∀ id answer, .fetched id answer ∈ new → answer.document?.isSome = true) →
          ∀ ids, (∀ case ∈ cases, RefersWithin ids case.rule) →
            state.session.Provides ctx ids documents →
            m.report = (ctx.run registry cases state).1) := by
  have hs := h.accounted.2.1
  obtain ⟨permits, hcount, hrun⟩ := Context.exists_runConcurrent?_eq_some hc
  refine ⟨permits, hcount,
    ⟨_, Machine.run_reaches ctx registry _, Machine.atRest_run ctx registry _ _ _, hrun⟩,
    Machine.wellFounded_advances ctx registry stops, fun m hm hrest => ?_⟩
  obtain ⟨outcomes, new, hl, ht, hsound⟩ := hm.exists_outcomes hrest hs
  have hreport := Machine.report_of_finishedTasks ht hl
  refine ⟨outcomes, new, hl, ht, hsound.shared.evolves.history, by rw [hreport], fun text => ?_,
    fun documents hkept hagrees => ?_⟩
  · rw [hreport]
    exact firstFailure?_eq_some_iff outcomes text
  have hk := hsound.kept_eq hs hkept hagrees
  constructor
  · intro i case r hc hr hcancelled
    rw [hreport] at hr
    obtain ⟨case', outcome, hc', ho, rfl⟩ := List.getElem?_zipWith_eq_some.mp hr
    obtain rfl := Option.some.inj (hc.symm.trans hc')
    rw [Context.evaluate_withDocuments]
    rcases hsound.outcome_cases ht hk hc ho with ⟨hstopped, -⟩ | houtcome
    · exact absurd (CaseReport.status_ofOutcome_of_stopped hstopped) hcancelled
    · rw [houtcome]
  · intro hflag hstops hanswers ids hrefers hprovides
    obtain ⟨s, cancelled⟩ := state
    obtain rfl : cancelled = false := hflag
    subst hstops
    have houtcomes := hsound.outcomes_eq ht hl hk hanswers
    rw [hreport, Context.run_of_provides hprovides hrefers, houtcomes,
      firstFailure?_of_clear Context.isStoreFailure_of_mem_outcomesOver]

/-- Three tasks share one fetch. -/
theorem report_of_runConcurrent_three :
    let ctx : Context MemoryStore := ⟨MemoryStore.source, [("S1", "a")], none, 1000⟩
    let state : RunState MemoryStore := ⟨.start ⟨[⟨"S1", "a", "", 0, .bool true⟩]⟩, false⟩
    let cases : List Case := [⟨"r1", "S1"⟩, ⟨"r2", "S1 in [S1]"⟩, ⟨"r3", "S1 and"⟩]
    (ctx.runConcurrent? .builtins 2 cases state).map Prod.fst =
      some (ctx.run .builtins cases state).1 := by
  intro ctx state cases
  let happened : List Event :=
    [.fetched "S1" (.found ⟨"S1", "a", "", 0, .bool true⟩), .kept "S1" (.bool true)]
  have hhistory : (ctx.runConcurrent? .builtins 2 cases state).map (·.2.session.history) =
      some happened := by
    decide +kernel
  have hanswer : ∀ id answer, .fetched id answer ∈ happened →
      answer.document? = some (.bool true) := by
    intro id answer hm
    simp only [happened, List.mem_cons, Event.fetched.injEq, reduceCtorEq, List.not_mem_nil,
      or_false] at hm
    rw [hm.2]
    rfl
  have hrefers : ∀ case ∈ cases, RefersWithin ["S1"] case.rule := by
    have h₁ : parse "S1" = .ok ⟨.path (some "S1") [], .equal, .literal (.bool true)⟩ := by cbv
    have h₂ : parse "S1 in [S1]" =
        .ok ⟨.path (some "S1") [], .memberOf, .list [.path (some "S1") []]⟩ := by cbv
    have h₃ : parse "S1 and" = .error (.parse ⟨3, .comparator, "'and'"⟩) := by cbv
    simp only [cases, List.forall_mem_cons]
    refine ⟨fun e he => ?_, fun e he => ?_, fun e he => ?_, by simp⟩
    · obtain rfl := Except.ok.inj (h₁.symm.trans he)
      exact List.Subset.refl ["S1"]
    · obtain rfl := Except.ok.inj (h₂.symm.trans he)
      exact List.Subset.refl ["S1"]
    · exact absurd (h₃.symm.trans he) (by simp)
  have hserves : ctx.Serves ["S1"] (fun _ => .bool true) state.session.store := by
    refine Context.serves_of_unchanged (MemoryStore.source_fetch_snd _) ?_
    intro id hi collection hc
    obtain rfl := List.mem_singleton.mp hi
    obtain rfl : "a" = collection := Option.some.inj hc
    rfl
  have hstart : Runs ctx [] state := .start _
  have hc : 2 ≤ maxPermits := by decide
  obtain ⟨permits, -, ⟨m, hm, hrest, hrun⟩, -, hall⟩ :=
    hstart.report_of_runConcurrent .builtins false hc cases
  obtain ⟨outcomes, new, -, -, hnew, -, -, hdocuments⟩ := hall m hm hrest
  rw [hrun] at hhistory
  obtain rfl : new = happened := hnew.symm.trans (Option.some.inj hhistory)
  have hkept : ∀ id v, state.session.documents.get? id = some v → v = .bool true := by
    intro id v hv
    exact absurd hv (by simp [state, start])
  have hagrees : Agrees (fun _ => .bool true) happened := fun id answer v hm hd =>
    (Option.some.inj ((hanswer id answer hm).symm.trans hd)).symm
  rw [hrun]
  refine congrArg some ?_
  refine (hdocuments _ hkept hagrees).2 rfl rfl (fun id answer hm => ?_) ["S1"] hrefers
    (provides_start hserves)
  rw [hanswer id answer hm]
  rfl

/-- A batch goes by a document that was kept before it, where the rule on its own goes by the one
that the store has by now. Besides, there are no permits for `2 ^ 61` tasks. -/
theorem report_of_kept_document :
    let ctx : Context MemoryStore := ⟨MemoryStore.source, [("S1", "a")], none, 1000⟩
    let old : Document := ⟨"S1", "a", "", 0, .bool false⟩
    let store : MemoryStore := ⟨[old, ⟨"S1", "a", "", 0, .bool true⟩]⟩
    let state : RunState MemoryStore :=
      ⟨{ (ctx.document "S1" (.start ⟨[old]⟩)).2 with store }, false⟩
    let case : Case := ⟨"1", "S1"⟩
    (ctx.runConcurrent? .builtins 4 [case] state).map (·.1.results.map CaseReport.status) =
        some [.failed] ∧
      (CaseReport.ofOutcome case
        (ctx.evaluate .builtins false case.rule (.start store)).1).status = .passed ∧
      (ctx.runConcurrent? .builtins (2 ^ 61) [case] state).isNone := by
  decide +kernel

end SnapshotRules
