import Mathlib
import SnapshotRules.Proofs.Batch.Agreement

/-! # Batches over unchanging stores

When the store does not change and no fetch fails, the outcomes of a batch are those of its rules
over the documents of the store. Neither the order of the tasks nor the number of permits shows.
-/

namespace SnapshotRules

open Session History

variable {σ : Type} {ctx : Context σ} {registry : Registry} {store : σ} {s s' : Session σ}
  {m m' : Machine σ} {documents : String → Value} {cases : List Case} {case : Case} {id : String}
  {inFlight inFlight' : List String}

/-- Fetches leave the store as it is. -/
def Context.Rests (ctx : Context σ) (store : σ) : Prop :=
  ∀ id collection, (ctx.source.fetch store id collection).2 = store

/-- Every fetch so far was answered by the given store. -/
structure Session.AnsweredBy (ctx : Context σ) (store : σ) (s : Session σ) : Prop where
  store_eq : s.store = store
  answers : ∀ id answer, .fetched id answer ∈ s.history → ∃ collection,
    ctx.collections.get? id = some collection ∧
      answer = (ctx.source.fetch store id collection).1

namespace Session.AnsweredBy

theorem start (ctx : Context σ) (store : σ) : (Session.start store).AnsweredBy ctx store :=
  ⟨rfl, fun _ _ h => absurd h List.not_mem_nil⟩

theorem keep (h : s.AnsweredBy ctx store) (id : String) (v : Value) :
    (s.keep id v).AnsweredBy ctx store := by
  refine ⟨h.store_eq, fun id' answer hm => ?_⟩
  rcases List.mem_append.mp hm with hm | hm
  · exact h.answers id' answer hm
  · exact absurd (List.mem_singleton.mp hm) (by simp)

theorem ask (hr : ctx.Rests store) (h : s.AnsweredBy ctx store) (id : String) :
    (ctx.ask id s).2.AnsweredBy ctx store := by
  rw [Context.ask]
  split
  · exact h
  · next collection hc =>
    have hs := h.store_eq
    subst hs
    rcases hf : ctx.source.fetch s.store id collection with ⟨answer, store'⟩
    obtain rfl : store' = s.store := by rw [← hr id collection, hf]
    have ha : ({ s with history := s.history ++ [.fetched id answer] } : Session σ).AnsweredBy ctx
        s.store := by
      refine ⟨rfl, fun id' answer' hm => ?_⟩
      rcases List.mem_append.mp hm with hm | hm
      · exact h.answers id' answer' hm
      · obtain ⟨rfl, rfl⟩ := Event.fetched.inj (List.mem_singleton.mp hm)
        exact ⟨collection, hc, by rw [hf]⟩
    cases answer <;> exact ha

end Session.AnsweredBy

/-! ## Steps -/

theorem Join.look_session {f f' : Fetching}
    (h : look ctx s inFlight id f = some (f', s', inFlight')) :
    s' = s ∨ s' = (ctx.ask id s).2 ∨ ∃ v, s' = s.keep id v := by
  cases f with
  | waiting =>
    simp only [look] at h
    split at h
    · cases h
      exact .inl rfl
    · split at h
      · exact absurd h (by simp)
      · split at h
        · next ha => cases h; exact .inr (.inl (by rw [ha]))
        · next ha => cases h; exact .inr (.inl (by rw [ha]))
        · next ha => cases h; exact .inr (.inl (by rw [ha]))
  | arriving v =>
    cases h
    exact .inr (.inr ⟨v, rfl⟩)
  | expired =>
    cases h
    exact .inl rfl
  | hanging => exact absurd h (by simp [look])
  | failed e => exact absurd h (by simp [look])
  | ready v => exact absurd h (by simp [look])

theorem Session.AnsweredBy.poll (hr : ctx.Rests store) (h : s.AnsweredBy ctx store) {j j' : Join}
    (hp : j.poll ctx s inFlight = some (j', s', inFlight')) : s'.AnsweredBy ctx store := by
  obtain ⟨_, id, f, f', _, -, -, hl⟩ := Join.poll_cases hp
  rcases Join.look_session hl with rfl | rfl | ⟨v, rfl⟩
  · exact h
  · exact h.ask hr id
  · exact h.keep id v

namespace Machine

/-- Only a task that fetches does something to the session. -/
theorem session_step {i : Nat} (h : m.step ctx registry i = some m') :
    m'.session = m.session ∨
      ∃ j j' : Join, j.poll ctx m.session m.inFlight = some (j', m'.session, m'.inFlight) := by
  obtain ⟨case, stage, stage', -, hm⟩ := step_cases h
  cases hm with
  | poll _ hp => exact .inr ⟨_, _, hp⟩
  | _ => exact .inl rfl

theorem preserved_answeredBy (registry : Registry) (hr : ctx.Rests store) :
    Preserved ctx registry fun m => m.session.AnsweredBy ctx store := by
  constructor
  · intro m m' h i hs
    rcases session_step hs with he | ⟨j, j', hp⟩
    · exact he ▸ h
    · exact h.poll hr hp
  · intro m h i
    exact h
  · intro m m' h hs
    rw [expire] at hs
    split at hs
    · cases hs
      exact h
    · exact absurd hs (by simp)

end Machine

/-! ## Batches -/

def referencesIn (cases : List Case) : List String :=
  cases.flatMap fun case =>
    match parse case.rule with
    | .ok e => e.snapshotRefs
    | .error _ => []

theorem refersWithin_referencesIn (h : case ∈ cases) :
    RefersWithin (referencesIn cases) case.rule := by
  intro e he id hi
  refine List.mem_flatMap.mpr ⟨case, h, ?_⟩
  rw [he]
  exact hi

namespace Context

def reportOver (ctx : Context σ) (registry : Registry) (documents : String → Value)
    (cases : List Case) : Report :=
  ⟨List.zipWith .ofOutcome cases
    (cases.map fun case => ctx.outcomeOver registry documents case.rule), none⟩

variable (hr : ctx.Rests store)
  (hd : ∀ id collection, ctx.collections.get? id = some collection →
    (ctx.source.fetch store id collection).1.document? = some (documents id))

include hr hd

theorem run_of_rests (registry : Registry) (cases : List Case) :
    (ctx.run registry cases ⟨.start store, false⟩).1 =
      ctx.reportOver registry documents cases := by
  have hserves : ctx.Serves (referencesIn cases) documents store :=
    serves_of_unchanged hr fun id _ => hd id
  exact run_of_provides (provides_start hserves) fun case hm => refersWithin_referencesIn hm

theorem runConcurrent_of_rests (registry : Registry) (permits : Permits) (cases : List Case) :
    (ctx.runConcurrent registry permits cases ⟨.start store, false⟩).1 =
      ctx.reportOver registry documents cases := by
  let state : RunState σ := ⟨.start store, false⟩
  let m := (Machine.init state permits cases).run ctx registry
  have hm : Machine.Reaches ctx registry false (.init state permits cases) m :=
    Machine.run_reaches ctx registry _
  have hrest : m.AtRest ctx registry := Machine.atRest_run ctx registry _ _ _
  have ha : m.session.AnsweredBy ctx store :=
    Machine.run_preserved (Machine.preserved_answeredBy registry hr) (.start ctx store)
  obtain ⟨outcomes, new, hl, ht, hsound⟩ := hm.exists_outcomes hrest (keeps_start store)
  have hnew : m.session.history = new := hsound.shared.evolves.history
  have hanswer (id : String) (answer : Fetched) (h : .fetched id answer ∈ new) :
      answer.document? = some (documents id) := by
    obtain ⟨collection, hc, rfl⟩ := ha.answers id answer (hnew ▸ h)
    exact hd id collection hc
  have hkept : ∀ id v, (Session.start store).documents.get? id = some v → v = documents id := by
    intro id v hv
    exact absurd hv (by simp [Session.start])
  have hagrees : Agrees documents new := fun id answer v h hv =>
    (Option.some.inj ((hanswer id answer h).symm.trans hv)).symm
  have houtcomes := hsound.outcomes_eq ht hl
    (hsound.kept_eq (keeps_start store) hkept hagrees) fun id answer h => by
      rw [hanswer id answer h]
      rfl
  have hreport := Machine.report_of_finishedTasks ht hl
  rw [houtcomes, firstFailure?_of_clear isStoreFailure_of_mem_outcomesOver] at hreport
  exact hreport

theorem runConcurrent?_of_rests (registry : Registry) {concurrency : Nat}
    (hc : concurrency ≤ maxPermits) (cases : List Case) :
    (ctx.runConcurrent? registry concurrency cases ⟨.start store, false⟩).map Prod.fst =
      some (ctx.reportOver registry documents cases) := by
  obtain ⟨permits, -, hrun⟩ := exists_runConcurrent?_eq_some hc
  rw [hrun, Option.map_some, runConcurrent_of_rests hr hd]

end Context

end SnapshotRules
