import Mathlib
import SnapshotRules.Proofs.Batch.Concurrent

/-! # Lifetimes of sessions

Whatever is done with a context and its runner, and however the store changes meanwhile, every
document is fetched once.
-/

namespace SnapshotRules

open Session History

variable {σ : Type} {ctx : Context σ} {state state' : RunState σ} {flag : Bool}
  {s s' : Session σ} {new more : List Event} {id : String}

/-- What is done with a context and its runner, with the answer to it. -/
inductive Call where
  | document (id : String) (answer : Except StoreError Value)
  | prefetch (ids : List String) (answer : Except StoreError (Entries Value))
  | resolve (registry : Registry) (cancelled : Bool) (o : Operand)
      (answer : Except RuleError Value)
  | evaluate (registry : Registry) (cancelled : Bool) (rule : String)
      (answer : Except RuleError Evaluation)
  | evaluateExpression (registry : Registry) (cancelled : Bool) (rule : String) (e : Expression)
      (answer : Except RuleError Evaluation)
  | run (registry : Registry) (cases : List Case) (report : Report)
  /-- With `stops` somebody else may set the flag meanwhile. -/
  | runConcurrent (registry : Registry) (stops : Bool) (report : Report)
  | cancel
  /-- Not a call, but a change of the store. -/
  | change

inductive Step (ctx : Context σ) (state : RunState σ) : Call → RunState σ → Prop
  | document (id : String) : Step ctx state (.document id (ctx.document id state.session).1)
      { state with session := (ctx.document id state.session).2 }
  | prefetch (ids : List String) : Step ctx state (.prefetch ids (ctx.prefetch ids state.session).1)
      { state with session := (ctx.prefetch ids state.session).2 }
  | resolve (registry : Registry) (cancelled : Bool) (o : Operand) : Step ctx state
      (.resolve registry cancelled o (ctx.resolve registry cancelled o state.session).1)
      { state with session := (ctx.resolve registry cancelled o state.session).2 }
  | evaluate (registry : Registry) (cancelled : Bool) (rule : String) : Step ctx state
      (.evaluate registry cancelled rule (ctx.evaluate registry cancelled rule state.session).1)
      { state with session := (ctx.evaluate registry cancelled rule state.session).2 }
  | evaluateExpression (registry : Registry) (cancelled : Bool) (rule : String)
      (e : Expression) : Step ctx state
      (.evaluateExpression registry cancelled rule e
        (ctx.evaluateExpression registry cancelled rule e state.session).1)
      { state with
        session := (ctx.evaluateExpression registry cancelled rule e state.session).2 }
  | run (registry : Registry) (cases : List Case) : Step ctx state
      (.run registry cases (ctx.run registry cases state).1) (ctx.run registry cases state).2
  /-- The tasks of a concurrent batch move in any order, and the store may change in between. -/
  | runConcurrent {registry : Registry} {stops : Bool} {permits : Permits} {cases : List Case}
      {m : Machine σ} (h : Machine.Reaches ctx registry stops (.init state permits cases) m) :
      Step ctx state (.runConcurrent registry stops m.report) ⟨m.session, m.cancelled⟩
  | cancel : Step ctx state .cancel { state with cancelled := true }
  | change (store : σ) : Step ctx state .change
      { state with session := { state.session with store } }

theorem step_runConcurrent (ctx : Context σ) (registry : Registry) (permits : Permits)
    (cases : List Case) (state : RunState σ) : Step ctx state
      (.runConcurrent registry false (ctx.runConcurrent registry permits cases state).1)
      (ctx.runConcurrent registry permits cases state).2 :=
  .runConcurrent (Machine.run_reaches ctx registry _)

namespace Call

/-- What a call is answered with. Documents are kept ones, and failures are those of fetches
that the call has made. -/
def Accounted (ctx : Context σ) (flag : Bool) (s : Session σ) (new : List Event) : Call → Prop
  | .document id (.ok v) => .kept id v ∈ s.history
  | .document id (.error e) => ctx.isKnown id = true →
    ∃ answer, .fetched id answer ∈ new ∧ answer.failure? id ctx.fetchTimeout = some e
  | .prefetch ids (.ok documents) => s.Supplies ctx ids documents
  | .prefetch _ (.error e) => FailedIn ctx new e
  | .resolve registry cancelled o answer => Answered ctx cancelled s new o.snapshotRefs
      (fun documents => o.resolve (ctx.scope registry documents) false) answer
  | .evaluate registry cancelled rule answer =>
    ctx.Accounts registry cancelled s new rule answer
  | .evaluateExpression registry cancelled rule e answer =>
    Answered ctx cancelled s new e.snapshotRefs
      (fun documents => e.evaluateIn (ctx.scope registry documents) false rule) answer
  | .run registry _ report => report.Accounted ctx registry flag s new
  | .runConcurrent registry stops report => report.Accounted ctx registry (flag || stops) s new
  | .cancel | .change => True

/-- The ids whose documents a call needs. A call that is cancelled needs none. -/
def Needs (flag : Bool) (id : String) : Call → Prop
  | .document id' _ => id' = id
  | .prefetch ids _ => id ∈ ids
  | .resolve _ cancelled o _ => cancelled = false ∧ id ∈ o.snapshotRefs
  | .evaluate _ cancelled rule _ =>
    cancelled = false ∧ ∃ e, parse rule = .ok e ∧ id ∈ e.snapshotRefs
  | .evaluateExpression _ cancelled _ e _ => cancelled = false ∧ id ∈ e.snapshotRefs
  | .run _ cases _ => flag = false ∧
      ∃ case ∈ cases, ∃ e, parse case.rule = .ok e ∧ id ∈ e.snapshotRefs
  | .runConcurrent _ stops report => (flag || stops) = false ∧
      ∃ c ∈ report.results, ∃ e, parse c.rule = .ok e ∧ id ∈ e.snapshotRefs
  | .cancel | .change => False

theorem Accounted.mono {call : Call} (h : call.Accounted ctx flag s new)
    (hh : s'.history = s.history ++ more) : call.Accounted ctx flag s' (new ++ more) := by
  cases call with
  | document id answer =>
    cases answer with
    | ok v => exact mem_history_of_mem hh h
    | error e =>
      intro hk
      obtain ⟨answer, hm, ha⟩ := h hk
      exact ⟨answer, List.mem_append_left _ hm, ha⟩
  | prefetch ids answer =>
    cases answer with
    | ok documents => exact Supplies.mono h hh
    | error e => exact FailedIn.append_left h more
  | resolve registry cancelled o answer => exact Answered.mono h hh
  | evaluate registry cancelled rule answer => exact Context.Accounts.mono h hh
  | evaluateExpression registry cancelled rule e answer => exact Answered.mono h hh
  | run registry cases report => exact Report.Accounted.mono h hh
  | runConcurrent registry stops report => exact Report.Accounted.mono h hh
  | cancel => trivial
  | change => trivial

end Call

namespace Context

theorem document_accounted (id : String) (hs : s.Keeps) :
    ∃ new, s.Evolves ctx (ctx.document id s).2 new ∧
      (Call.document id (ctx.document id s).1).Accounted ctx flag (ctx.document id s).2 new := by
  cases hk : ctx.isKnown id with
  | true =>
    obtain ⟨new, he, ⟨v, hv, hd⟩ | ⟨e, answer, hv, hm, ha⟩⟩ := document_spec hs hk
    · rw [hv]
      exact ⟨new, he, (he.keeps id v).mp hd⟩
    · rw [hv]
      exact ⟨new, he, fun _ => ⟨answer, hm, ha⟩⟩
  | false =>
    cases hd : s.documents.get? id with
    | some v =>
      rw [document, hd]
      exact ⟨[], .refl ctx hs, (hs id v).mp hd⟩
    | none =>
      obtain ⟨ht, e, he⟩ := document_unknown hk hd
      rw [ht, he]
      exact ⟨[], .refl ctx hs, fun hk' => absurd (hk.symm.trans hk') (by simp)⟩

theorem prefetch_accounted (ids : List String) (hs : s.Keeps) :
    ∃ new, s.Evolves ctx (ctx.prefetch ids s).2 new ∧
      (Call.prefetch ids (ctx.prefetch ids s).1).Accounted ctx flag (ctx.prefetch ids s).2 new := by
  obtain ⟨new, he, ⟨documents, hd, hsup⟩ | ⟨e, hd, hf⟩⟩ :=
    prefetch_spec (r := ctx.prefetch ids s) rfl hs
  · rw [hd]
    exact ⟨new, he, hsup⟩
  · rw [hd]
    exact ⟨new, he, hf⟩

end Context

namespace Step

variable {call : Call}

/-- Every call leaves a session that keeps its documents, and answers from them. -/
theorem accounted (h : Step ctx state call state') (hs : state.session.Keeps) :
    ∃ new, state.session.Evolves ctx state'.session new ∧
      call.Accounted ctx state.cancelled state'.session new := by
  cases h with
  | document id => exact Context.document_accounted id hs
  | prefetch ids => exact Context.prefetch_accounted ids hs
  | resolve registry cancelled o => exact Context.resolve_spec rfl hs
  | evaluate registry cancelled rule => exact Context.evaluate_spec rfl hs
  | evaluateExpression registry cancelled rule e => exact Context.evaluateExpression_spec rfl hs
  | run registry cases => exact Context.run_accounted cases hs
  | runConcurrent h => exact h.accounted hs
  | cancel => exact ⟨[], .refl ctx hs, trivial⟩
  | change store => exact ⟨[], ⟨(List.append_nil _).symm, .nil, hs⟩, trivial⟩

theorem asks (h : Step ctx state call state')
    (he : state.session.Evolves ctx state'.session new)
    (ha : call.Accounted ctx state.cancelled state'.session new) (hs : state.session.Keeps)
    (hi : call.Needs state.cancelled id) (hk : ctx.isKnown id = true)
    (hn : state.session.documents.get? id = none) :
    (∃ answer, .fetched id answer ∈ new) ∨ ∃ e, FailedIn ctx new e := by
  cases h with
  | document id' =>
    obtain rfl : id' = id := hi
    cases hd : (ctx.document id' state.session).1 with
    | ok v =>
      rw [hd] at ha
      exact .inl (he.exists_fetched hs hn ha)
    | error e =>
      rw [hd] at ha
      obtain ⟨answer, hm, -⟩ := ha hk
      exact .inl ⟨answer, hm⟩
  | prefetch ids =>
    cases hd : (ctx.prefetch ids state.session).1 with
    | ok documents =>
      rw [hd] at ha
      exact .inl (Supplies.asks ha he hs hi hk hn)
    | error e =>
      rw [hd] at ha
      exact .inr ⟨e, ha⟩
  | resolve registry cancelled o =>
    obtain ⟨rfl, hi⟩ := hi
    exact Answered.asks ha he hs hi hk hn
  | evaluate registry cancelled rule =>
    obtain ⟨rfl, e, hp, hi⟩ := hi
    exact ((Context.accounts_of_parse hp).mp ha).asks he hs hi hk hn
  | evaluateExpression registry cancelled rule e =>
    obtain ⟨rfl, hi⟩ := hi
    exact Answered.asks ha he hs hi hk hn
  | run registry cases =>
    obtain ⟨hc, case, hm, e, hp, hi⟩ := hi
    have hr := List.mem_map_of_mem (f := fun case => (case.id, case.rule)) hm
    rw [← Context.map_results ctx registry cases state] at hr
    obtain ⟨c, hm, hr⟩ := List.mem_map.mp hr
    rw [← (Prod.mk.inj hr).2] at hp
    rw [hc] at ha
    exact Report.Accounted.asks ha he hs hm hp hi hk hn
  | @runConcurrent registry stops _ _ m h =>
    obtain ⟨hc, c, hm, e, hp, hi⟩ := hi
    have hr : m.report.Accounted ctx registry false m.session new := hc ▸ ha
    exact hr.asks he hs hm hp hi hk hn
  | cancel => exact hi.elim
  | change store => exact hi.elim

end Step

/-- The calls of a run from the start of a session on. -/
inductive Runs (ctx : Context σ) : List Call → RunState σ → Prop
  | start (store : σ) : Runs ctx [] ⟨.start store, false⟩
  | step {calls : List Call} {call : Call} {state state' : RunState σ}
      (h : Runs ctx calls state) (hs : Step ctx state call state') :
      Runs ctx (calls ++ [call]) state'

theorem Runs.accounted {calls : List Call} (h : Runs ctx calls state) :
    Grows ctx [] state.session.history ∧ state.session.Keeps ∧
      ∀ call ∈ calls, ∃ flag new, new <:+ state.session.history ∧
        call.Accounted ctx flag state.session new := by
  induction h with
  | start store => exact ⟨.nil, keeps_start store, by simp⟩
  | step _ hs ih =>
    obtain ⟨hg, hk, hc⟩ := ih
    obtain ⟨new, he, ha⟩ := hs.accounted hk
    refine ⟨?_, he.keeps, fun call hm => ?_⟩
    · rw [he.history]
      exact hg.trans he.grows
    · rcases List.mem_append.mp hm with hm | hm
      · obtain ⟨flag, old, ⟨base, hb⟩, ho⟩ := hc call hm
        refine ⟨flag, old ++ new, ⟨base, ?_⟩, ho.mono he.history⟩
        rw [he.history, ← hb, List.append_assoc]
      · obtain rfl := List.mem_singleton.mp hm
        refine ⟨_, new, ?_, ha⟩
        rw [he.history]
        exact List.suffix_append _ _

end SnapshotRules
