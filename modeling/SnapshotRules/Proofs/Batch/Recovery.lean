import Mathlib
import SnapshotRules.Proofs.Batch.Lifetime
import SnapshotRules.Proofs.Snapshot.Serving

/-! # Outcomes after failures

As long as the documents of the store stay the same, what a session has been through does not
show in the outcome of a rule. Every kept document is one that the store would answer with, and
what a failure has left out is asked for again.
-/

namespace SnapshotRules

open Session History

variable {σ : Type} {ctx : Context σ} {registry : Registry} {documents : String → Value}
  {ids : List String} {s : Session σ} {rule : String} {cases : List Case} {h : List Event}
  {state : RunState σ} {calls : List Call}

/-- Every fetch that has succeeded has come to the given document. -/
def History.Agrees (documents : String → Value) (h : List Event) : Prop :=
  ∀ id answer v, .fetched id answer ∈ h → answer.document? = some v → v = documents id

def RefersWithin (ids : List String) (rule : String) : Prop :=
  ∀ e, parse rule = .ok e → e.snapshotRefs ⊆ ids

theorem History.Grows.kept_eq {base : List Event} {id : String} {v : Value} (hg : Grows ctx base h)
    (ha : Agrees documents h) (hk : .kept id v ∈ h) : v = documents id := by
  obtain ⟨before, after, rfl⟩ := List.append_of_mem hk
  obtain ⟨answer, hl, hd⟩ := hg.answered rfl
  exact ha id answer v (List.mem_append_left _ (exists_fetched_of_lastAnswer? hl)) hd

theorem Session.Keeps.provides (hs : s.Keeps) (hg : Grows ctx [] s.history)
    (ha : Agrees documents s.history) (h : ctx.Serves ids documents s.store) :
    s.Provides ctx ids documents := by
  refine ⟨fun id _ v hv => ?_, h.mono (List.filter_sublist.subset)⟩
  exact hg.kept_eq ha ((hs id v).mp hv)

theorem Session.Provides.providesFor (h : s.Provides ctx ids documents)
    (hr : RefersWithin ids rule) : s.ProvidesFor ctx rule documents := by
  intro e hp
  exact h.mono (hr e hp)

namespace Context

theorem provides_evaluate (registry : Registry) (h : s.Provides ctx ids documents)
    (hr : RefersWithin ids rule) :
    (ctx.evaluate registry false rule s).2.Provides ctx ids documents := by
  cases hp : parse rule with
  | error error =>
    rw [evaluate_of_error hp]
    exact h
  | ok e => exact (evaluate_of_provides registry hp h (hr e hp)).2.1

/-- Rules that run one after the other do not influence each other. -/
theorem outcomes_of_provides (h : s.Provides ctx ids documents)
    (hr : ∀ case ∈ cases, RefersWithin ids case.rule) :
    ctx.outcomes registry cases s =
      cases.map fun case => ctx.outcomeOver registry documents case.rule := by
  induction cases generalizing s with
  | nil => rfl
  | cons case cases ih =>
    obtain ⟨hcase, hr⟩ := List.forall_mem_cons.mp hr
    have ho : (ctx.evaluate registry false case.rule s).1 =
        ctx.outcomeOver registry documents case.rule :=
      evaluate_eq_outcomeOver (h.providesFor hcase)
    rw [outcomes, List.map_cons, ho, ih (provides_evaluate registry h hcase) hr]

end Context

/-- After whatever calls, failed ones among them, rules have the outcomes that they have in a
session that starts with the same store, one by one and in every order. -/
theorem Runs.outcomes_eq_start (h : Runs ctx calls state)
    (ha : Agrees documents state.session.history)
    (hs : ctx.Serves ids documents state.session.store) (registry : Registry) :
    (∀ rule, RefersWithin ids rule →
      (ctx.evaluate registry false rule state.session).1 =
        (ctx.evaluate registry false rule (.start state.session.store)).1) ∧
    ∀ cases : List Case, (∀ case ∈ cases, RefersWithin ids case.rule) →
      ctx.outcomes registry cases state.session = cases.map fun case =>
        (ctx.evaluate registry false case.rule (.start state.session.store)).1 := by
  obtain ⟨hg, hk, -⟩ := h.accounted
  have hp := hk.provides hg ha hs
  have hfresh (rule : String) (hr : RefersWithin ids rule) :
      (ctx.evaluate registry false rule (.start state.session.store)).1 =
        ctx.outcomeOver registry documents rule :=
    Context.evaluate_eq_outcomeOver ((provides_start hs).providesFor hr)
  constructor
  · intro rule hr
    rw [hfresh rule hr]
    exact Context.evaluate_eq_outcomeOver (hp.providesFor hr)
  · intro cases hr
    rw [Context.outcomes_of_provides hp hr]
    exact List.map_congr_left fun case hm => (hfresh case.rule (hr case hm)).symm

/-- Of two fetches the second fails, and only it is made again. -/
theorem outcomes_eq_start_after_failure :
    let ctx : Context FaultyStore := ⟨FaultyStore.source, [("S1", "a"), ("S2", "a")], none, 1000⟩
    let memory : MemoryStore := ⟨[⟨"S1", "a", "", 0, .bool true⟩]⟩
    let failed := ctx.evaluate .builtins false "S1 == S2"
      (.start ⟨memory, [("S2", .failing "down")]⟩)
    failed.1 = .error (.store (.unavailable "down")) ∧
      (ctx.evaluate .builtins false "S1 == S2" { failed.2 with store := ⟨memory, []⟩ }).1 =
        (ctx.evaluate .builtins false "S1 == S2" (.start ⟨memory, []⟩)).1 := by
  intro ctx memory failed
  have hp : parse "S1 == S2" =
      .ok ⟨.path (some "S1") [], .equal, .path (some "S2") []⟩ := by cbv
  have hfailed : failed = (.error (.store (.unavailable "down")),
      ⟨⟨memory, [("S2", .failing "down")]⟩, [("S1", .bool true)],
        [.fetched "S1" (.found ⟨"S1", "a", "", 0, .bool true⟩), .kept "S1" (.bool true),
          .fetched "S2" (.unavailable "down")]⟩) := by
    simp only [failed, Context.evaluate, hp]
    rfl
  have hstart : Runs ctx [] ⟨.start ⟨memory, [("S2", .failing "down")]⟩, false⟩ := .start _
  have hrun := (hstart.step (.evaluate .builtins false "S1 == S2")).step (.change ⟨memory, []⟩)
  let documents (id : String) : Value := if id = "S1" then .bool true else .null
  have ha : Agrees documents failed.2.history := by
    rw [hfailed]
    intro id answer v hm hd
    simp only [List.mem_cons, Event.fetched.injEq, reduceCtorEq, false_or, or_false,
      List.not_mem_nil] at hm
    rcases hm with ⟨rfl, rfl⟩ | ⟨rfl, rfl⟩
    · exact (Option.some.inj hd).symm
    · exact absurd hd (by simp [Fetched.document?])
  have hs : ctx.Serves ["S1", "S2"] documents ⟨memory, []⟩ := by
    refine Context.serves_of_unchanged (fun _ _ => rfl) fun id hi collection hc => ?_
    simp only [List.mem_cons, List.not_mem_nil, or_false] at hi
    rcases hi with rfl | rfl
    · obtain rfl : "a" = collection := Option.some.inj hc
      rfl
    · obtain rfl : "a" = collection := Option.some.inj hc
      rfl
  refine ⟨by rw [hfailed], (hrun.outcomes_eq_start ha hs .builtins).1 _ fun e he => ?_⟩
  obtain rfl := Except.ok.inj (hp.symm.trans he)
  exact List.Subset.refl ["S1", "S2"]

end SnapshotRules
