import Mathlib
import SnapshotRules.Proofs.Snapshot.Serving

/-! # What a rule sees

Two contexts in which a rule refers to the same documents give it the same outcome. The store is
asked for what the rule refers to and for nothing else, so no other document can show in the
outcome.
-/

namespace SnapshotRules

open Context Session

variable {σ σ' : Type} {ctx : Context σ} {registry : Registry} {documents : String → Value}
  {store : σ} {rule : String} {e : Expression}

namespace Context

/-- The known ids are asked for in the order in which they first appear. -/
theorem requests_of_serves (hp : parse rule = .ok e)
    (hs : ctx.Serves e.snapshotRefs documents store) :
    (ctx.evaluate registry false rule (start store)).2.requests =
      e.snapshotRefs.filter ctx.isKnown := by
  obtain ⟨-, -, hr⟩ := evaluate_of_provides registry hp (provides_start hs) (List.Subset.refl _)
  rw [hr, missing_start]
  rfl

theorem evaluate_of_not_started {flag : Bool}
    (h : flag = true ∨ ∃ error, parse rule = .error error) (s : Session σ) :
    (ctx.evaluate registry flag rule s).2 = s := by
  cases flag with
  | true => rfl
  | false =>
    obtain ⟨error, hp⟩ := h.resolve_left Bool.false_ne_true
    rw [evaluate_of_error hp]

/-- A rule sees the documents that it refers to, and the default document only if one of its
paths leads there. It asks the store for every known id that it refers to, once and in order of
first appearance, and for nothing when it does not parse or is cancelled before it starts. -/
theorem evaluate_sees_references (ctx : Context σ) (ctx' : Context σ') (registry : Registry)
    (rule : String) (hk : ∀ id, ctx.isKnown id = ctx'.isKnown id) :
    (∀ (s : Session σ) (s' : Session σ') (documents documents' : String → Value),
      s.ProvidesFor ctx rule documents → s'.ProvidesFor ctx' rule documents' →
      (∀ e, parse rule = .ok e →
        (∀ id ∈ e.snapshotRefs, ctx.isKnown id = true → documents id = documents' id) ∧
        ((∃ path ∈ e.paths, ∀ id ∈ path.1, ctx.isKnown id = false) →
          ctx.defaultDocument = ctx'.defaultDocument)) →
      (ctx.evaluate registry false rule s).1 = (ctx'.evaluate registry false rule s').1) ∧
    (∀ e store documents, parse rule = .ok e → ctx.Serves e.snapshotRefs documents store →
      let requests := (ctx.evaluate registry false rule (start store)).2.requests
      (∀ id, id ∈ requests ↔ id ∈ e.references ∧ ctx.isKnown id = true) ∧ requests.Nodup ∧
        requests.Pairwise fun id id' => e.references.idxOf id < e.references.idxOf id') ∧
    ∀ (s : Session σ) flag, (flag = true ∨ ∃ error, parse rule = .error error) →
      (ctx.evaluate registry flag rule s).2 = s := by
  refine ⟨?_, ?_, fun s flag h => evaluate_of_not_started h s⟩
  · intro s s' documents documents' h h' hagree
    rw [evaluate_eq_outcomeOver h, evaluate_eq_outcomeOver h']
    refine outcomeOver_congr hk (fun e hp id hi => ?_) fun e hp hunknown => ?_
    · exact (hagree e hp).1 id (Expression.mem_snapshotRefs.mpr hi)
    · obtain ⟨id, hi, hid⟩ := hunknown
      rw [Expression.references_eq] at hi
      obtain ⟨path, hm, hpath⟩ := List.mem_filterMap.mp hi
      refine (hagree e hp).2 ⟨path, hm, fun id' hid' => ?_⟩
      obtain rfl := Option.some.inj (hpath.symm.trans hid')
      exact hid
  · intro e store documents hp hs requests
    have hr : requests = e.snapshotRefs.filter ctx.isKnown := requests_of_serves hp hs
    rw [hr]
    refine ⟨fun id => ?_, (nodup_distinctBy _).filter _, (pairwise_distinctBy _).filter _⟩
    rw [List.mem_filter, Expression.mem_snapshotRefs]

/-- Neither the other document nor the default document shows. -/
theorem evaluate_sees_one_reference :
    let ctx : Context MemoryStore :=
      ⟨MemoryStore.source, [("S1", "a"), ("S2", "a")], none, 1000⟩
    let ctx' : Context MemoryStore :=
      ⟨MemoryStore.source, [("S2", "b"), ("S1", "b")], some (.bool false), 1000⟩
    let s : Session MemoryStore :=
      start ⟨[⟨"S1", "a", "", 0, .bool true⟩, ⟨"S2", "a", "", 0, .bool false⟩]⟩
    let s' : Session MemoryStore := start ⟨[⟨"S1", "b", "", 7, .bool true⟩]⟩
    (ctx.evaluate .builtins false "S1.a in [S1]" s).1 =
        (ctx'.evaluate .builtins false "S1.a in [S1]" s').1 ∧
      (ctx.evaluate .builtins false "S1.a in [S1]" s).2.requests.Nodup ∧
      (ctx.evaluate .builtins false "S1.a and" s).2 = s := by
  intro ctx ctx' s s'
  have hp : parse "S1.a in [S1]" =
      .ok ⟨.path (some "S1") ["a"], .memberOf, .list [.path (some "S1") []]⟩ := by cbv
  have hn : parse "S1.a and" = .error (.parse ⟨5, .comparator, "'and'"⟩) := by cbv
  have hk : ∀ id, ctx.isKnown id = ctx'.isKnown id := by
    intro id
    by_cases h : "S1" = id <;> by_cases h' : "S2" = id <;>
      simp [ctx, ctx', isKnown, Entries.contains, Entries.get?, h, h']
  have hs : ctx.Serves ["S1"] (fun _ => .bool true) s.store := by
    refine serves_of_unchanged (MemoryStore.source_fetch_snd _) ?_
    rintro id hi collection hc
    obtain rfl := List.mem_singleton.mp hi
    obtain rfl : "a" = collection := Option.some.inj hc
    rfl
  have hs' : ctx'.Serves ["S1"] (fun _ => .bool true) s'.store := by
    refine serves_of_unchanged (MemoryStore.source_fetch_snd _) ?_
    rintro id hi collection hc
    obtain rfl := List.mem_singleton.mp hi
    obtain rfl : "b" = collection := Option.some.inj hc
    rfl
  have hsees := evaluate_sees_references ctx ctx' .builtins "S1.a in [S1]" hk
  refine ⟨hsees.1 s s' (fun _ => .bool true) (fun _ => .bool true) ?_ ?_ ?_, ?_, ?_⟩
  · intro e he
    obtain rfl := Except.ok.inj (hp.symm.trans he)
    exact provides_start hs
  · intro e he
    obtain rfl := Except.ok.inj (hp.symm.trans he)
    exact provides_start hs'
  · intro e he
    obtain rfl := Except.ok.inj (hp.symm.trans he)
    exact ⟨fun _ _ _ => rfl, by simp [Expression.paths, Operand.paths, Operand.pathsOfItems,
      ctx, isKnown, Entries.contains, Entries.get?]⟩
  · exact (hsees.2.1 _ _ _ hp hs).2.1
  · exact (evaluate_sees_references ctx ctx' .builtins "S1.a and" hk).2.2 s false (.inr ⟨_, hn⟩)

end Context

end SnapshotRules
