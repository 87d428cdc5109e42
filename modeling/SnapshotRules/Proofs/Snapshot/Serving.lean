import Mathlib
import SnapshotRules.Proofs.Rule.Dependence
import SnapshotRules.Proofs.Snapshot.History

/-! # Stores that serve documents

When the store answers with the documents of the ids that a rule needs, the outcome of the rule
is decided by these documents alone, whatever is kept already. The store is asked once for
everything that is not.
-/

namespace SnapshotRules

variable {σ : Type} {ctx : Context σ} {registry : Registry} {documents : String → Value}
  {ids ids' : List String} {id : String} {store store' : σ} {s : Session σ} {rule : String}
  {e : Expression}

namespace Context

/-! ## Stores -/

/-- What a store can become when it is asked for known ids among `ids`. -/
inductive Asked (ctx : Context σ) (ids : List String) (store : σ) : σ → Prop
  | refl : Asked ctx ids store store
  | fetch {store' : σ} {id collection : String} (h : Asked ctx ids store store') (hi : id ∈ ids)
      (hc : ctx.collections.get? id = some collection) :
      Asked ctx ids store (ctx.source.fetch store' id collection).2

/-- The store has the documents of the known ids among `ids`, however often it is asked for
them. -/
def Serves (ctx : Context σ) (ids : List String) (documents : String → Value) (store : σ) : Prop :=
  ∀ store', ctx.Asked ids store store' → ∀ id ∈ ids, ∀ collection,
    ctx.collections.get? id = some collection →
      (ctx.source.fetch store' id collection).1.document? = some (documents id)

theorem Asked.mono (hi : ids' ⊆ ids) (h : ctx.Asked ids' store store') :
    ctx.Asked ids store store' := by
  induction h with
  | refl => exact .refl
  | fetch _ hm hc ih => exact .fetch ih (hi hm) hc

theorem Serves.mono (h : ctx.Serves ids documents store) (hi : ids' ⊆ ids) :
    ctx.Serves ids' documents store :=
  fun store' hs id hm => h store' (hs.mono hi) id (hi hm)

theorem Serves.fetch (h : ctx.Serves ids documents store) (hi : id ∈ ids) {collection : String}
    (hc : ctx.collections.get? id = some collection) :
    ctx.Serves ids documents (ctx.source.fetch store id collection).2 := by
  refine fun store' hs => h store' ?_
  induction hs with
  | refl => exact .fetch .refl hi hc
  | fetch _ hm hc' ih => exact .fetch ih hm hc'

/-- A store that fetches do not change serves what it answers once. -/
theorem serves_of_unchanged
    (hs : ∀ id collection, (ctx.source.fetch store id collection).2 = store)
    (hd : ∀ id ∈ ids, ∀ collection, ctx.collections.get? id = some collection →
      (ctx.source.fetch store id collection).1.document? = some (documents id)) :
    ctx.Serves ids documents store := by
  intro store' h
  obtain rfl : store' = store := by
    induction h with
    | refl => rfl
    | fetch _ _ _ ih => rw [ih, hs]
  exact hd

end Context

theorem MemoryStore.source_fetch_snd (m : MemoryStore) (id collection : String) :
    (MemoryStore.source.fetch m id collection).2 = m := by
  simp only [MemoryStore.source]
  split <;> rfl

/-! ## Sessions -/

def Session.missing (s : Session σ) (ids : List String) : List String :=
  ids.filter fun id => (s.documents.get? id).isNone

/-- The documents of the known ids among `ids` are either kept or served by the store. -/
structure Session.Provides (ctx : Context σ) (s : Session σ) (ids : List String)
    (documents : String → Value) : Prop where
  kept : ∀ id ∈ ids, ∀ v, s.documents.get? id = some v → v = documents id
  serves : ctx.Serves (s.missing ids) documents s.store

namespace Session

theorem mem_missing : id ∈ s.missing ids ↔ id ∈ ids ∧ s.documents.get? id = none := by
  rw [missing, List.mem_filter, Option.isNone_iff_eq_none]

theorem missing_cons_of_kept {v : Value} (h : s.documents.get? id = some v) :
    s.missing (id :: ids) = s.missing ids := by
  rw [missing, List.filter_cons_of_neg (by simp [h]), missing]

theorem missing_cons_of_none (h : s.documents.get? id = none) :
    s.missing (id :: ids) = id :: s.missing ids := by
  rw [missing, List.filter_cons_of_pos (by simp [h]), missing]

theorem missing_start (store : σ) (ids : List String) : (start store).missing ids = ids := by
  simp [missing, start]

theorem provides_start (h : ctx.Serves ids documents store) :
    (start store).Provides ctx ids documents :=
  ⟨by simp [start], by rwa [missing_start]⟩

namespace Provides

theorem mono (h : s.Provides ctx ids documents) (hi : ids' ⊆ ids) :
    s.Provides ctx ids' documents :=
  ⟨fun id hm => h.kept id (hi hm), h.serves.mono (List.filter_subset _ hi)⟩

theorem document (h : s.Provides ctx ids documents) (hi : id ∈ ids)
    (hk : ctx.isKnown id = true) : ∃ s', ctx.document id s = (.ok (documents id), s') ∧
      s'.Provides ctx ids documents ∧
      (∀ id', s'.documents.get? id' =
        if id' = id then some (documents id) else s.documents.get? id') ∧
      s'.requests = s.requests ++ s.missing [id] := by
  cases hd : s.documents.get? id with
  | some v =>
    obtain rfl := h.kept id hi v hd
    refine ⟨s, by rw [Context.document, hd], h, fun id' => ?_, ?_⟩
    · split
      · next hid => rw [hid, hd]
      · rfl
    · rw [missing_cons_of_kept hd]
      exact (List.append_nil _).symm
  | none =>
    obtain ⟨collection, hc⟩ := Option.isSome_iff_exists.mp hk
    have hm : id ∈ s.missing ids := mem_missing.mpr ⟨hi, hd⟩
    have hv := h.serves s.store .refl id hm collection hc
    have hs := h.serves.fetch hm hc
    rcases hf : ctx.source.fetch s.store id collection with ⟨answer, store'⟩
    rw [hf] at hv hs
    have ha : ctx.ask id s = (.ok (documents id),
        { s with store := store', history := s.history ++ [.fetched id answer] }) := by
      rw [Context.ask, hc]
      simp only [hf]
      cases answer <;> simp_all [Fetched.document?]
    have hg (id' : String) : (s.documents.set id (documents id)).get? id' =
        if id' = id then some (documents id) else s.documents.get? id' := by
      rw [Entries.get?_set]
      simp only [eq_comm]
    refine ⟨_, by rw [Context.document, hd, ha], ⟨fun id' hi' v hv' => ?_, ?_⟩, hg, ?_⟩
    · rw [keep, hg] at hv'
      split at hv'
      · next hid => rw [hid]; exact (Option.some.inj hv').symm
      · exact h.kept id' hi' v hv'
    · refine hs.mono fun id' hm' => ?_
      obtain ⟨hi', hn⟩ := mem_missing.mp hm'
      rw [keep, hg] at hn
      split at hn
      · exact absurd hn (by simp)
      · exact mem_missing.mpr ⟨hi', hn⟩
    · rw [missing_cons_of_none hd]
      simp [keep, requests, Event.request?, missing]

/-- Different ids are handed out together. Those that are not kept are asked for in order. -/
theorem gather {rest : List String} (h : s.Provides ctx ids documents)
    (hr : ∀ id ∈ rest, id ∈ ids ∧ ctx.isKnown id = true) (hn : rest.Nodup) (inOrder : Bool)
    (done : Entries Value) : ∃ supplied s', ctx.gather inOrder [] done rest s = (.ok supplied, s') ∧
      (∀ id, supplied.get? id = if id ∈ rest then some (documents id) else done.get? id) ∧
      s'.Provides ctx ids documents ∧ s'.requests = s.requests ++ s.missing rest := by
  induction rest generalizing s done with
  | nil => exact ⟨done, s, by rw [Context.gather.eq_def], by simp, h, by simp [missing]⟩
  | cons id rest ih =>
    obtain ⟨⟨hi, hk⟩, hr⟩ := List.forall_mem_cons.mp hr
    obtain ⟨hid, hn⟩ := List.nodup_cons.mp hn
    obtain ⟨t, ht, hp, hg, hq⟩ := h.document hi hk
    obtain ⟨supplied, s', hs', hd, hp', hq'⟩ := ih hp hr hn (done.set id (documents id))
    refine ⟨supplied, s', ?_, fun id' => ?_, hp', ?_⟩
    · rw [Context.gather.eq_def]
      simp only [List.not_mem_nil, if_false, ht]
      exact hs'
    · rw [hd, Entries.get?_set]
      by_cases hid' : id' = id
      · simp [hid']
      · simp [hid', Ne.symm hid']
    · have hm : t.missing rest = s.missing rest := by
        refine List.filter_congr fun id' hm => ?_
        rw [hg, if_neg (ne_of_mem_of_not_mem hm hid)]
      rw [hq', hq, hm, List.append_assoc]
      congr 1
      rw [missing, missing, missing, ← List.filter_append, List.singleton_append]

theorem prefetch (h : s.Provides ctx ids documents) (hi : ids' ⊆ ids) (hn : ids'.Nodup) :
    ∃ supplied s', ctx.prefetch ids' s = (.ok supplied, s') ∧
      (∀ id ∈ ids', supplied.get? id = if ctx.isKnown id then some (documents id) else none) ∧
      s'.Provides ctx ids documents ∧
      s'.requests = s.requests ++ s.missing (ids'.filter ctx.isKnown) := by
  have hr : ∀ id ∈ ids'.filter ctx.isKnown, id ∈ ids ∧ ctx.isKnown id = true := fun id hm =>
    (List.mem_filter.mp hm).imp_left fun hm => hi hm
  obtain ⟨supplied, s', hs', hd, hp, hq⟩ :=
    h.gather hr (hn.filter _) (Context.reportsInOrder (ids'.filter ctx.isKnown).length) []
  refine ⟨supplied, s', hs', fun id hm => ?_, hp, hq⟩
  rw [hd]
  simp [hm]

end Provides

end Session

/-! ## Outcomes -/

theorem Entries.get?_map {α β : Type _} (entries : Entries α) (f : String → β) (key : String) :
    get? (entries.map fun entry => (entry.1, f entry.1)) key =
      if entries.contains key then some (f key) else none := by
  induction entries with
  | nil => rfl
  | cons entry rest ih =>
    obtain ⟨k, v⟩ := entry
    by_cases hk : k = key
    · simp [get?, contains, hk]
    · simp only [contains, get?, List.map_cons, if_neg hk] at ih ⊢
      exact ih

namespace Context

def fullScope (ctx : Context σ) (registry : Registry) (documents : String → Value) : Scope :=
  ctx.scope registry (ctx.collections.map fun entry => (entry.1, documents entry.1))

/-- The outcome of a rule over given documents, without any fetch. -/
def outcomeOver (ctx : Context σ) (registry : Registry) (documents : String → Value)
    (rule : String) : Except RuleError Evaluation :=
  match parse rule with
  | .error e => .error (.ofSyntax e)
  | .ok e => e.evaluateIn (ctx.fullScope registry documents) false rule

theorem get?_fullScope : (ctx.fullScope registry documents).documents.get? id =
    if ctx.isKnown id then some (documents id) else none :=
  Entries.get?_map ctx.collections documents id

/-- The documents that an expression refers to are enough. -/
theorem evaluateIn_supplied (hp : parse rule = .ok e) {supplied : Entries Value}
    (hd : ∀ id ∈ e.snapshotRefs,
      supplied.get? id = if ctx.isKnown id then some (documents id) else none) :
    e.evaluateIn (ctx.scope registry supplied) false rule =
      ctx.outcomeOver registry documents rule := by
  rw [outcomeOver, hp]
  refine Expression.evaluateIn_congr (.of_registry_eq rfl fun path hm => ?_)
  obtain ⟨id, hi, hpath⟩ := Expression.exists_reference_of_parse hp hm
  rw [hpath]
  exact Scope.lookup_congr ((hd id hi).trans get?_fullScope.symm) fun _ => rfl

theorem outcomeOver_congr {σ' : Type} {ctx' : Context σ'} {documents' : String → Value}
    (hk : ∀ id, ctx.isKnown id = ctx'.isKnown id)
    (hd : ∀ e, parse rule = .ok e → ∀ id ∈ e.references, ctx.isKnown id = true →
      documents id = documents' id)
    (hn : ∀ e, parse rule = .ok e → (∃ id ∈ e.references, ctx.isKnown id = false) →
      ctx.defaultDocument = ctx'.defaultDocument) :
    ctx.outcomeOver registry documents rule = ctx'.outcomeOver registry documents' rule := by
  unfold outcomeOver
  split
  · rfl
  · next e hp =>
    refine Expression.evaluateIn_congr (.of_registry_eq rfl fun path hm => ?_)
    obtain ⟨id, hi, hpath⟩ := Expression.exists_reference_of_parse hp hm
    rw [Expression.mem_snapshotRefs] at hi
    rw [hpath]
    refine Scope.lookup_congr ?_ fun hnone => ?_
    · rw [get?_fullScope, get?_fullScope, ← hk]
      split
      · next hknown => rw [hd e hp id hi hknown]
      · rfl
    · rw [get?_fullScope] at hnone
      split at hnone
      · exact absurd hnone (by simp)
      · next hknown => exact hn e hp ⟨id, hi, Bool.not_eq_true _ ▸ hknown⟩

end Context

/-- The session provides what the rule needs. -/
def Session.ProvidesFor (ctx : Context σ) (s : Session σ) (rule : String)
    (documents : String → Value) : Prop :=
  ∀ e, parse rule = .ok e → s.Provides ctx e.snapshotRefs documents

namespace Context

theorem evaluate_of_error {error : SyntaxError} (hp : parse rule = .error error)
    (s : Session σ) : ctx.evaluate registry false rule s = (.error (.ofSyntax error), s) := by
  rw [evaluate, if_neg Bool.false_ne_true, hp]

theorem evaluate_of_provides (registry : Registry) (hp : parse rule = .ok e)
    (h : s.Provides ctx ids documents) (hi : e.snapshotRefs ⊆ ids) :
    (ctx.evaluate registry false rule s).1 = ctx.outcomeOver registry documents rule ∧
      (ctx.evaluate registry false rule s).2.Provides ctx ids documents ∧
      (ctx.evaluate registry false rule s).2.requests =
        s.requests ++ s.missing (e.snapshotRefs.filter ctx.isKnown) := by
  obtain ⟨supplied, s', hs', hd, hprovides, hq⟩ := h.prefetch hi (nodup_distinctBy _)
  have he : ctx.evaluate registry false rule s =
      (e.evaluateIn (ctx.scope registry supplied) false rule, s') := by
    simp [evaluate, evaluateExpression, hp, hs']
  rw [he]
  exact ⟨evaluateIn_supplied hp hd, hprovides, hq⟩

theorem evaluate_eq_outcomeOver (h : s.ProvidesFor ctx rule documents) :
    (ctx.evaluate registry false rule s).1 = ctx.outcomeOver registry documents rule := by
  cases hp : parse rule with
  | error error => rw [evaluate_of_error hp, outcomeOver, hp]
  | ok e => exact (evaluate_of_provides registry hp (h e hp) (List.Subset.refl _)).1

end Context

end SnapshotRules
