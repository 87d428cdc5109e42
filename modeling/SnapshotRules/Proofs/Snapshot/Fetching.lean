import Mathlib
import SnapshotRules.Proofs.Snapshot.History

/-! # Fetching through sessions

Every operation of a context lets the history of its session grow, and its documents are
always those that the history tells are kept. What an operation hands out is kept, and what
it fails with is the answer of a fetch that it made.
-/

namespace SnapshotRules

open History

variable {σ : Type} {ctx : Context σ} {s s' s'' : Session σ} {id : String} {v : Value}
  {new more : List Event}

namespace Session

/-- The documents are those that the history tells are kept. -/
def Keeps (s : Session σ) : Prop :=
  ∀ id v, s.documents.get? id = some v ↔ .kept id v ∈ s.history

/-- The session becomes another one that keeps its documents while `new` happens. -/
structure Evolves (ctx : Context σ) (s s' : Session σ) (new : List Event) : Prop where
  history : s'.history = s.history ++ new
  grows : Grows ctx s.history new
  keeps : s'.Keeps

def FailedIn (ctx : Context σ) (new : List Event) (e : StoreError) : Prop :=
  ∃ id answer, .fetched id answer ∈ new ∧ answer.failure? id ctx.fetchTimeout = some e

/-- The documents are the kept ones of the known ids among `ids`. -/
structure Supplies (ctx : Context σ) (s : Session σ) (ids : List String)
    (documents : Entries Value) : Prop where
  kept : ∀ id v, documents.get? id = some v → .kept id v ∈ s.history
  complete : ∀ id ∈ ids, ctx.isKnown id = true → ∃ v, documents.get? id = some v
  needed : ∀ id v, documents.get? id = some v → id ∈ ids ∧ ctx.isKnown id = true

theorem keeps_start (store : σ) : (start store).Keeps := by simp [Keeps, start]

theorem Keeps.get?_eq_none_iff (hs : s.Keeps) :
    s.documents.get? id = none ↔ ¬ IsKept id s.history := by
  rw [Option.eq_none_iff_forall_ne_some]
  simp only [IsKept, ← hs id, not_exists, ne_eq]

theorem Evolves.refl (ctx : Context σ) (hs : s.Keeps) : s.Evolves ctx s [] :=
  ⟨(List.append_nil _).symm, .nil, hs⟩

theorem Evolves.trans (h : s.Evolves ctx s' new) (h' : s'.Evolves ctx s'' more) :
    s.Evolves ctx s'' (new ++ more) := by
  refine ⟨by rw [h'.history, h.history, List.append_assoc], h.grows.trans ?_, h'.keeps⟩
  rw [← h.history]
  exact h'.grows

theorem mem_history_of_mem (h : s'.history = s.history ++ more) {e : Event}
    (he : e ∈ s.history) : e ∈ s'.history := by
  rw [h]
  exact List.mem_append_left _ he

theorem Evolves.get?_mono (h : s.Evolves ctx s' new) (hs : s.Keeps)
    (hv : s.documents.get? id = some v) : s'.documents.get? id = some v :=
  (h.keeps id v).mpr (mem_history_of_mem h.history ((hs id v).mp hv))

theorem FailedIn.append_left {e : StoreError} (h : FailedIn ctx new e) (more : List Event) :
    FailedIn ctx (new ++ more) e :=
  let ⟨id, answer, hm, ha⟩ := h
  ⟨id, answer, List.mem_append_left _ hm, ha⟩

theorem FailedIn.append_right {e : StoreError} (h : FailedIn ctx more e) (new : List Event) :
    FailedIn ctx (new ++ more) e :=
  let ⟨id, answer, hm, ha⟩ := h
  ⟨id, answer, List.mem_append_right _ hm, ha⟩

theorem Supplies.mono {ids : List String} {documents : Entries Value}
    (h : s.Supplies ctx ids documents) (hh : s'.history = s.history ++ more) :
    s'.Supplies ctx ids documents :=
  ⟨fun id v hv => mem_history_of_mem hh (h.kept id v hv), h.complete, h.needed⟩

theorem Evolves.exists_fetched (h : s.Evolves ctx s' new) (hs : s.Keeps)
    (hn : s.documents.get? id = none) (hk : .kept id v ∈ s'.history) :
    ∃ answer, .fetched id answer ∈ new := by
  rw [h.history, List.mem_append] at hk
  have hv := hk.resolve_left fun hk => (hs.get?_eq_none_iff.mp hn) ⟨v, hk⟩
  obtain ⟨before, after, rfl⟩ := List.append_of_mem hv
  obtain ⟨answer, ha, -⟩ := h.grows.answered rfl
  exact ⟨answer, List.mem_append_left _ (exists_fetched_of_lastAnswer? ha)⟩

theorem Supplies.asks {ids : List String} {documents : Entries Value}
    (h : s'.Supplies ctx ids documents) (he : s.Evolves ctx s' new) (hs : s.Keeps) (hi : id ∈ ids)
    (hk : ctx.isKnown id = true) (hn : s.documents.get? id = none) :
    ∃ answer, .fetched id answer ∈ new :=
  let ⟨v, hv⟩ := h.complete id hi hk
  he.exists_fetched hs hn (h.kept id v hv)

end Session

namespace Context

open Session

theorem ask_spec (s : Session σ) (hk : ctx.isKnown id = true) :
    ∃ answer, (ctx.ask id s).2.history = s.history ++ [.fetched id answer] ∧
      (ctx.ask id s).2.documents = s.documents ∧
      ((∃ v, (ctx.ask id s).1 = .ok v ∧ answer.document? = some v) ∨
        ∃ e, (ctx.ask id s).1 = .error e ∧ answer.failure? id ctx.fetchTimeout = some e) := by
  obtain ⟨collection, hc⟩ := Option.isSome_iff_exists.mp hk
  rw [ask, hc]
  rcases hf : ctx.source.fetch s.store id collection with ⟨answer, store⟩
  refine ⟨answer, ?_⟩
  cases answer <;> simp [Fetched.document?, Fetched.failure?, hf]

theorem ask_unknown (hk : ctx.isKnown id = false) (s : Session σ) :
    (ctx.ask id s).2 = s ∧ ∃ e, (ctx.ask id s).1 = .error e := by
  rw [isKnown, Entries.contains, Option.isSome_eq_false_iff, Option.isNone_iff_eq_none] at hk
  rw [ask, hk]
  exact ⟨rfl, _, rfl⟩

variable {t : Session σ}

theorem evolves_ask (h : s.Evolves ctx t new) (hk : ctx.isKnown id = true)
    (hn : t.documents.get? id = none) :
    ∃ answer, s.Evolves ctx (ctx.ask id t).2 (new ++ [.fetched id answer]) ∧
      (ctx.ask id t).2.documents = t.documents ∧
      ((∃ v, (ctx.ask id t).1 = .ok v ∧ answer.document? = some v) ∨
        ∃ e, (ctx.ask id t).1 = .error e ∧ answer.failure? id ctx.fetchTimeout = some e) := by
  obtain ⟨answer, hh, hd, hr⟩ := ask_spec t hk
  refine ⟨answer, ⟨?_, .fetched h.grows hk ?_, fun id' v => ?_⟩, hd, hr⟩
  · rw [hh, h.history, List.append_assoc]
  · rw [← h.history]
    exact h.keeps.get?_eq_none_iff.mp hn
  · rw [hd, hh, h.keeps id' v]
    simp

theorem evolves_keep {answer : Fetched} (h : s.Evolves ctx t new)
    (hn : t.documents.get? id = none) (hl : lastAnswer? id new = some answer)
    (hd : answer.document? = some v) :
    s.Evolves ctx (t.keep id v) (new ++ [.kept id v]) := by
  have hk := h.keeps.get?_eq_none_iff.mp hn
  refine ⟨by rw [Session.keep, h.history, List.append_assoc], .kept h.grows ?_ hl hd,
    fun id' w => ?_⟩
  · rw [← h.history]
    exact hk
  · rw [Session.keep, Entries.get?_set, List.mem_append, List.mem_singleton, Event.kept.injEq]
    split
    · next hi =>
      subst hi
      refine ⟨fun hw => .inr ⟨rfl, (Option.some.inj hw).symm⟩, ?_⟩
      rintro (hm | ⟨-, rfl⟩)
      · exact absurd ⟨w, hm⟩ hk
      · rfl
    · next hi => rw [h.keeps id' w]; simp [Ne.symm hi]

/-- A document is kept, or the store fails when it is asked for it. -/
theorem document_spec (hs : s.Keeps) (hk : ctx.isKnown id = true) :
    ∃ new, s.Evolves ctx (ctx.document id s).2 new ∧
      ((∃ v, (ctx.document id s).1 = .ok v ∧
          (ctx.document id s).2.documents.get? id = some v) ∨
        ∃ e answer, (ctx.document id s).1 = .error e ∧ .fetched id answer ∈ new ∧
          answer.failure? id ctx.fetchTimeout = some e) := by
  rw [document]
  split
  · next v hv => exact ⟨[], .refl ctx hs, .inl ⟨v, rfl, hv⟩⟩
  · next hn =>
    obtain ⟨answer, he, hd, hr⟩ := evolves_ask (.refl ctx hs) hk hn
    rw [List.nil_append] at he
    split
    · next v t ha =>
      rw [ha] at he hd hr
      obtain ⟨w, hw, hv⟩ := hr.resolve_right (by simp)
      obtain rfl := Except.ok.inj hw
      have hl : lastAnswer? id [.fetched id answer] = some answer :=
        lastAnswer?_fetched_self (h := [])
      refine ⟨_, evolves_keep he (hd ▸ hn) hl hv, .inl ⟨v, rfl, ?_⟩⟩
      simp [Session.keep, Entries.get?_set]
    · next e t ha =>
      rw [ha] at he hr
      obtain ⟨e', he', hf⟩ := hr.resolve_left (by simp)
      obtain rfl := Except.error.inj he'
      exact ⟨_, he, .inr ⟨e, answer, rfl, by simp, hf⟩⟩

theorem document_unknown (hk : ctx.isKnown id = false) (hn : s.documents.get? id = none) :
    (ctx.document id s).2 = s ∧ ∃ e, (ctx.document id s).1 = .error e := by
  obtain ⟨ht, e, he⟩ := ask_unknown hk s
  rcases ha : ctx.ask id s with ⟨r, t⟩
  rw [ha] at ht he
  obtain rfl : t = s := ht
  obtain rfl : r = .error e := he
  rw [document, hn]
  simp only [ha]
  exact ⟨trivial, e, rfl⟩

theorem document_ok (h : ctx.document id s = (.ok v, t)) (hs : s.Keeps)
    (hk : ctx.isKnown id = true) :
    ∃ new, s.Evolves ctx t new ∧ t.documents.get? id = some v := by
  obtain ⟨new, he, hd⟩ := document_spec hs hk
  rw [h] at he hd
  obtain ⟨w, hw, hv⟩ := hd.resolve_right (by simp)
  obtain rfl := Except.ok.inj hw
  exact ⟨new, he, hv⟩

theorem document_error {e : StoreError} (h : ctx.document id s = (.error e, t)) (hs : s.Keeps)
    (hk : ctx.isKnown id = true) : ∃ new, s.Evolves ctx t new ∧ FailedIn ctx new e ∧
      ∀ id' timeout, e = .timeout id' timeout → id' = id ∧ timeout = ctx.fetchTimeout := by
  obtain ⟨new, he, hd⟩ := document_spec hs hk
  rw [h] at he hd
  obtain ⟨e', answer, hw, hm, hf⟩ := hd.resolve_left (by simp)
  obtain rfl := Except.error.inj hw
  refine ⟨new, he, ⟨id, answer, hm, hf⟩, ?_⟩
  rintro id' timeout rfl
  exact Fetched.eq_of_failure?_eq_timeout hf

/-- How gathering ends when the ids of `hanging` have not been answered before. -/
inductive Gathered (ctx : Context σ) (s : Session σ) (new : List Event) (hanging ids : List String)
    (done : Entries Value) : Except StoreError (Entries Value) → Prop
  | all {documents : Entries Value} (answered : hanging = [])
      (complete : ∀ id ∈ ids, ∃ v, s.documents.get? id = some v)
      (get? : ∀ id, documents.get? id =
        if id ∈ ids then s.documents.get? id else done.get? id) :
      Gathered ctx s new hanging ids done (.ok documents)
  | failed {e : StoreError} (h : FailedIn ctx new e) :
      Gathered ctx s new hanging ids done (.error e)

section

variable {inOrder : Bool} {hanging ids : List String} {done : Entries Value} {old : List Event}
  {answer : Except StoreError (Entries Value)}

theorem Gathered.of_hanging (h : Gathered ctx s new hanging ids done answer)
    (hn : hanging ≠ []) (hanging' ids' : List String) (done' : Entries Value) :
    Gathered ctx s new hanging' ids' done' answer := by
  cases h with
  | all answered => exact absurd answered hn
  | failed h => exact .failed h

theorem Gathered.cons (h : Gathered ctx s new hanging ids (done.set id v) answer)
    (hv : s.documents.get? id = some v) : Gathered ctx s new hanging (id :: ids) done answer := by
  cases h with
  | all answered complete get? =>
    refine .all answered (List.forall_mem_cons.mpr ⟨⟨v, hv⟩, complete⟩) fun id' => ?_
    rw [get? id', Entries.get?_set]
    by_cases hi : id' = id
    · subst hi
      simp [hv]
    · simp [hi, Ne.symm hi]
  | failed h => exact .failed h

/-- How gathering goes on after its first id: the id has its document, or an id hangs, or its
failure is the end. -/
inductive GoesOn (ctx : Context σ) (inOrder : Bool) (old : List Event) (hanging : List String)
    (done : Entries Value) (id : String) (ids : List String) (s : Session σ) :
    Except StoreError (Entries Value) × Session σ → Prop
  | found {t : Session σ} {new : List Event} {v : Value} (h : s.Evolves ctx t new)
      (hv : t.documents.get? id = some v) : GoesOn ctx inOrder old hanging done id ids s
        (ctx.gather inOrder hanging (done.set id v) ids t)
  | hangs {t : Session σ} {new : List Event} {hanging' : List String} (h : s.Evolves ctx t new)
      (hn : hanging' ≠ [])
      (hh : ∀ id ∈ hanging', FailedIn ctx (old ++ new) (.timeout id ctx.fetchTimeout)) :
      GoesOn ctx inOrder old hanging done id ids s (ctx.gather inOrder hanging' done ids t)
  | failed {t : Session σ} {new : List Event} {e : StoreError} (h : s.Evolves ctx t new)
      (hf : FailedIn ctx new e) : GoesOn ctx inOrder old hanging done id ids s (.error e, t)

variable (hh : ∀ id ∈ hanging, FailedIn ctx old (.timeout id ctx.fetchTimeout))

include hh

theorem gather_cons (hs : s.Keeps) (hk : ctx.isKnown id = true) :
    GoesOn ctx inOrder old hanging done id ids s
      (ctx.gather inOrder hanging done (id :: ids) s) := by
  rw [gather.eq_def]
  simp only
  split
  · next hi =>
    exact .hangs (.refl ctx hs) (List.ne_nil_of_mem hi) fun id hi => (hh id hi).append_left []
  · split
    · next v t heq =>
      obtain ⟨new, he, hv⟩ := document_ok heq hs hk
      exact .found he hv
    · next id' timeout t heq =>
      obtain ⟨new, he, hf, ht⟩ := document_error heq hs hk
      obtain ⟨rfl, rfl⟩ := ht id' timeout rfl
      refine .hangs he (by simp) fun id hi => ?_
      rcases List.mem_append.mp hi with hi | hi
      · exact (hh id hi).append_left new
      · obtain rfl := List.mem_singleton.mp hi
        exact hf.append_right old
    · next e t _ heq =>
      obtain ⟨new, he, hf, -⟩ := document_error heq hs hk
      split
      · next hc =>
        refine .hangs he ?_ fun id hi => (hh id hi).append_left new
        rintro rfl
        exact absurd hc (by simp)
      · exact .failed he hf

/-- Documents are gathered for all ids, unless one of their fetches fails. -/
theorem gather_spec {r : Except StoreError (Entries Value) × Session σ}
    (hr : ctx.gather inOrder hanging done ids s = r) (hs : s.Keeps)
    (hk : ∀ id ∈ ids, ctx.isKnown id = true) :
    ∃ new, s.Evolves ctx r.2 new ∧ Gathered ctx r.2 (old ++ new) hanging ids done r.1 := by
  induction ids generalizing hanging done s old with
  | nil =>
    subst hr
    cases hanging with
    | nil => exact ⟨[], .refl ctx hs, .all rfl (by simp) fun id => by simp⟩
    | cons id rest =>
      exact ⟨[], .refl ctx hs, .failed ((hh id List.mem_cons_self).append_left [])⟩
  | cons id ids ih =>
    obtain ⟨hk, hks⟩ := List.forall_mem_cons.mp hk
    have hgoes : GoesOn ctx inOrder old hanging done id ids s
        (ctx.gather inOrder hanging done (id :: ids) s) := gather_cons hh hs hk
    rw [hr] at hgoes
    cases hgoes with
    | @found t new v he hv =>
      obtain ⟨more, he', hg⟩ := ih (fun id hi => (hh id hi).append_left new) rfl he.keeps hks
      rw [List.append_assoc] at hg
      exact ⟨new ++ more, he.trans he', hg.cons (he'.get?_mono he.keeps hv)⟩
    | hangs he hn hh' =>
      obtain ⟨more, he', hg⟩ := ih hh' rfl he.keeps hks
      rw [List.append_assoc] at hg
      exact ⟨_, he.trans he', hg.of_hanging hn _ _ _⟩
    | failed he hf => exact ⟨_, he, .failed (hf.append_right old)⟩

end

/-- A prefetch hands out the documents of the known ids, unless one of its fetches fails. -/
theorem prefetch_spec {ids : List String} {r : Except StoreError (Entries Value) × Session σ}
    (hr : ctx.prefetch ids s = r) (hs : s.Keeps) :
    ∃ new, s.Evolves ctx r.2 new ∧
      ((∃ documents, r.1 = .ok documents ∧ r.2.Supplies ctx ids documents) ∨
        ∃ e, r.1 = .error e ∧ FailedIn ctx new e) := by
  have hk : ∀ id ∈ ids.filter ctx.isKnown, ctx.isKnown id = true :=
    fun id hi => (List.mem_filter.mp hi).2
  have hh : ∀ id ∈ ([] : List String), FailedIn ctx [] (.timeout id ctx.fetchTimeout) := by simp
  obtain ⟨new, he, hg⟩ := gather_spec hh hr hs hk
  refine ⟨new, he, ?_⟩
  rcases hr : r.1 with e | documents
  · rw [hr] at hg
    cases hg with
    | failed hf => exact .inr ⟨e, rfl, hf⟩
  · rw [hr] at hg
    cases hg with
    | all _ complete get? =>
      refine .inl ⟨documents, rfl, fun id v hv => ?_, fun id hi hk => ?_, fun id v hv => ?_⟩
      · rw [get? id] at hv
        split at hv
        · exact (he.keeps id v).mp hv
        · exact absurd hv (by simp)
      · have hm := List.mem_filter.mpr ⟨hi, hk⟩
        rw [get? id, if_pos hm]
        exact complete id hm
      · rw [get? id] at hv
        split at hv
        · next hm => exact List.mem_filter.mp hm
        · exact absurd hv (by simp)

end Context

end SnapshotRules
