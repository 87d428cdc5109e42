import Mathlib
import SnapshotRules.Snapshot.Context

/-! # Histories of sessions

What happens between a context and its store obeys two rules. The store is asked for known
ids only, and never for an id whose document is kept; and a document is kept once, when it is
the answer of the last fetch of its id.
-/

namespace SnapshotRules

namespace Fetched

/-- The document of an answer. One that the store does not have is null. -/
def document? : Fetched → Option Value
  | .found d => some d.json
  | .missing => some .null
  | .unavailable _ | .hanging => none

def failure? (id : String) (timeout : UInt64) : Fetched → Option StoreError
  | .found _ | .missing => none
  | .unavailable reason => some (.unavailable reason)
  | .hanging => some (.timeout id timeout)

theorem eq_of_failure?_eq_timeout {id id' : String} {timeout timeout' : UInt64}
    {answer : Fetched} (h : answer.failure? id timeout = some (.timeout id' timeout')) :
    id' = id ∧ timeout' = timeout := by
  cases answer with
  | hanging => cases h; exact ⟨rfl, rfl⟩
  | _ => exact absurd h (by simp [failure?])

end Fetched

def Event.answer? (id : String) : Event → Option Fetched
  | .fetched id' answer => if id' = id then some answer else none
  | .kept _ _ => none

def Event.keeps (id : String) : Event → Bool
  | .fetched _ _ => false
  | .kept id' _ => id' = id

namespace History

def lastAnswer? (id : String) (h : List Event) : Option Fetched :=
  (h.filterMap (Event.answer? id)).getLast?

def IsKept (id : String) (h : List Event) : Prop := ∃ v, .kept id v ∈ h

variable {id id' : String} {answer : Fetched} {v : Value} {h h' : List Event}

theorem lastAnswer?_fetched_self : lastAnswer? id (h ++ [.fetched id answer]) = some answer := by
  simp [lastAnswer?, Event.answer?]

theorem lastAnswer?_fetched_of_ne (hn : id' ≠ id) :
    lastAnswer? id (h ++ [.fetched id' answer]) = lastAnswer? id h := by
  simp [lastAnswer?, Event.answer?, hn]

theorem lastAnswer?_kept : lastAnswer? id (h ++ [.kept id' v]) = lastAnswer? id h := by
  simp [lastAnswer?, Event.answer?]

theorem lastAnswer?_append (ha : lastAnswer? id h' = some answer) :
    lastAnswer? id (h ++ h') = some answer := by
  rw [lastAnswer?, List.filterMap_append, List.getLast?_append]
  rw [lastAnswer?] at ha
  rw [ha]
  rfl

theorem exists_fetched_of_lastAnswer? (ha : lastAnswer? id h = some answer) :
    .fetched id answer ∈ h := by
  obtain ⟨e, he, hq⟩ := List.mem_filterMap.mp (List.mem_of_getLast? ha)
  cases e with
  | kept id' v => exact absurd hq (by simp [Event.answer?])
  | fetched id' a =>
    rw [Event.answer?] at hq
    split at hq
    · next hi => obtain rfl := Option.some.inj hq; exact hi ▸ he
    · exact absurd hq (by simp)

theorem isKept_append : IsKept id (h ++ h') ↔ IsKept id h ∨ IsKept id h' := by
  simp only [IsKept, List.mem_append, exists_or]

theorem isKept_concat_fetched : IsKept id (h ++ [.fetched id' answer]) ↔ IsKept id h := by
  simp [IsKept]

/-! ## Growth -/

variable {σ : Type} {ctx : Context σ} {base new more : List Event}

/-- What may happen after the events of `base`. -/
inductive Grows (ctx : Context σ) (base : List Event) : List Event → Prop
  | nil : Grows ctx base []
  | fetched {new : List Event} {id : String} {answer : Fetched} (h : Grows ctx base new)
      (known : ctx.isKnown id = true) (notKept : ¬ IsKept id (base ++ new)) :
      Grows ctx base (new ++ [.fetched id answer])
  | kept {new : List Event} {id : String} {v : Value} {answer : Fetched} (h : Grows ctx base new)
      (notKept : ¬ IsKept id (base ++ new)) (last : lastAnswer? id new = some answer)
      (document : answer.document? = some v) : Grows ctx base (new ++ [.kept id v])

theorem Grows.trans (h : Grows ctx base new) (h' : Grows ctx (base ++ new) more) :
    Grows ctx base (new ++ more) := by
  induction h' with
  | nil => rwa [List.append_nil]
  | fetched _ known notKept ih =>
    rw [List.append_assoc] at notKept
    rw [← List.append_assoc]
    exact .fetched ih known notKept
  | kept _ notKept last document ih =>
    rw [List.append_assoc] at notKept
    rw [← List.append_assoc]
    exact .kept ih notKept (lastAnswer?_append last) document

theorem eq_append_cons_concat {e e' : Event} {before after : List Event}
    (h : new ++ [e] = before ++ e' :: after) :
    (new = before ∧ e = e' ∧ after = []) ∨
      ∃ after', after = after' ++ [e] ∧ new = before ++ e' :: after' := by
  rcases List.eq_nil_or_concat after with rfl | ⟨after', a, rfl⟩
  · obtain ⟨rfl, he⟩ := List.append_inj' h rfl
    exact .inl ⟨rfl, (List.cons.inj he).1, rfl⟩
  · rw [List.concat_eq_append, ← List.cons_append, ← List.append_assoc] at h
    obtain ⟨rfl, he⟩ := List.append_inj' h rfl
    obtain rfl := (List.cons.inj he).1
    exact .inr ⟨after', List.concat_eq_append, rfl⟩

theorem Grows.isKnown (h : Grows ctx base new) (hm : .fetched id answer ∈ new) :
    ctx.isKnown id = true := by
  induction h with
  | nil => exact absurd hm (by simp)
  | fetched _ known _ ih =>
    rcases List.mem_append.mp hm with hm | hm
    · exact ih hm
    · obtain ⟨rfl, -⟩ := Event.fetched.inj (List.mem_singleton.mp hm)
      exact known
  | kept _ _ _ _ ih => exact ih (by simpa using hm)

theorem Grows.answered {before after : List Event} (h : Grows ctx base new)
    (he : new = before ++ .kept id v :: after) :
    ∃ answer, lastAnswer? id before = some answer ∧ answer.document? = some v := by
  induction h generalizing after with
  | nil => exact absurd he (by simp)
  | fetched _ _ _ ih =>
    rcases eq_append_cons_concat he with ⟨-, he, -⟩ | ⟨after', -, he⟩
    · exact absurd he (by simp)
    · exact ih he
  | kept _ _ last document ih =>
    rcases eq_append_cons_concat he with ⟨rfl, he, -⟩ | ⟨after', -, he⟩
    · obtain ⟨rfl, rfl⟩ := Event.kept.inj he
      exact ⟨_, last, document⟩
    · exact ih he

end History

end SnapshotRules
