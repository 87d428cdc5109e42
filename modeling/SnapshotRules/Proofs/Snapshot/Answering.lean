import Mathlib
import SnapshotRules.Proofs.Snapshot.Fetching
import SnapshotRules.Proofs.Rule.Resolving

/-! # Answers from sessions

An operand or a rule is answered from the documents that its session keeps, unless it was
cancelled or one of its own fetches failed.
-/

namespace SnapshotRules

open Session

variable {σ α : Type} {ctx : Context σ} {registry : Registry} {flag : Bool}
  {s s' : Session σ} {new more : List Event} {rule : String}

/-- Whether there is a reason to cancel: the flag was set, or a fetch has failed since. -/
def Session.IsStopped (ctx : Context σ) (flag : Bool) (new : List Event) : Prop :=
  flag = true ∨ ∃ e, FailedIn ctx new e

theorem Session.IsStopped.append_left (h : IsStopped ctx flag new) (more : List Event) :
    IsStopped ctx flag (new ++ more) :=
  h.imp id fun ⟨e, he⟩ => ⟨e, he.append_left more⟩

theorem Session.IsStopped.after {flag' : Bool} (h : IsStopped ctx flag' more)
    (hf : flag' = true → IsStopped ctx flag new) : IsStopped ctx flag (new ++ more) := by
  rcases h with h | ⟨e, he⟩
  · exact (hf h).append_left more
  · exact .inr ⟨e, he.append_right new⟩

/-- How something that needs the documents of some ids is answered. -/
inductive Answered (ctx : Context σ) (flag : Bool) (s : Session σ) (new : List Event)
    (ids : List String) (answer : Entries Value → Except RuleError α) :
    Except RuleError α → Prop
  | cancelled (h : IsStopped ctx flag new) : Answered ctx flag s new ids answer (.error .cancelled)
  | failed {e : StoreError} (h : FailedIn ctx new e) :
      Answered ctx flag s new ids answer (.error (.store e))
  | supplied {documents : Entries Value} (h : s.Supplies ctx ids documents) :
      Answered ctx flag s new ids answer (answer documents)

section

variable {ids : List String} {answer : Entries Value → Except RuleError α}
  {outcome : Except RuleError α}

theorem Answered.mono (h : Answered ctx flag s new ids answer outcome)
    (hh : s'.history = s.history ++ more) :
    Answered ctx flag s' (new ++ more) ids answer outcome := by
  cases h with
  | cancelled h => exact .cancelled (h.append_left more)
  | failed h => exact .failed (h.append_left more)
  | supplied h => exact .supplied (h.mono hh)

theorem Answered.after {flag' : Bool} (h : Answered ctx flag' s more ids answer outcome)
    (hf : flag' = true → IsStopped ctx flag new) :
    Answered ctx flag s (new ++ more) ids answer outcome := by
  cases h with
  | cancelled h => exact .cancelled (h.after hf)
  | failed h => exact .failed (h.append_right new)
  | supplied h => exact .supplied h

theorem Answered.asks {id : String} (h : Answered ctx false s' new ids answer outcome)
    (he : s.Evolves ctx s' new) (hs : s.Keeps) (hi : id ∈ ids) (hk : ctx.isKnown id = true)
    (hn : s.documents.get? id = none) :
    (∃ answer, .fetched id answer ∈ new) ∨ ∃ e, FailedIn ctx new e := by
  cases h with
  | cancelled h => exact .inr (h.resolve_left Bool.false_ne_true)
  | failed h => exact .inr ⟨_, h⟩
  | supplied h => exact .inl (h.asks he hs hi hk hn)

end

namespace Context

/-- How a rule text is answered. -/
def Accounts (ctx : Context σ) (registry : Registry) (flag : Bool) (s : Session σ)
    (new : List Event) (rule : String) (outcome : Except RuleError Evaluation) : Prop :=
  match parse rule with
  | .error e =>
    outcome = .error .cancelled ∧ IsStopped ctx flag new ∨ outcome = .error (.ofSyntax e)
  | .ok e => Answered ctx flag s new e.snapshotRefs
      (fun documents => e.evaluateIn (ctx.scope registry documents) false rule) outcome

theorem accounts_cancelled (h : IsStopped ctx flag new) :
    ctx.Accounts registry flag s new rule (.error .cancelled) := by
  unfold Accounts
  split
  · exact .inl ⟨rfl, h⟩
  · exact .cancelled h

theorem accounts_ofSyntax {e : SyntaxError} (h : parse rule = .error e) :
    ctx.Accounts registry flag s new rule (.error (.ofSyntax e)) := by
  rw [Accounts, h]
  exact .inr rfl

theorem accounts_of_parse {e : Expression} {outcome : Except RuleError Evaluation}
    (hp : parse rule = .ok e) : ctx.Accounts registry flag s new rule outcome ↔
      Answered ctx flag s new e.snapshotRefs
        (fun documents => e.evaluateIn (ctx.scope registry documents) false rule) outcome := by
  rw [Accounts, hp]

theorem Accounts.mono {outcome : Except RuleError Evaluation}
    (h : ctx.Accounts registry flag s new rule outcome) (hh : s'.history = s.history ++ more) :
    ctx.Accounts registry flag s' (new ++ more) rule outcome := by
  unfold Accounts at *
  split
  · next hp =>
    rw [hp] at h
    exact h.imp_left fun ⟨ho, hf⟩ => ⟨ho, hf.append_left more⟩
  · next hp =>
    rw [hp] at h
    exact h.mono hh

theorem Accounts.after {flag' : Bool} {outcome : Except RuleError Evaluation}
    (h : ctx.Accounts registry flag' s more rule outcome)
    (hf : flag' = true → IsStopped ctx flag new) :
    ctx.Accounts registry flag s (new ++ more) rule outcome := by
  unfold Accounts at *
  split
  · next hp =>
    rw [hp] at h
    exact h.imp_left fun ⟨ho, h⟩ => ⟨ho, h.after hf⟩
  · next hp =>
    rw [hp] at h
    exact h.after hf

theorem Accounts.failedIn {e : StoreError}
    (h : ctx.Accounts registry flag s new rule (.error (.store e))) : FailedIn ctx new e := by
  unfold Accounts at h
  split at h
  · rcases h with ⟨h, -⟩ | h
    · exact absurd h (by simp)
    · rename_i e' _
      cases e' <;> exact absurd h (by simp [RuleError.ofSyntax])
  · rename_i e' _
    generalize ho : (.error (.store e) : Except RuleError Evaluation) = outcome at h
    cases h with
    | cancelled h => exact absurd ho (by simp)
    | failed h => cases ho; exact h
    | supplied h =>
      obtain ⟨e, he⟩ := e'.exists_call_error ho.symm
      exact absurd he (by simp)

theorem answered_of_prefetch {ids : List String} {answer : Entries Value → Except RuleError α}
    {r : Except RuleError α × Session σ}
    (hr : (match ctx.prefetch ids s with
      | (.error e, t) => (.error (.store e), t)
      | (.ok documents, t) => (answer documents, t)) = r) (hs : s.Keeps) :
    ∃ new, s.Evolves ctx r.2 new ∧ Answered ctx flag r.2 new ids answer r.1 := by
  rcases hp : ctx.prefetch ids s with ⟨documents?, t⟩
  rw [hp] at hr
  obtain ⟨new, he, ⟨documents, rfl, hd⟩ | ⟨e, rfl, hf⟩⟩ := prefetch_spec hp hs
  · subst hr
    exact ⟨new, he, .supplied hd⟩
  · subst hr
    exact ⟨new, he, .failed hf⟩

theorem resolve_spec {o : Operand} {r : Except RuleError Value × Session σ}
    (hr : ctx.resolve registry flag o s = r) (hs : s.Keeps) :
    ∃ new, s.Evolves ctx r.2 new ∧ Answered ctx flag r.2 new o.snapshotRefs
      (fun documents => o.resolve (ctx.scope registry documents) false) r.1 := by
  cases flag with
  | true =>
    subst hr
    exact ⟨[], .refl ctx hs, .cancelled (.inl rfl)⟩
  | false => exact answered_of_prefetch hr hs

theorem evaluateExpression_spec {e : Expression} {r : Except RuleError Evaluation × Session σ}
    (hr : ctx.evaluateExpression registry flag rule e s = r) (hs : s.Keeps) :
    ∃ new, s.Evolves ctx r.2 new ∧ Answered ctx flag r.2 new e.snapshotRefs
      (fun documents => e.evaluateIn (ctx.scope registry documents) false rule) r.1 := by
  cases flag with
  | true =>
    subst hr
    exact ⟨[], .refl ctx hs, .cancelled (.inl rfl)⟩
  | false => exact answered_of_prefetch hr hs

theorem evaluate_spec {r : Except RuleError Evaluation × Session σ}
    (hr : ctx.evaluate registry flag rule s = r) (hs : s.Keeps) :
    ∃ new, s.Evolves ctx r.2 new ∧ ctx.Accounts registry flag r.2 new rule r.1 := by
  cases flag with
  | true =>
    subst hr
    exact ⟨[], .refl ctx hs, accounts_cancelled (.inl rfl)⟩
  | false =>
    rw [evaluate, if_neg Bool.false_ne_true] at hr
    split at hr
    · next e hp =>
      subst hr
      exact ⟨[], .refl ctx hs, accounts_ofSyntax hp⟩
    · next e hp =>
      simp only [accounts_of_parse hp]
      exact evaluateExpression_spec hr hs

end Context

end SnapshotRules
