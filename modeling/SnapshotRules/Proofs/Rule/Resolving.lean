import Mathlib
import SnapshotRules.Proofs.Rule.Failing

/-! # Errors of resolution

With the flag clear a rule never gives up, and the only errors of its resolution are those of
calls.
-/

namespace SnapshotRules

variable {scope : Scope} {error : RuleError}

theorem Operand.exists_call_error (o : Operand) (h : o.resolve scope false = .error error) :
    ∃ e, error = .call e := by
  obtain ⟨e, -, he⟩ := resolve_eq_error_iff_calls.mp h
  exact ⟨e, he⟩

theorem Expression.exists_call_error {e : Expression} {rule : String}
    (h : e.evaluateIn scope false rule = .error error) : ∃ e, error = .call e := by
  rw [evaluateIn] at h
  split at h
  · next he =>
    obtain rfl := Except.error.inj h
    exact e.left.exists_call_error he
  · split at h
    · next he =>
      obtain rfl := Except.error.inj h
      exact e.right.exists_call_error he
    · exact absurd h (by simp)

namespace Context

variable {σ : Type} {ctx : Context σ} {registry : Registry} {rule : String} {s : Session σ}

theorem evaluate_error_cases (h : (ctx.evaluate registry false rule s).1 = .error error) :
    error.isInvalidRule = true ∨ ∃ e, error = .store e := by
  rw [evaluate, if_neg Bool.false_ne_true] at h
  split at h
  · next e _ =>
    obtain rfl := Except.error.inj h
    left
    cases e <;> rfl
  · rw [evaluateExpression, if_neg Bool.false_ne_true] at h
    split at h
    · obtain rfl := Except.error.inj h
      exact .inr ⟨_, rfl⟩
    · obtain ⟨e, rfl⟩ := Expression.exists_call_error h
      exact .inl rfl

theorem evaluate_cancelled : ctx.evaluate registry true rule s = (.error .cancelled, s) := rfl

end Context

end SnapshotRules
