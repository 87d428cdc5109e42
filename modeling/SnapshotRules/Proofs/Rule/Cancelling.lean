import Mathlib
import SnapshotRules.Batch.Machine
import SnapshotRules.Proofs.Rule.Resolving

/-! # Cancelled resolution

Under a set flag resolution gives up at its first path or call, before anything else in it can fail.
Operands without paths and calls do not look at the flag.
-/

namespace SnapshotRules

variable {scope : Scope}

namespace Operand

/-! ## Steps -/

mutual

theorem steps_eq_length : ∀ o : Operand, o.steps = o.paths.length + o.calls.length
  | .literal _ => rfl
  | .path _ _ => rfl
  | .call name arguments => by
    rw [steps, paths, calls, List.length_append, List.length_singleton,
      stepsOfItems_eq_length arguments]
    omega
  | .list items => stepsOfItems_eq_length items
  | .map entries => stepsOfEntries_eq_length entries
termination_by structural o => o

theorem stepsOfItems_eq_length : ∀ os : List Operand,
    stepsOfItems os = (pathsOfItems os).length + (callsOfItems os).length
  | [] => rfl
  | o :: os => by
    rw [stepsOfItems, pathsOfItems, callsOfItems, List.length_append, List.length_append,
      steps_eq_length o, stepsOfItems_eq_length os]
    omega
termination_by structural os => os

theorem stepsOfEntries_eq_length : ∀ es : List (String × Operand),
    stepsOfEntries es = (pathsOfEntries es).length + (callsOfEntries es).length
  | [] => rfl
  | (_, o) :: es => by
    rw [stepsOfEntries, pathsOfEntries, callsOfEntries, List.length_append, List.length_append,
      steps_eq_length o, stepsOfEntries_eq_length es]
    omega
termination_by structural es => es

end

theorem steps_eq_zero_iff {o : Operand} : o.steps = 0 ↔ o.paths = [] ∧ o.calls = [] := by
  rw [steps_eq_length, Nat.add_eq_zero_iff, List.length_eq_zero_iff, List.length_eq_zero_iff]

theorem exists_value_of_steps_eq_zero (scope : Scope) {o : Operand} (h : o.steps = 0) :
    ∃ v, o.resolve scope false = .ok v := by
  rw [resolve_eq_ok_iff_calls, (steps_eq_zero_iff.mp h).2]
  exact List.forall_mem_nil _

theorem steps_ne_zero_of_error {o : Operand} {error : RuleError}
    (h : o.resolve scope false = .error error) : o.steps ≠ 0 := by
  intro hs
  obtain ⟨v, hv⟩ := exists_value_of_steps_eq_zero scope hs
  exact absurd (hv.symm.trans h) (by simp)

/-! ## Resolution under a set flag -/

mutual

theorem resolve_true : ∀ o : Operand, o.resolve scope true =
    if o.steps = 0 then o.resolve scope false else .error .cancelled
  | .literal _ => rfl
  | .path _ _ => rfl
  | .call name arguments => by
    rw [resolve, steps, if_pos rfl, if_neg (by omega)]
  | .list items => by
    rw [resolve, resolve, steps, resolveItems_true items]
    split <;> rfl
  | .map entries => by
    rw [resolve, resolve, steps, resolveEntries_true [] entries]
    split <;> rfl
termination_by structural o => o

theorem resolveItems_true : ∀ os : List Operand, resolveItems scope true os =
    if stepsOfItems os = 0 then resolveItems scope false os else .error .cancelled
  | [] => rfl
  | o :: os => by
    rw [resolveItems, resolve_true o, stepsOfItems]
    by_cases ho : o.steps = 0
    · obtain ⟨v, hv⟩ := exists_value_of_steps_eq_zero scope ho
      rw [if_pos ho, resolveItems, hv, ho, Nat.zero_add]
      simp only [resolveItems_true os]
      split <;> rfl
    · rw [if_neg ho, if_neg (by omega)]
termination_by structural os => os

theorem resolveEntries_true (done : Entries Value) : ∀ es : List (String × Operand),
    resolveEntries scope true done es =
      if stepsOfEntries es = 0 then resolveEntries scope false done es else .error .cancelled
  | [] => rfl
  | (k, o) :: es => by
    rw [resolveEntries, resolve_true o, stepsOfEntries]
    by_cases ho : o.steps = 0
    · obtain ⟨v, hv⟩ := exists_value_of_steps_eq_zero scope ho
      rw [if_pos ho, resolveEntries, hv, ho, Nat.zero_add]
      exact resolveEntries_true (done.set k v) es
    · rw [if_neg ho, if_neg (by omega)]
termination_by structural es => es

end

theorem resolve_false_ne_cancelled (o : Operand) : o.resolve scope false ≠ .error .cancelled := by
  intro h
  obtain ⟨e, he⟩ := o.exists_call_error h
  exact absurd he (by simp)

/-- A set flag cancels the operands with a path or a call, however broken these are, and makes no
difference to the others. Without it nothing is cancelled. -/
theorem resolve_under_flag (scope : Scope) (o : Operand) :
    (o.resolve scope true = .error .cancelled ↔ o.paths ≠ [] ∨ o.calls ≠ []) ∧
    (o.paths = [] ∧ o.calls = [] →
      ∃ v, o.resolve scope true = .ok v ∧ o.resolve scope false = .ok v) ∧
    (∀ error, o.resolve scope true = .error error → error = .cancelled) ∧
    o.resolve scope false ≠ .error .cancelled := by
  by_cases h : o.steps = 0
  · obtain ⟨v, hv⟩ := exists_value_of_steps_eq_zero scope h
    obtain ⟨hpaths, hcalls⟩ := steps_eq_zero_iff.mp h
    have ht : o.resolve scope true = .ok v := by rw [resolve_true, if_pos h, hv]
    rw [ht, hv]
    exact ⟨by simp [hpaths, hcalls], fun _ => ⟨v, rfl, rfl⟩, by simp, by simp⟩
  · have hparts : ¬ (o.paths = [] ∧ o.calls = []) := mt steps_eq_zero_iff.mpr h
    have ht : o.resolve scope true = .error .cancelled := by rw [resolve_true, if_neg h]
    rw [ht]
    refine ⟨iff_of_true rfl (not_and_or.mp hparts), ?_, ?_, resolve_false_ne_cancelled o⟩
    · intro hempty
      exact absurd hempty hparts
    · intro error he
      exact (Except.error.inj he).symm

/-! ## Checkpoints

A task of a machine has its outcome before it passes the checkpoints of its rule. If the flag is set
when it begins to pass them, it ends all the same as resolution under a set flag does.
-/

mutual

theorem checkpoints_eq_zero_iff (scope : Scope) : ∀ o : Operand,
    o.checkpoints scope = 0 ↔ o.steps = 0
  | .literal _ => Iff.rfl
  | .path _ _ => Iff.rfl
  | .call _ _ => by rw [checkpoints, steps]; omega
  | .list items => checkpointsOfItems_eq_zero_iff scope items
  | .map entries => checkpointsOfEntries_eq_zero_iff scope entries
termination_by structural o => o

theorem checkpointsOfItems_eq_zero_iff (scope : Scope) : ∀ os : List Operand,
    checkpointsOfItems scope os = 0 ↔ stepsOfItems os = 0
  | [] => Iff.rfl
  | o :: os => by
    have ho := checkpoints_eq_zero_iff scope o
    rw [checkpointsOfItems, stepsOfItems]
    split
    · have hos := checkpointsOfItems_eq_zero_iff scope os
      omega
    · next he =>
      have hs := steps_ne_zero_of_error he
      omega
termination_by structural os => os

theorem checkpointsOfEntries_eq_zero_iff (scope : Scope) : ∀ es : List (String × Operand),
    checkpointsOfEntries scope es = 0 ↔ stepsOfEntries es = 0
  | [] => Iff.rfl
  | (_, o) :: es => by
    have ho := checkpoints_eq_zero_iff scope o
    rw [checkpointsOfEntries, stepsOfEntries]
    split
    · have hes := checkpointsOfEntries_eq_zero_iff scope es
      omega
    · next he =>
      have hs := steps_ne_zero_of_error he
      omega
termination_by structural es => es

end

end Operand

theorem Expression.evaluateIn_true (e : Expression) (rule : String) :
    e.evaluateIn scope true rule =
      if e.checkpoints scope = 0 then e.evaluateIn scope false rule else .error .cancelled := by
  have hleft := e.left.checkpoints_eq_zero_iff scope
  have hright := e.right.checkpoints_eq_zero_iff scope
  rw [evaluateIn, evaluateIn, checkpoints, e.left.resolve_true, e.right.resolve_true]
  by_cases hl : e.left.steps = 0
  · obtain ⟨v, hv⟩ := Operand.exists_value_of_steps_eq_zero scope hl
    simp only [if_pos hl, hv]
    by_cases hr : e.right.steps = 0
    · rw [if_pos hr, if_pos (by omega)]
    · rw [if_neg hr, if_neg (by omega)]
  · simp only [if_neg hl]
    rw [if_neg]
    split <;> omega

theorem Machine.stepTask_resolving_of_cancelled {σ : Type} {ctx : Context σ} {registry : Registry}
    {m : Machine σ} {i : Nat} {task : Task} {e : Expression} {rule : String}
    (hc : m.cancelled = true)
    (hs : task.stage = .resolving (e.checkpoints scope) (e.evaluateIn scope false rule)) :
    stepTask ctx registry m i task = some (m.finish i [] (e.evaluateIn scope true rule)) := by
  rw [stepTask, hs, Expression.evaluateIn_true]
  cases e.checkpoints scope with
  | zero => rfl
  | succ n => simp only [hc, if_true, if_neg (Nat.succ_ne_zero n)]

end SnapshotRules
