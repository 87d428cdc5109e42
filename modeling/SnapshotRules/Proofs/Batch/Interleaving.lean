import Mathlib
import SnapshotRules.Batch.Concurrent

/-! # Interleavings

The steps of tasks come in any order, and meanwhile fetches run out of time and the store
changes. The schedule of a concurrent batch is one of the possible orders.
-/

namespace SnapshotRules

variable {σ : Type} {ctx : Context σ} {registry : Registry} {stops : Bool}
  {m m₀ m' : Machine σ} {s s' : Schedule σ}

namespace Machine

def changeStage (m : Machine σ) (i : Nat) (f : Stage → Stage) : Machine σ :=
  { m with tasks := m.tasks.modify i fun task => { task with stage := f task.stage } }

/-- What a machine can become. With `stops` somebody else may set the flag. -/
inductive Reaches (ctx : Context σ) (registry : Registry) (stops : Bool) (m₀ : Machine σ) :
    Machine σ → Prop
  | refl : Reaches ctx registry stops m₀ m₀
  | step {m m' : Machine σ} (h : Reaches ctx registry stops m₀ m) (i : Nat)
      (hs : m.step ctx registry i = some m') : Reaches ctx registry stops m₀ m'
  | turnRound {m : Machine σ} (h : Reaches ctx registry stops m₀ m) (i : Nat) :
      Reaches ctx registry stops m₀ (m.changeStage i .turnRound)
  /-- The fetches of a task that hang run out of time. -/
  | expire {m : Machine σ} (h : Reaches ctx registry stops m₀ m) (i : Nat) :
      Reaches ctx registry stops m₀ (m.changeStage i .expire)
  | cancel {m : Machine σ} (h : Reaches ctx registry stops m₀ m) (hs : stops = true) :
      Reaches ctx registry stops m₀ { m with cancelled := true }
  | change {m : Machine σ} (h : Reaches ctx registry stops m₀ m) (f : σ → σ) :
      Reaches ctx registry stops m₀
        { m with session := { m.session with store := f m.session.store } }

theorem Reaches.expireAll {early late : List Task} (ht : m.tasks = early ++ late)
    (h : Reaches ctx registry stops m₀ m) : Reaches ctx registry stops m₀ { m with
      tasks := early ++ late.map fun task => { task with stage := task.stage.expire } } := by
  induction late generalizing early m with
  | nil => rwa [List.map_nil, ← ht]
  | cons task late ih =>
    have hm : (m.changeStage early.length .expire).tasks =
        (early ++ [{ task with stage := task.stage.expire }]) ++ late := by
      simp [changeStage, ht, List.modify_eq_take_cons_drop]
    have he := ih hm (h.expire early.length)
    simpa [changeStage] using he

theorem Reaches.of_expire (h : Reaches ctx registry stops m₀ m) (he : m.expire = some m') :
    Reaches ctx registry stops m₀ m' := by
  rw [Machine.expire] at he
  split at he
  · cases he
    exact h.expireAll (List.nil_append _).symm
  · exact absurd he (by simp)

/-- What tasks keep when they move or turn round and when time passes. -/
structure Preserved (ctx : Context σ) (registry : Registry) (P : Machine σ → Prop) : Prop where
  step {m m' : Machine σ} (h : P m) (i : Nat) (hs : m.step ctx registry i = some m') : P m'
  turnRound {m : Machine σ} (h : P m) (i : Nat) : P (m.turnRound i)
  expire {m m' : Machine σ} (h : P m) (hs : m.expire = some m') : P m'

theorem preserved_reaches : Preserved ctx registry (Reaches ctx registry stops m₀) :=
  ⟨.step, .turnRound, .of_expire⟩

end Machine

namespace Schedule

open Machine

variable {P : Machine σ → Prop}

theorem proceed_preserved (hP : Preserved ctx registry P) {i : Nat} {others : List Nat}
    (h : P s.machine) (hs : s.proceed ctx registry i others = some s') : P s'.machine := by
  obtain ⟨m, hm, rfl⟩ := Option.map_eq_some_iff.mp hs
  split
  · split
    · exact hP.turnRound h i
    · exact hP.step h i hm
  · exact hP.step h i hm

theorem wake_preserved (hP : Preserved ctx registry P) (h : P s.machine)
    (hs : s.wake ctx registry = some s') : P s'.machine := by
  obtain ⟨i, -, hi⟩ := List.exists_of_findSome?_eq_some hs
  split at hi
  · exact absurd hi (by simp)
  · exact proceed_preserved (s := { s with allowance := turnLength }) hP h hi

theorem advance_preserved (hP : Preserved ctx registry P) (h : P s.machine)
    (hs : s.advance ctx registry = some s') : P s'.machine := by
  rw [advance] at hs
  split at hs
  · split at hs
    · next hp => cases hs; exact proceed_preserved hP h hp
    · cases hs; exact h
  · split at hs
    · next hw => cases hs; exact wake_preserved hP h hw
    · obtain ⟨m, hm, rfl⟩ := Option.map_eq_some_iff.mp hs
      exact hP.expire h hm
    · cases hs; exact h

theorem runFor_preserved (hP : Preserved ctx registry P) (n : Nat) (h : P s.machine) :
    P (s.runFor ctx registry n).machine := by
  induction n generalizing s with
  | zero => exact h
  | succ n ih =>
    rw [runFor]
    split
    · next ha => exact ih (advance_preserved hP h ha)
    · exact h

end Schedule

theorem Machine.run_preserved {P : Machine σ → Prop} (hP : Preserved ctx registry P) (h : P m) :
    P (m.run ctx registry) :=
  Schedule.runFor_preserved hP _ h

/-- A concurrent batch is one of the interleavings of its tasks. -/
theorem Machine.run_reaches (ctx : Context σ) (registry : Registry) (m : Machine σ) :
    Reaches ctx registry false m (m.run ctx registry) :=
  run_preserved preserved_reaches .refl

end SnapshotRules
