import Mathlib
import SnapshotRules.Proofs.Batch.Moves

/-! # Ends of concurrent batches

As long as a task has not finished, some task can move or some fetch can run out of time: what
holds a task up is a permit or a fetch of another one. So a concurrent batch finishes all its
tasks, in whatever order they move.
-/

namespace SnapshotRules

variable {σ : Type} {ctx : Context σ} {registry : Registry} {stops : Bool} {s : Session σ}
  {m m' : Machine σ} {i : Nat} {cases : List Case} {task : Task} {id : String} {f : Fetching}
  {inFlight : List String} {slots : List (String × Fetching)} {j : Join}

/-! ## Joins that wait -/

theorem Join.look_eq_none (h : look ctx s inFlight id f = none) (hf : f.isHanging = false) :
    f = .waiting ∧ id ∈ inFlight ∨ (∃ e, f = .failed e) ∨ ∃ v, f = .ready v := by
  cases f with
  | waiting =>
    simp only [look] at h
    split at h
    · exact absurd h (by simp)
    · split at h
      · next hi => exact .inl ⟨rfl, hi⟩
      · split at h <;> exact absurd h (by simp)
  | failed e => exact .inr (.inl ⟨e, rfl⟩)
  | ready v => exact .inr (.inr ⟨v, rfl⟩)
  | hanging => exact absurd hf (by simp [Fetching.isHanging])
  | arriving v => exact absurd h (by simp [look])
  | expired => exact absurd h (by simp [look])

theorem Join.lookFirst_eq_none_iff : lookFirst ctx s inFlight slots = none ↔
    ∀ slot ∈ slots, look ctx s inFlight slot.1 slot.2 = none := by
  induction slots with
  | nil => simp [lookFirst]
  | cons slot slots ih =>
    obtain ⟨id, f⟩ := slot
    rw [List.forall_mem_cons, lookFirst, ← ih]
    cases look ctx s inFlight id f with
    | none => simp
    | some next => simp

theorem Join.look_of_poll_eq_none (h : j.poll ctx s inFlight = none) {slot : String × Fetching}
    (hs : slot ∈ j.slots) : look ctx s inFlight slot.1 slot.2 = none := by
  rw [poll] at h
  split at h
  · exact lookFirst_eq_none_iff.mp (Option.map_eq_none_iff.mp h) slot (List.mem_reverse.mpr hs)
  · exact lookFirst_eq_none_iff.mp (Option.map_eq_none_iff.mp h) slot hs

theorem Join.settle?_isSome {inOrder : Bool}
    (h : ∀ slot ∈ slots, (∃ e, slot.2 = .failed e) ∨ ∃ v, slot.2 = .ready v) :
    (settle? inOrder slots).isSome = true := by
  induction slots with
  | nil => rfl
  | cons slot slots ih =>
    obtain ⟨hslot, hslots⟩ := List.forall_mem_cons.mp h
    obtain ⟨id, f⟩ := slot
    rcases hslot with ⟨e, rfl⟩ | ⟨v, rfl⟩
    · rfl
    · obtain ⟨answer, ha⟩ := Option.isSome_iff_exists.mp (ih hslots)
      rw [settle?, ha]
      cases answer <;> rfl

namespace Machine

/-! ## Machines at rest -/

/-- Why a task cannot move. -/
inductive Blocked (ctx : Context σ) (m : Machine σ) : Stage → Prop
  | queued (h : m.permits = 0) : Blocked ctx m .queued
  | fetching {e : Expression} {join : Join} (unsettled : join.outcome? = none)
      (waits : join.poll ctx m.session m.inFlight = none) : Blocked ctx m (.fetching e join)
  | finished (outcome : Except RuleError Evaluation) : Blocked ctx m (.finished outcome)

theorem blocked_of_stepTask_eq_none {case : Case} {stage : Stage}
    (h : stepTask ctx registry m i ⟨case, stage⟩ = none) : Blocked ctx m stage := by
  cases stage with
  | queued =>
    simp only [stepTask] at h
    split at h
    · exact absurd h (by simp)
    · next hp => exact .queued (Nat.eq_zero_of_not_pos hp)
  | admitted =>
    simp only [stepTask] at h
    split at h
    · exact absurd h (by simp)
    · split at h <;> exact absurd h (by simp)
  | parsed e =>
    simp only [stepTask] at h
    split at h <;> exact absurd h (by simp)
  | fetching e join =>
    simp only [stepTask] at h
    split at h
    · exact absurd h (by simp)
    · exact absurd h (by simp)
    · next hn => exact .fetching hn (Option.map_eq_none_iff.mp h)
  | resolving n outcome =>
    cases n with
    | zero => exact absurd h (by simp [stepTask])
    | succ n =>
      simp only [stepTask] at h
      split at h <;> exact absurd h (by simp)
  | finished outcome => exact .finished outcome

/-- No task can move, and no fetch can run out of time. -/
structure AtRest (ctx : Context σ) (registry : Registry) (m : Machine σ) : Prop where
  step : ∀ i, m.step ctx registry i = none
  expire : m.expire = none

namespace AtRest

theorem blocked (h : m.AtRest ctx registry) (ht : task ∈ m.tasks) :
    Blocked ctx m task.stage := by
  obtain ⟨i, ht⟩ := List.getElem?_of_mem ht
  have hs := h.step i
  rw [Machine.step, ht] at hs
  exact blocked_of_stepTask_eq_none hs

theorem isHanging_eq_false (h : m.AtRest ctx registry) (ht : task ∈ m.tasks) :
    task.stage.isHanging = false := by
  have he := h.expire
  rw [Machine.expire] at he
  split at he
  · exact absurd he (by simp)
  · next hn =>
    rw [List.any_eq_true, not_exists] at hn
    exact Bool.eq_false_iff.mpr fun hh => hn task ⟨ht, hh⟩

theorem slot_cases (h : m.AtRest ctx registry) (ht : task ∈ m.tasks) {slot : String × Fetching}
    (hs : slot ∈ task.stage.slots) : slot.2 = .waiting ∧ slot.1 ∈ m.inFlight ∨
      (∃ e, slot.2 = .failed e) ∨ ∃ v, slot.2 = .ready v := by
  have hblocked := h.blocked ht
  have hh := h.isHanging_eq_false ht
  obtain ⟨case, stage⟩ := task
  cases hblocked with
  | queued _ => exact absurd hs List.not_mem_nil
  | finished outcome => exact absurd hs List.not_mem_nil
  | fetching _ waits =>
    refine Join.look_eq_none (Join.look_of_poll_eq_none waits hs) ?_
    exact Bool.eq_false_iff.mpr (List.any_eq_false.mp hh slot hs)

variable {permits : Nat}

/-- Nothing is in flight, for it would be so in the hands of a task. -/
theorem inFlight_eq_nil (h : m.AtRest ctx registry) (hb : m.Balanced cases permits) :
    m.inFlight = [] := by
  refine List.eq_nil_iff_forall_not_mem.mpr fun id hi => ?_
  obtain ⟨f, hm, hf⟩ := mem_idsInFlight.mp (hb.inFlight hi)
  obtain ⟨task, ht, hs⟩ := List.mem_flatMap.mp hm
  rcases h.slot_cases ht hs with ⟨rfl, -⟩ | ⟨e, rfl⟩ | ⟨v, rfl⟩
  · exact absurd hf (by simp [Fetching.isInFlight])
  · exact absurd hf (by simp [Fetching.isInFlight])
  · exact absurd hf (by simp [Fetching.isInFlight])

/-- Fetches that wait for nobody have ended, and then the task could go on. -/
theorem queued_or_finished (h : m.AtRest ctx registry) (hb : m.Balanced cases permits)
    (ht : task ∈ m.tasks) : task.stage = .queued ∧ m.permits = 0 ∨
      ∃ outcome, task.stage = .finished outcome := by
  have hblocked := h.blocked ht
  have hslots : ∀ slot ∈ task.stage.slots, (∃ e, slot.2 = .failed e) ∨ ∃ v, slot.2 = .ready v := by
    intro slot hs
    refine (h.slot_cases ht hs).resolve_left fun hw => ?_
    rw [h.inFlight_eq_nil hb] at hw
    exact absurd hw.2 List.not_mem_nil
  obtain ⟨case, stage⟩ := task
  cases hblocked with
  | queued hp => exact .inl ⟨rfl, hp⟩
  | finished outcome => exact .inr ⟨outcome, rfl⟩
  | @fetching e join unsettled _ =>
    have ho : join.outcome?.isSome = true := Join.settle?_isSome hslots
    rw [unsettled] at ho
    exact absurd ho Bool.false_ne_true

/-- A machine rests only when all tasks have finished: when no task holds a permit, one that
waits for it can have it. -/
theorem finished (h : m.AtRest ctx registry) (hb : m.Balanced cases permits) (hp : 0 < permits)
    (ht : task ∈ m.tasks) : ∃ outcome, task.stage = .finished outcome := by
  refine (h.queued_or_finished hb ht).resolve_left fun hq => ?_
  have hsum : (m.tasks.map fun task => task.stage.permits).sum = 0 := by
    refine List.sum_eq_zero fun n hn => ?_
    obtain ⟨task', ht', rfl⟩ := List.mem_map.mp hn
    rcases h.queued_or_finished hb ht' with ⟨hs, -⟩ | ⟨outcome, hs⟩
    · simp only [hs, Stage.permits]
    · simp only [hs, Stage.permits]
  have hpermits := hb.permits
  omega

end AtRest

/-! ## Schedules -/

def cost (m : Machine σ) : Nat := (m.tasks.map Task.cost).sum

theorem cost_step_lt (h : m.step ctx registry i = some m') : m'.cost < m.cost := by
  obtain ⟨case, stage, stage', ht, hm⟩ := step_cases h
  have hs := sum_map_modify Task.cost (fun task => { task with stage := stage' }) ht
  have hc := hm.cost_lt
  rw [cost, cost, hm.tasks_eq]
  simp only [Task.cost] at hs ⊢
  omega

theorem cost_changeStage_le {f : Stage → Stage} (hf : ∀ stage case, (f stage).cost case ≤
    stage.cost case) (m : Machine σ) (i : Nat) : (m.changeStage i f).cost ≤ m.cost := by
  cases ht : m.tasks[i]? with
  | none => rw [changeStage_eq_self ht]
  | some task =>
    have hs := sum_map_modify Task.cost (fun task => { task with stage := f task.stage }) ht
    have hc : Task.cost { task with stage := f task.stage } ≤ task.cost := hf task.stage task.case
    simp only [cost, changeStage]
    omega

theorem cost_turnRound_le (m : Machine σ) (i : Nat) : (m.changeStage i .turnRound).cost ≤ m.cost :=
  cost_changeStage_le (fun stage case => by cases stage <;> exact le_rfl) m i

theorem cost_expire_lt (h : m.expire = some m') : m'.cost < m.cost := by
  rw [expire] at h
  split at h
  · next hh =>
    cases h
    obtain ⟨task, ht, hh⟩ := List.any_eq_true.mp hh
    rw [cost, cost, List.map_map]
    exact List.sum_lt_sum _ _ (fun task _ => task.stage.cost_expire_le task.case)
      ⟨task, ht, Stage.cost_expire_lt hh task.case⟩
  · exact absurd h (by simp)

theorem Reaches.cost_le (h : Reaches ctx registry stops m m') : m'.cost ≤ m.cost := by
  induction h with
  | refl => exact le_rfl
  | step _ i hs ih => exact (cost_step_lt hs).le.trans ih
  | turnRound _ i ih => exact (cost_turnRound_le _ i).trans ih
  | expire _ i ih => exact (cost_changeStage_le Stage.cost_expire_le _ i).trans ih
  | cancel _ _ ih => exact ih
  | change _ _ ih => exact ih

/-- A task moves or fetches run out of time, perhaps after something else has happened. -/
def Advances (ctx : Context σ) (registry : Registry) (stops : Bool) (m m' : Machine σ) : Prop :=
  ∃ m₁, Reaches ctx registry stops m m₁ ∧
    ((∃ i, m₁.step ctx registry i = some m') ∨ m₁.expire = some m')

/-- No interleaving goes on forever. -/
theorem wellFounded_advances (ctx : Context σ) (registry : Registry) (stops : Bool) :
    WellFounded fun m' m => Advances ctx registry stops m m' := by
  refine Subrelation.wf ?_ (measure (cost : Machine σ → Nat)).wf
  rintro m' m ⟨m₁, hr, ⟨i, hs⟩ | he⟩
  · exact (cost_step_lt hs).trans_le hr.cost_le
  · exact (cost_expire_lt he).trans_le hr.cost_le

theorem cost_init (state : RunState σ) (permits : Permits) (cases : List Case) :
    (init state permits cases).cost = (cases.map work).sum := by
  rw [cost, init, List.map_map]
  rfl

end Machine

namespace Schedule

variable {t t' : Schedule σ}

/-- What is left to do, turns included. A turn that ends without allowance has been paid for
by the steps that used it up. -/
def potential (t : Schedule σ) : Nat :=
  3 * t.machine.cost + t.due.length + 2 * t.resting.length + (turnLength - t.allowance)

/-- A turn goes on or ends. What it has used up of its allowance outweighs a task that rests. -/
theorem potential_proceed_lt {others : List Nat} (h : t.proceed ctx registry i others = some t') :
    t'.potential + 1 < 3 * t.machine.cost + (others.length + 1) + 2 * t.resting.length +
      (turnLength - t.allowance) := by
  obtain ⟨m, hm, rfl⟩ := Option.map_eq_some_iff.mp h
  have hc := Machine.cost_step_lt hm
  have ht : (t.machine.turnRound i).cost ≤ t.machine.cost := t.machine.cost_turnRound_le i
  have hl : turnLength = 128 := rfl
  split
  · split
    · next ha =>
      simp only [potential, List.length_cons, ha]
      omega
    · next n ha =>
      simp only [potential, List.length_cons, ha]
      omega
  · simp only [potential, List.length_cons]
    omega

theorem potential_wake_lt (h : t.wake ctx registry = some t') :
    t'.potential < 3 * t.machine.cost + 2 * t.resting.length := by
  obtain ⟨i, -, hi⟩ := List.exists_of_findSome?_eq_some h
  split at hi
  · exact absurd hi (by simp)
  · have hp := potential_proceed_lt (t := { t with allowance := turnLength }) hi
    simp only [List.length_nil, Nat.sub_self] at hp
    omega

theorem potential_advance_lt (h : t.advance ctx registry = some t') :
    t'.potential < t.potential := by
  rw [advance] at h
  split at h
  · next i others hd =>
    rw [potential.eq_def t, hd, List.length_cons]
    split at h
    · next hp =>
      cases h
      have hlt := potential_proceed_lt hp
      omega
    · cases h
      simp only [potential, Nat.sub_self]
      omega
  · next hd =>
    rw [potential.eq_def t, hd, List.length_nil]
    split at h
    · next hw =>
      cases h
      have hlt := potential_wake_lt hw
      omega
    · next hr =>
      obtain ⟨m, hm, rfl⟩ := Option.map_eq_some_iff.mp h
      have hlt := Machine.cost_expire_lt hm
      simp only [potential, hd, hr, List.length_nil]
      omega
    · next hn =>
      cases h
      have hpos := List.length_pos_of_ne_nil fun hr => hn hr
      simp only [potential, List.length_nil, Nat.sub_self]
      omega

theorem atRest_of_advance_eq_none (h : t.advance ctx registry = none) :
    t.machine.AtRest ctx registry := by
  rw [advance] at h
  split at h
  · split at h <;> exact absurd h (by simp)
  · split at h
    · exact absurd h (by simp)
    · next hw hr =>
      refine ⟨fun i => ?_, Option.map_eq_none_iff.mp h⟩
      by_cases hi : i < t.machine.tasks.length
      · have hp := List.findSome?_eq_none_iff.mp hw i (List.mem_range.mpr hi)
        rw [hr, if_neg List.not_mem_nil] at hp
        exact Option.map_eq_none_iff.mp hp
      · rw [Machine.step, List.getElem?_eq_none (Nat.le_of_not_lt hi), Option.bind_none]
    · exact absurd h (by simp)

theorem atRest_runFor {n : Nat} (h : t.potential ≤ n) :
    (t.runFor ctx registry n).machine.AtRest ctx registry := by
  induction n generalizing t with
  | zero =>
    rw [runFor]
    refine atRest_of_advance_eq_none (Option.eq_none_iff_forall_not_mem.mpr fun t' ha => ?_)
    have hlt := potential_advance_lt ha
    omega
  | succ n ih =>
    rw [runFor]
    split
    · next ha =>
      have hlt := potential_advance_lt ha
      exact ih (by omega)
    · next ha => exact atRest_of_advance_eq_none ha

end Schedule

/-- A concurrent batch runs until its machine rests. -/
theorem Machine.atRest_run (ctx : Context σ) (registry : Registry) (state : RunState σ)
    (permits : Permits) (cases : List Case) :
    ((init state permits cases).run ctx registry).AtRest ctx registry := by
  refine Schedule.atRest_runFor ?_
  have hwork : (init state permits cases).tasks.foldr (fun task n => work task.case + n) 0 =
      (cases.map work).sum := by
    rw [init, List.foldr_map, List.sum_eq_foldr, List.foldr_map]
  rw [hwork, ← cost_init state permits]
  exact le_rfl

end SnapshotRules
