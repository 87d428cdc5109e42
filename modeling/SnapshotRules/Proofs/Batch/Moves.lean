import Mathlib
import SnapshotRules.Proofs.Batch.Concurrent

/-! # Moves of tasks

Every move of a task uses up some of the work that its case has ahead. Permits are neither made
nor lost, and what is in flight is always in the hands of a task.
-/

namespace SnapshotRules

open Session

variable {σ : Type} {ctx : Context σ} {registry : Registry} {stops : Bool} {s s' : Session σ}
  {m m' : Machine σ} {state : RunState σ} {i : Nat} {cases : List Case} {task : Task}
  {stage stage' : Stage} {id : String} {f f' : Fetching} {inFlight inFlight' : List String}
  {slots : List (String × Fetching)} {j j' : Join}

/-! ## Checkpoints -/

namespace Operand

mutual

theorem checkpoints_le_steps (scope : Scope) : ∀ o : Operand, o.checkpoints scope ≤ o.steps
  | .literal _ => le_rfl
  | .path _ _ => le_rfl
  | .call _ arguments => Nat.add_le_add_left (checkpointsOfItems_le_steps scope arguments) 1
  | .list items => checkpointsOfItems_le_steps scope items
  | .map entries => checkpointsOfEntries_le_steps scope entries
termination_by structural o => o

theorem checkpointsOfItems_le_steps (scope : Scope) : ∀ os : List Operand,
    checkpointsOfItems scope os ≤ stepsOfItems os
  | [] => le_rfl
  | o :: os => by
    have ho := checkpoints_le_steps scope o
    rw [checkpointsOfItems, stepsOfItems]
    split
    · exact Nat.add_le_add ho (checkpointsOfItems_le_steps scope os)
    · exact ho.trans (Nat.le_add_right _ _)
termination_by structural os => os

theorem checkpointsOfEntries_le_steps (scope : Scope) : ∀ es : List (String × Operand),
    checkpointsOfEntries scope es ≤ stepsOfEntries es
  | [] => le_rfl
  | (_, o) :: es => by
    have ho := checkpoints_le_steps scope o
    rw [checkpointsOfEntries, stepsOfEntries]
    split
    · exact Nat.add_le_add ho (checkpointsOfEntries_le_steps scope es)
    · exact ho.trans (Nat.le_add_right _ _)
termination_by structural es => es

end

end Operand

theorem Expression.checkpoints_le_steps (scope : Scope) (e : Expression) :
    e.checkpoints scope ≤ e.left.steps + e.right.steps := by
  have hl := e.left.checkpoints_le_steps scope
  rw [checkpoints]
  split
  · exact hl.trans (Nat.le_add_right _ _)
  · exact Nat.add_le_add hl (e.right.checkpoints_le_steps scope)

/-! ## Work ahead -/

def Fetching.cost : Fetching → Nat
  | .waiting => 3
  | .hanging => 2
  | .arriving _ | .expired => 1
  | .failed _ | .ready _ => 0

def Join.cost (j : Join) : Nat := (j.slots.map fun slot => slot.2.cost).sum

/-- How many moves a task has ahead at most. -/
def Stage.cost (case : Case) : Stage → Nat
  | .queued => Machine.work case
  | .admitted => Machine.work case - 1
  | .parsed e => 4 + 3 * e.snapshotRefs.length + e.left.steps + e.right.steps
  | .fetching e join => 2 + join.cost + e.left.steps + e.right.steps
  | .resolving checkpoints _ => checkpoints + 1
  | .finished _ => 0

def Task.cost (task : Task) : Nat := task.stage.cost task.case

def Stage.permits : Stage → Nat
  | .queued | .finished _ => 0
  | .admitted | .parsed _ | .fetching _ _ | .resolving _ _ => 1

theorem Stage.permits_of_heedsFlag (h : stage.heedsFlag = true) : stage.permits = 1 := by
  cases stage with
  | queued => exact absurd h Bool.false_ne_true
  | finished outcome => exact absurd h Bool.false_ne_true
  | _ => rfl

theorem Stage.slots_of_heedsFlag (h : stage.heedsFlag = true) : stage.slots = [] := by
  cases stage with
  | fetching e join => exact absurd h Bool.false_ne_true
  | _ => rfl

theorem Machine.four_le_work (case : Case) : 4 ≤ work case := by
  unfold work
  split <;> omega

theorem Stage.cost_pos (h : stage.heedsFlag = true) (case : Case) : 0 < stage.cost case := by
  have hw := Machine.four_le_work case
  cases stage with
  | admitted =>
    simp only [cost]
    omega
  | parsed e =>
    simp only [cost]
    omega
  | resolving n outcome => exact Nat.succ_pos n
  | _ => exact absurd h Bool.false_ne_true

theorem Machine.work_of_parse {case : Case} {e : Expression} (hp : parse case.rule = .ok e) :
    work case = 6 + 3 * e.snapshotRefs.length + e.left.steps + e.right.steps := by
  rw [work, hp]

theorem Join.cost_start_le (documents : Entries Value) (ids : List String) :
    (start documents ids).cost ≤ 3 * ids.length := by
  have hslots : ∀ n ∈ (start documents ids).slots.map fun slot => slot.2.cost, n ≤ 3 := by
    intro n hn
    obtain ⟨slot, hs, rfl⟩ := List.mem_map.mp hn
    obtain ⟨id, -, rfl⟩ := List.mem_map.mp hs
    simp only
    split <;> simp [Fetching.cost]
  have hsum := List.sum_le_card_nsmul _ 3 hslots
  have hl : (start documents ids).slots.length = ids.length := List.length_map _
  rw [List.length_map, hl, smul_eq_mul, Nat.mul_comm] at hsum
  exact hsum

theorem Fetching.cost_expire_le (f : Fetching) : f.expire.cost ≤ f.cost := by
  cases f <;> simp [expire, cost]

theorem Stage.cost_expire_le (stage : Stage) (case : Case) :
    stage.expire.cost case ≤ stage.cost case := by
  cases stage with
  | fetching e join =>
    have hj : join.expire.cost ≤ join.cost := by
      rw [Join.cost, Join.expire, List.map_map, Join.cost]
      exact List.sum_le_sum fun slot _ => slot.2.cost_expire_le
    simp only [expire, cost]
    omega
  | _ => exact le_rfl

theorem Stage.cost_expire_lt (h : stage.isHanging = true) (case : Case) :
    stage.expire.cost case < stage.cost case := by
  cases stage with
  | fetching e join =>
    obtain ⟨slot, hm, hs⟩ := List.any_eq_true.mp h
    have hj : join.expire.cost < join.cost := by
      rw [Join.cost, Join.expire, List.map_map, Join.cost]
      refine List.sum_lt_sum _ _ (fun slot _ => slot.2.cost_expire_le) ⟨slot, hm, ?_⟩
      cases hf : slot.2 with
      | hanging => simp [hf, Fetching.expire, Fetching.cost]
      | _ => exact absurd hs (by simp [hf, Fetching.isHanging])
    simp only [expire, cost]
    omega
  | _ => exact absurd h Bool.false_ne_true

/-! ## Moves -/

theorem idsInFlight_subset_of_perm {slots' : List (String × Fetching)} (hp : slots.Perm slots') :
    idsInFlight slots ⊆ idsInFlight slots' :=
  ((hp.filter _).map _).subset

theorem idsInFlight_map_ready (documents : Entries Value) :
    idsInFlight (documents.map fun entry => (entry.1, .ready entry.2)) = [] := by
  rw [idsInFlight, List.filter_map]
  simp [Function.comp_def, Fetching.isInFlight]

theorem Join.look_moves (h : look ctx s inFlight id f = some (f', s', inFlight')) :
    f'.cost < f.cost ∧ ∀ rest, inFlight ⊆ idsInFlight ((id, f) :: rest) →
      inFlight' ⊆ idsInFlight ((id, f') :: rest) := by
  have hend (rest : List (String × Fetching)) (hi : inFlight ⊆ id :: idsInFlight rest) :
      inFlight.filter (· ≠ id) ⊆ idsInFlight rest := by
    intro id' hm
    obtain ⟨hm, hne⟩ := List.mem_filter.mp hm
    exact List.mem_of_ne_of_mem (of_decide_eq_true hne) (hi hm)
  cases f with
  | waiting =>
    have hstart (rest : List (String × Fetching)) (hi : inFlight ⊆ idsInFlight rest) :
        inFlight ++ [id] ⊆ id :: idsInFlight rest := by
      intro id' hm
      rcases List.mem_append.mp hm with hm | hm
      · exact List.mem_cons_of_mem _ (hi hm)
      · exact List.mem_singleton.mp hm ▸ List.mem_cons_self
    simp only [look] at h
    split at h
    · cases h
      exact ⟨by simp [Fetching.cost], fun rest hi => hi⟩
    · split at h
      · exact absurd h (by simp)
      · split at h
        · cases h
          exact ⟨by simp [Fetching.cost], hstart⟩
        · cases h
          exact ⟨by simp [Fetching.cost], hstart⟩
        · cases h
          exact ⟨by simp [Fetching.cost], fun rest hi => hi⟩
  | arriving v =>
    cases h
    exact ⟨by simp [Fetching.cost], hend⟩
  | expired =>
    cases h
    exact ⟨by simp [Fetching.cost], hend⟩
  | hanging => exact absurd h (by simp [look])
  | failed e => exact absurd h (by simp [look])
  | ready v => exact absurd h (by simp [look])

theorem Join.poll_moves (h : j.poll ctx s inFlight = some (j', s', inFlight')) :
    j'.cost < j.cost ∧ ∀ rest, inFlight ⊆ idsInFlight (j.slots ++ rest) →
      inFlight' ⊆ idsInFlight (j'.slots ++ rest) := by
  obtain ⟨before, id, f, f', after, hj, hj', hl⟩ := poll_cases h
  obtain ⟨hc, hi⟩ := look_moves hl
  constructor
  · rw [cost, cost, hj, hj']
    simpa using hc
  · intro rest hs
    have hm := perm_slot before after rest id
    rw [hj] at hs
    rw [hj']
    have hfront := hi _ (List.Subset.trans hs (idsInFlight_subset_of_perm (hm f)))
    exact List.Subset.trans hfront (idsInFlight_subset_of_perm (hm f').symm)

namespace Machine

theorem Moves.cost_lt {case : Case} (h : m.Moves ctx registry i case stage stage' m') :
    stage'.cost case < stage.cost case := by
  have hw := four_le_work case
  cases h with
  | enter _ =>
    simp only [Stage.cost]
    omega
  | cancel _ hs => exact Stage.cost_pos hs case
  | reject _ _ => exact Stage.cost_pos rfl case
  | parse _ hp =>
    simp only [Stage.cost, work_of_parse hp]
    omega
  | @fetch e _ _ hj =>
    have hc := Join.cost_start_le m.session.documents (e.snapshotRefs.filter ctx.isKnown)
    have hl := List.length_filter_le ctx.isKnown e.snapshotRefs
    rw [← hj] at hc
    simp only [Stage.cost]
    omega
  | poll _ hp =>
    have hc := (Join.poll_moves hp).1
    simp only [Stage.cost]
    omega
  | fail _ =>
    simp only [Stage.cost]
    omega
  | @resolve e _ _ scope _ _ _ hs =>
    have he := e.checkpoints_le_steps scope
    subst hs
    simp only [Stage.cost]
    omega
  | pass _ => exact Nat.lt_succ_self _
  | conclude => exact Nat.succ_pos 0

theorem Moves.permits_eq {case : Case} (h : m.Moves ctx registry i case stage stage' m') :
    m'.permits + stage'.permits = m.permits + stage.permits := by
  cases h with
  | enter hp => exact Nat.sub_add_cancel hp
  | cancel _ hs => rw [Stage.permits_of_heedsFlag hs]; rfl
  | resolve _ _ hs => subst hs; rfl
  | _ => rfl

/-- Every id in flight still has a slot, of this task or of another one. -/
theorem Moves.inFlight_subset {case : Case} (h : m.Moves ctx registry i case stage stage' m')
    {rest : List (String × Fetching)} (hr : m.inFlight ⊆ idsInFlight (stage.slots ++ rest)) :
    m'.inFlight ⊆ idsInFlight (stage'.slots ++ rest) := by
  have hfinish {held : List String} (hs : idsInFlight stage.slots ⊆ held) :
      (m.inFlight.filter fun id => id ∉ held) ⊆ idsInFlight rest := by
    intro id hm
    obtain ⟨hm, hn⟩ := List.mem_filter.mp hm
    have hm := hr hm
    rw [idsInFlight_append, List.mem_append] at hm
    exact hm.resolve_left fun hm => of_decide_eq_true hn (hs hm)
  cases h with
  | cancel _ hs => exact hfinish (by rw [Stage.slots_of_heedsFlag hs]; exact List.Subset.refl [])
  | poll _ hp => exact (Join.poll_moves hp).2 rest hr
  | fail _ => exact hfinish (List.Subset.refl _)
  | @resolve _ _ documents _ _ ho _ hs =>
    subst hs
    rwa [Stage.slots, Join.settle?_ok ho, idsInFlight_append, idsInFlight_map_ready,
      List.nil_append] at hr
  | fetch _ _ =>
    rw [Stage.slots, idsInFlight_append]
    exact List.Subset.trans hr (List.subset_append_right _ _)
  | enter _ => exact hr
  | parse _ _ => exact hr
  | pass _ => exact hr
  | reject _ _ => exact hfinish (List.Subset.refl [])
  | conclude => exact hfinish (List.Subset.refl [])

/-! ## What stays the same -/

theorem sum_map_modify {α : Type _} (f : α → Nat) (g : α → α) {xs : List α} {x : α}
    (h : xs[i]? = some x) :
    ((xs.modify i g).map f).sum + f x = (xs.map f).sum + f (g x) := by
  obtain ⟨hi, rfl⟩ := List.getElem?_eq_some_iff.mp h
  have hg : i < (xs.modify i g).length := by rwa [List.length_modify]
  have hx := ((List.getElem_cons_eraseIdx_perm hi).map f).sum_eq
  have hy := ((List.getElem_cons_eraseIdx_perm hg).map f).sum_eq
  rw [List.eraseIdx_modify_of_eq, List.getElem_modify_eq] at hy
  simp only [List.map_cons, List.sum_cons] at hx hy
  omega

/-- What does not change while tasks move: the cases, the number of permits, and that some task
has every id that is in flight. -/
structure Balanced (cases : List Case) (permits : Nat) (m : Machine σ) : Prop where
  cases : m.tasks.map Task.case = cases
  permits : m.permits + (m.tasks.map fun task => task.stage.permits).sum = permits
  inFlight : m.inFlight ⊆ idsInFlight (slotsOf m.tasks)

namespace Balanced

variable {permits : Nat}

theorem of_modify (h : m.Balanced cases permits) (ht : m.tasks[i]? = some task)
    {f : Task → Task} (hm : m'.tasks = m.tasks.modify i f) (hc : ∀ task, (f task).case = task.case)
    (hp : m'.permits + (f task).stage.permits = m.permits + task.stage.permits)
    (hi : ∀ rest, m.inFlight ⊆ idsInFlight (task.stage.slots ++ rest) →
      m'.inFlight ⊆ idsInFlight ((f task).stage.slots ++ rest)) : m'.Balanced cases permits := by
  have hg : m'.tasks[i]? = some (f task) := by
    rw [hm, List.getElem?_modify_eq, ht]
    rfl
  refine ⟨?_, ?_, ?_⟩
  · rw [← h.cases, hm]
    refine List.ext_getElem? fun k => ?_
    rw [List.getElem?_map, List.getElem?_modify, List.getElem?_map]
    cases m.tasks[k]? with
    | none => rfl
    | some task => by_cases hk : i = k <;> simp [hk, hc]
  · have hs := sum_map_modify (fun task => task.stage.permits) f ht
    have hb := h.permits
    rw [hm]
    omega
  · have he : m'.tasks.eraseIdx i = m.tasks.eraseIdx i := by rw [hm, List.eraseIdx_modify_of_eq]
    have hold := List.Subset.trans h.inFlight (idsInFlight_subset_of_perm (slotsOf_perm ht))
    have hnew := idsInFlight_subset_of_perm (slotsOf_perm hg).symm
    rw [he] at hnew
    exact List.Subset.trans (hi _ hold) hnew

theorem step (h : m.Balanced cases permits) (hs : m.step ctx registry i = some m') :
    m'.Balanced cases permits := by
  obtain ⟨case, stage, stage', ht, hm⟩ := step_cases hs
  exact h.of_modify ht hm.tasks_eq (fun _ => rfl) hm.permits_eq fun _ hr => hm.inFlight_subset hr

theorem changeStage (h : m.Balanced cases permits) (i : Nat) {f : Stage → Stage}
    (hp : ∀ stage, (f stage).permits = stage.permits)
    (hs : ∀ stage, idsInFlight (f stage).slots = idsInFlight stage.slots) :
    (m.changeStage i f).Balanced cases permits := by
  cases ht : m.tasks[i]? with
  | none => rwa [changeStage_eq_self ht]
  | some task =>
    refine h.of_modify ht rfl (fun _ => rfl) ?_ fun rest hr => ?_
    · exact congrArg (m.permits + ·) (hp task.stage)
    · rw [idsInFlight_append, hs, ← idsInFlight_append]
      exact hr

end Balanced

variable {permits : Permits}

theorem balanced_init : (init state permits cases).Balanced cases permits.count := by
  refine ⟨?_, ?_, List.nil_subset _⟩
  · rw [init, List.map_map]
    exact List.map_id cases
  · simp [init, Stage.permits, Function.comp_def]

theorem Reaches.balanced (h : Reaches ctx registry stops (init state permits cases) m) :
    m.Balanced cases permits.count := by
  induction h with
  | refl => exact balanced_init
  | step _ i hm ih => exact ih.step hm
  | turnRound _ i ih =>
    exact ih.changeStage i (fun stage => by cases stage <;> rfl) fun stage => by cases stage <;> rfl
  | expire _ i ih =>
    refine ih.changeStage i (fun stage => by cases stage <;> rfl) fun stage => ?_
    cases stage with
    | fetching e join => exact idsInFlight_map_expire
    | _ => rfl
  | cancel _ _ ih => exact ⟨ih.cases, ih.permits, ih.inFlight⟩
  | change _ _ ih => exact ⟨ih.cases, ih.permits, ih.inFlight⟩

end Machine

end SnapshotRules
