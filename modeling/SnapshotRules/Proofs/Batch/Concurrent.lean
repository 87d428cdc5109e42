import Mathlib
import SnapshotRules.Proofs.Batch.Accounting
import SnapshotRules.Proofs.Batch.Interleaving
import SnapshotRules.Proofs.Batch.Steps
import SnapshotRules.Proofs.Snapshot.Joining

/-! # Concurrent batches

Whatever the order of steps, the tasks of a machine fetch as one session does, and their
outcomes tell what has happened.
-/

namespace SnapshotRules

open Session

variable {σ : Type} {ctx : Context σ} {registry : Registry} {flag stops : Bool}
  {s s' s₀ : Session σ} {new more : List Event} {m m' : Machine σ} {i : Nat} {task : Task}
  {stage : Stage}

/-! ## Stages -/

/-- What the stage of a task tells about its rule. -/
def Stage.Sound (ctx : Context σ) (registry : Registry) (flag : Bool) (s : Session σ)
    (new : List Event) (rule : String) : Stage → Prop
  | .queued | .admitted => True
  | .parsed e => parse rule = .ok e
  | .fetching e join =>
    parse rule = .ok e ∧ join.slots.map Prod.fst = e.snapshotRefs.filter ctx.isKnown
  | .resolving _ outcome | .finished outcome => ctx.Accounts registry flag s new rule outcome

theorem Stage.Sound.mono {rule : String} (h : stage.Sound ctx registry flag s new rule)
    (hh : s'.history = s.history ++ more) :
    stage.Sound ctx registry flag s' (new ++ more) rule := by
  cases stage with
  | resolving n outcome => exact Context.Accounts.mono h hh
  | finished outcome => exact Context.Accounts.mono h hh
  | _ => exact h

def Stage.slots : Stage → List (String × Fetching)
  | .fetching _ join => join.slots
  | _ => []

def slotsOf (tasks : List Task) : List (String × Fetching) :=
  tasks.flatMap fun task => task.stage.slots

theorem slotsOf_perm {tasks : List Task} (h : tasks[i]? = some task) :
    (slotsOf tasks).Perm (task.stage.slots ++ slotsOf (tasks.eraseIdx i)) := by
  obtain ⟨hi, rfl⟩ := List.getElem?_eq_some_iff.mp h
  exact (List.getElem_cons_eraseIdx_perm hi).symm.flatMap_right _

/-! ## Machines -/

namespace Machine

/-- What a machine tells about what has happened since the session was `s₀`. -/
structure Sound (ctx : Context σ) (registry : Registry) (flag : Bool) (s₀ : Session σ)
    (m : Machine σ) (new : List Event) : Prop where
  shared : Shared ctx s₀ m.session new m.inFlight (slotsOf m.tasks)
  stopped : m.cancelled = true → IsStopped ctx flag new
  stages : ∀ task ∈ m.tasks, task.stage.Sound ctx registry flag m.session new task.case.rule

theorem Sound.shared_of_getElem? (h : m.Sound ctx registry flag s₀ new)
    (ht : m.tasks[i]? = some task) : Shared ctx s₀ m.session new m.inFlight
      (task.stage.slots ++ slotsOf (m.tasks.eraseIdx i)) :=
  h.shared.perm (slotsOf_perm ht)

theorem Sound.stage_of_getElem? (h : m.Sound ctx registry flag s₀ new)
    (ht : m.tasks[i]? = some task) :
    task.stage.Sound ctx registry flag m.session new task.case.rule :=
  h.stages task (List.mem_of_getElem? ht)

/-- It is enough to look at the task that has moved. -/
theorem Sound.of_modify (h : m.Sound ctx registry flag s₀ new)
    (ht : m.tasks[i]? = some task) {f : Task → Task} (hm : m'.tasks = m.tasks.modify i f)
    (hf : f task = { task with stage })
    (hh : m'.session.history = m.session.history ++ more)
    (hc : m'.cancelled = true → IsStopped ctx flag (new ++ more))
    (hs : stage.Sound ctx registry flag m'.session (new ++ more) task.case.rule)
    (hr : Shared ctx s₀ m'.session (new ++ more) m'.inFlight
      (stage.slots ++ slotsOf (m.tasks.eraseIdx i))) :
    m'.Sound ctx registry flag s₀ (new ++ more) := by
  have hi : m'.tasks[i]? = some { task with stage } := by
    rw [hm, List.getElem?_modify_eq, ht, ← hf]
    rfl
  have he : m'.tasks.eraseIdx i = m.tasks.eraseIdx i := by rw [hm, List.eraseIdx_modify_of_eq]
  refine ⟨hr.perm (he ▸ (slotsOf_perm hi).symm), hc, fun task' hm' => ?_⟩
  obtain ⟨hl, hg⟩ := List.getElem?_eq_some_iff.mp hi
  rcases List.mem_cons.mp ((List.getElem_cons_eraseIdx_perm hl).mem_iff.mpr hm') with rfl | hm'
  · rw [hg]
    exact hs
  · rw [he] at hm'
    exact (h.stages task' (List.mem_of_mem_eraseIdx hm')).mono hh

theorem Sound.of_modify_of_session_eq (h : m.Sound ctx registry flag s₀ new)
    (ht : m.tasks[i]? = some task) {f : Task → Task} (hm : m'.tasks = m.tasks.modify i f)
    (hf : f task = { task with stage }) (hh : m'.session = m.session)
    (hc : m'.cancelled = true → IsStopped ctx flag new)
    (hs : stage.Sound ctx registry flag m.session new task.case.rule)
    (hr : Shared ctx s₀ m.session new m'.inFlight
      (stage.slots ++ slotsOf (m.tasks.eraseIdx i))) : m'.Sound ctx registry flag s₀ new := by
  have hn : m'.session.history = m.session.history ++ [] := by rw [hh, List.append_nil]
  have hm' := h.of_modify ht hm hf hn
  rw [List.append_nil, hh] at hm'
  exact hm' hc hs hr

theorem Sound.setStage (h : m.Sound ctx registry flag s₀ new) (ht : m.tasks[i]? = some task)
    {permits : Nat} (hs : stage.Sound ctx registry flag m.session new task.case.rule)
    (hr : Shared ctx s₀ m.session new m.inFlight
      (stage.slots ++ slotsOf (m.tasks.eraseIdx i))) :
    Sound ctx registry flag s₀ { m.setStage i stage with permits } new :=
  h.of_modify_of_session_eq ht rfl rfl rfl h.stopped hs hr

theorem Sound.finish (h : m.Sound ctx registry flag s₀ new) (ht : m.tasks[i]? = some task)
    {held : List String} {outcome : Except RuleError Evaluation}
    (ho : ctx.Accounts registry flag m.session new task.case.rule outcome)
    (hr : Shared ctx s₀ m.session new (m.inFlight.filter fun id => id ∉ held)
      (slotsOf (m.tasks.eraseIdx i))) :
    (m.finish i held outcome).Sound ctx registry flag s₀ new := by
  have hc (hc : (m.finish i held outcome).cancelled = true) : IsStopped ctx flag new := by
    rcases (Bool.or_eq_true _ _).mp hc with hc | hc
    · exact h.stopped hc
    · exact isStopped_of_isStoreFailure ho hc
  have hs : (Stage.finished outcome).Sound ctx registry flag m.session new task.case.rule := ho
  exact h.of_modify_of_session_eq ht rfl rfl rfl hc hs hr

theorem Sound.finish_idle (h : m.Sound ctx registry flag s₀ new) (ht : m.tasks[i]? = some task)
    {outcome : Except RuleError Evaluation}
    (ho : ctx.Accounts registry flag m.session new task.case.rule outcome) :
    (m.finish i [] outcome).Sound ctx registry flag s₀ new := by
  refine h.finish ht ho ?_
  simpa using (h.shared_of_getElem? ht).of_append

theorem Sound.finish_cancelled (h : m.Sound ctx registry flag s₀ new)
    (ht : m.tasks[i]? = some task) (hc : m.cancelled = true) :
    (m.finish i [] (.error .cancelled)).Sound ctx registry flag s₀ new :=
  h.finish_idle ht (Context.accounts_cancelled (h.stopped hc))

theorem Sound.joined (h : m.Sound ctx registry flag s₀ new) (ht : m.tasks[i]? = some task)
    {e : Expression} {join : Join} (hf : task.stage = .fetching e join)
    {answer : Except StoreError (Entries Value)} (ho : join.outcome? = some answer) :
    match answer with
    | .ok documents => ctx.Accounts registry flag m.session new task.case.rule
        (e.evaluateIn (ctx.scope registry documents) false task.case.rule)
    | .error error => ctx.Accounts registry flag m.session new task.case.rule
        (.error (.store error)) := by
  have hstage := h.stage_of_getElem? ht
  have hshared := h.shared_of_getElem? ht
  rw [hf] at hstage hshared
  obtain ⟨hp, hj⟩ := hstage
  cases answer with
  | ok documents =>
    exact (Context.accounts_of_parse hp).mpr (.supplied (hshared.outcome_ok hj ho))
  | error error =>
    exact (Context.accounts_of_parse hp).mpr (.failed (hshared.outcome_error ho))

theorem Sound.polled (h : m.Sound ctx registry flag s₀ new) (ht : m.tasks[i]? = some task)
    {e : Expression} {join join' : Join} {inFlight : List String}
    (hf : task.stage = .fetching e join)
    (hp : join.poll ctx m.session m.inFlight = some (join', s, inFlight)) : ∃ new,
    Sound ctx registry flag s₀ { m.setStage i (.fetching e join') with session := s, inFlight }
      new := by
  have hstage := h.stage_of_getElem? ht
  have hshared := h.shared_of_getElem? ht
  rw [hf] at hstage hshared
  obtain ⟨hj, more, hh, hr⟩ := hshared.poll hp
  exact ⟨new ++ more, h.of_modify ht rfl rfl hh (fun hc => (h.stopped hc).append_left more)
    ⟨hstage.1, hj.trans hstage.2⟩ hr⟩

theorem Sound.step (h : m.Sound ctx registry flag s₀ new)
    (hm : m.step ctx registry i = some m') : ∃ new, m'.Sound ctx registry flag s₀ new := by
  obtain ⟨case, stage, stage', ht, hmoves⟩ := step_cases hm
  have hshared := h.shared_of_getElem? ht
  have hstage := h.stage_of_getElem? ht
  cases hmoves with
  | enter _ => exact ⟨new, h.setStage ht trivial hshared⟩
  | cancel hc _ => exact ⟨new, h.finish_cancelled ht hc⟩
  | reject _ hp => exact ⟨new, h.finish_idle ht (Context.accounts_ofSyntax hp)⟩
  | parse _ hp => exact ⟨new, h.setStage ht hp hshared⟩
  | fetch _ hj =>
    subst hj
    refine ⟨new, h.setStage ht ⟨hstage, Join.map_fst_start _ _⟩ (hshared.start fun id hi => ?_)⟩
    exact (List.mem_filter.mp hi).2
  | poll _ hp => exact h.polled ht rfl hp
  | fail ho => exact ⟨new, h.finish ht (h.joined ht rfl ho) hshared.release⟩
  | resolve ho hscope hs =>
    subst hscope hs
    exact ⟨new, h.setStage ht (h.joined ht rfl ho) hshared.of_append⟩
  | pass _ => exact ⟨new, h.setStage ht hstage hshared⟩
  | conclude => exact ⟨new, h.finish_idle ht hstage⟩

theorem changeStage_eq_self (h : m.tasks[i]? = none) (f : Stage → Stage) :
    m.changeStage i f = m := by
  rw [changeStage, List.modify_eq_self (List.getElem?_eq_none_iff.mp h)]

theorem Sound.changeStage (h : m.Sound ctx registry flag s₀ new) (i : Nat) {f : Stage → Stage}
    (hf : ∀ rule stage, stage.Sound ctx registry flag m.session new rule →
      (f stage).Sound ctx registry flag m.session new rule)
    (hr : ∀ stage rest, Shared ctx s₀ m.session new m.inFlight (stage.slots ++ rest) →
      Shared ctx s₀ m.session new m.inFlight ((f stage).slots ++ rest)) :
    (m.changeStage i f).Sound ctx registry flag s₀ new := by
  cases ht : m.tasks[i]? with
  | none => rwa [changeStage_eq_self ht]
  | some task =>
    exact h.of_modify_of_session_eq ht rfl rfl rfl h.stopped (hf _ _ (h.stage_of_getElem? ht))
      (hr _ _ (h.shared_of_getElem? ht))

theorem Sound.turnRound (h : m.Sound ctx registry flag s₀ new) (i : Nat) :
    (m.changeStage i .turnRound).Sound ctx registry flag s₀ new := by
  refine h.changeStage i (fun rule stage hs => ?_) fun stage rest hr => ?_
  · cases stage <;> exact hs
  · cases stage <;> exact hr

theorem Sound.expire (h : m.Sound ctx registry flag s₀ new) (i : Nat) :
    (m.changeStage i .expire).Sound ctx registry flag s₀ new := by
  refine h.changeStage i (fun rule stage hs => ?_) fun stage rest hr => ?_
  · cases stage with
    | fetching e join =>
      refine ⟨hs.1, ?_⟩
      rw [← hs.2, Join.expire, List.map_map]
      rfl
    | _ => exact hs
  · cases stage with
    | fetching e join => exact hr.expire
    | _ => exact hr

theorem Sound.changeStore (h : m.Sound ctx registry flag s₀ new) (store : σ) :
    Sound ctx registry flag s₀ { m with session := { m.session with store } } new := by
  have he := h.shared.evolves
  have hh : ({ m.session with store } : Session σ).history = m.session.history ++ [] :=
    (List.append_nil _).symm
  rw [← List.append_nil new] at he ⊢
  refine ⟨h.shared.mono hh ⟨he.history, he.grows, he.keeps⟩ fun id hi => ?_, fun hc => ?_,
    fun task ht => (h.stages task ht).mono hh⟩
  · exact ⟨h.shared.inFlight id hi, by rw [List.append_nil], by simp [History.IsKept]⟩
  · exact (h.stopped hc).append_left []

variable {state : RunState σ} {permits : Permits} {cases : List Case}

theorem sound_init (hs : state.session.Keeps) :
    (init state permits cases).Sound ctx registry (state.cancelled || stops)
      state.session [] := by
  have hn : slotsOf (init state permits cases).tasks = [] := by
    simp [slotsOf, init, Stage.slots]
  refine ⟨?_, fun hc => .inl ((Bool.or_eq_true _ _).mpr (.inl hc)), fun task ht => ?_⟩
  · rw [hn]
    exact ⟨.refl ctx hs, by simp, by simp, List.nodup_nil, by simp [idsInFlight]⟩
  · obtain ⟨case, -, rfl⟩ := List.mem_map.mp ht
    trivial

/-- A machine stays sound, in whatever order its tasks move. -/
theorem Reaches.sound (hs : state.session.Keeps)
    (h : Reaches ctx registry stops (init state permits cases) m) :
    ∃ new, m.Sound ctx registry (state.cancelled || stops) state.session new := by
  induction h with
  | refl => exact ⟨[], sound_init hs⟩
  | step _ i hm ih =>
    obtain ⟨new, ih⟩ := ih
    exact ih.step hm
  | turnRound _ i ih =>
    obtain ⟨new, ih⟩ := ih
    exact ⟨new, ih.turnRound i⟩
  | expire _ i ih =>
    obtain ⟨new, ih⟩ := ih
    exact ⟨new, ih.expire i⟩
  | cancel _ hstops ih =>
    obtain ⟨new, ih⟩ := ih
    exact ⟨new, ih.shared, fun _ => .inl (by simp [hstops]), ih.stages⟩
  | change _ f ih =>
    obtain ⟨new, ih⟩ := ih
    exact ⟨new, ih.changeStore _⟩

theorem Sound.report (h : m.Sound ctx registry flag s₀ new) :
    m.report.Accounted ctx registry flag m.session new := by
  refine List.foldlRecOn m.tasks _ Report.accounted_empty fun r hr task ht => ?_
  have hs := h.stages task ht
  cases hst : task.stage with
  | finished outcome =>
    rw [hst] at hs
    exact hr.record hs
  | _ => exact hr

theorem Reaches.accounted (hs : state.session.Keeps)
    (h : Reaches ctx registry stops (init state permits cases) m) :
    ∃ new, state.session.Evolves ctx m.session new ∧
      m.report.Accounted ctx registry (state.cancelled || stops) m.session new := by
  obtain ⟨new, h⟩ := h.sound hs
  exact ⟨new, h.shared.evolves, h.report⟩

end Machine

end SnapshotRules
