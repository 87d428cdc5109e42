import SnapshotRules.Batch.Concurrent

/-! # Steps of tasks

Everything that a task can do, one constructor for each of it, with the stage that the task
leaves, the stage that it enters and what becomes of the machine.
-/

namespace SnapshotRules

/-- Whether a task in this stage looks at the flag before it goes on. -/
def Stage.heedsFlag : Stage → Bool
  | .admitted | .parsed _ | .resolving (_ + 1) _ => true
  | .queued | .fetching _ _ | .resolving 0 _ | .finished _ => false

namespace Machine

variable {σ : Type}

inductive Moves (ctx : Context σ) (registry : Registry) (m : Machine σ) (i : Nat) (case : Case) :
    Stage → Stage → Machine σ → Prop
  | enter (hp : 0 < m.permits) : Moves ctx registry m i case .queued .admitted
      { m.setStage i .admitted with permits := m.permits - 1 }
  | cancel {stage : Stage} (hc : m.cancelled = true) (hs : stage.heedsFlag = true) :
      Moves ctx registry m i case stage (.finished (.error .cancelled))
        (m.finish i [] (.error .cancelled))
  | reject {e : SyntaxError} (hc : m.cancelled = false) (hp : parse case.rule = .error e) :
      Moves ctx registry m i case .admitted (.finished (.error (.ofSyntax e)))
        (m.finish i [] (.error (.ofSyntax e)))
  | parse {e : Expression} (hc : m.cancelled = false) (hp : parse case.rule = .ok e) :
      Moves ctx registry m i case .admitted (.parsed e) (m.setStage i (.parsed e))
  | fetch {e : Expression} {join : Join} (hc : m.cancelled = false)
      (hj : join = .start m.session.documents (e.snapshotRefs.filter ctx.isKnown)) :
      Moves ctx registry m i case (.parsed e) (.fetching e join)
        (m.setStage i (.fetching e join))
  | poll {e : Expression} {join join' : Join} {session : Session σ} {inFlight : List String}
      (hn : join.outcome? = none)
      (hp : join.poll ctx m.session m.inFlight = some (join', session, inFlight)) :
      Moves ctx registry m i case (.fetching e join) (.fetching e join')
        { m.setStage i (.fetching e join') with session, inFlight }
  | fail {e : Expression} {join : Join} {error : StoreError}
      (ho : join.outcome? = some (.error error)) :
      Moves ctx registry m i case (.fetching e join) (.finished (.error (.store error)))
        (m.finish i join.held (.error (.store error)))
  | resolve {e : Expression} {join : Join} {documents : Entries Value} {scope : Scope}
      {stage : Stage} (ho : join.outcome? = some (.ok documents))
      (hscope : scope = ctx.scope registry documents)
      (hs : stage = .resolving (e.checkpoints scope) (e.evaluateIn scope false case.rule)) :
      Moves ctx registry m i case (.fetching e join) stage (m.setStage i stage)
  | pass {n : Nat} {outcome : Except RuleError Evaluation} (hc : m.cancelled = false) :
      Moves ctx registry m i case (.resolving (n + 1) outcome) (.resolving n outcome)
        (m.setStage i (.resolving n outcome))
  | conclude {outcome : Except RuleError Evaluation} :
      Moves ctx registry m i case (.resolving 0 outcome) (.finished outcome)
        (m.finish i [] outcome)

variable {ctx : Context σ} {registry : Registry} {m m' : Machine σ} {i : Nat} {case : Case}
  {stage stage' : Stage}

theorem Moves.tasks_eq (h : m.Moves ctx registry i case stage stage' m') :
    m'.tasks = m.tasks.modify i fun task => { task with stage := stage' } := by
  cases h <;> rfl

theorem moves_of_stepTask (h : stepTask ctx registry m i ⟨case, stage⟩ = some m') :
    ∃ stage', m.Moves ctx registry i case stage stage' m' := by
  cases stage with
  | queued =>
    simp only [stepTask] at h
    split at h
    · next hp => cases h; exact ⟨_, .enter hp⟩
    · exact absurd h (by simp)
  | admitted =>
    simp only [stepTask] at h
    split at h
    · next hc => cases h; exact ⟨_, .cancel hc rfl⟩
    · next hc =>
      have hc := Bool.eq_false_iff.mpr hc
      split at h
      · next hp => cases h; exact ⟨_, .reject hc hp⟩
      · next hp => cases h; exact ⟨_, .parse hc hp⟩
  | parsed e =>
    simp only [stepTask] at h
    split at h
    · next hc => cases h; exact ⟨_, .cancel hc rfl⟩
    · next hc => cases h; exact ⟨_, .fetch (Bool.eq_false_iff.mpr hc) rfl⟩
  | fetching e join =>
    simp only [stepTask] at h
    split at h
    · next ho => cases h; exact ⟨_, .resolve ho rfl rfl⟩
    · next ho => cases h; exact ⟨_, .fail ho⟩
    · next hn =>
      obtain ⟨⟨join', session, inFlight⟩, hp, rfl⟩ := Option.map_eq_some_iff.mp h
      exact ⟨_, .poll hn hp⟩
  | resolving n outcome =>
    cases n with
    | zero => cases h; exact ⟨_, .conclude⟩
    | succ n =>
      simp only [stepTask] at h
      split at h
      · next hc => cases h; exact ⟨_, .cancel hc rfl⟩
      · next hc => cases h; exact ⟨_, .pass (Bool.eq_false_iff.mpr hc)⟩
  | finished outcome => exact absurd h (by simp [stepTask])

/-- A step of the machine is one of these, by one of its tasks. -/
theorem step_cases (h : m.step ctx registry i = some m') : ∃ case stage stage',
    m.tasks[i]? = some ⟨case, stage⟩ ∧ m.Moves ctx registry i case stage stage' m' := by
  obtain ⟨⟨case, stage⟩, ht, h⟩ := Option.bind_eq_some_iff.mp h
  obtain ⟨stage', hm⟩ := moves_of_stepTask h
  exact ⟨case, stage, stage', ht, hm⟩

end Machine

end SnapshotRules
