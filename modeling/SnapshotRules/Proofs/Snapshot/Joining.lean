import Mathlib
import SnapshotRules.Proofs.Snapshot.Fetching
import SnapshotRules.Snapshot.Join

/-! # Joins that share a session

No id is in flight twice, so what a fetch under way has come to stays the last answer for its
id until its document is kept.
-/

namespace SnapshotRules

open Session History

variable {σ : Type} {ctx : Context σ} {s₀ s s' : Session σ} {new more : List Event}
  {inFlight inFlight' : List String} {id : String} {f f' : Fetching}
  {slots slots' rest : List (String × Fetching)}

/-- What the progress on an id tells about the past. -/
inductive Fetching.Sound (ctx : Context σ) (s : Session σ) (new : List Event) (id : String) :
    Fetching → Prop
  | waiting : Sound ctx s new id .waiting
  | arriving {answer : Fetched} {v : Value} (notKept : ¬ IsKept id s.history)
      (last : lastAnswer? id new = some answer) (document : answer.document? = some v) :
      Sound ctx s new id (.arriving v)
  | hanging (h : FailedIn ctx new (.timeout id ctx.fetchTimeout)) : Sound ctx s new id .hanging
  | expired (h : FailedIn ctx new (.timeout id ctx.fetchTimeout)) : Sound ctx s new id .expired
  | failed {e : StoreError} (h : FailedIn ctx new e) : Sound ctx s new id (.failed e)
  | ready {v : Value} (h : .kept id v ∈ s.history) : Sound ctx s new id (.ready v)

theorem Fetching.Sound.mono (h : f.Sound ctx s new id) (hh : s'.history = s.history ++ more)
    (hl : f.isInFlight = true → lastAnswer? id (new ++ more) = lastAnswer? id new)
    (hk : f.isInFlight = true → ¬ IsKept id more) : f.Sound ctx s' (new ++ more) id := by
  cases h with
  | waiting => exact .waiting
  | arriving notKept last document =>
    refine .arriving ?_ ((hl rfl).trans last) document
    rw [hh, isKept_append, not_or]
    exact ⟨notKept, hk rfl⟩
  | hanging h => exact .hanging (h.append_left more)
  | expired h => exact .expired (h.append_left more)
  | failed h => exact .failed (h.append_left more)
  | ready h => exact .ready (mem_history_of_mem hh h)

theorem Fetching.Sound.expire (h : f.Sound ctx s new id) : f.expire.Sound ctx s new id := by
  cases h with
  | waiting => exact .waiting
  | arriving notKept last document => exact .arriving notKept last document
  | hanging h => exact .expired h
  | expired h => exact .expired h
  | failed h => exact .failed h
  | ready h => exact .ready h

def idsInFlight (slots : List (String × Fetching)) : List String :=
  (slots.filter fun slot => slot.2.isInFlight).map Prod.fst

theorem idsInFlight_cons : idsInFlight ((id, f) :: rest) =
    if f.isInFlight then id :: idsInFlight rest else idsInFlight rest := by
  rw [idsInFlight, List.filter_cons]
  split <;> rfl

theorem idsInFlight_append :
    idsInFlight (slots ++ rest) = idsInFlight slots ++ idsInFlight rest := by
  rw [idsInFlight, List.filter_append, List.map_append]
  rfl

theorem idsInFlight_map_expire : idsInFlight (slots.map fun slot => (slot.1, slot.2.expire)) =
    idsInFlight slots := by
  induction slots with
  | nil => rfl
  | cons slot slots ih =>
    obtain ⟨id, f⟩ := slot
    rw [List.map_cons, idsInFlight_cons, ih, idsInFlight_cons]
    cases f <;> rfl

theorem mem_idsInFlight : id ∈ idsInFlight slots ↔ ∃ f, (id, f) ∈ slots ∧ f.isInFlight = true := by
  simp [idsInFlight]

/-- The slots of tasks that share a session since `s₀`. -/
structure Shared (ctx : Context σ) (s₀ s : Session σ) (new : List Event)
    (inFlight : List String) (slots : List (String × Fetching)) : Prop where
  evolves : s₀.Evolves ctx s new
  isKnown : ∀ slot ∈ slots, ctx.isKnown slot.1 = true
  sound : ∀ slot ∈ slots, slot.2.Sound ctx s new slot.1
  nodup : (idsInFlight slots).Nodup
  inFlight : ∀ id ∈ idsInFlight slots, id ∈ inFlight

namespace Shared

theorem perm (h : Shared ctx s₀ s new inFlight slots) (hp : slots.Perm slots') :
    Shared ctx s₀ s new inFlight slots' := by
  have hf : (idsInFlight slots).Perm (idsInFlight slots') := (hp.filter _).map _
  refine ⟨h.evolves, fun slot hm => h.isKnown slot (hp.mem_iff.mpr hm),
    fun slot hm => h.sound slot (hp.mem_iff.mpr hm), hf.nodup_iff.mp h.nodup,
    fun id hm => h.inFlight id (hf.mem_iff.mpr hm)⟩

theorem tail {slot : String × Fetching} (h : Shared ctx s₀ s new inFlight (slot :: rest)) :
    Shared ctx s₀ s new inFlight rest := by
  have hs : (idsInFlight rest).Sublist (idsInFlight (slot :: rest)) :=
    ((List.sublist_cons_self _ _).filter _).map _
  exact ⟨h.evolves, fun slot hm => h.isKnown slot (List.mem_cons_of_mem _ hm),
    fun slot hm => h.sound slot (List.mem_cons_of_mem _ hm), h.nodup.sublist hs,
    fun id hm => h.inFlight id (hs.subset hm)⟩

theorem cons_idle (h : Shared ctx s₀ s new inFlight rest) (hk : ctx.isKnown id = true)
    (hs : f.Sound ctx s new id) (hf : f.isInFlight = false) :
    Shared ctx s₀ s new inFlight ((id, f) :: rest) := by
  have hi : idsInFlight ((id, f) :: rest) = idsInFlight rest := by rw [idsInFlight_cons, hf]; rfl
  exact ⟨h.evolves, List.forall_mem_cons.mpr ⟨hk, h.isKnown⟩,
    List.forall_mem_cons.mpr ⟨hs, h.sound⟩, hi ▸ h.nodup, hi ▸ h.inFlight⟩

theorem cons_inFlight (h : Shared ctx s₀ s new inFlight rest) (hk : ctx.isKnown id = true)
    (hs : f.Sound ctx s new id) (hn : id ∉ idsInFlight rest) (hi : id ∈ inFlight) :
    Shared ctx s₀ s new inFlight ((id, f) :: rest) := by
  cases hf : f.isInFlight with
  | false => exact h.cons_idle hk hs hf
  | true =>
    have he : idsInFlight ((id, f) :: rest) = id :: idsInFlight rest := by
      rw [idsInFlight_cons, if_pos hf]
    refine ⟨h.evolves, List.forall_mem_cons.mpr ⟨hk, h.isKnown⟩,
      List.forall_mem_cons.mpr ⟨hs, h.sound⟩, ?_, ?_⟩
    · rw [he]
      exact List.nodup_cons.mpr ⟨hn, h.nodup⟩
    · rw [he]
      exact List.forall_mem_cons.mpr ⟨hi, h.inFlight⟩

/-- Slots survive what does not happen to an id that they have in flight. -/
theorem mono (h : Shared ctx s₀ s new inFlight slots) (hh : s'.history = s.history ++ more)
    (he : s₀.Evolves ctx s' (new ++ more))
    (ho : ∀ id ∈ idsInFlight slots, id ∈ inFlight' ∧
      lastAnswer? id (new ++ more) = lastAnswer? id new ∧ ¬ IsKept id more) :
    Shared ctx s₀ s' (new ++ more) inFlight' slots := by
  refine ⟨he, h.isKnown, fun slot hm => ?_, h.nodup, fun id hm => (ho id hm).1⟩
  have hi (hf : slot.2.isInFlight = true) := ho slot.1 (mem_idsInFlight.mpr ⟨slot.2, hm, hf⟩)
  exact (h.sound slot hm).mono hh (fun hf => (hi hf).2.1) fun hf => (hi hf).2.2

theorem ask (h : Shared ctx s₀ s new inFlight rest) (hk : ctx.isKnown id = true)
    (hn : s.documents.get? id = none) (hi : id ∉ inFlight) :
    ∃ answer, (ctx.ask id s).2.history = s.history ++ [.fetched id answer] ∧
      (∀ ids, Shared ctx s₀ (ctx.ask id s).2 (new ++ [.fetched id answer]) (inFlight ++ ids)
        rest) ∧
      ((∃ v, (ctx.ask id s).1 = .ok v ∧ answer.document? = some v) ∨
        ∃ e, (ctx.ask id s).1 = .error e ∧ FailedIn ctx (new ++ [.fetched id answer]) e ∧
          ∀ id' timeout, e = .timeout id' timeout → id' = id ∧ timeout = ctx.fetchTimeout) := by
  obtain ⟨answer, he, -, hr⟩ := Context.evolves_ask (.refl ctx h.evolves.keeps) hk hn
  rw [List.nil_append] at he
  refine ⟨answer, he.history, fun ids => ?_, hr.imp_right ?_⟩
  · refine h.mono he.history (h.evolves.trans he) fun id' hm => ?_
    have hm := h.inFlight id' hm
    refine ⟨List.mem_append_left _ hm, lastAnswer?_fetched_of_ne ?_, by simp [IsKept]⟩
    rintro rfl
    exact hi hm
  · rintro ⟨e, ha, hf⟩
    refine ⟨e, ha, .append_right ⟨id, answer, List.mem_singleton_self _, hf⟩ new, ?_⟩
    rintro id' timeout rfl
    exact Fetched.eq_of_failure?_eq_timeout hf

theorem look_waiting (h : Shared ctx s₀ s new inFlight rest) (hk : ctx.isKnown id = true)
    (hl : Join.look ctx s inFlight id .waiting = some (f', s', inFlight')) :
    ∃ more, s'.history = s.history ++ more ∧
      Shared ctx s₀ s' (new ++ more) inFlight' ((id, f') :: rest) := by
  have hs := h.evolves.keeps
  simp only [Join.look] at hl
  split at hl
  · next v hv =>
    cases hl
    refine ⟨[], (List.append_nil _).symm, ?_⟩
    rw [List.append_nil]
    exact h.cons_idle hk (.ready ((hs id v).mp hv)) rfl
  · next hn =>
    split at hl
    · exact absurd hl (by simp)
    · next hi =>
      obtain ⟨answer, he, ho, hr⟩ := h.ask hk hn hi
      have hr' : id ∉ idsInFlight rest := fun hm => hi (h.inFlight id hm)
      refine ⟨[.fetched id answer], ?_⟩
      split at hl
      · next v t ha =>
        cases hl
        rw [ha] at he ho hr
        obtain ⟨w, hw, hd⟩ := hr.resolve_right (by simp)
        obtain rfl := Except.ok.inj hw
        refine ⟨he, (ho [id]).cons_inFlight hk (.arriving ?_ lastAnswer?_fetched_self hd) hr'
          (by simp)⟩
        rw [he, isKept_concat_fetched]
        exact hs.get?_eq_none_iff.mp hn
      · next id' timeout t ha =>
        cases hl
        rw [ha] at he ho hr
        obtain ⟨e, hw, hf, ht⟩ := hr.resolve_left (by simp)
        obtain rfl := Except.error.inj hw
        obtain ⟨rfl, rfl⟩ := ht id' timeout rfl
        exact ⟨he, (ho [id']).cons_inFlight hk (.hanging hf) hr' (by simp)⟩
      · next e t _ ha =>
        cases hl
        rw [ha] at he ho hr
        obtain ⟨e', hw, hf, -⟩ := hr.resolve_left (by simp)
        obtain rfl := Except.error.inj hw
        have ho := ho []
        rw [List.append_nil] at ho
        exact ⟨he, ho.cons_idle hk (.failed hf) rfl⟩

theorem mem_filter_ne (h : Shared ctx s₀ s new inFlight rest) (hn : id ∉ idsInFlight rest)
    {id' : String} (hm : id' ∈ idsInFlight rest) : id' ∈ inFlight.filter (· ≠ id) :=
  List.mem_filter.mpr ⟨h.inFlight id' hm, decide_eq_true fun he => hn (he ▸ hm)⟩

theorem keep (h : Shared ctx s₀ s new inFlight rest) (hk : ctx.isKnown id = true) {v : Value}
    (hs : (Fetching.arriving v).Sound ctx s new id) (hn : id ∉ idsInFlight rest) :
    Shared ctx s₀ (s.keep id v) (new ++ [.kept id v]) (inFlight.filter (· ≠ id))
      ((id, .ready v) :: rest) := by
  cases hs with
  | arriving notKept last document =>
    have he := Context.evolves_keep h.evolves (h.evolves.keeps.get?_eq_none_iff.mpr notKept)
      last document
    have hr : Shared ctx s₀ (s.keep id v) (new ++ [.kept id v]) (inFlight.filter (· ≠ id)) rest :=
      h.mono rfl he fun id' hm => ⟨h.mem_filter_ne hn hm, lastAnswer?_kept, ?_⟩
    · exact hr.cons_idle hk (.ready (by simp [Session.keep])) rfl
    · rintro ⟨w, hw⟩
      obtain ⟨rfl, -⟩ := Event.kept.inj (List.mem_singleton.mp hw)
      exact hn hm

theorem look (h : Shared ctx s₀ s new inFlight ((id, f) :: rest))
    (hl : Join.look ctx s inFlight id f = some (f', s', inFlight')) :
    ∃ more, s'.history = s.history ++ more ∧
      Shared ctx s₀ s' (new ++ more) inFlight' ((id, f') :: rest) := by
  obtain ⟨hk, -⟩ := List.forall_mem_cons.mp h.isKnown
  obtain ⟨hf, -⟩ := List.forall_mem_cons.mp h.sound
  have hn (hi : f.isInFlight = true) : id ∉ idsInFlight rest := by
    have hn := h.nodup
    rw [idsInFlight_cons, if_pos hi, List.nodup_cons] at hn
    exact hn.1
  cases f with
  | waiting => exact h.tail.look_waiting hk hl
  | arriving v =>
    cases hl
    exact ⟨_, rfl, h.tail.keep hk hf (hn rfl)⟩
  | expired =>
    cases hl
    refine ⟨[], (List.append_nil _).symm, ?_⟩
    cases hf with
    | expired hf =>
      rw [List.append_nil]
      have hm : Shared ctx s₀ s new (inFlight.filter (· ≠ id)) rest :=
        { h.tail with inFlight := fun id' hm => h.tail.mem_filter_ne (hn rfl) hm }
      exact hm.cons_idle hk (.failed hf) rfl
  | hanging => exact absurd hl (by simp [Join.look])
  | failed e => exact absurd hl (by simp [Join.look])
  | ready v => exact absurd hl (by simp [Join.look])

end Shared

/-! ## Whole joins -/

namespace Join

variable {j j' : Join}

theorem map_fst_start (documents : Entries Value) (ids : List String) :
    (start documents ids).slots.map Prod.fst = ids := by
  rw [start, List.map_map]
  exact List.map_id ids

theorem lookFirst_cases (h : lookFirst ctx s inFlight slots = some (slots', s', inFlight')) :
    ∃ before id f f' after, slots = before ++ (id, f) :: after ∧
      slots' = before ++ (id, f') :: after ∧
      look ctx s inFlight id f = some (f', s', inFlight') := by
  induction slots generalizing slots' with
  | nil => exact absurd h (by simp [lookFirst])
  | cons slot slots ih =>
    obtain ⟨id, f⟩ := slot
    rw [lookFirst] at h
    split at h
    · next f' t ids hl =>
      cases h
      exact ⟨[], id, f, f', slots, rfl, rfl, hl⟩
    · obtain ⟨⟨slots', t, ids⟩, hr, he⟩ := Option.map_eq_some_iff.mp h
      cases he
      obtain ⟨before, id', f₁, f₂, after, rfl, rfl, hl⟩ := ih hr
      exact ⟨(id, f) :: before, id', f₁, f₂, after, rfl, rfl, hl⟩

theorem perm_slot (before after rest : List (String × Fetching)) (id : String) (f : Fetching) :
    (before ++ (id, f) :: after ++ rest).Perm ((id, f) :: (before ++ after ++ rest)) := by
  rw [List.append_assoc, List.append_assoc]
  exact List.perm_middle

theorem poll_cases (h : j.poll ctx s inFlight = some (j', s', inFlight')) :
    ∃ before id f f' after, j.slots = before ++ (id, f) :: after ∧
      j'.slots = before ++ (id, f') :: after ∧
      look ctx s inFlight id f = some (f', s', inFlight') := by
  rw [poll] at h
  split at h
  · obtain ⟨⟨slots, t, ids⟩, hr, he⟩ := Option.map_eq_some_iff.mp h
    cases he
    obtain ⟨before, id, f, f', after, hs, rfl, hl⟩ := lookFirst_cases hr
    refine ⟨after.reverse, id, f, f', before.reverse, ?_, by simp, hl⟩
    rw [← List.reverse_reverse j.slots, hs]
    simp
  · obtain ⟨⟨slots, t, ids⟩, hr, he⟩ := Option.map_eq_some_iff.mp h
    cases he
    exact lookFirst_cases hr

theorem settle?_ok {inOrder : Bool} {documents : Entries Value}
    (h : settle? inOrder slots = some (.ok documents)) :
    slots = documents.map fun entry => (entry.1, .ready entry.2) := by
  induction slots generalizing documents with
  | nil => cases h; rfl
  | cons slot slots ih =>
    obtain ⟨id, f⟩ := slot
    cases f with
    | ready v =>
      rw [settle?] at h
      split at h
      · next hr => cases h; rw [ih hr]; rfl
      · next hn => exact absurd h (hn documents)
    | failed e => exact absurd h (by simp [settle?])
    | _ =>
      simp only [settle?] at h
      split at h <;> exact absurd h (by simp)

theorem settle?_error {inOrder : Bool} {e : StoreError}
    (h : settle? inOrder slots = some (.error e)) : ∃ id, (id, .failed e) ∈ slots := by
  induction slots with
  | nil => exact absurd h (by simp [settle?])
  | cons slot slots ih =>
    obtain ⟨id, f⟩ := slot
    have hm (hr : settle? inOrder slots = some (.error e)) :
        ∃ id', (id', .failed e) ∈ (id, f) :: slots :=
      let ⟨id', hm⟩ := ih hr
      ⟨id', List.mem_cons_of_mem _ hm⟩
    cases f with
    | ready v =>
      rw [settle?] at h
      split at h
      · exact absurd h (by simp)
      · exact hm h
    | failed e' => cases h; exact ⟨id, List.mem_cons_self⟩
    | _ =>
      simp only [settle?] at h
      split at h
      · next hr => cases h; exact hm hr
      · exact absurd h (by simp)

end Join

namespace Shared

variable {j j' : Join} {ids : List String}

theorem of_append (h : Shared ctx s₀ s new inFlight (slots ++ rest)) :
    Shared ctx s₀ s new inFlight rest := by
  induction slots with
  | nil => exact h
  | cons slot slots ih => exact ih h.tail

/-- Polling keeps all slots sound. -/
theorem poll (h : Shared ctx s₀ s new inFlight (j.slots ++ rest))
    (hp : j.poll ctx s inFlight = some (j', s', inFlight')) :
    j'.slots.map Prod.fst = j.slots.map Prod.fst ∧ ∃ more, s'.history = s.history ++ more ∧
      Shared ctx s₀ s' (new ++ more) inFlight' (j'.slots ++ rest) := by
  obtain ⟨before, id, f, f', after, hj, hj', hl⟩ := Join.poll_cases hp
  have hm := Join.perm_slot before after rest id
  rw [hj] at h ⊢
  rw [hj']
  obtain ⟨more, hh, hr⟩ := (h.perm (hm f)).look hl
  exact ⟨by simp, more, hh, hr.perm (hm f').symm⟩

theorem release (h : Shared ctx s₀ s new inFlight (j.slots ++ rest)) :
    Shared ctx s₀ s new (inFlight.filter fun id => id ∉ j.held) rest := by
  refine { h.of_append with inFlight := fun id hm => ?_ }
  have hn := h.nodup
  rw [idsInFlight_append, List.nodup_append] at hn
  refine List.mem_filter.mpr ⟨h.of_append.inFlight id hm, decide_eq_true fun hj => ?_⟩
  exact hn.2.2 id hj id hm rfl

theorem start (h : Shared ctx s₀ s new inFlight rest) (hk : ∀ id ∈ ids, ctx.isKnown id = true) :
    Shared ctx s₀ s new inFlight ((Join.start s.documents ids).slots ++ rest) := by
  induction ids with
  | nil => exact h
  | cons id ids ih =>
    obtain ⟨hi, hk⟩ := List.forall_mem_cons.mp hk
    refine (ih hk).cons_idle hi ?_ ?_
    · split
      · next v hv => exact .ready ((h.evolves.keeps id v).mp hv)
      · exact .waiting
    · split <;> rfl

theorem expire (h : Shared ctx s₀ s new inFlight (slots ++ rest)) :
    Shared ctx s₀ s new inFlight
      (slots.map (fun slot => (slot.1, slot.2.expire)) ++ rest) := by
  have hi : idsInFlight (slots.map (fun slot => (slot.1, slot.2.expire)) ++ rest) =
      idsInFlight (slots ++ rest) := by
    rw [idsInFlight_append, idsInFlight_map_expire, idsInFlight_append]
  obtain ⟨hk, hk'⟩ := List.forall_mem_append.mp h.isKnown
  obtain ⟨hs, hs'⟩ := List.forall_mem_append.mp h.sound
  refine ⟨h.evolves, List.forall_mem_append.mpr ⟨List.forall_mem_map.mpr hk, hk'⟩,
    List.forall_mem_append.mpr ⟨List.forall_mem_map.mpr fun slot hm => ?_, hs'⟩,
    hi ▸ h.nodup, hi ▸ h.inFlight⟩
  exact (hs slot hm).expire

/-- A join ends with the documents of the known ids or with the failure of a fetch. -/
theorem outcome_ok {documents : Entries Value}
    (h : Shared ctx s₀ s new inFlight (j.slots ++ rest))
    (hj : j.slots.map Prod.fst = ids.filter ctx.isKnown) (ho : j.outcome? = some (.ok documents)) :
    s.Supplies ctx ids documents := by
  have hs := Join.settle?_ok ho
  have hk : documents.keys = ids.filter ctx.isKnown := by
    rw [← hj, hs, List.map_map]
    rfl
  refine ⟨fun id v hv => ?_, fun id hi hi' => ?_, fun id v hv => ?_⟩
  · have hm : (id, .ready v) ∈ j.slots := by
      rw [hs]
      exact List.mem_map.mpr ⟨(id, v), Entries.mem_of_get? hv, rfl⟩
    have hf := h.sound _ (List.mem_append_left _ hm)
    cases hf with
    | ready hf => exact hf
  · exact Entries.exists_get?_of_mem_keys (hk ▸ List.mem_filter.mpr ⟨hi, hi'⟩)
  · have hm : id ∈ documents.keys := List.mem_map_of_mem (Entries.mem_of_get? hv)
    exact List.mem_filter.mp (hk ▸ hm)

theorem outcome_error {e : StoreError} (h : Shared ctx s₀ s new inFlight (j.slots ++ rest))
    (ho : j.outcome? = some (.error e)) : FailedIn ctx new e := by
  obtain ⟨id, hm⟩ := Join.settle?_error ho
  have hf := h.sound _ (List.mem_append_left _ hm)
  cases hf with
  | failed hf => exact hf

end Shared

end SnapshotRules
