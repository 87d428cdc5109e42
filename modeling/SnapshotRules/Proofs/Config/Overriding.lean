import Mathlib
import SnapshotRules.Config
import SnapshotRules.Value.Path

/-! # Overriding settings

Overrides are applied one after another to the configuration itself. A fault leaves what those
before it have set, each of them its own field, and nothing else has changed.
-/

namespace SnapshotRules.Config

variable {lookup : String → Option String} {os : List Override} {o : Override} {c c' d : Config}
  {name : String} {names : List String} {fault : ConfigFault}

/-- The field of that name, as it is written. -/
def field (c : Config) (name : String) : Option Value := c.toValue.child? name

theorem field_eq (c : Config) (name : String) : c.field name =
    if "fetch_timeout_ms" = name then some (.ofNat c.fetchTimeout.toNat)
    else if "default_collection" = name then some (.string c.defaultCollection)
    else if "concurrency" = name then some (.ofNat c.concurrency.toNat)
    else if "port" = name then some (.ofNat c.port.toNat)
    else none := rfl

/-! ## Single overrides -/

/-- The configuration with an override, if that is looked up, or `none` when it means nothing. -/
def Override.given? (lookup : String → Option String) (o : Override) (c : Config) :
    Option Config :=
  match lookup o.key with
  | none => some c
  | some text => o.apply c text

/-- The override sets the field of that name, whatever it has been, and no other field. -/
structure Override.Sets (o : Override) (name : String) : Prop where
  field_of_ne {c d : Config} {text other : String} :
    o.apply c text = some d → other ≠ name → d.field other = c.field other
  field_congr (c c' : Config) (text : String) :
    (o.apply c text).map (field · name) = (o.apply c' text).map (field · name)

theorem Override.Sets.of_map {α : Type} (key : String) (read : String → Option α)
    (set : Config → α → Config)
    (hne : ∀ c a other, name ≠ other → (set c a).field other = c.field other)
    (hcongr : ∀ c c' a, (set c a).field name = (set c' a).field name) :
    Override.Sets ⟨key, fun c text => (read text).map (set c)⟩ name where
  field_of_ne h hother := by
    obtain ⟨a, -, rfl⟩ := Option.map_eq_some_iff.mp h
    exact hne _ a _ hother.symm
  field_congr c c' text := by
    rw [Option.map_map, Option.map_map]
    exact Option.map_congr fun a _ => hcongr c c' a

theorem sets_overrides : List.Forall₂ Override.Sets overrides fieldNames := by
  refine .cons (.of_map _ _ (fun c n => { c with fetchTimeout := .ofNat n }) ?_ ?_)
    (.cons (.of_map _ some (fun c text => { c with defaultCollection := text }) ?_ ?_)
    (.cons (.of_map _ _ (fun c n => { c with concurrency := .ofNat n }) ?_ ?_)
    (.cons (.of_map _ _ (fun c n => { c with port := .ofNat n }) ?_ ?_) .nil)))
  all_goals
    intros
    simp [field_eq, *]

theorem Override.Sets.given?_congr (hs : o.Sets name) (h : c'.field name = c.field name) :
    (o.given? lookup c').map (field · name) = (o.given? lookup c).map (field · name) := by
  unfold given?
  split
  · simp only [Option.map_some, h]
  · next text _ => exact hs.field_congr c' c text

theorem Override.Sets.field_given?_of_ne {other : String} (hs : o.Sets name)
    (h : o.given? lookup c = some d) (hne : other ≠ name) : d.field other = c.field other := by
  unfold given? at h
  split at h
  · rw [Option.some.inj h]
  · exact hs.field_of_ne h hne

/-! ## Several overrides -/

/-- Overrides lead from one configuration to another. None of them is present without meaning
something. -/
inductive Applies (lookup : String → Option String) : List Override → Config → Config → Prop
  | nil (c : Config) : Applies lookup [] c c
  | cons {o : Override} {rest : List Override} {c c' d : Config} (h : o.given? lookup c = some c')
      (hr : Applies lookup rest c' d) : Applies lookup (o :: rest) c d

def Override.Refuses (lookup : String → Option String) (o : Override) (c : Config)
    (fault : ConfigFault) : Prop :=
  ∃ text, lookup o.key = some text ∧ o.apply c text = none ∧ fault = .invalidValue o.key text

theorem applyOverrides_cons_of_given? {rest : List Override} (h : o.given? lookup c = some c') :
    applyOverrides lookup (o :: rest) c = applyOverrides lookup rest c' := by
  rw [Override.given?] at h
  rw [applyOverrides]
  cases hl : lookup o.key with
  | none =>
    simp only [hl, Option.some.injEq] at h
    simp only [h]
  | some text =>
    simp only [hl] at h
    simp only [h]

theorem applyOverrides_cons_of_given?_eq_none {rest : List Override}
    (h : o.given? lookup c = none) :
    ∃ fault, o.Refuses lookup c fault ∧ applyOverrides lookup (o :: rest) c = (c, some fault) := by
  rw [Override.given?] at h
  rw [applyOverrides]
  cases hl : lookup o.key with
  | none => simp [hl] at h
  | some text =>
    simp only [hl] at h
    refine ⟨_, ⟨text, hl, h, rfl⟩, ?_⟩
    simp only [h]

theorem applyOverrides_of_applies (h : Applies lookup os c d) :
    applyOverrides lookup os c = (d, d.fault?) := by
  induction h with
  | nil => rfl
  | cons h _ ih => rw [applyOverrides_cons_of_given? h, ih]

/-- Applying overrides ends before one that means nothing, or with the validation of what they
have made of the configuration. -/
theorem exists_applies (lookup : String → Option String) (os : List Override) (c : Config) :
    ∃ before after d, os = before ++ after ∧ Applies lookup before c d ∧
      (after = [] ∧ applyOverrides lookup os c = (d, d.fault?) ∨
        ∃ o rest fault, after = o :: rest ∧ o.Refuses lookup d fault ∧
          applyOverrides lookup os c = (d, some fault)) := by
  induction os generalizing c with
  | nil => exact ⟨[], [], c, rfl, .nil c, .inl ⟨rfl, rfl⟩⟩
  | cons o rest ih =>
    cases hg : o.given? lookup c with
    | none =>
      obtain ⟨fault, hf, he⟩ := applyOverrides_cons_of_given?_eq_none hg
      exact ⟨[], o :: rest, c, rfl, .nil c, .inr ⟨o, rest, fault, rfl, hf, he⟩⟩
    | some c' =>
      obtain ⟨before, after, d, rfl, hd, h⟩ := ih c'
      rw [applyOverrides_cons_of_given? hg]
      exact ⟨o :: before, after, d, rfl, .cons hg hd, h⟩

theorem Applies.field_of_notMem (h : Applies lookup os c d)
    (hs : List.Forall₂ Override.Sets os names) (hn : name ∉ names) :
    d.field name = c.field name := by
  induction h generalizing names with
  | nil => rfl
  | cons h _ ih =>
    obtain ⟨own, names, ho, hrest, rfl⟩ := List.forall₂_cons_left_iff.mp hs
    obtain ⟨hne, hn⟩ := List.ne_and_not_mem_of_not_mem_cons hn
    rw [ih hrest hn, ho.field_given?_of_ne h hne]

/-- Every override has set its own field as it would have done alone, in any configuration `b`
that has had the same fields. -/
theorem Applies.fields {b : Config} (h : Applies lookup os c d)
    (hs : List.Forall₂ Override.Sets os names) (hn : names.Nodup)
    (hb : ∀ name ∈ names, c.field name = b.field name) :
    List.Forall₂ (fun o name =>
      (o.given? lookup b).map (field · name) = some (d.field name)) os names := by
  induction h generalizing names with
  | nil =>
    obtain rfl := List.forall₂_nil_left_iff.mp hs
    exact .nil
  | cons h hr ih =>
    obtain ⟨name, names, ho, hrest, rfl⟩ := List.forall₂_cons_left_iff.mp hs
    obtain ⟨hname, hn⟩ := List.nodup_cons.mp hn
    obtain ⟨hb, hrestb⟩ := List.forall_mem_cons.mp hb
    refine .cons ?_ (ih hrest hn fun other hother => ?_)
    · rw [hr.field_of_notMem hrest hname, ← ho.given?_congr hb, h, Option.map_some]
    · rw [← hrestb other hother]
      exact ho.field_given?_of_ne h (ne_of_mem_of_not_mem hother hname)

/-! ## All overrides -/

/-- A fault in applying the overrides comes from the first override that means nothing, or from
validation after all of them. The overrides before the fault stay applied: each of their fields is
what its override makes of it, and so what it has been if the override is absent. From the fault on
every field is what it has been. -/
theorem applyOverrides_fault (h : applyOverrides lookup overrides c = (d, some fault)) :
    ∃ k, (k = overrides.length ∧ d.fault? = some fault ∨
        ∃ o, overrides[k]? = some o ∧ o.Refuses lookup d fault) ∧
      ∀ i o name, overrides[i]? = some o → fieldNames[i]? = some name →
        (i < k → (o.given? lookup c).map (field · name) = some (d.field name)) ∧
        (k ≤ i → d.field name = c.field name) := by
  have hn : fieldNames.Nodup := by decide
  obtain ⟨before, after, d', hos, hd, hend⟩ := exists_applies lookup overrides c
  obtain ⟨rfl, hend⟩ : d' = d ∧ (before.length = overrides.length ∧ d'.fault? = some fault ∨
      ∃ o, overrides[before.length]? = some o ∧ o.Refuses lookup d' fault) := by
    rcases hend with ⟨rfl, he⟩ | ⟨o, rest, fault', rfl, hf, he⟩
    · obtain ⟨rfl, hf⟩ := Prod.mk.inj (he.symm.trans h)
      exact ⟨rfl, .inl ⟨by rw [hos, List.append_nil], hf⟩⟩
    · obtain ⟨rfl, hf'⟩ := Prod.mk.inj (he.symm.trans h)
      obtain rfl := Option.some.inj hf'
      exact ⟨rfl, .inr ⟨o, by rw [hos]; simp, hf⟩⟩
  have hs : List.Forall₂ Override.Sets before (fieldNames.take before.length) := by
    have hs := List.forall₂_take before.length sets_overrides
    rwa [hos, List.take_left] at hs
  refine ⟨before.length, hend, fun i o name ho hname => ⟨fun hi => ?_, fun hi => ?_⟩⟩
  · have hall := hd.fields hs (hn.sublist (List.take_sublist ..)) fun _ _ => rfl
    have hboth : (before.zip (fieldNames.take before.length))[i]? = some (o, name) := by
      rw [hos, List.getElem?_append_left hi] at ho
      rw [List.getElem?_zip_eq_some, List.getElem?_take_of_lt hi]
      exact ⟨ho, hname⟩
    exact (List.forall₂_iff_zip.mp hall).2 (List.mem_of_getElem? hboth)
  · have hdrop : name ∈ fieldNames.drop before.length := by
      refine List.mem_of_getElem? (l := fieldNames.drop before.length) (i := i - before.length) ?_
      rw [List.getElem?_drop, Nat.add_sub_cancel' hi]
      exact hname
    exact hd.field_of_notMem hs fun htake => List.disjoint_take_drop hn le_rfl htake hdrop

/-- The port is no number: the timeout that is read before it is set, and the port is kept. -/
theorem applyOverrides_fault_at_port :
    let lookup (key : String) : Option String :=
      if key = "SNAPCHECK_FETCH_TIMEOUT_MS" then some "5"
      else if key = "SNAPCHECK_PORT" then some "x" else none
    let d : Config := { default with fetchTimeout := 5 }
    applyOverrides lookup overrides default = (d, some (.invalidValue "SNAPCHECK_PORT" "x")) ∧
      d.field "fetch_timeout_ms" = some (.ofNat 5) ∧
      d.field "port" = default.field "port" := by
  intro lookup d
  have h : applyOverrides lookup overrides default =
      (d, some (.invalidValue "SNAPCHECK_PORT" "x")) := by decide
  obtain ⟨k, hk, hfields⟩ := applyOverrides_fault h
  obtain ⟨hpos, hle⟩ : 0 < k ∧ k ≤ 3 := by
    rcases hk with ⟨-, hvalid⟩ | ⟨o, ho, text, -, -, hf⟩
    · exact absurd hvalid (by decide)
    · have hlt : k < 4 := (List.getElem?_eq_some_iff.mp ho).1
      refine ⟨Nat.pos_of_ne_zero ?_, by omega⟩
      rintro rfl
      obtain rfl := Option.some.inj ho
      exact absurd hf (by simp)
  exact ⟨h, (Option.some.inj ((hfields 0 _ _ rfl rfl).1 hpos)).symm, (hfields 3 _ _ rfl rfl).2 hle⟩

/-- A configuration is not restored after a fault. -/
theorem not_restored_after_fault :
    let lookup (key : String) : Option String :=
      if key = "SNAPCHECK_FETCH_TIMEOUT_MS" then some "5"
      else if key = "SNAPCHECK_PORT" then some "x" else none
    ∃ d, applyOverrides lookup overrides default =
      (d, some (.invalidValue "SNAPCHECK_PORT" "x")) ∧ d ≠ default :=
  ⟨{ default with fetchTimeout := 5 }, by decide, by decide⟩

end SnapshotRules.Config
