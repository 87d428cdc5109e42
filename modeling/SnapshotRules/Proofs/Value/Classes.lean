import Mathlib
import SnapshotRules.Function.Collection
import SnapshotRules.Proofs.Rule.Dependence
import SnapshotRules.Proofs.Value.Equality
import SnapshotRules.Rule.Evaluation

/-! # Classes of equal values

Values can be labelled by their classes when equality is transitive among them. Membership,
`index`, `distinct` and `setintersection` then all go by the labels.
-/

namespace SnapshotRules

theorem findIdx?_congr {α : Type _} {xs : List α} {p q : α → Bool} (h : ∀ x ∈ xs, p x = q x) :
    xs.findIdx? p = xs.findIdx? q := by
  induction xs with
  | nil => rfl
  | cons x xs ih =>
    obtain ⟨hx, hxs⟩ := List.forall_mem_cons.mp h
    rw [List.findIdx?_cons, List.findIdx?_cons, hx, ih hxs]

namespace Value

/-- Equal values of a set have one label. -/
def Labels (label : Value → Value) (S : Set Value) : Prop :=
  ∀ v ∈ S, ∀ w ∈ S, v.equal w = true ↔ label v = label w

/-- The set falls into classes of equal values, told apart by their labels, and every function
that compares values goes by the labels of its arguments. -/
structure Classified (label : Value → Value) (S : Set Value) : Prop where
  equal : Labels label S
  memberOf : ∀ v ∈ S, ∀ items : List Value, (∀ x ∈ items, x ∈ S) →
    v.satisfies .memberOf (.sequence items) = decide (label v ∈ items.map label)
  containsOperator : ∀ v ∈ S, ∀ items : List Value, (∀ x ∈ items, x ∈ S) →
    (sequence items).satisfies .contains v = decide (label v ∈ items.map label)
  memberOfMapping : ∀ v ∈ S, ∀ w ∈ S, label v = label w → ∀ entries : Entries Value,
    (mapping entries).hasMember v = (mapping entries).hasMember w
  contains : ∀ v ∈ S, ∀ items : List Value, (∀ x ∈ items, x ∈ S) →
    Collection.contains [.sequence items, v] = .ok (.bool (decide (label v ∈ items.map label)))
  index : ∀ v ∈ S, ∀ items : List Value, (∀ x ∈ items, x ∈ S) →
    Collection.index [.sequence items, v] =
      .ok (((items.map label).idxOf? (label v)).elim .minusOne .ofNat)
  distinct : ∀ items : List Value, (∀ x ∈ items, x ∈ S) → ∃ kept,
    Collection.distinct [.sequence items] = .ok (.sequence kept) ∧
      (kept.map label).Nodup ∧ ∀ l, l ∈ kept.map label ↔ l ∈ items.map label
  setintersection : ∀ lists : List (List Value), 2 ≤ lists.length →
    (∀ items ∈ lists, ∀ x ∈ items, x ∈ S) → ∃ kept,
      Collection.setintersection (lists.map .sequence) = .ok (.sequence kept) ∧
        (kept.map label).Nodup ∧ ∀ l, l ∈ kept.map label ↔ ∀ items ∈ lists, l ∈ items.map label

variable {S : Set Value} {label : Value → Value} {v : Value} {items : List Value}

theorem exists_labels (hS : ∀ v ∈ S, v.WellFormed)
    (h : ∀ a ∈ S, ∀ b ∈ S, ∀ c ∈ S, a.equal b = true → b.equal c = true → ¬ a.Apart c) :
    ∃ label, Labels label S := by
  classical
  let classes : Setoid S :=
    { r := fun v w => v.1.equal w.1 = true
      iseqv :=
        ⟨fun v => equal_self (hS v v.2),
          fun {v w} => equal_symm (hS v v.2) (hS w w.2),
          fun {u v w} huv hvw => equal_trans huv hvw (h u u.2 v v.2 w w.2 huv hvw)⟩ }
  refine ⟨fun v => if hv : v ∈ S then (Quotient.mk classes ⟨v, hv⟩).out else v,
    fun v hv w hw => ?_⟩
  simp only [dif_pos hv, dif_pos hw, Subtype.val_inj, Quotient.out_inj]
  exact ⟨fun he => Quotient.sound (s := classes) he, fun he => Quotient.exact he⟩

theorem hasMember_mapping (entries : Entries Value) {v w : Value} (h : v.equal w = true) :
    (mapping entries).hasMember v = (mapping entries).hasMember w := by
  cases v with
  | null => rw [null_equal.mp h]
  | bool b => rw [bool_equal.mp h]
  | string s => rw [string_equal.mp h]
  | number n =>
    obtain ⟨m, rfl, -⟩ := number_equal.mp h
    rfl
  | sequence xs =>
    obtain ⟨ys, rfl, -⟩ := sequence_equal.mp h
    rfl
  | mapping xs =>
    obtain ⟨ys, rfl, -⟩ := mapping_equal.mp h
    rfl

namespace Labels

variable (h : Labels label S) (hi : ∀ x ∈ items, x ∈ S)

include h hi

theorem equal_eq (hv : v ∈ S) : ∀ x ∈ items, x.equal v = (label x == label v) := by
  intro x hx
  rw [Bool.eq_iff_iff, beq_iff_eq]
  exact h x (hi x hx) v hv

theorem hasMember (hv : v ∈ S) :
    (sequence items).hasMember v = decide (label v ∈ items.map label) := by
  rw [Value.hasMember, Bool.eq_iff_iff, List.any_eq_true, decide_eq_true_iff, List.mem_map]
  exact exists_congr fun x => and_congr_right fun hx => h x (hi x hx) v hv

theorem findIdx? (hv : v ∈ S) :
    (items.findIdx? fun x => x.equal v) = (items.map label).idxOf? (label v) := by
  rw [List.idxOf?, List.findIdx?_map]
  exact findIdx?_congr fun x hx => h.equal_eq hi hv x hx

theorem map_distinctBy :
    (distinctBy Value.equal items).map label = distinctBy (· == ·) (items.map label) := by
  rw [distinctBy_map, distinctBy_congr fun x hx y hy => h.equal_eq hi (hi y hy) x hx]

theorem nodup_map_distinctBy : ((distinctBy Value.equal items).map label).Nodup := by
  rw [h.map_distinctBy hi]
  exact nodup_distinctBy _

theorem mem_map_distinctBy {l : Value} :
    l ∈ (distinctBy Value.equal items).map label ↔ l ∈ items.map label := by
  rw [h.map_distinctBy hi]
  exact mem_distinctBy

omit hi

section

variable {first : List Value} {others : List (List Value)}
  (hall : ∀ items ∈ first :: others, ∀ x ∈ items, x ∈ S)

include hall

theorem nodup_map_common : ((Collection.common first others).map label).Nodup := by
  have hfirst := hall first List.mem_cons_self
  exact (List.filter_sublist.map label).nodup (h.nodup_map_distinctBy hfirst)

theorem mem_map_common {l : Value} : l ∈ (Collection.common first others).map label ↔
    ∀ items ∈ first :: others, l ∈ items.map label := by
  obtain ⟨hfirst, hothers⟩ := List.forall_mem_cons.mp hall
  have hmem (v : Value) (hv : v ∈ distinctBy Value.equal first) :
      v ∈ Collection.common first others ↔ ∀ items ∈ others, label v ∈ items.map label := by
    rw [Collection.mem_common, and_iff_right hv]
    refine forall₂_congr fun items hm => ?_
    have hvS := hfirst v (distinctBy_sublist.subset hv)
    rw [h.hasMember (hothers items hm) hvS, decide_eq_true_iff]
  rw [List.forall_mem_cons, ← h.mem_map_distinctBy hfirst]
  constructor
  · intro hl
    obtain ⟨v, hv, rfl⟩ := List.mem_map.mp hl
    obtain ⟨hd, -⟩ := Collection.mem_common.mp hv
    exact ⟨List.mem_map_of_mem hd, (hmem v hd).mp hv⟩
  · rintro ⟨hl, ho⟩
    obtain ⟨v, hv, rfl⟩ := List.mem_map.mp hl
    exact List.mem_map_of_mem ((hmem v hv).mpr ho)

end

theorem setintersection {lists : List (List Value)} (hl : 2 ≤ lists.length)
    (hi : ∀ items ∈ lists, ∀ x ∈ items, x ∈ S) : ∃ kept,
      Collection.setintersection (lists.map .sequence) = .ok (.sequence kept) ∧
        (kept.map label).Nodup ∧
        ∀ l, l ∈ kept.map label ↔ ∀ items ∈ lists, l ∈ items.map label := by
  cases lists with
  | nil => exact absurd hl (by simp)
  | cons first others =>
    have hne : others ≠ [] := by
      rintro rfl
      exact absurd hl (by simp)
    exact ⟨_, Collection.setintersection_cons first hne, h.nodup_map_common hi,
      fun _ => h.mem_map_common hi⟩

/-- Lists that have the same labels, in whatever order, have equal elements in some order. -/
theorem exists_perm {xs ys : List Value} (hxs : ∀ x ∈ xs, x ∈ S) (hys : ∀ y ∈ ys, y ∈ S)
    (hperm : (xs.map label).Perm (ys.map label)) :
    ∃ zs, zs.Perm ys ∧ List.Forall₂ (fun x z => x.equal z = true) xs zs := by
  have hlabels : List.Forall₂ (fun l y => l = label y ∧ y ∈ S) (ys.map label) ys :=
    List.forall₂_map_left_iff.mpr (List.forall₂_same.mpr fun y hy => ⟨rfl, hys y hy⟩)
  obtain ⟨zs, hzs, hp⟩ := List.perm_comp_forall₂ hperm hlabels
  have hand := (List.forall₂_and_left xs zs).mpr ⟨hxs, List.forall₂_map_left_iff.mp hzs⟩
  exact ⟨zs, hp, hand.imp fun x z ⟨hx, hl, hz⟩ => (h x hx z hz).mpr hl⟩

end Labels

theorem Labels.classified (h : Labels label S) : Classified label S where
  equal := h
  memberOf _ hv _ hi := h.hasMember hi hv
  containsOperator _ hv _ hi := h.hasMember hi hv
  memberOfMapping v hv w hw hl entries := hasMember_mapping entries ((h v hv w hw).mpr hl)
  contains _ hv _ hi := by rw [Collection.contains_sequence, h.hasMember hi hv]
  index _ hv _ hi := by rw [Collection.index_sequence, h.findIdx? hi hv]
  distinct items hi := ⟨_, Collection.distinct_sequence items, h.nodup_map_distinctBy hi,
    fun _ => h.mem_map_distinctBy hi⟩
  setintersection _ hl hi := h.setintersection hl hi

/-- Two values that equal a third are equal unless they hold different integers at one place, where
the third holds a double that is nearest to both. Exactly when a set of values has no such triple
does equality have classes there, and then every function that compares values goes by them. -/
theorem equal_classes (S : Set Value) (hS : ∀ v ∈ S, v.WellFormed) :
    (∀ a ∈ S, ∀ b ∈ S, ∀ c ∈ S, a.equal b = true → b.equal c = true →
      (a.equal c = true ↔ ¬ a.Apart c)) ∧
    ((∀ a ∈ S, ∀ b ∈ S, ∀ c ∈ S, a.equal b = true → b.equal c = true → ¬ a.Apart c) ↔
      ∃ label, Classified label S) := by
  refine ⟨fun a _ b _ c _ hab hbc => ⟨fun hac ha => ha.not_equal hac, equal_trans hab hbc⟩, ?_⟩
  constructor
  · intro h
    obtain ⟨label, hlabel⟩ := exists_labels hS h
    exact ⟨label, hlabel.classified⟩
  · rintro ⟨label, h⟩ a ha b hb c hc hab hbc hapart
    have hac : label a = label c := ((h.equal a ha b hb).mp hab).trans ((h.equal b hb c hc).mp hbc)
    exact hapart.not_equal ((h.equal a ha c hc).mpr hac)

/-- An integer, the same number as a double and an integer that is equal to neither. -/
theorem equal_classes_of_three :
    let three := Value.number (.integer 3 (by decide) (by decide))
    let double := Value.number (.double ⟨false, 3 * 2 ^ 51, 1023, by decide⟩)
    let large := Value.number (.integer (2 ^ 53 + 1) (by decide) (by decide))
    (∀ v ∈ ({three, double, large} : Set Value), v.WellFormed) ∧
      three.equal double = true ∧ double.equal three = true ∧ ¬ three.Apart three ∧
      ∃ label, Classified label {three, double, large} ∧ label three = label double ∧
        label three ≠ label large := by
  intro three double large
  have hdouble : three.equal double = true := by decide +kernel
  have hthree : double.equal three = true := by decide +kernel
  have hself : three.equal three = true := by decide +kernel
  have hlarge : three.equal large = false := by decide +kernel
  have hwell (v : Value) (hv : v ∈ ({three, double, large} : Set Value)) : v.WellFormed := by
    obtain rfl | rfl | rfl := hv <;> trivial
  have hnot (a : Value) (ha : a ∈ ({three, double, large} : Set Value)) (c : Value)
      (hc : c ∈ ({three, double, large} : Set Value)) : ¬ a.Apart c := by
    obtain rfl | rfl | rfl := ha <;> obtain rfl | rfl | rfl := hc <;>
      exact mt apart_number.mp (by decide +kernel)
  obtain ⟨htriple, hclasses⟩ := equal_classes {three, double, large} hwell
  obtain ⟨label, h⟩ := hclasses.mp fun a ha _ _ c hc _ _ => hnot a ha c hc
  refine ⟨hwell, hdouble, hthree, ?_, label, h, ?_, ?_⟩
  · exact (htriple three (.inl rfl) double (.inr (.inl rfl)) three (.inl rfl) hdouble hthree).mp
      hself
  · exact (h.equal three (.inl rfl) double (.inr (.inl rfl))).mp hdouble
  · intro he
    exact Bool.eq_false_iff.mp hlarge
      ((h.equal three (.inl rfl) large (.inr (.inr rfl))).mpr he)

/-- The double 2^53 equals the integers 2^53 and 2^53 + 1, which are not equal. What is distinct
then depends on which comes first. -/
theorem not_equal_trans_two_pow_53 :
    let a := Value.number (.integer (2 ^ 53 + 1) (by decide) (by decide))
    let b := Value.number (.double ⟨false, 2 ^ 52, 1075, by decide⟩)
    let c := Value.number (.integer (2 ^ 53) (by decide) (by decide))
    a.equal b = true ∧ b.equal c = true ∧ a.equal c = false ∧
      Collection.distinct [.sequence [a, b, c]] = .ok (.sequence [a, c]) ∧
      Collection.distinct [.sequence [b, a, c]] = .ok (.sequence [b]) ∧
      ¬ ∀ a b c : Value, a.equal b = true → b.equal c = true → a.equal c = true := by
  intro a b c
  have hab : a.equal b = true := by decide +kernel
  have hbc : b.equal c = true := by decide +kernel
  have hac : a.equal c = false := by decide +kernel
  have habc : distinctBy Value.equal [a, b, c] = [a, c] := by decide +kernel
  have hbac : distinctBy Value.equal [b, a, c] = [b] := by decide +kernel
  rw [Collection.distinct_sequence, Collection.distinct_sequence, habc, hbac]
  refine ⟨hab, hbc, hac, rfl, rfl, fun h => ?_⟩
  exact Bool.eq_false_iff.mp hac (h a b c hab hbc)

end Value

end SnapshotRules
