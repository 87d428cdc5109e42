import Mathlib
import SnapshotRules.Proofs.Function.Duplicates
import SnapshotRules.Proofs.Value.Classes

/-! # Common elements

Of the elements that are common to all sequences the first one of each kind is kept. Duplicates are
removed first, so a common element is lost if the one kept in its place is not common itself. This
takes an element that equals two different integers.
-/

namespace SnapshotRules

namespace Sequence

variable {first first' : Sequence} {others others' : List Sequence} {v x : Value}

/-- The elements of the first sequence that the intersection keeps. -/
def common (first : Sequence) (others : List Sequence) : Sequence :=
  first.sub (Collection.common first.items (others.map items)) Collection.common_sublist

theorem mem_common : v ∈ (first.common others).items ↔
    v ∈ distinctBy Value.equal first.items ∧ ∀ t ∈ others, t.toValue.hasMember v = true :=
  Collection.mem_common.trans (and_congr_right' List.forall_mem_map)

theorem common_sublist : (first.common others).items.Sublist first.items :=
  Collection.common_sublist

theorem setintersection_cons (first : Sequence) (ho : others ≠ []) :
    Collection.setintersection ((first :: others).map toValue) =
      .ok (first.common others).toValue := by
  have hl : (first :: others).map toValue = (first.items :: others.map items).map .sequence := by
    rw [List.map_cons, List.map_cons, List.map_map]
    rfl
  rw [hl]
  exact Collection.setintersection_cons first.items (mt List.map_eq_nil_iff.mp ho)

/-- An element that all sequences have is equal to a common one, unless the element that is kept in
its place and one of another sequence hold different integers. -/
theorem exists_mem_common_or (hx : x ∈ first.items)
    (h : ∀ t ∈ others, ∃ w ∈ t.items, x.equal w = true) :
    (∃ v ∈ (first.common others).items, v.equal x = true) ∨
      ∃ u ∈ first.items, u.equal x = true ∧
        ∃ t ∈ others, ∃ w ∈ t.items, x.equal w = true ∧ u.Apart w := by
  obtain ⟨u, hu, -, hux⟩ := exists_mem_distinctBy hx
  have huf := distinctBy_sublist.subset hu
  by_cases hc : ∀ t ∈ others, t.toValue.hasMember u = true
  · exact .inl ⟨u, mem_common.mpr ⟨hu, hc⟩, hux⟩
  · push Not at hc
    obtain ⟨t, ht, hnone⟩ := hc
    obtain ⟨w, hw, hxw⟩ := h t ht
    refine .inr ⟨u, huf, hux, t, ht, w, hw, hxw, ?_⟩
    by_contra hapart
    have huw := Value.equal_trans hux hxw hapart
    rw [equal_comm huf hw] at huw
    exact hnone (List.any_eq_true.mpr ⟨w, hw, huw⟩)

/-- Where no element equals two that are apart, the order of the sequences decides only which of
equal elements is kept, and in which place. -/
theorem exists_perm_common (htriple : ∀ a ∈ (first :: others).flatMap items,
      ∀ b ∈ (first :: others).flatMap items, ∀ c ∈ (first :: others).flatMap items,
        a.equal b = true → b.equal c = true → ¬ a.Apart c)
    (hp : (first :: others).Perm (first' :: others')) :
    ∃ reordered, reordered.Perm (first'.common others').items ∧
      List.Forall₂ (fun v w => v.equal w = true) (first.common others).items reordered := by
  let S : Set Value := {v | v ∈ (first :: others).flatMap items}
  have hS (v : Value) (hv : v ∈ S) : v.WellFormed := by
    obtain ⟨t, -, hv⟩ := List.mem_flatMap.mp hv
    exact t.wellFormed v hv
  have hin : ∀ xs ∈ (first :: others).map items, ∀ x ∈ xs, x ∈ S :=
    List.forall_mem_map.mpr fun t ht x hx => List.mem_flatMap.mpr ⟨t, ht, hx⟩
  have hpitems := hp.map items
  have hin' (xs : List Value) (hi : xs ∈ (first' :: others').map items) : ∀ x ∈ xs, x ∈ S :=
    hin xs (hpitems.mem_iff.mpr hi)
  obtain ⟨label, h⟩ := Value.exists_labels hS htriple
  have hlabels : ((first.common others).items.map label).Perm
      ((first'.common others').items.map label) := by
    refine (List.perm_ext_iff_of_nodup (h.nodup_map_common hin) (h.nodup_map_common hin')).mpr ?_
    intro l
    exact (h.mem_map_common hin).trans
      ((forall_congr' fun xs => imp_congr_left hpitems.mem_iff).trans (h.mem_map_common hin').symm)
  refine h.exists_perm ?_ ?_ hlabels
  · intro v hv
    exact hin first.items List.mem_cons_self v (common_sublist.subset hv)
  · intro v hv
    exact hin' first'.items List.mem_cons_self v (common_sublist.subset hv)

end Sequence

namespace Collection

/-- The intersection of two or more sequences holds elements of the first one in their order, none
equal to another, that have an equal element in every other sequence. An element of the first that
has one is equal to an element of the intersection, unless an equal element of the first and one of
another sequence hold different integers with one nearest double. Without such triples the
sequences may come in any order, up to equality and the order of the intersection. -/
theorem setintersection_common (first : Sequence) {others : List Sequence} (ho : others ≠ []) :
    ∃ kept : Sequence,
    setintersection ((first :: others).map Sequence.toValue) = .ok kept.toValue ∧
      kept.items.Sublist first.items ∧
      (kept.items.Pairwise fun x y => x.equal y = false ∧ y.equal x = false) ∧
      (∀ v ∈ kept.items, ∀ t ∈ others, ∃ w ∈ t.items, v.equal w = true ∧ w.equal v = true) ∧
      (∀ x ∈ first.items, (∀ t ∈ others, ∃ w ∈ t.items, x.equal w = true) →
        (∃ v ∈ kept.items, v.equal x = true) ∨
          ∃ u ∈ first.items, u.equal x = true ∧
            ∃ t ∈ others, ∃ w ∈ t.items, x.equal w = true ∧ u.Apart w) ∧
      ((∀ a ∈ (first :: others).flatMap Sequence.items,
          ∀ b ∈ (first :: others).flatMap Sequence.items,
          ∀ c ∈ (first :: others).flatMap Sequence.items,
            a.equal b = true → b.equal c = true → ¬ a.Apart c) →
        ∀ lists : List Sequence, (first :: others).Perm lists →
          ∃ (kept' : Sequence) (reordered : List Value),
            setintersection (lists.map Sequence.toValue) = .ok kept'.toValue ∧
              reordered.Perm kept'.items ∧
              List.Forall₂ (fun v w => v.equal w = true) kept.items reordered) := by
  refine ⟨first.common others, first.setintersection_cons ho, Sequence.common_sublist, ?_, ?_,
    fun x hx h => Sequence.exists_mem_common_or hx h, ?_⟩
  · exact first.pairwise_distinctBy.sublist List.filter_sublist
  · intro v hv t ht
    obtain ⟨w, hw, he⟩ := List.any_eq_true.mp ((Sequence.mem_common.mp hv).2 t ht)
    refine ⟨w, hw, ?_, he⟩
    rwa [Sequence.equal_comm (Sequence.common_sublist.subset hv) hw]
  · intro htriple lists hp
    cases lists with
    | nil => exact absurd hp.length_eq (by simp)
    | cons first' others' =>
      have ho' : others' ≠ [] := by
        rintro rfl
        exact ho (List.length_eq_zero_iff.mp (Nat.succ.inj hp.length_eq))
      obtain ⟨reordered, hr, heq⟩ := Sequence.exists_perm_common htriple hp
      exact ⟨_, reordered, first'.setintersection_cons ho', hr, heq⟩

/-- The number 3 is common in both of its representations. Which one is kept and where depends on
the order of the sequences. -/
theorem setintersection_common_of_two :
    let double := Value.number (.double ⟨false, 3 * 2 ^ 51, 1023, by decide⟩)
    let three := Value.number (.integer 3 (by decide) (by decide))
    let five := Value.number (.integer 5 (by decide) (by decide))
    let long : Sequence := ⟨[double, three, five], by simp [double, three, five, Value.WellFormed]⟩
    let short : Sequence := ⟨[five, three], by simp [three, five, Value.WellFormed]⟩
    setintersection [long.toValue, short.toValue] = .ok (.sequence [double, five]) ∧
      setintersection [short.toValue, long.toValue] = .ok (.sequence [five, three]) ∧
      (∃ v ∈ [double, five], v.equal three = true) ∧
      ∃ reordered, reordered.Perm [five, three] ∧
        List.Forall₂ (fun v w => v.equal w = true) [double, five] reordered := by
  intro double three five long short
  have hnot : ∀ a ∈ [double, three, five, five, three],
      ∀ c ∈ [double, three, five, five, three], ¬ a.Apart c := by
    simp only [List.forall_mem_cons, List.not_mem_nil, false_implies, implies_true, and_true]
    refine ⟨?_, ?_, ?_, ?_, ?_⟩ <;> refine ⟨?_, ?_, ?_, ?_, ?_⟩ <;>
      exact mt Value.apart_number.mp (by decide +kernel)
  have hdouble : common [double, three, five] [[five, three]] = [double, five] := by decide +kernel
  have hfive : common [five, three] [[double, three, five]] = [five, three] := by decide +kernel
  have hforward := setintersection_cons [double, three, five] (List.cons_ne_nil [five, three] [])
  have hback := setintersection_cons [five, three] (List.cons_ne_nil [double, three, five] [])
  rw [hdouble] at hforward
  rw [hfive] at hback
  obtain ⟨kept, hkept, -, -, -, hcommon, hperm⟩ :=
    setintersection_common long (List.cons_ne_nil short [])
  obtain ⟨kept', reordered, hkept', hreordered, hequal⟩ :=
    hperm (fun a ha _ _ c hc _ _ => hnot a ha c hc) _ (.swap _ _ [])
  have hitems := Value.sequence.inj (Except.ok.inj (hforward.symm.trans hkept))
  have hitems' := Value.sequence.inj (Except.ok.inj (hback.symm.trans hkept'))
  rw [← hitems] at hcommon hequal
  rw [← hitems'] at hreordered
  refine ⟨hforward, hback, ?_, reordered, hreordered, hequal⟩
  have hself : three.equal three = true := by decide +kernel
  refine (hcommon three (by simp [long]) fun t ht => ⟨three, ?_, hself⟩).resolve_right ?_
  · rw [List.mem_singleton.mp ht]
    simp [short]
  · rintro ⟨u, hu, -, t, ht, w, hw, -, hapart⟩
    rw [List.mem_singleton.mp ht] at hw
    exact hnot u (List.mem_append_left [five, three] hu) w
      (List.mem_append_right [double, three, five] hw) hapart

/-- The double 2^53 equals the integer 2^53 but is removed as a duplicate of 2^53 + 1, which is not
common, and so nothing is. In the other order the integer 2^53 is found to be common. -/
theorem not_setintersection_common_two_pow_53 :
    let a := Value.number (.integer (2 ^ 53 + 1) (by decide) (by decide))
    let b := Value.number (.double ⟨false, 2 ^ 52, 1075, by decide⟩)
    let c := Value.number (.integer (2 ^ 53) (by decide) (by decide))
    b.equal c = true ∧
      setintersection [.sequence [a, b], .sequence [c]] = .ok (.sequence []) ∧
      setintersection [.sequence [c], .sequence [a, b]] = .ok (.sequence [c]) ∧
      ¬ ∀ (first second kept : List Value),
        setintersection [.sequence first, .sequence second] = .ok (.sequence kept) →
          ∀ x ∈ first, (∃ w ∈ second, x.equal w = true) → ∃ v ∈ kept, v.equal x = true := by
  intro a b c
  have hbc : b.equal c = true := by decide +kernel
  have hnone : common [a, b] [[c]] = [] := by decide +kernel
  have hone : common [c] [[a, b]] = [c] := by decide +kernel
  have hab := setintersection_cons [a, b] (List.cons_ne_nil [c] [])
  have hba := setintersection_cons [c] (List.cons_ne_nil [a, b] [])
  rw [hnone] at hab
  rw [hone] at hba
  refine ⟨hbc, hab, hba, fun h => ?_⟩
  obtain ⟨v, hv, -⟩ := h [a, b] [c] [] hab b (by simp) ⟨c, by simp, hbc⟩
  exact List.not_mem_nil hv

end Collection

end SnapshotRules
