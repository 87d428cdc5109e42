import Mathlib
import SnapshotRules.Proofs.Value.Equality

/-! # The order of entries

Equality is reflexive and symmetric, and it does not see in which order the entries of a mapping
stand, however deep in a value the mapping is.
-/

namespace SnapshotRules.Value

/-- The second value is the first with entries of its mappings, at any depth, in another order. -/
inductive Reordered : Value → Value → Prop
  | entries {xs ys : Entries Value} : xs.Perm ys → Reordered (.mapping xs) (.mapping ys)
  | item {x y : Value} (before after : List Value) : Reordered x y →
      Reordered (.sequence (before ++ x :: after)) (.sequence (before ++ y :: after))
  | entry {x y : Value} (before : Entries Value) (k : String) (after : Entries Value) :
      Reordered x y →
      Reordered (.mapping (before ++ (k, x) :: after)) (.mapping (before ++ (k, y) :: after))
  | refl (v : Value) : Reordered v v
  | trans {x y z : Value} : Reordered x y → Reordered y z → Reordered x z

variable {a b c : Value}

theorem equalItems_append (before : List Value) {xs ys : List Value} :
    (∀ zs, equalItems xs zs = equalItems ys zs) →
      ∀ zs, equalItems (before ++ xs) zs = equalItems (before ++ ys) zs := by
  intro h
  induction before with
  | nil => exact h
  | cons b before ih =>
    intro zs
    cases zs with
    | nil => rfl
    | cons z zs => rw [List.cons_append, List.cons_append, equalItems, equalItems, ih]

theorem Reordered.equal_eq (h : a.Reordered b) (c : Value) : a.equal c = b.equal c := by
  induction h generalizing c with
  | refl => rfl
  | trans _ _ ih ih' => exact (ih c).trans (ih' c)
  | entries h =>
    rw [Bool.eq_iff_iff, mapping_equal, mapping_equal]
    simp only [h.length_eq, h.mem_iff]
  | item before after _ ih =>
    cases c with
    | sequence zs =>
      refine equalItems_append before (fun zs => ?_) zs
      cases zs with
      | nil => rfl
      | cons z zs => rw [equalItems, equalItems, ih]
    | _ => rfl
  | entry before k after _ ih =>
    rw [Bool.eq_iff_iff, mapping_equal, mapping_equal]
    simp only [List.length_append, List.length_cons, List.forall_mem_append,
      List.forall_mem_cons, ih]

theorem Reordered.wellFormed (h : a.Reordered b) (ha : a.WellFormed) : b.WellFormed := by
  induction h with
  | refl => exact ha
  | trans _ _ ih ih' => exact ih' (ih ha)
  | entries h =>
    obtain ⟨hn, hxs⟩ := wellFormed_mapping.mp ha
    exact wellFormed_mapping.mpr
      ⟨(h.map Prod.fst).nodup_iff.mp hn, fun entry hm => hxs entry (h.mem_iff.mpr hm)⟩
  | item before after _ ih =>
    simp only [wellFormed_sequence, List.forall_mem_append, List.forall_mem_cons] at ha ⊢
    exact ⟨ha.1, ih ha.2.1, ha.2.2⟩
  | entry before k after _ ih =>
    simp only [wellFormed_mapping, Entries.keys, List.map_append, List.map_cons,
      List.forall_mem_append, List.forall_mem_cons] at ha ⊢
    exact ⟨ha.1, ha.2.1, ih ha.2.2.1, ha.2.2.2⟩

theorem equal_comm (ha : a.WellFormed) (hb : b.WellFormed) : a.equal b = b.equal a :=
  Bool.eq_iff_iff.mpr ⟨equal_symm ha hb, equal_symm hb ha⟩

/-- Equality is reflexive, symmetric, and the same for reordered values. -/
theorem equal_reordered (ha : a.WellFormed) (hb : b.WellFormed) :
    a.equal a = true ∧ a.equal b = b.equal a ∧
      ∀ a' b', a.Reordered a' → b.Reordered b' → a'.equal b' = a.equal b := by
  refine ⟨equal_self ha, equal_comm ha hb, fun a' b' hra hrb => ?_⟩
  calc a'.equal b'
      = a.equal b' := (hra.equal_eq b').symm
    _ = b'.equal a := equal_comm ha (hrb.wellFormed hb)
    _ = b.equal a := (hrb.equal_eq a).symm
    _ = a.equal b := equal_comm hb ha

/-- The entries of a mapping inside a sequence change places, and the mapping still equals one that
holds the same number as a double. -/
theorem equal_reordered_nested :
    let two := Value.number (.integer 2 (by decide) (by decide))
    let double := Value.number (.double ⟨false, 2 ^ 52, 1023, by decide⟩)
    let a := mapping [("k", .sequence [.mapping [("x", two), ("y", .null)]]), ("l", .bool true)]
    let a' := mapping [("k", .sequence [.mapping [("y", .null), ("x", two)]]), ("l", .bool true)]
    let b := mapping [("l", .bool true), ("k", .sequence [.mapping [("y", .null), ("x", double)]])]
    a.WellFormed ∧ b.WellFormed ∧ a.Reordered a' ∧ a ≠ a' ∧
      b.equal a = true ∧ a'.equal b = true := by
  intro two double a a' b
  have ha : a.WellFormed :=
    ⟨by decide, ⟨⟨by decide, trivial, trivial, trivial⟩, trivial⟩, trivial, trivial⟩
  have hb : b.WellFormed :=
    ⟨by decide, trivial, ⟨⟨by decide, trivial, trivial, trivial⟩, trivial⟩, trivial⟩
  have hr : a.Reordered a' := .entry [] "k" _ (.item [] [] (.entries (.swap _ _ [])))
  have hab : a.equal b = true := by decide +kernel
  obtain ⟨-, hsymm, hreordered⟩ := equal_reordered ha hb
  refine ⟨ha, hb, hr, by decide +kernel, hsymm ▸ hab, ?_⟩
  rw [hreordered a' b hr (.refl b), hab]

end SnapshotRules.Value
