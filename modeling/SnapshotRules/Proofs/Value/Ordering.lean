import Mathlib
import SnapshotRules.Proofs.Number.Order

/-! # Order of values

The operators of order agree with each other, and the smaller value comes strictly before the larger
one. Pairs of integers below 2^63 are compared exactly and all other pairs of numbers as doubles.
These two comparisons fit together because rounding to a double never turns the order of two
integers around.
-/

namespace SnapshotRules

namespace Number

variable {a b c : Number}

/-- Two integers below 2^63, the smaller one first. -/
def Precedes : Number → Number → Prop
  | .integer i _ _, .integer j _ _ => i < j ∧ j < 2 ^ 63
  | _, _ => False

theorem Precedes.trans (hab : a.Precedes b) (hbc : b.Precedes c) : a.Precedes c := by
  cases a with
  | double => exact hab.elim
  | integer i =>
    cases b with
    | double => exact hab.elim
    | integer j =>
      cases c with
      | double => exact hbc.elim
      | integer k => exact ⟨hab.1.trans hbc.1, hbc.2⟩

theorem units_le_of_lt {i j : Int} (hi : -2 ^ 63 ≤ i) (ui : i < 2 ^ 64) (hj : -2 ^ 63 ≤ j)
    (uj : j < 2 ^ 64) (h : i < j) : (integer i hi ui).units ≤ (integer j hj uj).units :=
  Int.mul_le_mul_of_nonneg_right (Double.nearestInt_mono h.le) (Int.natCast_nonneg _)

/-- The nearest doubles decide, and only where they are the same the integers do. -/
theorem order_eq_lt_iff :
    a.order b = .lt ↔ a.units < b.units ∨ a.units = b.units ∧ a.Precedes b := by
  cases a with
  | double d => cases b <;> simp [order, Precedes, compare_lt_iff_lt]
  | integer i hi ui =>
    cases b with
    | double e => simp [order, Precedes, compare_lt_iff_lt]
    | integer j hj uj =>
      rw [order]
      split
      · next hs =>
        rw [compare_lt_iff_lt]
        constructor
        · intro h
          exact (units_le_of_lt hi ui hj uj h).lt_or_eq.imp_right fun he => ⟨he, h, hs.2⟩
        · rintro (h | ⟨-, h, -⟩)
          · by_contra hn
            rcases (not_lt.mp hn).lt_or_eq with hlt | rfl
            · exact (units_le_of_lt hj uj hi ui hlt).not_gt h
            · exact lt_irrefl _ h
          · exact h
      · next hs =>
        rw [compare_lt_iff_lt, or_iff_left]
        rintro ⟨-, h, hj⟩
        exact hs ⟨h.trans hj, hj⟩

theorem order_swap (a b : Number) : (a.order b).swap = b.order a := by
  have hswap (i j : Int) : (compare i j).swap = compare j i := Std.OrientedCmp.eq_swap.symm
  cases a with
  | double => cases b <;> exact hswap _ _
  | integer i =>
    cases b with
    | double => exact hswap _ _
    | integer j =>
      rw [order, order, apply_ite Ordering.swap]
      exact ite_congr (propext and_comm) (fun _ => hswap _ _) fun _ => hswap _ _

theorem order_trans (hab : a.order b = .lt) (hbc : b.order c = .lt) : a.order c = .lt := by
  rw [order_eq_lt_iff] at hab hbc ⊢
  rcases hab with hab | ⟨hab, pab⟩ <;> rcases hbc with hbc | ⟨hbc, pbc⟩
  · exact .inl (hab.trans hbc)
  · exact .inl (hbc ▸ hab)
  · exact .inl (hab ▸ hbc)
  · exact .inr ⟨hab.trans hbc, pab.trans pbc⟩

end Number

namespace Value

variable {a b c : Value}

def Comparable (a b : Value) : Prop :=
  (∃ n m, a = .number n ∧ b = .number m) ∨ ∃ s t, a = .string s ∧ b = .string t

theorem order?_swap (a b : Value) : (a.order? b).map Ordering.swap = b.order? a := by
  cases a <;> cases b <;> simp only [order?, Option.map_none, Option.map_some]
  · rw [Number.order_swap]
  · rw [← Std.OrientedCmp.eq_swap]

theorem order?_trans (hab : a.order? b = some .lt) (hbc : b.order? c = some .lt) :
    a.order? c = some .lt := by
  cases b with
  | number m =>
    cases a <;> cases c <;> simp only [order?, reduceCtorEq, Option.some.injEq] at hab hbc ⊢
    exact Number.order_trans hab hbc
  | string t =>
    cases a <;> cases c <;> simp only [order?, reduceCtorEq, Option.some.injEq] at hab hbc ⊢
    exact Std.TransCmp.lt_trans hab hbc
  | _ => cases c <;> simp [order?] at hbc

theorem order?_eq_none_iff : a.order? b = none ↔ ¬ a.Comparable b := by
  cases a <;> cases b <;> simp [order?, Comparable]

/-! ## The operators -/

theorem satisfies_less : a.satisfies .less b = true ↔ a.order? b = some .lt := by
  simp [satisfies, ordered, Option.any_eq_true]

theorem satisfies_less_asymm (h : a.satisfies .less b = true) : b.satisfies .less a = false := by
  rw [Bool.eq_false_iff, ne_eq, satisfies_less, ← order?_swap, satisfies_less.mp h]
  simp

theorem satisfies_greater (a b : Value) : a.satisfies .greater b = b.satisfies .less a := by
  rw [satisfies, satisfies, ordered, ordered, ← order?_swap a b, Option.any_map]
  congr 1
  funext o
  cases o <;> rfl

/-- The smaller value comes strictly before the larger one, and the other operators of order say the
same of two numbers or two strings. They hold of no other values. -/
theorem less_strictOrder :
    (∀ a : Value, a.satisfies .less a = false) ∧
    (∀ a b : Value, a.satisfies .less b = true → b.satisfies .less a = false) ∧
    (∀ a b c : Value, a.satisfies .less b = true → b.satisfies .less c = true →
      a.satisfies .less c = true) ∧
    (∀ a b : Value, a.satisfies .greater b = b.satisfies .less a) ∧
    (∀ a b : Value, a.Comparable b →
      a.satisfies .lessOrEqual b = !a.satisfies .greater b ∧
      a.satisfies .greaterOrEqual b = !a.satisfies .less b) ∧
    ∀ a b : Value, ¬ a.Comparable b →
      ∀ op ∈ [Operator.less, .lessOrEqual, .greater, .greaterOrEqual],
        a.satisfies op b = false := by
  refine ⟨fun a => ?_, fun _ _ => satisfies_less_asymm, fun a b c hab hbc => ?_,
    satisfies_greater, fun a b h => ?_, fun a b h op hop => ?_⟩
  · by_contra hn
    exact hn (satisfies_less_asymm (by simpa using hn))
  · rw [satisfies_less] at hab hbc ⊢
    exact order?_trans hab hbc
  · obtain ⟨o, ho⟩ := Option.ne_none_iff_exists'.mp (mt order?_eq_none_iff.mp (not_not.mpr h))
    rw [satisfies, satisfies, satisfies, satisfies, ordered, ordered, ordered, ordered, ho]
    exact ⟨rfl, rfl⟩
  · have ho := order?_eq_none_iff.mpr h
    simp only [List.mem_cons, List.not_mem_nil, or_false] at hop
    rcases hop with rfl | rfl | rfl | rfl <;> rw [satisfies, ordered, ho] <;> rfl

/-- The first two integers have one nearest double and are compared exactly, the others are not. -/
theorem less_strictOrder_across_two_pow_53 :
    let a := Value.number (.integer (2 ^ 53) (by decide) (by decide))
    let b := Value.number (.integer (2 ^ 53 + 1) (by decide) (by decide))
    let c := Value.number (.double ⟨false, 2 ^ 52 + 1, 1075, by decide⟩)
    a.satisfies .less b = true ∧ b.satisfies .less c = true ∧ a.satisfies .less c = true ∧
      c.satisfies .greater a = true ∧ c.satisfies .lessOrEqual a = false ∧
      Value.null.satisfies .lessOrEqual .null = false := by
  intro a b c
  obtain ⟨-, -, htrans, hgreater, hcomparable, hother⟩ := less_strictOrder
  have hab : a.satisfies .less b = true := by decide +kernel
  have hbc : b.satisfies .less c = true := by decide +kernel
  have hac := htrans a b c hab hbc
  have hca : c.satisfies .greater a = true := (hgreater c a).trans hac
  refine ⟨hab, hbc, hac, hca, ?_, ?_⟩
  · rw [(hcomparable c a (.inl ⟨_, _, rfl, rfl⟩)).1, hca]
    rfl
  · exact hother .null .null (by simp [Comparable]) _ (by simp)

end Value

end SnapshotRules
