import Mathlib
import SnapshotRules.Proofs.Number.Rounding
import SnapshotRules.Rule.Evaluation

/-! # Order of integers

Rounding to a double keeps the order of integers, but may make two of them the same. Integers
below 2^63 are compared exactly. Of two larger ones equality is exact as well, and their order is
exact as long as the nearest doubles differ.
-/

namespace SnapshotRules

/-! ## Rounding is monotone -/

theorem roundHalfEven_bounds (n : Nat) {d : Nat} (hd : 0 < d) :
    2 * (roundHalfEven n d * d) ≤ 2 * n + d ∧ 2 * n ≤ 2 * (roundHalfEven n d * d) + d := by
  have hn := Nat.div_add_mod n d
  have hr := Nat.mod_lt n hd
  unfold roundHalfEven
  generalize n / d = q at hn ⊢
  generalize n % d = r at hn hr ⊢
  subst hn
  rw [Nat.mul_comm d q]
  simp only
  split_ifs with hlow hhigh
  · omega
  · rw [Nat.add_one_mul q d]
    omega
  · obtain he | he : q % 2 = 0 ∨ q % 2 = 1 := by omega
    · rw [he, Nat.add_zero]
      omega
    · rw [he, Nat.add_one_mul q d]
      omega

/-- Rounding is monotone: two results can only cross where both ratios are the one point half way
between them. -/
theorem roundHalfEven_mono {n n' d : Nat} (hd : 0 < d) (h : n ≤ n') :
    roundHalfEven n d ≤ roundHalfEven n' d := by
  by_contra hn
  obtain ⟨-, hupper⟩ := roundHalfEven_bounds n' hd
  obtain ⟨hlower, -⟩ := roundHalfEven_bounds n hd
  have hstep := Nat.mul_le_mul_right d (show roundHalfEven n' d + 1 ≤ roundHalfEven n d by omega)
  rw [Nat.add_one_mul] at hstep
  obtain rfl : n = n' := by omega
  exact hn le_rfl

namespace Double

theorem excess_mono {n n' : Nat} (h : n ≤ n') : excess n ≤ excess n' := by
  have hlog : n.log2 ≤ n'.log2 := by
    rw [Nat.log2_eq_log_two, Nat.log2_eq_log_two]
    exact Nat.log_mono_right h
  unfold excess
  omega

theorem lt_two_pow_excess (n : Nat) : n < 2 ^ 53 * 2 ^ excess n := by
  rw [← Nat.pow_add]
  refine Nat.lt_of_lt_of_le Nat.lt_log2_self (Nat.pow_le_pow_right (by decide) ?_)
  unfold excess
  omega

theorem two_pow_excess_le {n : Nat} (h : 0 < excess n) : 2 ^ 52 * 2 ^ excess n ≤ n := by
  unfold excess at h ⊢
  have hn : n ≠ 0 := by
    rintro rfl
    exact absurd h (by decide)
  rw [← Nat.pow_add, ← Nat.le_log2 hn]
  omega

theorem roundHalfEven_of_dvd (m : Nat) {d : Nat} (hd : 0 < d) : roundHalfEven (m * d) d = m :=
  roundHalfEven_eq (by linarith) (by linarith) (fun _ => ⟨by linarith, by linarith⟩) hd

/-- Across exponents, a power of two that both grids hold lies between the two numbers. -/
theorem nearestNat_mono {n n' : Nat} (h : n ≤ n') : nearestNat n ≤ nearestNat n' := by
  have hpos := fun k : Nat => Nat.two_pow_pos (excess k)
  unfold nearestNat
  rcases Nat.eq_or_lt_of_le (excess_mono h) with he | he
  · rw [he]
    exact Nat.mul_le_mul_right _ (roundHalfEven_mono (hpos n') h)
  · have hn : roundHalfEven n (2 ^ excess n) ≤ 2 ^ 53 := by
      rw [← roundHalfEven_of_dvd (2 ^ 53) (hpos n)]
      exact roundHalfEven_mono (hpos n) (lt_two_pow_excess n).le
    have hn' : 2 ^ 52 ≤ roundHalfEven n' (2 ^ excess n') := by
      rw [← roundHalfEven_of_dvd (2 ^ 52) (hpos n')]
      exact roundHalfEven_mono (hpos n') (two_pow_excess_le (by omega))
    calc roundHalfEven n (2 ^ excess n) * 2 ^ excess n
        ≤ 2 ^ 53 * 2 ^ excess n := Nat.mul_le_mul_right _ hn
      _ = 2 ^ (53 + excess n) := (Nat.pow_add 2 53 _).symm
      _ ≤ 2 ^ (52 + excess n') := Nat.pow_le_pow_right (by decide) (by omega)
      _ = 2 ^ 52 * 2 ^ excess n' := Nat.pow_add 2 52 _
      _ ≤ roundHalfEven n' (2 ^ excess n') * 2 ^ excess n' := Nat.mul_le_mul_right _ hn'

theorem nearestInt_mono {i j : Int} (h : i ≤ j) : nearestInt i ≤ nearestInt j := by
  unfold nearestInt
  split_ifs with hi hj hj
  · have := nearestNat_mono (show j.natAbs ≤ i.natAbs by omega)
    omega
  · omega
  · omega
  · have := nearestNat_mono (show i.natAbs ≤ j.natAbs by omega)
    omega

theorem one_pos : 0 < one := by
  unfold one
  positivity

end Double

/-! ## Comparison of integers -/

theorem compare_mul_right {i j k : Int} (hk : 0 < k) : compare (i * k) (j * k) = compare i j := by
  rcases lt_trichotomy i j with h | rfl | h
  · rw [compare_lt_iff_lt.mpr h, compare_lt_iff_lt.mpr (Int.mul_lt_mul_of_pos_right h hk)]
  · rw [compare_eq_iff_eq.mpr rfl, compare_eq_iff_eq.mpr rfl]
  · rw [compare_gt_iff_gt.mpr h, compare_gt_iff_gt.mpr (Int.mul_lt_mul_of_pos_right h hk)]

/-- The answer of a comparison operator on integers, which have no members. -/
def Operator.holds : Operator → Int → Int → Bool
  | .equal, i, j => i = j
  | .notEqual, i, j => i ≠ j
  | .greater, i, j => j < i
  | .greaterOrEqual, i, j => j ≤ i
  | .less, i, j => i < j
  | .lessOrEqual, i, j => i ≤ j
  | .memberOf, _, _ | .contains, _, _ => false

variable {a b : Number} {i j : Int}

theorem Value.satisfies_of_order (he : a.equal b = decide (i = j)) (ho : a.order b = compare i j)
    (op : Operator) : (Value.number a).satisfies op (.number b) = op.holds i j := by
  rcases lt_trichotomy i j with h | rfl | h
  · rw [compare_lt_iff_lt.mpr h] at ho
    cases op <;>
      simp [satisfies, ordered, order?, hasMember, equal, Operator.holds, he, ho, h, h.le, h.ne,
        h.not_gt]
  · rw [compare_eq_iff_eq.mpr rfl] at ho
    cases op <;> simp [satisfies, ordered, order?, hasMember, equal, Operator.holds, he, ho]
  · rw [compare_gt_iff_gt.mpr h] at ho
    cases op <;>
      simp [satisfies, ordered, order?, hasMember, equal, Operator.holds, he, ho, h, h.le, h.ne',
        h.not_gt]

namespace Number

variable {hi : -2 ^ 63 ≤ i} {ui : i < 2 ^ 64} {hj : -2 ^ 63 ≤ j} {uj : j < 2 ^ 64}

theorem order_integer : (integer i hi ui).order (integer j hj uj) =
    if i < 2 ^ 63 ∧ j < 2 ^ 63 then compare i j
    else compare (Double.nearestInt i) (Double.nearestInt j) := by
  rw [order]
  split
  · rfl
  · exact compare_mul_right (Int.natCast_pos.mpr Double.one_pos)

theorem order_integer_eq_compare_iff :
    (integer i hi ui).order (integer j hj uj) = compare i j ↔
      i < 2 ^ 63 ∧ j < 2 ^ 63 ∨ i = j ∨ Double.nearestInt i ≠ Double.nearestInt j := by
  rw [order_integer]
  split
  · next hs => exact iff_of_true rfl (.inl hs)
  · next hs =>
    rw [or_iff_right hs]
    rcases lt_trichotomy i j with h | rfl | h
    · have hle := Double.nearestInt_mono h.le
      rw [compare_lt_iff_lt.mpr h, compare_lt_iff_lt]
      simp [h.ne, hle.lt_iff_ne]
    · simp
    · have hle := Double.nearestInt_mono h.le
      rw [compare_gt_iff_gt.mpr h, compare_gt_iff_gt]
      simp [h.ne', hle.lt_iff_ne, eq_comm]

end Number

namespace Value

variable (i j : Int) (hi : -2 ^ 63 ≤ i) (ui : i < 2 ^ 64) (hj : -2 ^ 63 ≤ j) (uj : j < 2 ^ 64)

/-- Equality of integers is exact. All operators are, except on two different integers that
have the same nearest double, one of them not below 2^63. -/
theorem satisfies_integers :
    (∀ op, op = .equal ∨ op = .notEqual →
      (Value.number (.integer i hi ui)).satisfies op (.number (.integer j hj uj)) =
        op.holds i j) ∧
    ((∀ op : Operator,
      (Value.number (.integer i hi ui)).satisfies op (.number (.integer j hj uj)) =
        op.holds i j) ↔
      i < 2 ^ 63 ∧ j < 2 ^ 63 ∨ i = j ∨ Double.nearestInt i ≠ Double.nearestInt j) := by
  have he : (Number.integer i hi ui).equal (.integer j hj uj) = decide (i = j) := rfl
  refine ⟨?_, fun h => ?_, fun h => ?_⟩
  · rintro op (rfl | rfl) <;> simp [satisfies, equal, he, Operator.holds]
  · by_contra hn
    simp only [not_or, not_not] at hn
    obtain ⟨hs, hne, hd⟩ := hn
    have ho : (Number.integer i hi ui).order (.integer j hj uj) = .eq := by
      rw [Number.order_integer, if_neg hs, hd, compare_eq_iff_eq]
    have hless := h .less
    have hgreater := h .greater
    simp [satisfies, ordered, order?, ho, Operator.holds] at hless hgreater
    omega
  · exact satisfies_of_order he (Number.order_integer_eq_compare_iff.mpr h)

/-- Below 2^63 no operator is mistaken, even between integers with one nearest double. -/
theorem satisfies_two_pow_53 :
    let a := Value.number (.integer (2 ^ 53) (by decide) (by decide))
    let b := Value.number (.integer (2 ^ 53 + 1) (by decide) (by decide))
    (∀ op : Operator, a.satisfies op b = op.holds (2 ^ 53) (2 ^ 53 + 1)) ∧
      Double.nearestInt (2 ^ 53) = Double.nearestInt (2 ^ 53 + 1) := by
  have hsmall : (2 ^ 53 : Int) < 2 ^ 63 ∧ (2 ^ 53 + 1 : Int) < 2 ^ 63 := by decide
  exact ⟨(satisfies_integers (2 ^ 53) (2 ^ 53 + 1) (by decide) (by decide) (by decide)
    (by decide)).2.mpr (.inl hsmall), by decide +kernel⟩

/-- Of 2^63 and its successor neither is less than the other, and they are not equal. -/
theorem not_satisfies_less_two_pow_63 :
    let a := Value.number (.integer (2 ^ 63) (by decide) (by decide))
    let b := Value.number (.integer (2 ^ 63 + 1) (by decide) (by decide))
    a.satisfies .less b = false ∧ a.satisfies .equal b = false ∧ a.satisfies .greater b = false ∧
      a.satisfies .greaterOrEqual b = true ∧
      ¬ ∀ op : Operator, a.satisfies op b = op.holds (2 ^ 63) (2 ^ 63 + 1) := by
  refine ⟨by decide +kernel, by decide +kernel, by decide +kernel, by decide +kernel, fun h => ?_⟩
  exact absurd (h .less) (by decide +kernel)

end Value

end SnapshotRules
