import Mathlib
import SnapshotRules.Proofs.Number.Order

/-! # Whole numbers

A number may be an integer in either representation. As an index it must besides lie below 2^63.
-/

namespace SnapshotRules

namespace Double

variable {d : Double}

theorem natAbs_units (d : Double) : d.units.natAbs = d.magnitude := by
  unfold units
  split <;> simp

theorem one_dvd_units_iff : (one : Int) ∣ d.units ↔ d.magnitude % one = 0 := by
  rw [Int.natCast_dvd, natAbs_units, Nat.dvd_iff_mod_eq_zero]

end Double

namespace Number

variable {n : Number} {i j : Int}

/-- The number is this integer. -/
def IsInteger : Number → Int → Prop
  | .integer j _ _, i => j = i
  | .double d, i => d.units = i * Double.one

theorem IsInteger.unique (hi : n.IsInteger i) (hj : n.IsInteger j) : i = j := by
  cases n with
  | integer => exact hi.symm.trans hj
  | double =>
    exact Int.eq_of_mul_eq_mul_right (Int.natCast_pos.mpr Double.one_pos).ne' (hi.symm.trans hj)

theorem index?_double_eq_some_iff {d : Double} :
    (double d).index? = some i ↔ d.units = i * Double.one ∧ i.natAbs < 2 ^ 63 := by
  have hone : (0 : Int) < Double.one := Int.natCast_pos.mpr Double.one_pos
  rw [index?, Option.ite_none_right_eq_some, Option.some.injEq, ← Double.one_dvd_units_iff,
    ← Double.natAbs_units]
  constructor
  · rintro ⟨⟨hd, hlt⟩, rfl⟩
    have hu := (Int.ediv_mul_cancel hd).symm
    rw [hu, Int.natAbs_mul, Int.natAbs_natCast] at hlt
    exact ⟨hu, Nat.lt_of_mul_lt_mul_right hlt⟩
  · rintro ⟨hu, hlt⟩
    rw [hu, Int.natAbs_mul, Int.natAbs_natCast]
    exact ⟨⟨Int.dvd_mul_left _ _, Nat.mul_lt_mul_of_pos_right hlt Double.one_pos⟩,
      Int.mul_ediv_cancel _ hone.ne'⟩

theorem isInteger_of_index? (h : n.index? = some i) : n.IsInteger i := by
  cases n with
  | integer j =>
    rw [index?, Option.ite_none_right_eq_some] at h
    exact Option.some.inj h.2
  | double d => exact (index?_double_eq_some_iff.mp h).1

theorem index?_eq_some_natCast_iff {i : Nat} :
    n.index? = some (i : Int) ↔ n.IsInteger i ∧ i < 2 ^ 63 := by
  cases n with
  | integer j =>
    rw [index?, Option.ite_none_right_eq_some, Option.some.injEq, IsInteger]
    omega
  | double d =>
    rw [index?_double_eq_some_iff, IsInteger, Int.natAbs_natCast]

theorem isInteger_ofNat {i : Nat} (h : i < 2 ^ 64) : (ofNat i).IsInteger i := by
  unfold ofNat
  rw [dif_pos h]
  rfl

end Number

namespace Value

variable {v : Value} {i j : Int}

/-- The value is a number and that number this integer. -/
def IsInteger : Value → Int → Prop
  | .number n, i => n.IsInteger i
  | _, _ => False

theorem IsInteger.unique (hi : v.IsInteger i) (hj : v.IsInteger j) : i = j := by
  cases v with
  | number n => exact Number.IsInteger.unique hi hj
  | _ => exact hi.elim

theorem IsInteger.not_natural (hi : v.IsInteger i) (h : i < 0 ∨ 2 ^ 63 ≤ i) (k : Nat)
    (hk : k < 2 ^ 63) : ¬ v.IsInteger k := by
  intro h'
  have := h'.unique hi
  omega

theorem isInteger_of_index? (h : v.index? = some i) : v.IsInteger i := by
  cases v with
  | number n => exact Number.isInteger_of_index? h
  | _ => exact absurd h (by simp [index?])

theorem index?_eq_some_natCast_iff {i : Nat} :
    v.index? = some (i : Int) ↔ v.IsInteger i ∧ i < 2 ^ 63 := by
  cases v with
  | number n => exact Number.index?_eq_some_natCast_iff
  | _ => simp [index?, IsInteger]

end Value

end SnapshotRules
