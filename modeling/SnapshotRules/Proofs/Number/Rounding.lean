import Mathlib
import SnapshotRules.Number.Shortest

/-! # Rounding decimals to doubles

The decimals around a double, up to the midpoints between it and its neighbours, are those
that round to it. The shortest decimal of a double is one of them.
-/

namespace SnapshotRules

theorem roundHalfEven_eq {n d m : Nat} (hl : 2 * m * d ≤ 2 * n + d) (hh : 2 * n ≤ 2 * m * d + d)
    (hs : m % 2 = 1 → 2 * m * d < 2 * n + d ∧ 2 * n < 2 * m * d + d) (hd : 0 < d) :
    roundHalfEven n d = m := by
  have hn := Nat.div_add_mod n d
  have hr := Nat.mod_lt n hd
  unfold roundHalfEven
  generalize n / d = q at hn ⊢
  generalize n % d = r at hn hr ⊢
  subst hn
  have hq : q ≤ m := by
    by_contra hc
    have := Nat.mul_le_mul_left d (show m + 1 ≤ q by omega)
    linarith [mul_comm d m, Nat.zero_le r]
  have hm : m ≤ q + 1 := by
    by_contra hc
    have := Nat.mul_le_mul_left d (show q + 2 ≤ m by omega)
    linarith [mul_comm d m]
  obtain rfl | rfl : m = q ∨ m = q + 1 := by omega
  · rw [show 2 * m * d = 2 * (d * m) by ring] at hl hh hs
    generalize d * m = p at hl hh hs
    simp only
    split_ifs <;> omega
  · rw [show 2 * (q + 1) * d = 2 * (d * q) + 2 * d by ring] at hl hh hs
    generalize d * q = p at hl hh hs
    simp only
    split_ifs <;> omega

namespace Double

/-- How far below a double, in quarters of the gap above it, decimals still round to it. -/
def reach (d : Double) : Nat := if d.startsBinade then 1 else 2

/-- `n / k` units are at most half a gap away from the magnitude of `d`, and less than that
when the significand is odd. -/
structure Near (d : Double) (n k : Nat) : Prop where
  low : 4 * d.magnitude * k ≤ 4 * n + d.reach * 2 ^ d.exponent * k
  high : 4 * n ≤ 4 * d.magnitude * k + 2 * 2 ^ d.exponent * k
  strict : d.significand % 2 = 1 → 4 * d.magnitude * k < 4 * n + d.reach * 2 ^ d.exponent * k ∧
    4 * n < 4 * d.magnitude * k + 2 * 2 ^ d.exponent * k

variable {d : Double} {n k : Nat}

theorem Near.of_mul_eq {n' k' : Nat} (h : d.Near n k) (he : n * k' = n' * k) (hk : 0 < k)
    (hk' : 0 < k') : d.Near n' k' := by
  refine ⟨Nat.le_of_mul_le_mul_right ?_ hk, Nat.le_of_mul_le_mul_right ?_ hk, fun ho => ?_⟩
  · linarith [Nat.mul_le_mul_right k' h.low]
  · linarith [Nat.mul_le_mul_right k' h.high]
  · obtain ⟨hl, hh⟩ := h.strict ho
    constructor
    · refine Nat.lt_of_mul_lt_mul_right (a := k) ?_
      linarith [Nat.mul_lt_mul_of_pos_right hl hk']
    · refine Nat.lt_of_mul_lt_mul_right (a := k) ?_
      linarith [Nat.mul_lt_mul_of_pos_right hh hk']

theorem near_of_attracts {x : Nat} (hs : d.scaled = d.magnitude * k)
    (hg : d.gap = 2 ^ d.exponent * k) (h : d.attracts x = true) : d.Near x k := by
  have hr : (if d.startsBinade then 1 else 2) * d.gap = d.reach * 2 ^ d.exponent * k := by
    rw [hg, reach, mul_assoc]
  have hm : 4 * d.scaled = 4 * d.magnitude * k := by rw [hs, mul_assoc]
  have hu : 2 * d.gap = 2 * 2 ^ d.exponent * k := by rw [hg, mul_assoc]
  simp only [attracts, hr, hm, hu] at h
  split at h
  · simp only [Bool.and_eq_true, decide_eq_true_eq] at h
    exact ⟨by omega, by omega, by omega⟩
  · simp only [Bool.and_eq_true, decide_eq_true_eq] at h
    exact ⟨by omega, by omega, by omega⟩

theorem excess_eq {q e : Nat} (hu : q < 2 ^ (53 + e)) (hl : 2 ^ (52 + e) ≤ q ∨ e = 0) :
    excess q = e := by
  unfold excess
  rcases hl with hl | rfl
  · have hq : q ≠ 0 := by
      rintro rfl
      exact absurd hl (Nat.not_le.mpr (Nat.two_pow_pos _))
    have := (Nat.log2_lt hq).mpr hu
    have := (Nat.le_log2 hq).mpr hl
    omega
  · by_cases hq : q = 0
    · subst hq; rfl
    · have := (Nat.log2_lt hq).mpr hu
      omega

theorem reach_le (d : Double) : d.reach ≤ 2 := by
  unfold reach
  split <;> omega

theorem Near.lt_two_pow (h : d.Near n k) (hk : 0 < k) : n < 2 ^ (53 + d.exponent) * k := by
  have hm : d.significand + 1 ≤ 2 ^ 53 := d.canonical.1
  have he : 0 < 2 ^ d.exponent * k := Nat.mul_pos (Nat.two_pow_pos _) hk
  have hb := Nat.mul_le_mul_right (2 ^ d.exponent * k) hm
  have hh := h.high
  rw [magnitude] at hh
  rw [pow_add]
  linarith

theorem Near.roundHalfEven (h : d.Near n k) (hk : 0 < k) :
    roundHalfEven n (k * 2 ^ d.exponent) = d.significand := by
  have hr : d.reach * (2 ^ d.exponent * k) ≤ 2 * (2 ^ d.exponent * k) :=
    Nat.mul_le_mul_right _ d.reach_le
  obtain ⟨hl, hh, hs⟩ := h
  rw [magnitude] at hl hh hs
  refine roundHalfEven_eq (by linarith) (by linarith) (fun ho => ?_)
    (Nat.mul_pos hk (Nat.two_pow_pos _))
  obtain ⟨hl', hh'⟩ := hs ho
  exact ⟨by linarith, by linarith⟩

/-- Only the smallest double of a binade has decimals below the binade that round to it. -/
theorem Near.significand_eq (h : d.Near n k) (hlt : n < 2 ^ (52 + d.exponent) * k)
    (he : d.exponent ≠ 0) : d.significand = 2 ^ 52 := by
  have hc := d.canonical.2.2.resolve_left he
  by_contra hn
  have hr : d.reach * (2 ^ d.exponent * k) ≤ 2 * (2 ^ d.exponent * k) :=
    Nat.mul_le_mul_right _ d.reach_le
  have hb := Nat.mul_le_mul_right (2 ^ d.exponent * k) (show 2 ^ 52 + 1 ≤ d.significand by omega)
  have hl := h.low
  rw [magnitude] at hl
  rw [pow_add] at hlt
  linarith

/-- What is near to a double other than zero rounds to it, also from just below its binade, where
steps are half as wide. -/
theorem ofUnits?_of_near (h : d.Near n k) (hk : 0 < k) (h0 : d.significand ≠ 0) :
    ofUnits? d.negative n k = some d := by
  have hu := Nat.div_lt_of_lt_mul ((Nat.mul_comm _ k) ▸ h.lt_two_pow hk)
  by_cases hb : 2 ^ (52 + d.exponent) * k ≤ n ∨ d.exponent = 0
  · have hx : excess (n / k) = d.exponent :=
      excess_eq hu (hb.imp_left (Nat.le_div_iff_mul_le hk).mpr)
    simp only [ofUnits?, hx, h.roundHalfEven hk, if_pos d.canonical.1, make?]
    rw [dif_pos d.canonical]
  · obtain ⟨hlt, he⟩ := not_or.mp hb
    rw [Nat.not_le] at hlt
    have hm := h.significand_eq hlt he
    obtain ⟨negative, m, e, hc⟩ := d
    obtain ⟨e, rfl⟩ := Nat.exists_eq_succ_of_ne_zero he
    simp only at hm hlt
    subst hm
    have hl : 4 * (2 ^ 52 * 2 ^ (e + 1)) * k ≤ 4 * n + 1 * 2 ^ (e + 1) * k := h.low
    have hk' : 0 < k * 2 ^ e := Nat.mul_pos hk (Nat.two_pow_pos e)
    rw [pow_succ 2 e] at hl
    rw [Nat.succ_eq_add_one, show 52 + (e + 1) = 53 + e by omega, pow_add] at hlt
    have hx : excess (n / k) = e := by
      refine excess_eq (Nat.div_lt_of_lt_mul ?_) (.inl ((Nat.le_div_iff_mul_le hk).mpr ?_))
      · rw [pow_add]; linarith
      · rw [pow_add]; linarith
    have hr : roundHalfEven n (k * 2 ^ e) = 2 ^ 53 :=
      roundHalfEven_eq (by linarith) (by linarith) (by omega) hk'
    simp only [ofUnits?, hx, hr, make?]
    rw [if_neg (by omega), dif_pos (by simpa using hc)]
    rfl

/-! ## Shortest decimals -/

theorem attracts_scaled (h0 : d.significand ≠ 0) : d.attracts d.scaled = true := by
  have hm : 0 < d.magnitude := Nat.mul_pos (Nat.pos_of_ne_zero h0) (Nat.two_pow_pos _)
  have hg : 0 < d.gap := by unfold gap; positivity
  have hs : 0 < d.scaled := by unfold scaled; positivity
  have hr : d.gap ≤ (if d.startsBinade then 1 else 2) * d.gap :=
    Nat.le_mul_of_pos_left _ (by split <;> omega)
  simp only [attracts]
  split <;> simp only [Bool.and_eq_true, decide_eq_true_eq] <;> omega

/-- Every grid on which the search stops has a point that rounds to the double. -/
theorem attracts_shortestFrom (h0 : d.significand ≠ 0) (place : Nat) :
    d.attracts ((d.shortestFrom place).1 * 10 ^ (d.shortestFrom place).2) = true := by
  induction place with
  | zero => simpa [shortestFrom] using attracts_scaled h0
  | succ place ih =>
    unfold shortestFrom
    simp only
    split
    · next hb ha =>
      simp only [nearer]
      split
      · exact hb
      · split
        · exact ha
        · obtain he | he : d.scaled / 10 ^ (place + 1) % 2 = 0 ∨
            d.scaled / 10 ^ (place + 1) % 2 = 1 := by omega
          · rw [he]; exact hb
          · rw [he]; exact ha
    · next hb _ => exact hb
    · next _ ha => exact ha
    · exact ih

theorem near_shortest (h0 : d.significand ≠ 0) :
    d.Near (d.shortest.1 * 10 ^ d.shortest.2) (5 ^ 1074) :=
  near_of_attracts (k := 5 ^ 1074) rfl rfl (attracts_shortestFrom h0 _)

theorem shortest_lower (h : d.Near n k) (h0 : d.significand ≠ 0) : k ≤ 2 * n := by
  have he : 2 ^ d.exponent * k ≤ d.magnitude * k :=
    Nat.mul_le_mul_right k (Nat.le_mul_of_pos_left _ (Nat.pos_of_ne_zero h0))
  have hr : d.reach * (2 ^ d.exponent * k) ≤ 2 * (2 ^ d.exponent * k) :=
    Nat.mul_le_mul_right _ d.reach_le
  have hp : k ≤ 2 ^ d.exponent * k := Nat.le_mul_of_pos_left k (Nat.two_pow_pos _)
  have hl := h.low
  linarith

theorem two_mul_ten_pow_le : 2 * 10 ^ 750 ≤ 5 ^ 1074 := by decide +kernel

theorem two_pow_mul_five_pow_le : 2 ^ 2098 * 5 ^ 1074 ≤ 10 ^ 1383 := by decide +kernel

theorem Near.lt_two_pow_of_le {m : Nat} (h : d.Near n k) (hk : 0 < k)
    (hm : 53 + d.exponent ≤ m) : n < 2 ^ m * k :=
  (h.lt_two_pow hk).trans_le (Nat.mul_le_mul_right k (Nat.pow_le_pow_right Nat.two_pos hm))

theorem Near.lt_ten_pow (h : d.Near n (5 ^ 1074)) : n < 10 ^ 1383 := by
  have hm : 53 + d.exponent ≤ 2098 := by
    have := d.canonical.2.1
    omega
  exact (h.lt_two_pow_of_le (by positivity) hm).trans_le two_pow_mul_five_pow_le

/-- How many digits a number has that is not less than one power of ten and less than another, once
zeros have been moved from its scale to its digits. -/
theorem length_toDigits_bounds {c p low high : Nat} (hl : 10 ^ low ≤ c * 10 ^ p)
    (hh : c * 10 ^ p < 10 ^ high) (j : Nat) :
    low + 1 + j ≤ (Nat.toDigits 10 (c * 10 ^ j)).length + p ∧
      (Nat.toDigits 10 (c * 10 ^ j)).length + p ≤ high + j := by
  have hc : c ≠ 0 := by
    rintro rfl
    rw [Nat.zero_mul] at hl
    exact absurd hl (Nat.not_le.mpr (Nat.pow_pos (by decide)))
  have hpos : 0 < (Nat.toDigits 10 (c * 10 ^ j)).length := Nat.length_toDigits_pos
  have hlen := fun i (hi : 0 < i) =>
    Nat.length_toDigits_le_iff (b := 10) (n := c * 10 ^ j) (k := i) (by decide) hi
  generalize (Nat.toDigits 10 (c * 10 ^ j)).length = l at hpos hlen
  constructor
  · have hlt : c * 10 ^ j < 10 ^ l := (hlen l hpos).mp le_rfl
    have hx : 10 ^ (low + j) < 10 ^ (l + p) := by
      calc 10 ^ (low + j) = 10 ^ low * 10 ^ j := Nat.pow_add 10 low j
        _ ≤ c * 10 ^ p * 10 ^ j := Nat.mul_le_mul_right _ hl
        _ = c * 10 ^ j * 10 ^ p := Nat.mul_right_comm _ _ _
        _ < 10 ^ l * 10 ^ p := Nat.mul_lt_mul_of_pos_right hlt (Nat.pow_pos (by decide))
        _ = 10 ^ (l + p) := (Nat.pow_add 10 l p).symm
    have := (Nat.pow_lt_pow_iff_right (by decide : 1 < 10)).mp hx
    omega
  · have hle : 10 ^ (l - 1) ≤ c * 10 ^ j := by
      obtain rfl | hl : l = 1 ∨ 0 < l - 1 := by omega
      · exact Nat.mul_pos (Nat.pos_of_ne_zero hc) (Nat.pow_pos (by decide))
      · by_contra hn
        have := (hlen (l - 1) hl).mpr (Nat.not_le.mp hn)
        omega
    have hx : 10 ^ (l - 1 + p) < 10 ^ (high + j) := by
      calc 10 ^ (l - 1 + p) = 10 ^ (l - 1) * 10 ^ p := Nat.pow_add 10 _ p
        _ ≤ c * 10 ^ j * 10 ^ p := Nat.mul_le_mul_right _ hle
        _ = c * 10 ^ p * 10 ^ j := Nat.mul_right_comm _ _ _
        _ < 10 ^ high * 10 ^ j := Nat.mul_lt_mul_of_pos_right hh (Nat.pow_pos (by decide))
        _ = 10 ^ (high + j) := (Nat.pow_add 10 high j).symm
    have := (Nat.pow_lt_pow_iff_right (by decide : 1 < 10)).mp hx
    omega

theorem decimal_bounds {c p : Nat} (h : d.Near (c * 10 ^ p) (5 ^ 1074))
    (h0 : d.significand ≠ 0) (j : Nat) : 751 + j ≤ (Nat.toDigits 10 (c * 10 ^ j)).length + p ∧
      (Nat.toDigits 10 (c * 10 ^ j)).length + p ≤ 1383 + j := by
  have hlow : 2 * 10 ^ 750 ≤ 2 * (c * 10 ^ p) := two_mul_ten_pow_le.trans (shortest_lower h h0)
  exact length_toDigits_bounds (Nat.le_of_mul_le_mul_left hlow (by decide)) h.lt_ten_pow j

theorem two_pow_mul_five_pow (n : Nat) : 2 ^ n * 5 ^ n = 10 ^ n := (Nat.mul_pow 2 5 n).symm

/-- The shortest decimal of a double reads back as the double, with any number of zeros after
its digits. -/
theorem ofDecimal?_shortest (d : Double) (h0 : d.significand ≠ 0) (j : Nat) :
    ofDecimal? d.negative (d.shortest.1 * 10 ^ j) (d.shortest.2 - 1074 - j) = some d := by
  have h := near_shortest h0
  obtain ⟨hlow, hhigh⟩ := decimal_bounds h h0 j
  have hk : 0 < 5 ^ 1074 := by positivity
  have hc : d.shortest.1 * 10 ^ j ≠ 0 := by
    have := shortest_lower h h0
    intro hc
    rw [(Nat.mul_eq_zero.mp hc).resolve_right (Nat.pow_pos (by decide)).ne'] at this
    omega
  generalize d.shortest = shortest at *
  obtain ⟨c, p⟩ := shortest
  simp only [ofDecimal?] at *
  rw [if_neg (by omega), if_neg (by omega)]
  split_ifs with hs
  · refine ofUnits?_of_near (h.of_mul_eq ?_ hk Nat.one_pos) Nat.one_pos h0
    calc c * 10 ^ p * 1 = c * 10 ^ (j + (p - 1074 - j) + 1074) := by
          rw [Nat.mul_one, show j + (p - 1074 - j) + 1074 = p by omega]
      _ = c * 10 ^ j * 10 ^ (p - 1074 - j) * (2 ^ 1074 * 5 ^ 1074) := by
          rw [two_pow_mul_five_pow, pow_add, pow_add, ← Nat.mul_assoc, ← Nat.mul_assoc]
      _ = c * 10 ^ j * 10 ^ ((p : Int) - 1074 - j).toNat * one * 5 ^ 1074 := by
          rw [show ((p : Int) - 1074 - j).toNat = p - 1074 - j by omega, one,
            Nat.mul_assoc _ (2 ^ 1074)]
  · refine ofUnits?_of_near (h.of_mul_eq ?_ hk (Nat.pow_pos (by decide)))
      (Nat.pow_pos (by decide)) h0
    calc c * 10 ^ p * 10 ^ (-((p : Int) - 1074 - j)).toNat
        = c * 10 ^ (j + 1074) := by
          rw [Nat.mul_assoc, ← pow_add]
          congr 2
          omega
      _ = c * 10 ^ j * one * 5 ^ 1074 := by
          rw [pow_add, ← two_pow_mul_five_pow 1074, one, ← Nat.mul_assoc, ← Nat.mul_assoc]

theorem ofDecimal?_zero (negative : Bool) (scale : Int) :
    ofDecimal? negative 0 scale = some (zero negative) := by
  simp [ofDecimal?]

theorem eq_zero_of_significand_eq_zero (h0 : d.significand = 0) : d = zero d.negative := by
  obtain ⟨negative, m, e, hc⟩ := d
  simp only at h0
  subst h0
  obtain rfl : e = 0 := hc.2.2.resolve_right (by decide)
  rfl

end Double

end SnapshotRules
