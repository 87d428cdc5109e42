import Mathlib
import SnapshotRules.Proofs.Number.Order
import SnapshotRules.Value.Comparison

/-! # Equality of values

Equality is reflexive and symmetric. It is not transitive: two different integers are equal to the
one double that is nearest to both. Nothing else stands in the way, at any depth of the values.
-/

namespace SnapshotRules

namespace Number

variable {a b : Number}

/-- Different integers that one double is nearest to. -/
def Apart : Number → Number → Prop
  | .integer i _ _, .integer j _ _ => i ≠ j ∧ Double.nearestInt i = Double.nearestInt j
  | _, _ => False

instance : DecidableRel Apart
  | .integer .., .integer .. => inferInstanceAs (Decidable (_ ∧ _))
  | .integer .., .double _ => inferInstanceAs (Decidable False)
  | .double _, .integer .. => inferInstanceAs (Decidable False)
  | .double _, .double _ => inferInstanceAs (Decidable False)

/-- As doubles two numbers are the same if they are equal, or integers that rounding merges. -/
theorem units_eq_iff : a.units = b.units ↔ a.equal b = true ∨ a.Apart b := by
  cases a with
  | double d => cases b <;> simp [equal, Apart]
  | integer i =>
    cases b with
    | double e => simp [equal, Apart]
    | integer j =>
      have hone : (Double.one : Int) ≠ 0 := Int.natCast_ne_zero.mpr Double.one_pos.ne'
      rw [units, units, Int.mul_eq_mul_right_iff hone]
      by_cases h : i = j <;> simp [equal, Apart, h]

theorem Apart.not_equal (h : a.Apart b) : ¬ a.equal b = true := by
  cases a with
  | double d => exact h.elim
  | integer i =>
    cases b with
    | double e => exact h.elim
    | integer j => simpa [equal] using h.1

end Number

namespace Value

/-- At one place in both values stand different integers that one double is nearest to. -/
inductive Apart : Value → Value → Prop
  | number {n m : Number} : n.Apart m → Apart (.number n) (.number m)
  | item {xs ys : List Value} {n : Nat} {x y : Value} :
      xs[n]? = some x → ys[n]? = some y → Apart x y → Apart (.sequence xs) (.sequence ys)
  | entry {xs ys : Entries Value} {k : String} {x y : Value} :
      (k, x) ∈ xs → ys.get? k = some y → Apart x y → Apart (.mapping xs) (.mapping ys)

variable {a b c : Value}

theorem apart_number {n m : Number} : (number n).Apart (.number m) ↔ n.Apart m := by
  refine ⟨fun h => ?_, .number⟩
  cases h with
  | number h => exact h

theorem Apart.not_equal (h : a.Apart b) : ¬ a.equal b = true := by
  induction h with
  | number h => exact h.not_equal
  | item hx hy _ ih =>
    intro h
    obtain ⟨ys, he, -, h⟩ := sequence_equal.mp h
    cases he
    exact ih (h _ _ _ hx hy)
  | entry hx hy _ ih =>
    intro h
    obtain ⟨ys, he, -, h⟩ := mapping_equal.mp h
    cases he
    obtain ⟨y, hget, he⟩ := h _ hx
    obtain rfl := Option.some.inj (hy.symm.trans hget)
    exact ih he

theorem equal_self (h : a.WellFormed) : a.equal a = true := by
  induction a using Value.induction with
  | null => exact null_equal.mpr rfl
  | bool b => exact bool_equal.mpr rfl
  | number n => exact n.equal_self
  | string s => exact string_equal.mpr rfl
  | sequence items ih =>
    have hitems := wellFormed_sequence.mp h
    refine sequence_equal.mpr ⟨items, rfl, rfl, fun n x y hx hy => ?_⟩
    obtain rfl := Option.some.inj (hx.symm.trans hy)
    have hm := List.mem_of_getElem? hx
    exact ih x hm (hitems x hm)
  | mapping entries ih =>
    obtain ⟨hn, hentries⟩ := wellFormed_mapping.mp h
    exact mapping_equal.mpr ⟨entries, rfl, rfl, fun entry hm =>
      ⟨entry.2, Entries.get?_of_mem hn hm, ih entry hm (hentries entry hm)⟩⟩

theorem equal_symm (ha : a.WellFormed) (hb : b.WellFormed) (h : a.equal b = true) :
    b.equal a = true := by
  induction a using Value.induction generalizing b with
  | null => exact null_equal.mp h ▸ null_equal.mpr rfl
  | bool _ => exact bool_equal.mp h ▸ bool_equal.mpr rfl
  | string _ => exact string_equal.mp h ▸ string_equal.mpr rfl
  | number n =>
    obtain ⟨m, rfl, h⟩ := number_equal.mp h
    exact (Number.equal_comm m n).trans h
  | sequence xs ih =>
    obtain ⟨ys, rfl, hl, h⟩ := sequence_equal.mp h
    have hxs := wellFormed_sequence.mp ha
    have hys := wellFormed_sequence.mp hb
    refine sequence_equal.mpr ⟨xs, rfl, hl.symm, fun n y x hy hx => ?_⟩
    have hm := List.mem_of_getElem? hx
    exact ih x hm (hxs x hm) (hys y (List.mem_of_getElem? hy)) (h n x y hx hy)
  | mapping xs ih =>
    obtain ⟨ys, rfl, hl, h⟩ := mapping_equal.mp h
    obtain ⟨hnx, hxs⟩ := wellFormed_mapping.mp ha
    obtain ⟨hny, hys⟩ := wellFormed_mapping.mp hb
    have hkeys : Entries.keys xs ⊆ Entries.keys ys := by
      intro k hk
      obtain ⟨entry, hm, rfl⟩ := List.mem_map.mp hk
      obtain ⟨y, hy, -⟩ := h entry hm
      exact List.mem_map.mpr ⟨_, Entries.mem_of_get? hy, rfl⟩
    have hperm : (Entries.keys xs).Perm (Entries.keys ys) :=
      (hnx.subperm hkeys).perm_of_length_le (by simp [Entries.keys, hl])
    refine mapping_equal.mpr ⟨xs, rfl, hl.symm, fun entry hm => ?_⟩
    obtain ⟨x, hx⟩ := Entries.exists_get?_of_mem_keys
      (hperm.mem_iff.mpr (List.mem_map_of_mem hm))
    have hmx := Entries.mem_of_get? hx
    obtain ⟨y, hy, he⟩ := h _ hmx
    obtain rfl := Option.some.inj ((Entries.get?_of_mem hny hm).symm.trans hy)
    exact ⟨x, hx, ih _ hmx (hxs _ hmx) (hys entry hm) he⟩

/-- Two values that equal a third are equal, unless that one has a double where they have
different integers. -/
theorem equal_trans (hab : a.equal b = true) (hbc : b.equal c = true) (h : ¬ a.Apart c) :
    a.equal c = true := by
  induction a using Value.induction generalizing b c with
  | null => exact null_equal.mp hab ▸ hbc
  | bool _ => exact bool_equal.mp hab ▸ hbc
  | string _ => exact string_equal.mp hab ▸ hbc
  | number n =>
    obtain ⟨m, rfl, hab⟩ := number_equal.mp hab
    obtain ⟨l, rfl, hbc⟩ := number_equal.mp hbc
    have hunits : n.units = l.units :=
      (Number.units_eq_iff.mpr (.inl hab)).trans (Number.units_eq_iff.mpr (.inl hbc))
    exact (Number.units_eq_iff.mp hunits).resolve_right fun ha => h (.number ha)
  | sequence xs ih =>
    obtain ⟨ys, rfl, hxy, hab⟩ := sequence_equal.mp hab
    obtain ⟨zs, rfl, hyz, hbc⟩ := sequence_equal.mp hbc
    refine sequence_equal.mpr ⟨zs, rfl, hxy.trans hyz, fun n x z hx hz => ?_⟩
    obtain ⟨hn, -⟩ := List.getElem?_eq_some_iff.mp hx
    have hy := List.getElem?_eq_getElem (hxy ▸ hn)
    exact ih x (List.mem_of_getElem? hx) (hab n x _ hx hy) (hbc n _ z hy hz)
      fun ha => h (.item hx hz ha)
  | mapping xs ih =>
    obtain ⟨ys, rfl, hxy, hab⟩ := mapping_equal.mp hab
    obtain ⟨zs, rfl, hyz, hbc⟩ := mapping_equal.mp hbc
    refine mapping_equal.mpr ⟨zs, rfl, hxy.trans hyz, fun entry hm => ?_⟩
    obtain ⟨y, hy, hxy⟩ := hab entry hm
    obtain ⟨z, hz, hyz⟩ := hbc _ (Entries.mem_of_get? hy)
    exact ⟨z, hz, ih entry hm hxy hyz fun ha => h (.entry hm hz ha)⟩

end Value

end SnapshotRules
