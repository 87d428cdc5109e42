import Mathlib
import SnapshotRules.Function.Collection
import SnapshotRules.Proofs.Number.Integral

/-! # Elements by index

Indexes that are whole numbers below 2^63 count around a sequence. All other indexes are refused,
larger integers among them.
-/

namespace SnapshotRules.Collection

variable {items : List Value} {index : Value}

theorem element_nil (index : Value) :
    element [.sequence [], index] = refuse "element" .emptySequence := rfl

theorem element_of_ne_nil (h : items ≠ []) (index : Value) : element [.sequence items, index] =
    match index.index? with
    | none => refuse "element" (.indexNotInteger index)
    | some i =>
      if i < 0 then refuse "element" (.negativeIndex i)
      else .ok (items.getD (i.toNat % items.length) .null) := by
  have he : items.isEmpty = false := by simpa using h
  simp only [element, asSequence, bind, Except.bind, pure, Except.pure, he]
  rfl

theorem getElem?_mod_length (h : items ≠ []) (i : Nat) :
    items[i % items.length]? = some (items.getD (i % items.length) .null) := by
  have hlt := Nat.mod_lt i (List.length_pos_iff.mpr h)
  rw [List.getElem?_eq_getElem hlt, List.getD_eq_getElem _ _ hlt]

theorem element_of_isInteger (h : items ≠ []) {i : Nat} (hi : index.IsInteger i)
    (hlt : i < 2 ^ 63) :
    element [.sequence items, index] = .ok (items.getD (i % items.length) .null) := by
  rw [element_of_ne_nil h, Value.index?_eq_some_natCast_iff.mpr ⟨hi, hlt⟩]
  simp only [Int.toNat_natCast]
  rw [if_neg (by omega)]

theorem element_refuses (h : items ≠ []) (hi : ∀ i : Nat, i < 2 ^ 63 → ¬ index.IsInteger i) :
    element [.sequence items, index] = refuse "element" (.indexNotInteger index) ∨
      ∃ i < 0, index.IsInteger i ∧
        element [.sequence items, index] = refuse "element" (.negativeIndex i) := by
  rw [element_of_ne_nil h]
  cases hx : index.index? with
  | none => exact .inl rfl
  | some i =>
    have hneg : i < 0 := by
      by_contra hn
      obtain ⟨k, rfl⟩ := Int.eq_ofNat_of_zero_le (not_lt.mp hn)
      obtain ⟨hk, hlt⟩ := Value.index?_eq_some_natCast_iff.mp hx
      exact hi k hlt hk
    exact .inr ⟨i, hneg, Value.isInteger_of_index? hx, if_pos hneg⟩

/-- A natural number below 2^63 counts around the sequence. Nothing can be an index of the empty
sequence, and otherwise an index is refused if it is negative, if it is no whole number, and if it
is 2^63 or more. -/
theorem element_counts_around (items : List Value) (index : Value) :
    (items = [] → element [.sequence items, index] = refuse "element" .emptySequence) ∧
    (items ≠ [] →
      (∀ i : Nat, i < 2 ^ 63 → index.IsInteger i →
        ∃ v, items[i % items.length]? = some v ∧ element [.sequence items, index] = .ok v) ∧
      (∀ i < 0, index.IsInteger i →
        element [.sequence items, index] = refuse "element" (.negativeIndex i) ∨
          element [.sequence items, index] = refuse "element" (.indexNotInteger index)) ∧
      ((∀ i, ¬ index.IsInteger i) →
        element [.sequence items, index] = refuse "element" (.indexNotInteger index)) ∧
      ∀ i : Nat, 2 ^ 63 ≤ i → index.IsInteger i →
        element [.sequence items, index] = refuse "element" (.indexNotInteger index)) := by
  refine ⟨fun h => h ▸ element_nil index, fun h => ⟨?_, ?_, ?_, ?_⟩⟩
  · intro i hlt hi
    exact ⟨_, getElem?_mod_length h i, element_of_isInteger h hi hlt⟩
  · intro i hneg hi
    obtain he | ⟨j, -, hj, he⟩ := element_refuses h (hi.not_natural (.inl hneg))
    · exact .inr he
    · exact .inl (hj.unique hi ▸ he)
  · intro hnone
    obtain he | ⟨j, -, hj, -⟩ := element_refuses h fun k _ => hnone k
    · exact he
    · exact absurd hj (hnone j)
  · intro i hge hi
    obtain he | ⟨j, hneg, hj, -⟩ := element_refuses h (hi.not_natural (.inr (by omega)))
    · exact he
    · have := hj.unique hi
      omega

/-- The largest index, as an integer, and the whole double 4. -/
theorem element_counts_around_three :
    let items : List Value := [.string "a", .string "b", .string "c"]
    let largest : Value := .number (.integer (2 ^ 63 - 1) (by decide) (by decide))
    let four : Value := .number (.double ⟨false, 2 ^ 52, 1024, by decide⟩)
    element [.sequence items, largest] = .ok (.string "b") ∧
      element [.sequence items, four] = .ok (.string "b") := by
  intro items largest four
  have h : items ≠ [] := List.cons_ne_nil _ _
  have hfour : four.IsInteger 4 := by
    change Double.units _ = 4 * Double.one
    decide +kernel
  obtain ⟨v, hv, he⟩ := ((element_counts_around items largest).2 h).1 (2 ^ 63 - 1) (by decide) rfl
  obtain ⟨w, hw, he'⟩ := ((element_counts_around items four).2 h).1 4 (by decide) hfour
  have hb : items[(2 ^ 63 - 1) % items.length]? = some (.string "b") := by decide +kernel
  have hb' : items[4 % items.length]? = some (.string "b") := by decide +kernel
  obtain rfl := Option.some.inj (hv.symm.trans hb)
  obtain rfl := Option.some.inj (hw.symm.trans hb')
  exact ⟨he, he'⟩

/-- The integer 2^63 is refused as if it were none. -/
theorem not_element_counts_around_two_pow_63 :
    let items : List Value := [.string "a", .string "b", .string "c"]
    let index : Value := .number (.integer (2 ^ 63) (by decide) (by decide))
    items[2 ^ 63 % items.length]? = some (.string "c") ∧
      element [.sequence items, index] = refuse "element" (.indexNotInteger index) ∧
      (ArgumentFault.indexNotInteger index).reason =
        "index must be an integer, got 9223372036854775808" ∧
      ¬ ∀ (items : List Value) (i : Nat) (hi : (i : Int) < 2 ^ 64), items ≠ [] →
        ∃ v, items[i % items.length]? = some v ∧
          element [.sequence items, .number (.integer i (by omega) hi)] = .ok v := by
  intro items index
  have h : items ≠ [] := List.cons_ne_nil _ _
  have hx : index.index? = none := by decide +kernel
  have he : element [.sequence items, index] = refuse "element" (.indexNotInteger index) := by
    rw [element_of_ne_nil h, hx]
  refine ⟨by decide +kernel, he, by decide +kernel, fun hall => ?_⟩
  obtain ⟨v, -, hv⟩ := hall items (2 ^ 63) (by decide) h
  exact absurd (he.symm.trans hv) (by simp)

end SnapshotRules.Collection
