import Mathlib
import SnapshotRules.Proofs.Function.Element
import SnapshotRules.Proofs.Function.Merging
import SnapshotRules.Rule.Evaluation

/-! # Membership

The operators and functions that look for a value in a collection agree on what its members are.
The place that `index` finds is that of the first member equal to the value, and `element` leads
back from it.
-/

namespace SnapshotRules

theorem Value.ofNat_ne_minusOne (n : ℕ) : Value.ofNat n ≠ .minusOne := by
  unfold Value.ofNat Value.minusOne Number.ofNat
  intro h
  split at h
  · have hi := Number.integer.inj (Value.number.inj h)
    omega
  · exact absurd (Number.integer.inj (Value.number.inj h)) (by decide)

theorem Value.hasMember_mapping_iff {entries : Entries Value} {v : Value} :
    (mapping entries).hasMember v = true ↔ ∃ key ∈ entries.keys, v = string key := by
  cases v with
  | string key => simp [hasMember, Entries.contains_iff_mem_keys]
  | _ => simp [hasMember]

namespace Collection

variable {items : List Value} {entries : Entries Value} {v : Value}

theorem index_eq_minusOne_iff : index [.sequence items, v] = .ok .minusOne ↔
    (Value.sequence items).hasMember v = false := by
  rw [index_sequence, Value.hasMember, ← List.findIdx?_isSome]
  cases items.findIdx? fun item => item.equal v with
  | none => simp
  | some i => simp [Value.ofNat_ne_minusOne]

theorem index_of_hasMember (h : (Value.sequence items).hasMember v = true) :
    ∃ i x, index [.sequence items, v] = .ok (.ofNat i) ∧ items[i]? = some x ∧
      x.equal v = true ∧ ∀ j < i, ∀ y, items[j]? = some y → y.equal v = false := by
  rw [Value.hasMember, ← List.findIdx?_isSome] at h
  obtain ⟨i, hi⟩ := Option.isSome_iff_exists.mp h
  obtain ⟨hlt, hequal, hfirst⟩ := List.findIdx?_eq_some_iff_getElem.mp hi
  refine ⟨i, items[i], ?_, List.getElem?_eq_getElem hlt, hequal, ?_⟩
  · rw [index_sequence, hi, Option.elim_some]
  · intro j hj y hy
    rw [List.getElem?_eq_getElem (hj.trans hlt)] at hy
    obtain rfl := Option.some.inj hy
    exact Bool.eq_false_iff.mpr (hfirst j hj)

theorem element_ofNat {i : ℕ} {x : Value} (hx : items[i]? = some x) (hlt : i < 2 ^ 63) :
    element [.sequence items, .ofNat i] = .ok x := by
  obtain ⟨hi, rfl⟩ := List.getElem?_eq_some_iff.mp hx
  have hne : items ≠ [] := List.ne_nil_of_length_pos (by omega)
  have hint : (Value.ofNat i).IsInteger i := Number.isInteger_ofNat (by omega)
  rw [element_of_isInteger hne hint hlt, Nat.mod_eq_of_lt hi, List.getD_eq_getElem _ _ hi]

theorem contains_keys (entries : Entries Value) (v : Value) :
    (keys [.mapping entries] >>= fun names => contains [names, v]) =
      .ok (.bool ((Value.mapping entries).hasMember v)) := by
  rw [keys_mapping]
  change contains [.sequence (entries.keys.map .string), v] = _
  rw [contains_sequence]
  congr 2
  rw [Bool.eq_iff_iff, Value.hasMember_mapping_iff, Value.hasMember, List.any_map,
    List.any_eq_true]
  simp only [Function.comp_apply, Value.string_equal]

theorem hasMember_iff_lookup {key : String} :
    (Value.mapping entries).hasMember (.string key) = true ↔
      ∃ w, ∀ default, lookup [.mapping entries, .string key, default] = .ok w := by
  simp only [lookup_mapping]
  rw [Value.hasMember, Entries.contains]
  constructor
  · intro h
    obtain ⟨w, hw⟩ := Option.isSome_iff_exists.mp h
    refine ⟨w, fun default => ?_⟩
    rw [hw, Option.getD_some]
  · rintro ⟨w, hw⟩
    cases hget : entries.get? key with
    | some _ => rfl
    | none =>
      rw [hget] at hw
      have hboth := (hw .null).trans (hw (.bool true)).symm
      simp at hboth

/-- Every way to look for a value in a sequence tells whether an element equals it, and `index`
tells the first place of one, which `element` reads for any sequence of up to 2^63 elements. Every
way to look for a value in a mapping tells whether it is a key, and for a key `lookup` does not
see the default. -/
theorem membership_agrees :
    (∀ (items : List Value) (v : Value),
      (index [.sequence items, v] = .ok .minusOne ↔
        contains [.sequence items, v] = .ok (.bool false)) ∧
      (index [.sequence items, v] = .ok .minusOne ↔
        v.satisfies .memberOf (.sequence items) = false) ∧
      (index [.sequence items, v] = .ok .minusOne ↔
        (Value.sequence items).satisfies .contains v = false) ∧
      (index [.sequence items, v] ≠ .ok .minusOne →
        contains [.sequence items, v] = .ok (.bool true) ∧
        ∃ i x, index [.sequence items, v] = .ok (.ofNat i) ∧ items[i]? = some x ∧
          x.equal v = true ∧ (∀ j < i, ∀ y, items[j]? = some y → y.equal v = false) ∧
          (items.length ≤ 2 ^ 63 → (Value.ofNat i).IsInteger i ∧
            element [.sequence items, .ofNat i] = .ok x))) ∧
    (∀ (entries : Entries Value) (v : Value), ∃ member : Bool,
      contains [.mapping entries, v] = .ok (.bool member) ∧
      v.satisfies .memberOf (.mapping entries) = member ∧
      (Value.mapping entries).satisfies .contains v = member ∧
      (keys [.mapping entries] >>= fun names => contains [names, v]) = .ok (.bool member) ∧
      ∀ key, v = .string key → (member = true ↔
        ∃ w, ∀ default, lookup [.mapping entries, v, default] = .ok w)) ∧
    ∀ x y : Value, x.satisfies .memberOf y = y.satisfies .contains x := by
  refine ⟨fun items v => ⟨?_, index_eq_minusOne_iff, index_eq_minusOne_iff, ?_⟩, ?_, ?_⟩
  · rw [index_eq_minusOne_iff, contains_sequence]
    simp
  · intro hne
    have h : (Value.sequence items).hasMember v = true := by
      rwa [Ne, index_eq_minusOne_iff, Bool.not_eq_false] at hne
    obtain ⟨i, x, hindex, hx, hequal, hfirst⟩ := index_of_hasMember h
    refine ⟨by rw [contains_sequence, h], i, x, hindex, hx, hequal, hfirst, fun hl => ?_⟩
    have hlt := (List.getElem?_eq_some_iff.mp hx).1
    exact ⟨Number.isInteger_ofNat (by omega), element_ofNat hx (by omega)⟩
  · intro entries v
    refine ⟨(Value.mapping entries).hasMember v, rfl, rfl, rfl, contains_keys entries v, ?_⟩
    rintro key rfl
    exact hasMember_iff_lookup
  · intro x y
    rfl

/-- The number 3 is first found as a double, and a key with null under it is no less a key. -/
theorem membership_agrees_on_mixed_numbers :
    let double := Value.number (.double ⟨false, 3 * 2 ^ 51, 1023, by decide⟩)
    let three := Value.number (.integer 3 (by decide) (by decide))
    let items : List Value := [.null, double, three]
    let m : Value := .mapping [("a", .null)]
    (∃ i x, index [.sequence items, three] = .ok (.ofNat i) ∧
      element [.sequence items, .ofNat i] = .ok x ∧ x.equal three = true) ∧
    contains [.sequence items, three] = .ok (.bool true) ∧
    contains [.sequence items, m] = .ok (.bool false) ∧
    ∃ w, ∀ default, lookup [m, .string "a", default] = .ok w := by
  intro double three items m
  obtain ⟨hsequence, hmapping, -⟩ := membership_agrees
  have hthree : index [.sequence items, three] ≠ .ok .minusOne := by decide +kernel
  have hnone : index [.sequence items, m] = .ok .minusOne := by decide +kernel
  obtain ⟨-, -, -, hfound⟩ := hsequence items three
  obtain ⟨hcontains, i, x, hindex, -, hequal, -, helement⟩ := hfound hthree
  obtain ⟨member, hm, -, -, -, hlookup⟩ := hmapping [("a", .null)] (.string "a")
  have htrue : contains [m, .string "a"] = .ok (.bool true) := by decide +kernel
  have hmember : member = true := Value.bool.inj (Except.ok.inj (hm.symm.trans htrue))
  refine ⟨⟨i, x, hindex, (helement (by decide)).2, hequal⟩, hcontains, ?_, ?_⟩
  · exact (hsequence items m).1.mp hnone
  · exact (hlookup "a" rfl).mp hmember

end Collection

end SnapshotRules
