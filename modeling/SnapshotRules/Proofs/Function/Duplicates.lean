import Mathlib
import SnapshotRules.Function.Collection
import SnapshotRules.Proofs.Value.Reordering

/-! # Sequences without duplicates

What is kept of a sequence represents it: no two kept elements are equal, and every element is equal
to a kept one. Equality has to be reflexive and symmetric for this, but not transitive.
-/

namespace SnapshotRules

/-- Items in which no mapping holds a key twice. -/
structure Sequence where
  items : List Value
  wellFormed : ∀ x ∈ items, x.WellFormed

namespace Sequence

variable {s t : Sequence} {x y : Value}

def toValue (s : Sequence) : Value := .sequence s.items

/-- Some of the items, in their order. -/
def sub (s : Sequence) (kept : List Value) (h : kept.Sublist s.items) : Sequence :=
  ⟨kept, fun x hx => s.wellFormed x (h.subset hx)⟩

theorem equal_self (hx : x ∈ s.items) : x.equal x = true := Value.equal_self (s.wellFormed x hx)

theorem equal_comm (hx : x ∈ s.items) (hy : y ∈ t.items) : x.equal y = y.equal x :=
  Value.equal_comm (s.wellFormed x hx) (t.wellFormed y hy)

theorem pairwise_distinctBy (s : Sequence) :
    (distinctBy Value.equal s.items).Pairwise fun x y => x.equal y = false ∧ y.equal x = false := by
  refine distinctBy_pairwise.imp_of_mem fun {x y} hx hy hxy => ⟨hxy, ?_⟩
  rwa [equal_comm (distinctBy_sublist.subset hy) (distinctBy_sublist.subset hx)]

theorem exists_mem_distinctBy (hx : x ∈ s.items) :
    ∃ y ∈ distinctBy Value.equal s.items, x.equal y = true ∧ y.equal x = true := by
  obtain ⟨y, hy, he⟩ := exists_equal_mem_distinctBy hx (equal_self hx)
  refine ⟨y, hy, ?_, he⟩
  rwa [equal_comm hx (distinctBy_sublist.subset hy)]

end Sequence

namespace Collection

/-- What is kept are elements in their order, none equal to another, and every element is equal to
one of them. To remove duplicates again changes nothing. -/
theorem distinct_represents (s : Sequence) : ∃ kept : Sequence,
    distinct [s.toValue] = .ok kept.toValue ∧
      kept.items.Sublist s.items ∧
      (kept.items.Pairwise fun x y => x.equal y = false ∧ y.equal x = false) ∧
      (∀ x ∈ s.items, ∃ y ∈ kept.items, x.equal y = true ∧ y.equal x = true) ∧
      distinct [kept.toValue] = .ok kept.toValue := by
  refine ⟨s.sub _ distinctBy_sublist, distinct_sequence s.items, distinctBy_sublist,
    s.pairwise_distinctBy, fun x hx => Sequence.exists_mem_distinctBy hx, ?_⟩
  rw [Sequence.toValue, distinct_sequence, Sequence.sub, distinctBy_distinctBy]

/-- The integers 2^53 + 1 and 2^53 are both equal to the double between them but not to each other,
so that two of the three elements are kept. -/
theorem distinct_represents_around_two_pow_53 :
    let a := Value.number (.integer (2 ^ 53 + 1) (by decide) (by decide))
    let b := Value.number (.double ⟨false, 2 ^ 52, 1075, by decide⟩)
    let c := Value.number (.integer (2 ^ 53) (by decide) (by decide))
    let s : Sequence := ⟨[a, b, c], by simp [a, b, c, Value.WellFormed]⟩
    ∃ kept : Sequence, distinct [s.toValue] = .ok kept.toValue ∧ kept.items = [a, c] ∧
      (∃ y ∈ kept.items, b.equal y = true) ∧ distinct [kept.toValue] = .ok kept.toValue := by
  intro a b c s
  obtain ⟨kept, hkept, -, -, hrepresents, hagain⟩ := distinct_represents s
  have habc : distinctBy Value.equal [a, b, c] = [a, c] := by decide +kernel
  have heq : kept.items = [a, c] := by
    rw [Sequence.toValue, distinct_sequence, habc] at hkept
    exact (Value.sequence.inj (Except.ok.inj hkept)).symm
  obtain ⟨y, hy, he, -⟩ := hrepresents b (by simp [s])
  exact ⟨kept, hkept, heq, ⟨y, hy, he⟩, hagain⟩

end Collection

end SnapshotRules
