import Mathlib
import SnapshotRules.Function.Collection

/-! # Sequences in chunks

Chunks begin at the multiples of their size, so all but the last are full, and joined they are the
sequence again. Every size without a positive index is refused.
-/

namespace SnapshotRules

section

variable {α : Type _} {size j : ℕ} {xs piece : List α}

theorem lt_length_chunks_iff (h : 0 < size) :
    j < (chunks size xs).length ↔ j * size < xs.length := by
  rw [← not_le, ← List.getElem?_eq_none_iff, getElem?_chunks h]
  simp

theorem length_chunks (h : 0 < size) (xs : List α) :
    (chunks size xs).length = xs.length ⌈/⌉ size := by
  refine eq_of_forall_ge_iff fun j => ?_
  rw [← not_lt, lt_length_chunks_iff h, not_lt, ceilDiv_le_iff_le_mul h, mul_comm]

theorem eq_of_getElem?_chunks (h : 0 < size) (hj : (chunks size xs)[j]? = some piece) :
    piece = (xs.drop (j * size)).take size := by
  rw [getElem?_chunks h, Option.ite_none_right_eq_some] at hj
  exact (Option.some.inj hj.2).symm

theorem length_of_getElem?_chunks (h : 0 < size) (hj : (chunks size xs)[j]? = some piece) :
    piece.length = min size (xs.length - j * size) := by
  rw [eq_of_getElem?_chunks h hj, List.length_take, List.length_drop]

theorem getElem?_of_getElem?_chunks (h : 0 < size) (hj : (chunks size xs)[j]? = some piece) {k : ℕ}
    (hk : k < size) : piece[k]? = xs[j * size + k]? := by
  rw [eq_of_getElem?_chunks h hj, List.getElem?_take_of_lt hk, List.getElem?_drop]

end

namespace Collection

variable {items : List Value} {size : Value}

theorem chunklist_of_index? {n : ℕ} (hn : 0 < n) (h : size.index? = some (n : ℤ)) :
    chunklist [.sequence items, size] = .ok (.sequence ((chunks n items).map .sequence)) := by
  simp only [chunklist, asSequence, bind, Except.bind, h]
  rw [if_pos (by omega)]
  rfl

theorem chunklist_refuses (h : ∀ n, size.index? = some n → n ≤ 0) :
    chunklist [.sequence items, size] = refuse "chunklist" (.chunkSize size) := by
  simp only [chunklist, asSequence, bind, Except.bind]
  cases hx : size.index? with
  | none => rfl
  | some n =>
    have := h n hx
    exact if_neg (by omega)

/-- A size whose index is positive cuts the sequence into full chunks and a last one that may be
shorter, which joined are the sequence again. All other sizes are refused. -/
theorem chunklist_cuts (items : List Value) (size : Value) :
    (∀ n : ℕ, 0 < n → size.index? = some (n : ℤ) → ∃ pieces : List (List Value),
      chunklist [.sequence items, size] = .ok (.sequence (pieces.map .sequence)) ∧
      concat (pieces.map .sequence) = .ok (.sequence items) ∧
      pieces.length = items.length ⌈/⌉ n ∧
      ∀ j piece, pieces[j]? = some piece →
        (j + 1 < pieces.length → piece.length = n) ∧
        (j + 1 = pieces.length → 1 ≤ piece.length ∧ piece.length ≤ n) ∧
        ∀ k < n, piece[k]? = items[j * n + k]?) ∧
    ((∀ n : ℤ, size.index? = some n → n ≤ 0) →
      chunklist [.sequence items, size] = refuse "chunklist" (.chunkSize size)) := by
  constructor
  · intro n hn hsize
    refine ⟨chunks n items, chunklist_of_index? hn hsize, ?_, length_chunks hn items, ?_⟩
    · rw [concat_sequences, flatten_chunks]
    · intro j piece hj
      have hl := length_of_getElem?_chunks hn hj
      have hin := (lt_length_chunks_iff hn).mp (List.getElem?_eq_some_iff.mp hj).1
      refine ⟨?_, ?_, ?_⟩
      · intro hnext
        have hnext := (lt_length_chunks_iff hn).mp hnext
        rw [Nat.succ_mul] at hnext
        omega
      · intro _
        omega
      · intro k hk
        exact getElem?_of_getElem?_chunks hn hj hk
  · exact chunklist_refuses

/-- The whole double 2 cuts five elements into three chunks. The integer 2^63 is no index and so no
size. -/
theorem chunklist_cuts_five :
    let items : List Value := [.null, .bool true, .string "a", .null, .string "b"]
    let two : Value := .number (.double ⟨false, 2 ^ 52, 1023, by decide⟩)
    let large : Value := .number (.integer (2 ^ 63) (by decide) (by decide))
    (∃ pieces : List (List Value),
      chunklist [.sequence items, two] = .ok (.sequence (pieces.map .sequence)) ∧
        concat (pieces.map .sequence) = .ok (.sequence items) ∧
        pieces.length = 3 ∧ pieces[2]? = some [.string "b"]) ∧
      chunklist [.sequence items, large] = refuse "chunklist" (.chunkSize large) := by
  intro items two large
  have htwo : two.index? = some ((2 : ℕ) : ℤ) := by decide +kernel
  have hlarge : large.index? = none := by decide +kernel
  refine ⟨?_, (chunklist_cuts items large).2 fun n hn => by simp [hlarge] at hn⟩
  obtain ⟨pieces, hchunks, hconcat, hlength, hpiece⟩ :=
    (chunklist_cuts items two).1 2 (by decide) htwo
  rw [Nat.ceilDiv_eq_add_pred_div, show items.length = 5 from rfl] at hlength
  have hlast : pieces[2]? = some pieces[2] := List.getElem?_eq_getElem (by omega)
  obtain ⟨-, -, helements⟩ := hpiece 2 pieces[2] hlast
  refine ⟨pieces, hchunks, hconcat, hlength, hlast.trans (congrArg some ?_)⟩
  have hfirst : pieces[2][0]? = some (.string "b") := helements 0 (by decide)
  have hnone : pieces[2][1]? = none := helements 1 (by decide)
  have hone : pieces[2].length ≤ 1 := List.getElem?_eq_none_iff.mp hnone
  refine List.ext_getElem? fun k => ?_
  cases k with
  | zero => exact hfirst
  | succ k => exact List.getElem?_eq_none (by omega)

end Collection

end SnapshotRules
