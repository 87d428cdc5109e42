/-! # Chunks of a list -/

namespace SnapshotRules

variable {α : Type _}

/-- Consecutive chunks of `size` elements. The last chunk may be shorter. -/
def chunks (size : Nat) : List α → List (List α)
  | [] => []
  | x :: xs => (x :: xs.take (size - 1)) :: chunks size (xs.drop (size - 1))
termination_by xs => xs.length
decreasing_by simp only [List.length_drop, List.length_cons]; omega

@[simp] theorem chunks_nil (size : Nat) : chunks size ([] : List α) = [] := by rw [chunks]

theorem chunks_cons (size : Nat) (x : α) (xs : List α) :
    chunks size (x :: xs) =
      (x :: xs.take (size - 1)) :: chunks size (xs.drop (size - 1)) := by rw [chunks]

theorem flatten_chunks (size : Nat) (xs : List α) : (chunks size xs).flatten = xs := by
  fun_induction chunks size xs with
  | case1 => rfl
  | case2 x xs ih => simp [ih]

theorem getElem?_chunks {size : Nat} (h : 0 < size) (xs : List α) (j : Nat) :
    (chunks size xs)[j]? =
      if j * size < xs.length then some ((xs.drop (j * size)).take size) else none := by
  obtain ⟨n, rfl⟩ : ∃ n, size = n + 1 := ⟨size - 1, by omega⟩
  fun_induction chunks (n + 1) xs generalizing j with
  | case1 => simp
  | case2 x xs ih =>
    cases j with
    | zero => simp
    | succ j =>
      have hj : (j + 1) * (n + 1) = n + j * (n + 1) + 1 := by rw [Nat.succ_mul]; omega
      rw [List.getElem?_cons_succ, ih, Nat.add_sub_cancel, List.drop_drop, List.length_drop, hj,
        List.drop_succ_cons, List.length_cons]
      exact ite_congr (propext (by omega)) (fun _ => rfl) fun _ => rfl

end SnapshotRules
