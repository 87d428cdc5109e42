/-! # Removing duplicates -/

namespace SnapshotRules

variable {α : Type _}

/-- Adds to the kept elements each further one that none kept so far is equal to. -/
def distinctOnto (equal : α → α → Bool) (kept : List α) : List α → List α
  | [] => kept
  | x :: xs =>
    if kept.any fun y => equal y x then distinctOnto equal kept xs
    else distinctOnto equal (kept ++ [x]) xs

/-- The first element of every class of equal ones. -/
def distinctBy (equal : α → α → Bool) (xs : List α) : List α := distinctOnto equal [] xs

section

variable {equal : α → α → Bool} {kept xs : List α} {x : α}

theorem distinctOnto_append (equal : α → α → Bool) (kept xs ys : List α) :
    distinctOnto equal kept (xs ++ ys) = distinctOnto equal (distinctOnto equal kept xs) ys := by
  induction xs generalizing kept with
  | nil => rfl
  | cons x xs ih =>
    rw [List.cons_append, distinctOnto, distinctOnto, apply_ite (distinctOnto equal · ys)]
    exact ite_congr rfl (fun _ => ih kept) fun _ => ih (kept ++ [x])

theorem distinctBy_map {β : Type _} (equal : α → α → Bool) (f : β → α) (xs : List β) :
    distinctBy equal (xs.map f) = (distinctBy (fun x y => equal (f x) (f y)) xs).map f := by
  suffices ∀ kept : List β, distinctOnto equal (kept.map f) (xs.map f) =
      (distinctOnto (fun x y => equal (f x) (f y)) kept xs).map f from this []
  intro kept
  induction xs generalizing kept with
  | nil => rfl
  | cons x xs ih =>
    rw [List.map_cons, distinctOnto, distinctOnto, List.any_map, apply_ite (List.map f),
      ← ih kept, ← ih (kept ++ [x]), List.map_append, List.map_singleton]
    rfl

theorem distinctBy_congr {equal' : α → α → Bool}
    (h : ∀ x ∈ xs, ∀ y ∈ xs, equal x y = equal' x y) :
    distinctBy equal xs = distinctBy equal' xs := by
  suffices ∀ kept ys : List α, (∀ x ∈ kept ++ ys, ∀ y ∈ kept ++ ys, equal x y = equal' x y) →
      distinctOnto equal kept ys = distinctOnto equal' kept ys from this [] xs h
  intro kept ys h
  induction ys generalizing kept with
  | nil => rfl
  | cons x ys ih =>
    have hany : (kept.any fun y => equal y x) = kept.any fun y => equal' y x := by
      rw [Bool.eq_iff_iff, List.any_eq_true, List.any_eq_true]
      refine exists_congr fun y => and_congr_right fun hy => ?_
      rw [h y (List.mem_append_left _ hy) x (List.mem_append_right _ List.mem_cons_self)]
    rw [distinctOnto, distinctOnto, hany]
    split
    · have hsub : kept ++ ys ⊆ kept ++ x :: ys := by simp
      exact ih kept fun y hy z hz => h y (hsub hy) z (hsub hz)
    · exact ih (kept ++ [x]) (by rwa [← List.append_cons])

theorem prefix_distinctOnto : kept <+: distinctOnto equal kept xs := by
  induction xs generalizing kept with
  | nil => exact List.prefix_refl kept
  | cons x xs ih =>
    rw [distinctOnto]
    split
    · exact ih
    · exact (List.prefix_append kept [x]).trans ih

theorem distinctOnto_sublist : (distinctOnto equal kept xs).Sublist (kept ++ xs) := by
  induction xs generalizing kept with
  | nil => simp [distinctOnto]
  | cons x xs ih =>
    rw [distinctOnto]
    split
    · exact ih.trans ((List.sublist_cons_self x xs).append_left kept)
    · rw [List.append_cons kept x xs]
      exact ih

theorem distinctBy_sublist : (distinctBy equal xs).Sublist xs := distinctOnto_sublist

theorem distinctOnto_pairwise (h : kept.Pairwise fun x y => equal x y = false) :
    (distinctOnto equal kept xs).Pairwise fun x y => equal x y = false := by
  induction xs generalizing kept with
  | nil => exact h
  | cons x xs ih =>
    rw [distinctOnto]
    split
    · exact ih h
    · next hx =>
      refine ih (List.pairwise_append.mpr ⟨h, List.pairwise_singleton _ x, fun y hy z hz => ?_⟩)
      rw [List.mem_singleton.mp hz]
      exact Bool.eq_false_iff.mpr fun he => hx (List.any_eq_true.mpr ⟨y, hy, he⟩)

theorem distinctBy_pairwise : (distinctBy equal xs).Pairwise fun x y => equal x y = false :=
  distinctOnto_pairwise .nil

theorem exists_equal_mem_distinctOnto (hx : x ∈ xs) (hself : equal x x = true) :
    ∃ y ∈ distinctOnto equal kept xs, equal y x = true := by
  induction xs generalizing kept with
  | nil => exact absurd hx List.not_mem_nil
  | cons z xs ih =>
    rw [distinctOnto]
    rcases List.mem_cons.mp hx with rfl | hx
    · split
      · next hany =>
        obtain ⟨y, hy, he⟩ := List.any_eq_true.mp hany
        exact ⟨y, prefix_distinctOnto.subset hy, he⟩
      · exact ⟨x, prefix_distinctOnto.subset (by simp), hself⟩
    · split <;> exact ih hx

theorem exists_equal_mem_distinctBy (hx : x ∈ xs) (hself : equal x x = true) :
    ∃ y ∈ distinctBy equal xs, equal y x = true := exists_equal_mem_distinctOnto hx hself

theorem distinctOnto_of_pairwise (h : (kept ++ xs).Pairwise fun x y => equal x y = false) :
    distinctOnto equal kept xs = kept ++ xs := by
  induction xs generalizing kept with
  | nil => rw [distinctOnto, List.append_nil]
  | cons x xs ih =>
    have hx : ¬ (kept.any fun y => equal y x) = true := by
      rw [List.any_eq_true]
      rintro ⟨y, hy, he⟩
      have := (List.pairwise_append.mp h).2.2 y hy x List.mem_cons_self
      exact Bool.false_ne_true (this.symm.trans he)
    rw [List.append_cons] at h ⊢
    rw [distinctOnto, if_neg hx, ih h]

theorem distinctBy_distinctBy (equal : α → α → Bool) (xs : List α) :
    distinctBy equal (distinctBy equal xs) = distinctBy equal xs :=
  @distinctOnto_of_pairwise _ equal [] _ distinctBy_pairwise

end

section

variable [BEq α] [LawfulBEq α] {x : α} {kept before xs : List α}

theorem mem_distinctOnto : x ∈ distinctOnto (· == ·) kept xs ↔ x ∈ kept ∨ x ∈ xs := by
  constructor
  · intro hx
    exact List.mem_append.mp (distinctOnto_sublist.subset hx)
  · rintro (hx | hx)
    · exact prefix_distinctOnto.subset hx
    · obtain ⟨y, hy, he⟩ := exists_equal_mem_distinctOnto hx (beq_self_eq_true x)
      exact eq_of_beq he ▸ hy

theorem mem_distinctBy : x ∈ distinctBy (· == ·) xs ↔ x ∈ xs := by
  rw [distinctBy, mem_distinctOnto]
  simp

theorem distinctOnto_of_subset (h : ∀ x ∈ xs, x ∈ kept) :
    distinctOnto (· == ·) kept xs = kept := by
  induction xs with
  | nil => rfl
  | cons x xs ih =>
    have hany : (kept.any fun y => y == x) = true :=
      List.any_eq_true.mpr ⟨x, h x List.mem_cons_self, beq_self_eq_true x⟩
    rw [distinctOnto, if_pos hany, ih fun y hy => h y (List.mem_cons_of_mem x hy)]

/-- Duplicates of elements that are added anyway may stay or go. -/
theorem distinctOnto_distinctOnto (kept before xs : List α) :
    distinctOnto (· == ·) kept (distinctOnto (· == ·) before xs) =
      distinctOnto (· == ·) kept (before ++ xs) := by
  induction xs generalizing before with
  | nil => rw [distinctOnto, List.append_nil]
  | cons x xs ih =>
    rw [distinctOnto]
    split
    · next hany =>
      obtain ⟨y, hy, he⟩ := List.any_eq_true.mp hany
      obtain rfl := eq_of_beq he
      have hskip : distinctOnto (· == ·) kept (before ++ [y]) =
          distinctOnto (· == ·) kept before := by
        rw [distinctOnto_append, distinctOnto_of_subset]
        intro z hz
        rw [List.mem_singleton.mp hz, mem_distinctOnto]
        exact .inr hy
      rw [ih, List.append_cons, distinctOnto_append, distinctOnto_append, hskip]
    · rw [ih, ← List.append_cons]

end

end SnapshotRules
