/-! # Ordered entries

Values under text keys, in the order in which the keys were first written. Lists made by
`set` hold every key once.
-/

namespace SnapshotRules

abbrev Entries (α : Type _) := List (String × α)

namespace Entries

variable {α : Type _}

/-- The value of the first entry with this key. -/
def get? : Entries α → String → Option α
  | [], _ => none
  | (k, v) :: rest, key => if k = key then some v else get? rest key

/-- Replaces the value of the first entry with this key, or adds an entry at the end. -/
def set : Entries α → String → α → Entries α
  | [], key, value => [(key, value)]
  | (k, v) :: rest, key, value =>
    if k = key then (key, value) :: rest else (k, v) :: set rest key value

def erase (entries : Entries α) (key : String) : Entries α :=
  entries.filter fun entry => entry.1 ≠ key

def keys (entries : Entries α) : List String := entries.map Prod.fst

def contains (entries : Entries α) (key : String) : Bool := (entries.get? key).isSome

/-- Puts an entry before the first larger key, or in place of one with the same key. -/
def setSorted : Entries α → String → α → Entries α
  | [], key, value => [(key, value)]
  | (k, v) :: rest, key, value =>
    if key < k then (key, value) :: (k, v) :: rest
    else if k = key then (key, value) :: rest
    else (k, v) :: setSorted rest key value

def sorted (entries : Entries α) : Entries α :=
  entries.foldl (fun ordered entry => ordered.setSorted entry.1 entry.2) []

@[simp] theorem get?_nil (key : String) : get? ([] : Entries α) key = none := rfl

@[simp] theorem keys_nil : keys ([] : Entries α) = [] := rfl

@[simp] theorem keys_cons (entry : String × α) (rest : Entries α) :
    keys (entry :: rest) = entry.1 :: keys rest := rfl

theorem get?_set (entries : Entries α) (key other : String) (value : α) :
    (entries.set key value).get? other =
      if key = other then some value else entries.get? other := by
  induction entries with
  | nil => simp [set, get?]
  | cons entry rest ih =>
    obtain ⟨k, v⟩ := entry
    by_cases hk : k = key <;> by_cases ho : k = other <;> simp_all [set, get?]
    exact fun h => absurd h.symm hk

theorem mem_of_get? {entries : Entries α} {key : String} {value : α}
    (h : entries.get? key = some value) : (key, value) ∈ entries := by
  induction entries with
  | nil => exact absurd h (by simp)
  | cons entry rest ih =>
    obtain ⟨k, v⟩ := entry
    rw [get?] at h
    split at h
    · next hk => simp [hk, Option.some.inj h]
    · exact List.mem_cons_of_mem _ (ih h)

theorem exists_get?_of_mem_keys {entries : Entries α} {key : String} (h : key ∈ entries.keys) :
    ∃ value, entries.get? key = some value := by
  induction entries with
  | nil => exact absurd h (by simp)
  | cons entry rest ih =>
    obtain ⟨k, v⟩ := entry
    rw [get?]
    split
    · exact ⟨v, rfl⟩
    · next hk => exact ih ((List.mem_cons.mp h).resolve_left (Ne.symm hk))

theorem get?_eq_none_iff {entries : Entries α} {key : String} :
    entries.get? key = none ↔ key ∉ entries.keys := by
  constructor
  · intro h hk
    obtain ⟨value, hv⟩ := exists_get?_of_mem_keys hk
    exact absurd (h.symm.trans hv) (by simp)
  · intro hk
    cases h : entries.get? key with
    | none => rfl
    | some value => exact absurd (List.mem_map_of_mem (mem_of_get? h)) hk

theorem contains_iff_mem_keys {entries : Entries α} {key : String} :
    entries.contains key = true ↔ key ∈ entries.keys := by
  rw [contains, Option.isSome_iff_ne_none, ne_eq, get?_eq_none_iff, Decidable.not_not]

theorem get?_append (a b : Entries α) (key : String) :
    get? (a ++ b) key = (a.get? key).or (b.get? key) := by
  induction a with
  | nil => rfl
  | cons entry a ih =>
    obtain ⟨k, v⟩ := entry
    rw [List.cons_append, get?, get?, ih]
    split <;> rfl

theorem keys_append (a b : Entries α) : keys (a ++ b) = a.keys ++ b.keys := List.map_append

theorem get?_append_of_notMem_left {a : Entries α} {key : String} (h : key ∉ a.keys)
    (b : Entries α) : get? (a ++ b) key = b.get? key := by
  rw [get?_append, get?_eq_none_iff.mpr h, Option.none_or]

theorem get?_append_of_notMem_right {b : Entries α} {key : String} (h : key ∉ b.keys)
    (a : Entries α) : get? (a ++ b) key = a.get? key := by
  rw [get?_append, get?_eq_none_iff.mpr h, Option.or_none]

theorem keys_set (entries : Entries α) (key : String) (value : α) :
    (entries.set key value).keys =
      if key ∈ entries.keys then entries.keys else entries.keys ++ [key] := by
  induction entries with
  | nil => rfl
  | cons entry rest ih =>
    obtain ⟨k, v⟩ := entry
    by_cases hk : k = key
    · simp [set, hk]
    · simp only [set, if_neg hk, keys_cons, ih, List.mem_cons, Ne.symm hk, false_or]
      split <;> rfl

theorem nodup_keys_set {entries : Entries α} (h : entries.keys.Nodup) (key : String) (value : α) :
    (entries.set key value).keys.Nodup := by
  rw [keys_set]
  split
  · exact h
  · next hn =>
    refine List.nodup_append.mpr ⟨h, List.nodup_cons.mpr ⟨List.not_mem_nil, .nil⟩, ?_⟩
    intro k hk k' hk'
    rw [List.mem_singleton.mp hk']
    exact ne_of_mem_of_not_mem hk hn

theorem get?_of_mem {entries : Entries α} (hn : entries.keys.Nodup) {key : String} {value : α}
    (h : (key, value) ∈ entries) : entries.get? key = some value := by
  induction entries with
  | nil => exact absurd h List.not_mem_nil
  | cons entry rest ih =>
    obtain ⟨hk, hrest⟩ := List.nodup_cons.mp hn
    rw [get?]
    rcases List.mem_cons.mp h with rfl | h
    · rw [if_pos rfl]
    · have hne : entry.1 ≠ key := fun he => hk (he ▸ List.mem_map_of_mem h)
      rw [if_neg hne, ih hrest h]

theorem ext_of_nodup {a b : Entries α} (hn : a.keys.Nodup) (hk : a.keys = b.keys)
    (h : ∀ key, a.get? key = b.get? key) : a = b := by
  induction a generalizing b with
  | nil =>
    cases b with
    | nil => rfl
    | cons => exact absurd hk (by simp)
  | cons entry a ih =>
    cases b with
    | nil => exact absurd hk (by simp)
    | cons entry' b =>
      obtain ⟨k, v⟩ := entry
      obtain ⟨k', v'⟩ := entry'
      obtain ⟨rfl, hkeys⟩ := List.cons.inj hk
      replace hkeys : keys a = keys b := hkeys
      obtain ⟨hka, hna⟩ := List.nodup_cons.mp hn
      have hv := h k
      rw [get?, get?, if_pos rfl, if_pos rfl] at hv
      rw [Option.some.inj hv, ih hna hkeys fun key => ?_]
      have hkey := h key
      rw [get?, get?] at hkey
      by_cases he : k = key
      · subst he
        rw [get?_eq_none_iff.mpr hka, get?_eq_none_iff.mpr (hkeys ▸ hka)]
      · rwa [if_neg he, if_neg he] at hkey

/-! Entries by ascending key. -/

theorem get?_setSorted (entries : Entries α) (key other : String) (value : α) :
    (entries.setSorted key value).get? other =
      if key = other then some value else entries.get? other := by
  induction entries with
  | nil => rfl
  | cons entry rest ih =>
    obtain ⟨k, v⟩ := entry
    rw [setSorted]
    split
    · rfl
    · split
      · next hk =>
        rw [get?, get?, hk]
        split <;> rfl
      · next hk =>
        rw [get?, get?, ih]
        split
        · next ho => rw [if_neg fun h => hk (ho.trans h.symm)]
        · rfl

theorem mem_keys_setSorted {entries : Entries α} {key other : String} {value : α} :
    other ∈ (entries.setSorted key value).keys ↔ other = key ∨ other ∈ entries.keys := by
  rw [← contains_iff_mem_keys, ← contains_iff_mem_keys, contains, contains, get?_setSorted]
  by_cases h : key = other
  · simp [h]
  · simp [h, Ne.symm h]

theorem pairwise_keys_setSorted {entries : Entries α} (h : entries.keys.Pairwise (· < ·))
    (key : String) (value : α) : (entries.setSorted key value).keys.Pairwise (· < ·) := by
  induction entries with
  | nil => exact List.pairwise_singleton _ key
  | cons entry rest ih =>
    obtain ⟨k, v⟩ := entry
    obtain ⟨hk, hrest⟩ := List.pairwise_cons.mp h
    rw [setSorted]
    split
    · next hlt =>
      refine List.pairwise_cons.mpr ⟨?_, h⟩
      rintro other (_ | ⟨_, hother⟩)
      · exact hlt
      · exact String.lt_trans hlt (hk other hother)
    · split
      · next he => exact List.pairwise_cons.mpr ⟨he ▸ hk, hrest⟩
      · next hge hne =>
        refine List.pairwise_cons.mpr ⟨fun other hother => ?_, ih hrest⟩
        rcases mem_keys_setSorted.mp hother with rfl | hother
        · exact Std.lt_of_le_of_ne (String.not_lt.mp hge) hne
        · exact hk other hother

/-! Entries that are set one after the other. The last value of a key wins. -/

section

variable {β : Type _} (key : β → String) (value : β → α)

theorem get?_foldl_set_of_ne {xs : List β} {k : String} (h : ∀ x ∈ xs, key x ≠ k)
    (entries : Entries α) :
    (xs.foldl (fun es x => es.set (key x) (value x)) entries).get? k = entries.get? k := by
  induction xs generalizing entries with
  | nil => rfl
  | cons x xs ih =>
    obtain ⟨hx, hxs⟩ := List.forall_mem_cons.mp h
    rw [List.foldl_cons, ih hxs, get?_set, if_neg hx]

theorem get?_foldl_set_last (before : List β) {x : β} {after : List β}
    (h : ∀ y ∈ after, key y ≠ key x) (entries : Entries α) :
    ((before ++ x :: after).foldl (fun es x => es.set (key x) (value x)) entries).get? (key x) =
      some (value x) := by
  rw [List.foldl_append, List.foldl_cons, get?_foldl_set_of_ne key value h, get?_set, if_pos rfl]

theorem contains_foldl_set (xs : List β) (entries : Entries α) (k : String) :
    (xs.foldl (fun es x => es.set (key x) (value x)) entries).contains k = true ↔
      (∃ x ∈ xs, key x = k) ∨ entries.contains k = true := by
  induction xs generalizing entries with
  | nil => simp
  | cons x xs ih =>
    rw [List.foldl_cons, ih, contains, contains, get?_set]
    by_cases hx : key x = k <;> simp [hx]

end

end Entries

/-- Entries that hold every key once. -/
structure Mapping (α : Type _) where
  entries : Entries α
  nodup : entries.keys.Nodup
  deriving DecidableEq

namespace Mapping

variable {α : Type _} {a b m : Mapping α} {key : String} {value : α}

def empty : Mapping α := ⟨[], .nil⟩

def keys (m : Mapping α) : List String := m.entries.keys

def get? (m : Mapping α) (key : String) : Option α := m.entries.get? key

def set (m : Mapping α) (key : String) (value : α) : Mapping α :=
  ⟨m.entries.set key value, Entries.nodup_keys_set m.nodup key value⟩

theorem get?_of_mem (h : (key, value) ∈ m.entries) : m.get? key = some value :=
  Entries.get?_of_mem m.nodup h

/-- Mappings with the same keys in the same order are the same if every key has the same value. -/
theorem ext_get? (hk : a.keys = b.keys) (h : ∀ key, a.get? key = b.get? key) : a = b := by
  obtain ⟨entries, nodup⟩ := a
  obtain ⟨entries', nodup'⟩ := b
  obtain rfl : entries = entries' := Entries.ext_of_nodup nodup hk h
  rfl

end Mapping

end SnapshotRules
