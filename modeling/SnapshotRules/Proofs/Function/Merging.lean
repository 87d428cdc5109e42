import Mathlib
import SnapshotRules.Function.Collection

/-! # Merged mappings

A merged mapping has each key in the place where it comes first and with the value that comes last.
A mapping is determined by the order of its keys and the value of each, so the laws of `merge`
follow from these two facts.
-/

namespace SnapshotRules

namespace Entries

variable {α : Type _} {entries more : Entries α}

/-- Sets every entry of the second mapping in the first. -/
def setAll (entries more : Entries α) : Entries α :=
  more.foldl (fun entries entry => entries.set entry.1 entry.2) entries

theorem setAll_cons (entries : Entries α) (entry : String × α) (more : Entries α) :
    entries.setAll (entry :: more) = (entries.set entry.1 entry.2).setAll more := rfl

theorem keys_setAll (entries more : Entries α) :
    (entries.setAll more).keys = distinctOnto (· == ·) entries.keys more.keys := by
  induction more generalizing entries with
  | nil => rfl
  | cons entry more ih =>
    rw [setAll_cons, ih, keys_cons, distinctOnto, keys_set, List.any_beq']
    simp only [List.contains_iff_mem]
    split <;> rfl

theorem nodup_keys_setAll (h : entries.keys.Nodup) : (entries.setAll more).keys.Nodup := by
  induction more generalizing entries with
  | nil => exact h
  | cons entry more ih => exact ih (nodup_keys_set h entry.1 entry.2)

theorem get?_setAll (hn : more.keys.Nodup) (entries : Entries α) (key : String) :
    (entries.setAll more).get? key = (more.get? key).or (entries.get? key) := by
  induction more generalizing entries with
  | nil => rfl
  | cons entry more ih =>
    obtain ⟨k, v⟩ := entry
    obtain ⟨hk, hmore⟩ := List.nodup_cons.mp hn
    rw [setAll_cons, ih hmore, get?_set, get?]
    split
    · next he => rw [← he, get?_eq_none_iff.mpr hk, Option.none_or, Option.some_or]
    · rfl

end Entries

namespace Mapping

variable {α : Type _}

def setAll (m more : Mapping α) : Mapping α :=
  ⟨m.entries.setAll more.entries, Entries.nodup_keys_setAll m.nodup⟩

def mergeAll (maps : List (Mapping α)) : Mapping α := maps.foldl setAll .empty

theorem keys_setAll (m more : Mapping α) :
    (m.setAll more).keys = distinctOnto (· == ·) m.keys more.keys :=
  Entries.keys_setAll m.entries more.entries

theorem get?_setAll (m more : Mapping α) (key : String) :
    (m.setAll more).get? key = (more.get? key).or (m.get? key) :=
  Entries.get?_setAll more.nodup m.entries key

theorem empty_setAll (m : Mapping α) : empty.setAll m = m := by
  refine ext_get? ?_ fun key => ?_
  · rw [keys_setAll]
    refine distinctOnto_of_pairwise (m.nodup.imp fun hne => ?_)
    exact beq_eq_false_iff_ne.mpr hne
  · rw [get?_setAll]
    exact Option.or_none

theorem setAll_empty (m : Mapping α) : m.setAll empty = m := rfl

theorem setAll_self (m : Mapping α) : m.setAll m = m := by
  refine ext_get? ?_ fun key => ?_
  · rw [keys_setAll, distinctOnto_of_subset fun _ => id]
  · rw [get?_setAll, Option.or_self]

theorem setAll_assoc (a b c : Mapping α) : (a.setAll b).setAll c = a.setAll (b.setAll c) := by
  refine ext_get? ?_ fun key => ?_
  · simp only [keys_setAll]
    rw [distinctOnto_distinctOnto, distinctOnto_append]
  · simp only [get?_setAll, Option.or_assoc]

theorem keys_foldl_setAll (maps : List (Mapping α)) (m : Mapping α) :
    (maps.foldl setAll m).keys = distinctOnto (· == ·) m.keys (maps.map keys).flatten := by
  induction maps generalizing m with
  | nil => rfl
  | cons more maps ih =>
    rw [List.foldl_cons, ih, keys_setAll, List.map_cons, List.flatten_cons, distinctOnto_append]

theorem get?_foldl_setAll (maps : List (Mapping α)) (m : Mapping α) (key : String) :
    (maps.foldl setAll m).get? key =
      (maps.reverse.findSome? fun m => m.get? key).or (m.get? key) := by
  induction maps generalizing m with
  | nil => rfl
  | cons more maps ih =>
    rw [List.foldl_cons, ih, get?_setAll, List.reverse_cons, List.findSome?_append,
      List.findSome?_singleton, Option.or_assoc]

def toValue (m : Mapping Value) : Value := .mapping m.entries

end Mapping

namespace Collection

theorem addMappings_toValue (m : Mapping Value) (maps : List (Mapping Value)) :
    addMappings m.entries (maps.map Mapping.toValue) =
      .ok (maps.foldl Mapping.setAll m).entries := by
  induction maps generalizing m with
  | nil => rfl
  | cons more maps ih => exact ih (m.setAll more)

theorem merge_toValue (maps : List (Mapping Value)) :
    merge (maps.map Mapping.toValue) = .ok (Mapping.mergeAll maps).toValue := by
  have h : addMappings [] (maps.map Mapping.toValue) = .ok (Mapping.mergeAll maps).entries :=
    addMappings_toValue .empty maps
  rw [merge, h]
  rfl

theorem merge_pair (a b : Mapping Value) :
    merge [a.toValue, b.toValue] = .ok (a.setAll b).toValue := by
  have h := merge_toValue [a, b]
  rwa [Mapping.mergeAll, List.foldl_cons, List.foldl_cons, Mapping.empty_setAll] at h

theorem lookup_mapping (entries : Entries Value) (key : String) (default : Value) :
    lookup [.mapping entries, .string key, default] = .ok ((entries.get? key).getD default) := rfl

theorem keys_mapping (entries : Entries Value) :
    keys [.mapping entries] = .ok (.sequence (entries.keys.map .string)) := rfl

theorem distinct_strings (names : List String) :
    distinct [.sequence (names.map .string)] =
      .ok (.sequence ((distinctBy (· == ·) names).map .string)) := by
  rw [distinct_sequence, distinctBy_map]
  simp only [Value.equal]

theorem mapM_keys (maps : List (Mapping Value)) :
    (maps.mapM fun m => keys [m.toValue]) =
      .ok (maps.map fun m => .sequence (m.keys.map .string)) :=
  List.mapM_pure

theorem keys_mergeAll (maps : List (Mapping Value)) :
    keys [(Mapping.mergeAll maps).toValue] =
      (maps.mapM fun m => keys [m.toValue]) >>= concat >>= fun joined => distinct [joined] := by
  have hlists : (maps.map fun m => Value.sequence (m.keys.map .string)) =
      (maps.map fun m => m.keys.map Value.string).map .sequence := by
    rw [List.map_map]
    rfl
  have hflat : (maps.map fun m => m.keys.map Value.string).flatten =
      (maps.map Mapping.keys).flatten.map .string := by
    rw [List.map_flatten, List.map_map]
    rfl
  have hkeys : (Mapping.mergeAll maps).entries.keys =
      distinctBy (· == ·) (maps.map Mapping.keys).flatten :=
    Mapping.keys_foldl_setAll maps .empty
  rw [Mapping.toValue, keys_mapping, hkeys, mapM_keys, hlists]
  simp only [bind, Except.bind, concat_sequences, hflat, distinct_strings]

/-! ## Alternating keys and values -/

/-- The mapping of one key and its value, or the fault of the key. -/
def single (pair : Value × Value) : Except CallError Value :=
  (keyOf pair.1).map fun key => .mapping [(key, pair.2)]

theorem addPairs_alternating (entries : Entries Value) (pairs : List (Value × Value)) :
    addPairs entries (pairs.flatMap fun pair => [pair.1, pair.2]) =
      pairs.mapM single >>= addMappings entries := by
  induction pairs generalizing entries with
  | nil => rfl
  | cons pair pairs ih =>
    rw [List.flatMap_cons, List.mapM_cons, single]
    change (keyOf pair.1 >>= fun key => addPairs (entries.set key pair.2) (pairs.flatMap _)) = _
    cases keyOf pair.1 with
    | error error => rfl
    | ok key =>
      change addPairs (entries.set key pair.2) (pairs.flatMap _) = _
      rw [ih]
      cases pairs.mapM single <;> rfl

theorem toMap_alternating (pairs : List (Value × Value)) :
    toMap (pairs.flatMap fun pair => [pair.1, pair.2]) = pairs.mapM single >>= merge := by
  have heven : (pairs.flatMap fun pair => [pair.1, pair.2]).length % 2 = 0 := by
    simp [List.length_flatMap]
  rw [toMap_of_even heven, addPairs_alternating]
  cases pairs.mapM single with
  | error error => rfl
  | ok maps =>
    change (addMappings [] maps).map Value.mapping = merge maps
    rw [merge]
    cases addMappings [] maps <;> rfl

/-! ## The laws -/

/-- A merged mapping has every key of the arguments where it comes first and with the value that it
has last. Merging is associative, the empty mapping is its identity, it changes nothing when a
mapping is merged with itself, and `to_map` merges the mappings of its single keys. -/
theorem merge_laws :
    (∀ maps : List (Mapping Value), ∃ merged : Mapping Value,
      merge (maps.map Mapping.toValue) = .ok merged.toValue ∧
      (∀ key default, lookup [merged.toValue, .string key, default] =
        .ok ((maps.reverse.findSome? fun m => m.get? key).getD default)) ∧
      keys [merged.toValue] =
        (maps.mapM fun m => keys [m.toValue]) >>= concat >>= fun joined => distinct [joined]) ∧
    (∀ a b c : Mapping Value, ∃ ab bc abc : Mapping Value,
      merge [a.toValue, b.toValue] = .ok ab.toValue ∧
      merge [b.toValue, c.toValue] = .ok bc.toValue ∧
      merge [ab.toValue, c.toValue] = .ok abc.toValue ∧
      merge [a.toValue, bc.toValue] = .ok abc.toValue) ∧
    (∀ m : Mapping Value,
      merge [Mapping.empty.toValue, m.toValue] = .ok m.toValue ∧
      merge [m.toValue, Mapping.empty.toValue] = .ok m.toValue ∧
      merge [m.toValue, m.toValue] = .ok m.toValue) ∧
    ∀ pairs : List (Value × Value),
      toMap (pairs.flatMap fun pair => [pair.1, pair.2]) = pairs.mapM single >>= merge := by
  refine ⟨fun maps => ⟨_, merge_toValue maps, ?_, keys_mergeAll maps⟩, fun a b c => ?_, fun m => ?_,
    toMap_alternating⟩
  · intro key default
    have hget : (Mapping.mergeAll maps).get? key =
        (maps.reverse.findSome? fun m => m.get? key).or none :=
      Mapping.get?_foldl_setAll maps .empty key
    rw [Option.or_none] at hget
    rw [← hget]
    rfl
  · have habc := merge_pair (a.setAll b) c
    rw [Mapping.setAll_assoc] at habc
    exact ⟨_, _, _, merge_pair a b, merge_pair b c, habc, merge_pair a (b.setAll c)⟩
  · refine ⟨?_, ?_, ?_⟩
    · rw [merge_pair, Mapping.empty_setAll]
    · rw [merge_pair, Mapping.setAll_empty]
    · rw [merge_pair, Mapping.setAll_self]

/-- Three mappings that overlap, and a key that `to_map` gets twice, as a number and as a string. -/
theorem merge_laws_of_overlapping :
    let one := Value.number (.integer 1 (by decide) (by decide))
    let a : Mapping Value := ⟨[("x", .null), ("y", .bool true)], by decide⟩
    let b : Mapping Value := ⟨[("z", .null), ("y", .string "b")], by decide⟩
    let c : Mapping Value := ⟨[("1", one), ("x", .string "c")], by decide⟩
    (∃ merged : Mapping Value, merge [a.toValue, b.toValue, c.toValue] = .ok merged.toValue ∧
      lookup [merged.toValue, .string "x", one] = .ok (.string "c") ∧
      lookup [merged.toValue, .string "y", one] = .ok (.string "b") ∧
      lookup [merged.toValue, .string "w", one] = .ok one ∧
      keys [merged.toValue] =
        .ok (.sequence [.string "x", .string "y", .string "z", .string "1"])) ∧
    (∃ ab bc abc : Mapping Value,
      merge [a.toValue, b.toValue] = .ok ab.toValue ∧
      merge [b.toValue, c.toValue] = .ok bc.toValue ∧
      merge [ab.toValue, c.toValue] = .ok abc.toValue ∧
      merge [a.toValue, bc.toValue] = .ok abc.toValue) ∧
    merge [a.toValue, a.toValue] = .ok a.toValue ∧
    toMap [one, .null, .string "x", one, .string "1", .bool true] =
      .ok (.mapping [("1", .bool true), ("x", one)]) := by
  intro one a b c
  obtain ⟨hmerge, hassoc, hself, hpairs⟩ := merge_laws
  obtain ⟨merged, hmerged, hlookup, hkeys⟩ := hmerge [a, b, c]
  refine ⟨⟨merged, hmerged, ?_, ?_, ?_, ?_⟩, hassoc a b c, (hself a).2.2, ?_⟩
  · exact hlookup "x" one
  · exact hlookup "y" one
  · exact hlookup "w" one
  · exact hkeys
  · exact hpairs [(one, .null), (.string "x", one), (.string "1", .bool true)]

end Collection

end SnapshotRules
