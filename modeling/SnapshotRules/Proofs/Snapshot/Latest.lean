import Mathlib
import SnapshotRules.Snapshot.Source

/-! # Latest documents

A store in memory keeps every document that is inserted. It answers with the newest one of an id
and a collection, and of equally new ones with the one inserted last, in whatever order the
timestamps come.
-/

namespace SnapshotRules

def Document.IsFor (d : Document) (id collection : String) : Prop :=
  d.snapshotId = id ∧ d.collection = collection

instance (d : Document) (id collection : String) : Decidable (d.IsFor id collection) :=
  inferInstanceAs (Decidable (_ ∧ _))

namespace MemoryStore

variable {m : MemoryStore} {ds : List Document} {d e : Document} {id collection : String}

/-- Of the documents for an id and a collection none is newer than `d`, and those inserted after
it are older. -/
structure IsLatest (ds : List Document) (id collection : String) (d : Document) : Prop where
  isFor : d.IsFor id collection
  exists_split : ∃ before after, ds = before ++ d :: after ∧
    (∀ e ∈ before, e.IsFor id collection → e.timestamp ≤ d.timestamp) ∧
    ∀ e ∈ after, e.IsFor id collection → e.timestamp < d.timestamp

/-- What a store with the given documents has to answer. -/
def Answers (ds : List Document) (id collection : String) : Option Document → Prop
  | none => ∀ d ∈ ds, ¬ d.IsFor id collection
  | some d => IsLatest ds id collection d

theorem IsLatest.mem (h : IsLatest ds id collection d) : d ∈ ds := by
  obtain ⟨before, after, rfl, -, -⟩ := h.exists_split
  exact List.mem_append_right _ (List.mem_cons_self ..)

theorem IsLatest.timestamp_le (h : IsLatest ds id collection d) (he : e ∈ ds)
    (hf : e.IsFor id collection) : e.timestamp ≤ d.timestamp := by
  obtain ⟨before, after, rfl, hbefore, hafter⟩ := h.exists_split
  rcases List.mem_append.mp he with he | he
  · exact hbefore e he hf
  · rcases List.mem_cons.mp he with rfl | he
    · exact Int64.le_refl _
    · exact Int64.le_of_lt (hafter e he hf)

/-! ## Insertions -/

theorem IsLatest.insert_older (h : IsLatest ds id collection d)
    (he : e.IsFor id collection → e.timestamp < d.timestamp) :
    IsLatest (ds ++ [e]) id collection d := by
  obtain ⟨before, after, rfl, hbefore, hafter⟩ := h.exists_split
  refine ⟨h.isFor, before, after ++ [e], by simp, hbefore, fun x hx => ?_⟩
  rcases List.mem_append.mp hx with hx | hx
  · exact hafter x hx
  · obtain rfl := List.mem_singleton.mp hx
    exact he

theorem isLatest_insert_newest (he : e.IsFor id collection)
    (h : ∀ d ∈ ds, d.IsFor id collection → d.timestamp ≤ e.timestamp) :
    IsLatest (ds ++ [e]) id collection e :=
  ⟨he, ds, [], rfl, h, fun _ hx => absurd hx List.not_mem_nil⟩

theorem Answers.insert {best : Option Document} (h : Answers ds id collection best)
    (e : Document) :
    Answers (ds ++ [e]) id collection (if e.IsFor id collection then later best e else best) := by
  by_cases he : e.IsFor id collection
  · rw [if_pos he]
    cases best with
    | none => exact isLatest_insert_newest he fun d hd hf => absurd hf (h d hd)
    | some d =>
      have hlatest : IsLatest ds id collection d := h
      rw [later]
      split
      · next hle =>
        exact isLatest_insert_newest he fun x hx hf =>
          Int64.le_trans (hlatest.timestamp_le hx hf) hle
      · next hle => exact hlatest.insert_older fun _ => Int64.not_le.mp hle
  · rw [if_neg he]
    cases best with
    | none =>
      intro d hd
      rcases List.mem_append.mp hd with hd | hd
      · exact h d hd
      · obtain rfl := List.mem_singleton.mp hd
        exact he
    | some d => exact IsLatest.insert_older h fun hf => absurd hf he

/-! ## Answers -/

theorem latest?_eq (m : MemoryStore) (id collection : String) :
    m.latest? id collection =
      (m.documents.filter fun d => d.IsFor id collection).foldl later none := rfl

theorem latest?_insert (m : MemoryStore) (e : Document) (id collection : String) :
    (m.insert e).latest? id collection =
      if e.IsFor id collection then later (m.latest? id collection) e
      else m.latest? id collection := by
  rw [latest?_eq, insert, List.filter_append, List.foldl_append, ← latest?_eq]
  by_cases he : e.IsFor id collection
  · rw [if_pos he, List.filter_cons_of_pos (by simpa using he)]
    rfl
  · rw [if_neg he, List.filter_cons_of_neg (by simpa using he)]
    rfl

/-- The answer is right for the documents that were inserted one after the other. -/
theorem answers_latest? (ds : List Document) (id collection : String) :
    Answers ds id collection ((ds.foldl insert empty).latest? id collection) := by
  induction ds using List.reverseRecOn with
  | nil => exact fun d hd => absurd hd List.not_mem_nil
  | append_singleton ds e ih =>
    rw [List.foldl_append, List.foldl_cons, List.foldl_nil, latest?_insert]
    exact ih.insert e

theorem latest?_eq_none_iff :
    (ds.foldl insert empty).latest? id collection = none ↔
      ∀ d ∈ ds, ¬ d.IsFor id collection := by
  have h := answers_latest? ds id collection
  constructor
  · intro hn
    rwa [hn] at h
  · intro hn
    cases hl : (ds.foldl insert empty).latest? id collection with
    | none => rfl
    | some d =>
      rw [hl] at h
      exact absurd h.isFor (hn d h.mem)

theorem isLatest_of_latest? (h : (ds.foldl insert empty).latest? id collection = some d) :
    IsLatest ds id collection d := by
  have ha := answers_latest? ds id collection
  rwa [h] at ha

theorem fetch_of_latest?_eq_none (h : m.latest? id collection = none) :
    source.fetch m id collection = (.missing, m) := by simp only [source, h]

theorem fetch_of_latest?_eq_some (h : m.latest? id collection = some d) :
    source.fetch m id collection = (.found d, m) := by simp only [source, h]

theorem exists_found (hd : d ∈ ds) (hf : d.IsFor id collection) : ∃ e,
    source.fetch (ds.foldl insert empty) id collection = (.found e, ds.foldl insert empty) ∧
      IsLatest ds id collection e := by
  cases hl : (ds.foldl insert empty).latest? id collection with
  | none => exact absurd hf (latest?_eq_none_iff.mp hl d hd)
  | some e => exact ⟨e, fetch_of_latest?_eq_some hl, isLatest_of_latest? hl⟩

/-- After any insertions a fetch leaves the store alone. It finds nothing exactly when nothing was
inserted for the id and the collection. Otherwise it finds one of the documents that were, none of
which is newer, and those that are as new were inserted before it. -/
theorem fetch_of_inserts (ds : List Document) (id collection : String) :
    let m := ds.foldl insert empty
    (source.fetch m id collection = (.missing, m) ↔ ∀ d ∈ ds, ¬ d.IsFor id collection) ∧
    (source.fetch m id collection = (.missing, m) ∨
      ∃ before d after, source.fetch m id collection = (.found d, m) ∧
        ds = before ++ d :: after ∧ d.IsFor id collection ∧
        (∀ e ∈ before, e.IsFor id collection → e.timestamp ≤ d.timestamp) ∧
        ∀ e ∈ after, e.IsFor id collection → e.timestamp < d.timestamp) := by
  intro m
  cases hl : m.latest? id collection with
  | none =>
    have hf := fetch_of_latest?_eq_none hl
    exact ⟨iff_of_true hf (latest?_eq_none_iff.mp hl), .inl hf⟩
  | some d =>
    have hf := fetch_of_latest?_eq_some hl
    have h := isLatest_of_latest? hl
    obtain ⟨before, after, hds, hbefore, hafter⟩ := h.exists_split
    refine ⟨iff_of_false ?_ fun hn => hn d h.mem h.isFor,
      .inr ⟨before, d, after, hf, hds, h.isFor, hbefore, hafter⟩⟩
    rw [hf]
    simp

/-- Timestamps may be negative and go backwards, and other collections do not matter. -/
example :
    (([⟨"S1", "a", "", 3, .null⟩, ⟨"S1", "a", "", 3, .bool true⟩, ⟨"S1", "b", "", 9, .null⟩,
      ⟨"S1", "a", "", -4, .null⟩].foldl insert empty).latest? "S1" "a").map Document.json =
        some (.bool true) := by
  decide

end MemoryStore

end SnapshotRules
