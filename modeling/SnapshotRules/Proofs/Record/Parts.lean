import Mathlib
import SnapshotRules.Entries
import SnapshotRules.Record.Format

/-! # Fields of records

A part of a record is some of its fields. Parts carry the laws of reading and writing them, and
parts side by side keep the laws, so a record has them once it is written as its fields in a row.
-/

namespace SnapshotRules

variable {α β : Type}

/-- The laws of a record type that declares fields with these names, of which some have a value
that stands in for them where they are absent. -/
structure RoundTrips (names : List String) (defaults : Entries Value) (read : Value → Option α)
    (write : α → Value) : Prop where
  /-- Whatever a record was read from, it is written with its declared fields in their order, and
  they are read as the same record. -/
  rewritten : ∀ v a, read v = some a → ∃ fields : Entries Value,
    write a = .mapping fields ∧ fields.keys = names ∧ read (.mapping fields) = some a
  recovered : ∀ a, read (write a) = some a
  /-- The order of fields does not count, nor do unknown ones, and a field may be left out for the
  value that stands in for it. -/
  named : ∀ es es' : Entries Value, (∀ name ∈ names,
    (es.get? name).or (defaults.get? name) = (es'.get? name).or (defaults.get? name)) →
      read (.mapping es) = read (.mapping es')
  required : ∀ (es : Entries Value), ∀ name ∈ names, name ∉ defaults.keys →
    es.get? name = none → read (.mapping es) = none
  /-- Fields without names are in the declared order. Only the last of them may be left out. -/
  listed : ∀ items : List Value, read (.sequence items) =
    if items.length ≤ names.length then read (.mapping (names.zip items)) else none
  shape : ∀ v a, read v = some a → (∃ es, v = .mapping es) ∨ ∃ items, v = .sequence items

/-- Some fields of a record, read from entries and written as entries. -/
structure Part (α : Type) where
  names : List String
  /-- The values of the fields that may be absent. -/
  defaults : Entries Value
  read : Entries Value → Option α
  write : α → Entries Value
  mem_names : ∀ {name}, name ∈ defaults.keys → name ∈ names
  keys_write : ∀ a, (write a).keys = names
  read_write : ∀ a, read (write a) = some a
  read_congr : ∀ {es es' : Entries Value}, (∀ name ∈ names,
    (es.get? name).or (defaults.get? name) = (es'.get? name).or (defaults.get? name)) →
      read es = read es'
  read_missing : ∀ {es : Entries Value} {name}, name ∈ names → es.get? name = none →
    defaults.get? name = none → read es = none

namespace Part

def required (name : String) (read : Value → Option α) (write : α → Value)
    (h : ∀ a, read (write a) = some a) : Part α where
  names := [name]
  defaults := []
  read es := Format.required read (es.get? name)
  write a := [(name, write a)]
  mem_names := nofun
  keys_write _ := rfl
  read_write a := by
    rw [Entries.get?, if_pos rfl]
    exact h a
  read_congr h := by
    have hname := h name (List.mem_singleton_self name)
    rw [Entries.get?_nil, Option.or_none, Option.or_none] at hname
    rw [hname]
  read_missing hmem hnone _ := by
    rw [← List.mem_singleton.mp hmem, hnone]
    rfl

def optional (name : String) (absent : α) (read : Value → Option α) (write : α → Value)
    (h : ∀ a, read (write a) = some a) : Part α where
  names := [name]
  defaults := [(name, write absent)]
  read es := Format.optional absent read (es.get? name)
  write a := [(name, write a)]
  mem_names := id
  keys_write _ := rfl
  read_write a := by
    rw [Entries.get?, if_pos rfl]
    exact h a
  read_congr {es es'} hget := by
    have hread (field : Option Value) : Format.optional absent read field =
        (field.or (some (write absent))).bind read := by
      cases field with
      | none => exact (h absent).symm
      | some data => rfl
    have hname := hget name (List.mem_singleton_self name)
    rw [Entries.get?, if_pos rfl] at hname
    rw [hread, hread, hname]
  read_missing hmem _ hdefault := by
    rw [List.mem_singleton.mp hmem, Entries.get?, if_pos rfl] at hdefault
    exact absurd hdefault (by simp)

def pair (p : Part α) (q : Part β) (h : ∀ name ∈ p.names, name ∉ q.names) : Part (α × β) where
  names := p.names ++ q.names
  defaults := p.defaults ++ q.defaults
  read es := do
    let a ← p.read es
    let b ← q.read es
    return (a, b)
  write ab := p.write ab.1 ++ q.write ab.2
  mem_names {name} hmem := by
    rw [Entries.keys_append, List.mem_append] at hmem
    exact List.mem_append.mpr (hmem.imp p.mem_names q.mem_names)
  keys_write ab := by
    rw [Entries.keys_append, p.keys_write, q.keys_write]
  read_write ab := by
    have hp : p.read (p.write ab.1 ++ q.write ab.2) = some ab.1 := by
      rw [← p.read_write ab.1]
      apply p.read_congr
      intro name hname
      rw [Entries.get?_append_of_notMem_right (q.keys_write ab.2 ▸ h name hname)]
    have hq : q.read (p.write ab.1 ++ q.write ab.2) = some ab.2 := by
      rw [← q.read_write ab.2]
      apply q.read_congr
      intro name hname
      rw [Entries.get?_append_of_notMem_left (p.keys_write ab.1 ▸ fun hp => h name hp hname)]
    rw [hp, hq]
    rfl
  read_congr {es es'} hget := by
    obtain ⟨hp, hq⟩ := List.forall_mem_append.mp hget
    have hpread : p.read es = p.read es' := by
      apply p.read_congr
      intro name hname
      have := hp name hname
      rwa [Entries.get?_append_of_notMem_right (mt q.mem_names (h name hname))] at this
    have hqread : q.read es = q.read es' := by
      apply q.read_congr
      intro name hname
      have := hq name hname
      rwa [Entries.get?_append_of_notMem_left
        (mt p.mem_names fun hp => h name hp hname)] at this
    rw [hpread, hqread]
  read_missing {es name} hmem hnone hdefault := by
    rw [Entries.get?_append, Option.or_eq_none_iff] at hdefault
    rcases List.mem_append.mp hmem with hmem | hmem
    · rw [p.read_missing hmem hnone hdefault.1]
      rfl
    · rw [q.read_missing hmem hnone hdefault.2]
      cases p.read es <;> rfl

/-- The same fields for another type of record. -/
def map (p : Part α) (pack : α → β) (unpack : β → α) (h : ∀ b, pack (unpack b) = b) : Part β where
  names := p.names
  defaults := p.defaults
  read es := do
    let a ← p.read es
    return pack a
  write b := p.write (unpack b)
  mem_names := p.mem_names
  keys_write b := p.keys_write (unpack b)
  read_write b := by
    rw [p.read_write]
    exact congrArg some (h b)
  read_congr hget := by rw [p.read_congr hget]
  read_missing hmem hnone hdefault := by
    rw [p.read_missing hmem hnone hdefault]
    rfl

theorem roundTrips (p : Part α) {read : Value → Option α} {write : α → Value}
    (hread : ∀ v, read v = v.fields? p.names >>= p.read)
    (hwrite : ∀ a, write a = .mapping (p.write a)) :
    RoundTrips p.names p.defaults read write := by
  have hmapping (es : Entries Value) : read (.mapping es) = p.read es := hread (.mapping es)
  have hback (a : α) : read (.mapping (p.write a)) = some a := by
    rw [hmapping, p.read_write]
  constructor
  case rewritten =>
    intro v a _
    exact ⟨p.write a, hwrite a, p.keys_write a, hback a⟩
  case recovered =>
    intro a
    rw [hwrite, hback]
  case named =>
    intro es es' hget
    rw [hmapping, hmapping, p.read_congr hget]
  case required =>
    intro es name hmem hdefault hnone
    rw [hmapping]
    exact p.read_missing hmem hnone (Entries.get?_eq_none_iff.mpr hdefault)
  case listed =>
    intro items
    rw [hread, Value.fields?, hmapping]
    split <;> rfl
  case shape =>
    intro v a h
    rw [hread] at h
    cases v with
    | mapping es => exact .inl ⟨es, rfl⟩
    | sequence items => exact .inr ⟨items, rfl⟩
    | _ => exact absurd h (by simp [Value.fields?])

end Part

end SnapshotRules
