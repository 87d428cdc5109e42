import SnapshotRules.Entries
import SnapshotRules.Number.Basic

/-! # Values

The documents that rules look into, and what rules compute from them.
-/

namespace SnapshotRules

inductive Value where
  | null
  | bool (value : Bool)
  | number (value : Number)
  | string (value : String)
  | sequence (items : List Value)
  | mapping (entries : List (String × Value))

namespace Value

mutual

/-- Whether two values are the same in every detail, order of entries included. -/
def same : Value → Value → Bool
  | .null, .null => true
  | .bool a, .bool b => a == b
  | .number a, .number b => a == b
  | .string a, .string b => a == b
  | .sequence xs, .sequence ys => sameItems xs ys
  | .mapping xs, .mapping ys => sameEntries xs ys
  | _, _ => false
termination_by structural v => v

def sameItems : List Value → List Value → Bool
  | [], [] => true
  | x :: xs, y :: ys => x.same y && sameItems xs ys
  | _, _ => false
termination_by structural xs => xs

def sameEntries : List (String × Value) → List (String × Value) → Bool
  | [], [] => true
  | (k, x) :: xs, (l, y) :: ys => k == l && x.same y && sameEntries xs ys
  | _, _ => false
termination_by structural xs => xs

end

mutual

theorem same_iff : ∀ a b : Value, a.same b = true ↔ a = b
  | .null, b => by cases b <;> simp [same]
  | .bool _, b => by cases b <;> simp [same]
  | .number _, b => by cases b <;> simp [same]
  | .string _, b => by cases b <;> simp [same]
  | .sequence xs, b => by cases b <;> simp [same, sameItems_iff xs]
  | .mapping xs, b => by cases b <;> simp [same, sameEntries_iff xs]

theorem sameItems_iff : ∀ a b : List Value, sameItems a b = true ↔ a = b
  | [], b => by cases b <;> simp [sameItems]
  | x :: xs, b => by cases b <;> simp [sameItems, same_iff x, sameItems_iff xs]

theorem sameEntries_iff : ∀ a b : List (String × Value), sameEntries a b = true ↔ a = b
  | [], b => by cases b <;> simp [sameEntries]
  | (_, x) :: xs, b => by
    cases b with
    | nil => simp [sameEntries]
    | cons entry ys =>
      obtain ⟨_, y⟩ := entry
      simp [sameEntries, same_iff x y, sameEntries_iff xs ys, and_assoc]

end

instance : DecidableEq Value := fun a b => decidable_of_iff _ (same_iff a b)

instance : Inhabited Value := ⟨.null⟩

def kind : Value → String
  | .null => "null"
  | .bool _ => "boolean"
  | .number _ => "number"
  | .string _ => "string"
  | .sequence _ => "sequence"
  | .mapping _ => "mapping"

/-- Null, the empty string and empty collections. -/
def isEmpty : Value → Bool
  | .null => true
  | .string s => s.isEmpty
  | .sequence items => items.isEmpty
  | .mapping entries => entries.isEmpty
  | .bool _ | .number _ => false

/-- A number as an integer below 2^63 in magnitude. -/
def index? : Value → Option Int
  | .number n => n.index?
  | _ => none

def ofNat (n : Nat) : Value := .number (.ofNat n)

def ofInt64 (i : Int64) : Value := .number (.ofInt64 i)

def minusOne : Value := .number (.integer (-1) (by decide) (by decide))

mutual

/-- Whether no mapping inside the value holds a key twice. -/
def WellFormed : Value → Prop
  | .sequence items => WellFormedItems items
  | .mapping entries => (entries.map Prod.fst).Nodup ∧ WellFormedEntries entries
  | _ => True
termination_by structural v => v

def WellFormedItems : List Value → Prop
  | [] => True
  | x :: xs => x.WellFormed ∧ WellFormedItems xs
termination_by structural xs => xs

def WellFormedEntries : List (String × Value) → Prop
  | [] => True
  | (_, x) :: xs => x.WellFormed ∧ WellFormedEntries xs
termination_by structural xs => xs

end

/-- Induction over a value, the elements of its sequences and the values of its mappings. -/
@[elab_as_elim]
theorem induction {P : Value → Prop} (null : P .null) (bool : ∀ b, P (.bool b))
    (number : ∀ n, P (.number n)) (string : ∀ s, P (.string s))
    (sequence : ∀ items, (∀ x ∈ items, P x) → P (.sequence items))
    (mapping : ∀ entries, (∀ entry ∈ entries, P entry.2) → P (.mapping entries)) : ∀ v, P v
  | .null => null
  | .bool b => bool b
  | .number n => number n
  | .string s => string s
  | .sequence items => sequence items fun x _ =>
      induction null bool number string sequence mapping x
  | .mapping entries => mapping entries fun entry _ =>
      induction null bool number string sequence mapping entry.2
termination_by v => sizeOf v
decreasing_by
  · have := List.sizeOf_lt_of_mem ‹x ∈ items›
    simp only [Value.sequence.sizeOf_spec]
    omega
  · have := List.sizeOf_lt_of_mem ‹entry ∈ entries›
    obtain ⟨k, x⟩ := entry
    simp only [Value.mapping.sizeOf_spec, Prod.mk.sizeOf_spec] at this ⊢
    omega

theorem wellFormedItems_iff : ∀ {items : List Value},
    WellFormedItems items ↔ ∀ x ∈ items, x.WellFormed
  | [] => by simp [WellFormedItems]
  | _ :: _ => by simp [WellFormedItems, wellFormedItems_iff]

theorem wellFormedEntries_iff : ∀ {entries : List (String × Value)},
    WellFormedEntries entries ↔ ∀ entry ∈ entries, entry.2.WellFormed
  | [] => by simp [WellFormedEntries]
  | (_, _) :: _ => by simp [WellFormedEntries, wellFormedEntries_iff]

theorem wellFormed_sequence {items : List Value} :
    (sequence items).WellFormed ↔ ∀ x ∈ items, x.WellFormed := wellFormedItems_iff

theorem wellFormed_mapping {entries : Entries Value} :
    (mapping entries).WellFormed ↔ entries.keys.Nodup ∧ ∀ entry ∈ entries, entry.2.WellFormed :=
  and_congr Iff.rfl wellFormedEntries_iff

end Value

end SnapshotRules
