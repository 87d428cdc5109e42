import SnapshotRules.Value.Basic

/-! # Comparison of values

Equality that sees neither the representation of numbers nor the order of entries, the
order of numbers and of strings, and membership in collections.
-/

namespace SnapshotRules.Value

mutual

/-- Equality of kinds and contents. Two mappings are equal if each entry of the first has an
equal value in the second and neither has more entries. -/
def equal : Value → Value → Bool
  | .null, .null => true
  | .bool a, .bool b => a == b
  | .number a, .number b => a.equal b
  | .string a, .string b => a == b
  | .sequence xs, .sequence ys => equalItems xs ys
  | .mapping xs, .mapping ys => xs.length == ys.length && equalEntries xs ys
  | _, _ => false
termination_by structural v => v

def equalItems : List Value → List Value → Bool
  | [], [] => true
  | x :: xs, y :: ys => x.equal y && equalItems xs ys
  | _, _ => false
termination_by structural xs => xs

def equalEntries : List (String × Value) → Entries Value → Bool
  | [], _ => true
  | (k, x) :: xs, other =>
    (match other.get? k with
      | some y => x.equal y
      | none => false) && equalEntries xs other
termination_by structural xs => xs

end

theorem equalItems_iff : ∀ {xs ys : List Value}, equalItems xs ys = true ↔
    xs.length = ys.length ∧ ∀ (n : Nat) x y, xs[n]? = some x → ys[n]? = some y → x.equal y = true
  | [], [] => by simp [equalItems]
  | [], _ :: _ => by simp [equalItems]
  | _ :: _, [] => by simp [equalItems]
  | x :: xs, y :: ys => by
    rw [equalItems, Bool.and_eq_true, equalItems_iff, List.length_cons, List.length_cons]
    constructor
    · rintro ⟨hxy, hl, hrest⟩
      refine ⟨congrArg (· + 1) hl, fun n x' y' hx hy => ?_⟩
      cases n with
      | zero => exact Option.some.inj hx ▸ Option.some.inj hy ▸ hxy
      | succ n => exact hrest n x' y' hx hy
    · rintro ⟨hl, h⟩
      exact ⟨h 0 x y rfl rfl, Nat.succ.inj hl, fun n x' y' => h (n + 1) x' y'⟩

theorem equalEntries_iff : ∀ {xs ys : Entries Value}, equalEntries xs ys = true ↔
    ∀ entry ∈ xs, ∃ y, ys.get? entry.1 = some y ∧ entry.2.equal y = true
  | [], ys => by simp [equalEntries]
  | (k, x) :: xs, ys => by
    rw [equalEntries, Bool.and_eq_true, equalEntries_iff, List.forall_mem_cons]
    cases ys.get? k <;> simp

theorem null_equal {v : Value} : null.equal v = true ↔ v = null := by cases v <;> simp [equal]

theorem bool_equal {b : Bool} {v : Value} : (bool b).equal v = true ↔ v = .bool b := by
  cases v <;> simp [equal, @eq_comm _ b]

theorem string_equal {s : String} {v : Value} : (string s).equal v = true ↔ v = .string s := by
  cases v <;> simp [equal, @eq_comm _ s]

theorem number_equal {n : Number} {v : Value} :
    (number n).equal v = true ↔ ∃ m, v = .number m ∧ n.equal m = true := by
  cases v <;> simp [equal]

theorem sequence_equal {xs : List Value} {v : Value} : (sequence xs).equal v = true ↔
    ∃ ys, v = .sequence ys ∧ xs.length = ys.length ∧
      ∀ (n : Nat) x y, xs[n]? = some x → ys[n]? = some y → x.equal y = true := by
  cases v <;> simp [equal, equalItems_iff]

theorem mapping_equal {xs : Entries Value} {v : Value} : (mapping xs).equal v = true ↔
    ∃ ys, v = .mapping ys ∧ xs.length = ys.length ∧
      ∀ entry ∈ xs, ∃ y, Entries.get? ys entry.1 = some y ∧ entry.2.equal y = true := by
  cases v <;> simp [equal, equalEntries_iff]

/-- Only two numbers or two strings are ordered. Strings go by code points. -/
def order? : Value → Value → Option Ordering
  | .number a, .number b => some (a.order b)
  | .string a, .string b => some (compare a b)
  | _, _ => none

/-- A sequence has its elements as members and a mapping its keys. -/
def hasMember : Value → Value → Bool
  | .sequence items, candidate => items.any fun item => item.equal candidate
  | .mapping entries, .string key => Entries.contains entries key
  | _, _ => false

end SnapshotRules.Value
