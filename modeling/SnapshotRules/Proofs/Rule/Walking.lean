import Mathlib
import SnapshotRules.Rule.Resolution

/-! # Walking along paths

A path can be walked in two parts: what stands at its end stands at the end of the second part, seen
from the end of the first. This holds of absence and of null alike, and so of what a scope looks up.
-/

namespace SnapshotRules

namespace Value

variable {root v w : Value} {p q : List String}

/-- The second value stands at the end of a path from the first. A segment is a key in a mapping and
a position in a sequence. -/
inductive Leads : Value → List String → Value → Prop
  | here (v : Value) : Leads v [] v
  | key {entries : Entries Value} {segment : String} {rest : List String} {v w : Value}
      (h : entries.get? segment = some v) (hw : Leads v rest w) :
      Leads (.mapping entries) (segment :: rest) w
  | position {items : List Value} {segment : String} {i : Nat} {rest : List String} {v w : Value}
      (hi : position? segment = some i) (h : items[i]? = some v) (hw : Leads v rest w) :
      Leads (.sequence items) (segment :: rest) w

theorem Leads.cons {segment : String} {rest : List String} (h : root.child? segment = some v)
    (hw : Leads v rest w) : Leads root (segment :: rest) w := by
  cases root with
  | mapping entries => exact .key h hw
  | sequence items =>
    obtain ⟨i, hi, h⟩ := Option.bind_eq_some_iff.mp h
    exact .position hi h hw
  | null | bool | number | string => exact absurd h (by simp [child?])

theorem path?_eq_some_iff : root.path? p = some v ↔ Leads root p v := by
  constructor
  · intro h
    induction p generalizing root with
    | nil =>
      obtain rfl := Option.some.inj h
      exact .here root
    | cons segment rest ih =>
      obtain ⟨child, hc, h⟩ := Option.bind_eq_some_iff.mp h
      exact .cons hc (ih h)
  · intro h
    induction h with
    | here => rfl
    | key h _ ih => simp [path?, child?, h, ih]
    | position hi h _ ih => simp [path?, child?, hi, h, ih]

theorem path?_append (root : Value) (p q : List String) :
    root.path? (p ++ q) = (root.path? p).bind fun v => v.path? q := by
  induction p generalizing root with
  | nil => rfl
  | cons segment rest ih =>
    rw [List.cons_append, path?, path?, Option.bind_assoc]
    simp only [ih]

theorem pathOrNull_null (q : List String) : pathOrNull .null q = .null := by
  cases q <;> rfl

theorem getD_bind_path? (found : Option Value) (q : List String) :
    (found.bind fun v => v.path? q).getD .null = (found.getD .null).pathOrNull q := by
  cases found with
  | none => exact (pathOrNull_null q).symm
  | some v => rfl

theorem pathOrNull_append (root : Value) (p q : List String) :
    root.pathOrNull (p ++ q) = (root.pathOrNull p).pathOrNull q := by
  rw [pathOrNull, path?_append, getD_bind_path?]
  rfl

end Value

/-- A scope walks along the second part of a path from the value that it finds for the first,
whichever document the path leads into. -/
theorem Scope.lookup_append (scope : Scope) (reference : Option String) (p q : List String) :
    scope.lookup reference (p ++ q) = (scope.lookup reference p).pathOrNull q := by
  rw [lookup, lookup]
  split
  · exact Value.pathOrNull_append _ p q
  · split
    · rw [← List.append_assoc]
      exact Value.pathOrNull_append _ _ q
    · exact (Value.pathOrNull_null q).symm

/-- What stands at the end of a path is what stands at the end of its second part from where its
first part ends, and nothing if the first part ends nowhere. With null in place of nothing the
parts can be walked one after the other just as well, also by a scope. -/
theorem walk_in_parts (root : Value) (p q : List String) :
    (∀ w, root.path? (p ++ q) = some w ↔ ∃ v, root.Leads p v ∧ v.Leads q w) ∧
    root.path? (p ++ q) = ((root.path? p).bind fun v => v.path? q) ∧
    root.pathOrNull (p ++ q) = (root.pathOrNull p).pathOrNull q ∧
    ∀ (scope : Scope) (reference : Option String),
      scope.lookup reference (p ++ q) = (scope.lookup reference p).pathOrNull q := by
  refine ⟨fun w => ?_, root.path?_append p q, root.pathOrNull_append p q,
    fun scope reference => scope.lookup_append reference p q⟩
  rw [Value.path?_append, Option.bind_eq_some_iff]
  simp only [Value.path?_eq_some_iff]

/-- Digits are a key in a mapping and a position in a sequence, also along one path. -/
example :
    let root : Value := .mapping [("1", .sequence [.null, .mapping [("01", .string "x")]])]
    root.path? ["1", "+01", "01"] = some (.string "x") ∧ root.path? ["01", "+01", "01"] = none := by
  decide

end SnapshotRules
