import Mathlib
import SnapshotRules.Proofs.Rule.Failing

/-! # List and map literals as calls

A list literal stands for a call of `to_list` with its items, and a map literal for a call of
`to_map` with its keys and operands in turn. The literal sets every entry as soon as it has its
value and the call sets all of them at its end, which is the same because setting cannot fail.
-/

namespace SnapshotRules

namespace Operand

variable {scope : Scope} {cancelled : Bool}

/-- The keys of a map literal, as literals, and its operands in turn. -/
def alternating (entries : List (String × Operand)) : List Operand :=
  entries.flatMap fun entry => [.literal (.string entry.1), entry.2]

theorem alternating_cons (key : String) (o : Operand) (entries : List (String × Operand)) :
    alternating ((key, o) :: entries) =
      .literal (.string key) :: o :: alternating entries := rfl

theorem length_alternating (entries : List (String × Operand)) :
    (alternating entries).length = 2 * entries.length := by
  induction entries with
  | nil => rfl
  | cons entry entries ih =>
    rw [alternating_cons, List.length_cons, List.length_cons, List.length_cons, ih]
    omega

theorem resolveItems_alternating_cons (key : String) (o : Operand)
    (entries : List (String × Operand)) :
    resolveItems scope cancelled (alternating ((key, o) :: entries)) =
      match o.resolve scope cancelled with
      | .ok v => (resolveItems scope cancelled (alternating entries)).map fun values =>
          .string key :: v :: values
      | .error error => .error error := by
  rw [alternating_cons, resolveItems, resolve, resolveItems]
  cases o.resolve scope cancelled with
  | error error => rfl
  | ok v => cases resolveItems scope cancelled (alternating entries) <;> rfl

/-- The entries are those that the alternating values add, whichever way they are resolved. -/
theorem resolveEntries_eq_addPairs (entries : List (String × Operand)) (done : Entries Value) :
    resolveEntries scope cancelled done entries =
      match resolveItems scope cancelled (alternating entries) with
      | .ok values => (Collection.addPairs done values).mapError .call
      | .error error => .error error := by
  induction entries generalizing done with
  | nil => rfl
  | cons entry entries ih =>
    obtain ⟨key, o⟩ := entry
    rw [resolveEntries, resolveItems_alternating_cons]
    cases o.resolve scope cancelled with
    | error error => rfl
    | ok v =>
      simp only [ih]
      cases resolveItems scope cancelled (alternating entries) <;> rfl

theorem resolve_list_eq_call (items : List Operand)
    (h : scope.registry.functions.get? "to_list" = some Collection.toList) :
    (list items).resolve scope false = (call "to_list" items).resolve scope false := by
  rw [resolve, resolve, if_neg Bool.false_ne_true]
  cases resolveItems scope false items with
  | error error => rfl
  | ok values =>
    simp only [Registry.call_of_get?_eq_some h]
    rfl

theorem resolve_map_eq_call (entries : List (String × Operand))
    (h : scope.registry.functions.get? "to_map" = some Collection.toMap) :
    (map entries).resolve scope false =
      (call "to_map" (alternating entries)).resolve scope false := by
  rw [resolve, resolve, if_neg Bool.false_ne_true, resolveEntries_eq_addPairs]
  cases hr : resolveItems scope false (alternating entries) with
  | error error => rfl
  | ok values =>
    have hl := (resolveItems_eq_ok_iff.mp hr).length_eq
    rw [length_alternating] at hl
    simp only [Registry.call_of_get?_eq_some h]
    rw [Collection.toMap_of_even (by omega)]
    cases Collection.addPairs [] values <;> rfl

/-- With the functions that are built in, list and map literals have the result of a call, be it a
value or an error. Of a key that is written twice both keep the first place and the last value. -/
theorem resolve_literals_eq_calls (documents : Entries Value) (defaultDocument : Option Value) :
    let scope : Scope := ⟨.builtins, documents, defaultDocument⟩
    (∀ items, (list items).resolve scope false = (call "to_list" items).resolve scope false) ∧
      ∀ entries, (map entries).resolve scope false =
        (call "to_map" (alternating entries)).resolve scope false := by
  intro scope
  constructor
  · intro items
    exact resolve_list_eq_call items rfl
  · intro entries
    exact resolve_map_eq_call entries rfl

example :
    (map [("a", .literal .null), ("b", .literal .null), ("a", .literal (.bool true))]).resolve
      ⟨.builtins, [], none⟩ false = .ok (.mapping [("a", .bool true), ("b", .null)]) := rfl

end Operand

end SnapshotRules
