import SnapshotRules.Function.Collection

/-! # Function registries

The functions that rules may call, by name. Names are kept in ascending order.
-/

namespace SnapshotRules

structure Registry where
  functions : Entries Function

namespace Registry

def empty : Registry := ⟨[]⟩

/-- Adds a function, in place of one with the same name. -/
def register (r : Registry) (name : String) (function : Function) : Registry :=
  ⟨r.functions.setSorted name function⟩

def registerAll (r : Registry) (more : List (String × Function)) : Registry :=
  more.foldl (fun r entry => r.register entry.1 entry.2) r

def has (r : Registry) (name : String) : Bool := r.functions.contains name

def names (r : Registry) : List String := r.functions.keys

def call (r : Registry) (name : String) (arguments : List Value) : Except CallError Value :=
  match r.functions.get? name with
  | some function => function arguments
  | none => .error (.unknownFunction name)

theorem call_of_get?_eq_some {r : Registry} {name : String} {function : Function}
    (h : r.functions.get? name = some function) (arguments : List Value) :
    r.call name arguments = function arguments := by rw [call, h]

theorem call_of_get?_eq_none {r : Registry} {name : String} (h : r.functions.get? name = none)
    (arguments : List Value) : r.call name arguments = .error (.unknownFunction name) := by
  rw [call, h]

theorem mem_names_iff {r : Registry} {name : String} :
    name ∈ r.names ↔ ∃ function, r.functions.get? name = some function := by
  rw [names, ← Entries.contains_iff_mem_keys, Entries.contains, Option.isSome_iff_exists]

theorem has_iff_mem_names {r : Registry} {name : String} : r.has name = true ↔ name ∈ r.names :=
  Entries.contains_iff_mem_keys

theorem get?_register (r : Registry) (name other : String) (function : Function) :
    (r.register name function).functions.get? other =
      if name = other then some function else r.functions.get? other :=
  Entries.get?_setSorted r.functions name other function

theorem get?_registerAll (r : Registry) (more : List (String × Function)) (name : String) :
    (r.registerAll more).functions.get? name =
      (Entries.get? more.reverse name).or (r.functions.get? name) := by
  induction more generalizing r with
  | nil => rfl
  | cons entry more ih =>
    rw [registerAll, List.foldl_cons, ← registerAll, ih, get?_register, List.reverse_cons,
      Entries.get?_append, Option.or_assoc, Entries.get?]
    split <;> rfl

theorem pairwise_names_registerAll {r : Registry} (h : r.names.Pairwise (· < ·))
    (more : List (String × Function)) : (r.registerAll more).names.Pairwise (· < ·) := by
  induction more generalizing r with
  | nil => exact h
  | cons entry more ih => exact ih (Entries.pairwise_keys_setSorted h entry.1 entry.2)

def builtinFunctions : List (String × Function) := [
  ("element", Collection.element),
  ("length", Collection.length),
  ("chunklist", Collection.chunklist),
  ("concat", Collection.concat),
  ("coalesce", Collection.coalesce),
  ("coalescelist", Collection.coalesce),
  ("compact", Collection.compact),
  ("distinct", Collection.distinct),
  ("index", Collection.index),
  ("lookup", Collection.lookup),
  ("contains", Collection.contains),
  ("keys", Collection.keys),
  ("to_list", Collection.toList),
  ("to_map", Collection.toMap),
  ("merge", Collection.merge),
  ("reverse", Collection.reverse),
  ("setintersection", Collection.setintersection)]

def builtins : Registry :=
  builtinFunctions.foldl (fun r entry => r.register entry.1 entry.2) empty

theorem builtins_eq : builtins = empty.registerAll builtinFunctions := rfl

theorem get?_builtins {name : String} {function : Function} :
    builtins.functions.get? name = some function ↔ (name, function) ∈ builtinFunctions := by
  rw [builtins_eq, get?_registerAll, empty, Entries.get?_nil, Option.or_none]
  constructor
  · intro h
    exact List.mem_reverse.mp (Entries.mem_of_get? h)
  · intro h
    exact Entries.get?_of_mem (by decide) (List.mem_reverse.mpr h)

end Registry

end SnapshotRules
