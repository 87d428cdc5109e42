import SnapshotRules.Chunks
import SnapshotRules.Distinct
import SnapshotRules.Function.Fault
import SnapshotRules.Value.Comparison

/-! # Collection functions

The built-in functions. Each takes resolved arguments to a new value or refuses them.
-/

namespace SnapshotRules

abbrev Function := List Value → Except CallError Value

namespace Collection

abbrev refuse {α : Type} (function : String) (fault : ArgumentFault) : Except CallError α :=
  .error (.invalidArguments function fault)

def asSequence (function : String) : Value → Except CallError (List Value)
  | .sequence items => .ok items
  | v => refuse function (.notSequence v.kind)

def asMapping (function : String) : Value → Except CallError (Entries Value)
  | .mapping entries => .ok entries
  | v => refuse function (.notMapping v.kind)

/-- All arguments as sequences, or the fault of the first that is none. -/
def asSequences (function : String) : List Value → Except CallError (List (List Value))
  | [] => .ok []
  | v :: vs => do
    let items ← asSequence function v
    let rest ← asSequences function vs
    return items :: rest

theorem asSequences_map (function : String) : ∀ lists : List (List Value),
    asSequences function (lists.map .sequence) = .ok lists
  | [] => rfl
  | items :: lists => by
    rw [List.map_cons, asSequences, asSequences_map function lists]
    rfl

/-- The element at an index, counted on from the start again past the end. -/
def element : Function
  | [collection, index] => do
    let items ← asSequence "element" collection
    if items.isEmpty then refuse "element" .emptySequence
    else
      match index.index? with
      | none => refuse "element" (.indexNotInteger index)
      | some i =>
        if i < 0 then refuse "element" (.negativeIndex i)
        else return items.getD (i.toNat % items.length) .null
  | arguments => refuse "element" (.count 2 arguments.length)

/-- How many elements, keys or characters a value has. Null has null. -/
def length : Function
  | [.null] => return .null
  | [.sequence items] => return .ofNat items.length
  | [.mapping entries] => return .ofNat entries.length
  | [.string s] => return .ofNat s.length
  | [v] => refuse "length" (.noLength v.kind)
  | arguments => refuse "length" (.count 1 arguments.length)

def chunklist : Function
  | [collection, size] => do
    let items ← asSequence "chunklist" collection
    match size.index? with
    | some n =>
      if 0 < n then return .sequence ((chunks n.toNat items).map .sequence)
      else refuse "chunklist" (.chunkSize size)
    | none => refuse "chunklist" (.chunkSize size)
  | arguments => refuse "chunklist" (.count 2 arguments.length)

def concat : Function := fun arguments => do
  let sequences ← asSequences "concat" arguments
  return .sequence sequences.flatten

theorem concat_sequences (lists : List (List Value)) :
    concat (lists.map .sequence) = .ok (.sequence lists.flatten) := by
  rw [concat, asSequences_map]
  rfl

/-- The first argument that is not empty, or null. -/
def coalesce : Function := fun arguments =>
  .ok ((arguments.find? fun v => !v.isEmpty).getD .null)

def compact : Function
  | [collection] => do
    let items ← asSequence "compact" collection
    return .sequence (items.filter fun v => v ≠ .string "")
  | arguments => refuse "compact" (.count 1 arguments.length)

/-- The first of all equal elements. -/
def distinct : Function
  | [collection] => do
    let items ← asSequence "distinct" collection
    return .sequence (distinctBy Value.equal items)
  | arguments => refuse "distinct" (.count 1 arguments.length)

theorem distinct_sequence (items : List Value) :
    distinct [.sequence items] = .ok (.sequence (distinctBy Value.equal items)) := rfl

/-- The place of the first equal element, or -1. -/
def index : Function
  | [collection, v] => do
    let items ← asSequence "index" collection
    match items.findIdx? fun item => item.equal v with
    | some i => return .ofNat i
    | none => return .minusOne
  | arguments => refuse "index" (.count 2 arguments.length)

theorem index_sequence (items : List Value) (v : Value) : index [.sequence items, v] =
    .ok ((items.findIdx? fun item => item.equal v).elim .minusOne .ofNat) := by
  cases h : items.findIdx? fun item => item.equal v <;>
    simp [index, asSequence, h, bind, Except.bind, pure, Except.pure]

def lookupOr (collection key default : Value) : Except CallError Value := do
  let entries ← asMapping "lookup" collection
  match key with
  | .string key => return (entries.get? key).getD default
  | key => refuse "lookup" (.keyNotString key.kind)

/-- The value of a key, or a default, which is null unless given. -/
def lookup : Function
  | [collection, key] => lookupOr collection key .null
  | [collection, key, default] => lookupOr collection key default
  | arguments => refuse "lookup" (.countTwoOrThree arguments.length)

def hasInfix (needle : List Char) : List Char → Bool
  | [] => needle.isEmpty
  | c :: cs => needle.isPrefixOf (c :: cs) || hasInfix needle cs

/-- Whether a value is an element, a key or a part of a string. -/
def contains : Function
  | [.sequence items, v] => return .bool ((Value.sequence items).hasMember v)
  | [.mapping entries, v] => return .bool ((Value.mapping entries).hasMember v)
  | [.string text, .string part] => return .bool (hasInfix part.toList text.toList)
  | [container, _] => refuse "contains" (.notSearchable container.kind)
  | arguments => refuse "contains" (.count 2 arguments.length)

theorem contains_sequence (items : List Value) (v : Value) :
    contains [.sequence items, v] = .ok (.bool ((Value.sequence items).hasMember v)) := rfl

def keys : Function
  | [collection] => do
    let entries ← asMapping "keys" collection
    return .sequence (entries.keys.map .string)
  | arguments => refuse "keys" (.count 1 arguments.length)

def toList : Function := fun arguments => .ok (.sequence arguments)

/-- The key that a scalar stands for. -/
def keyOf : Value → Except CallError String
  | .string s => .ok s
  | .number n => .ok n.text
  | .bool b => .ok (if b then "true" else "false")
  | v => refuse "to_map" (.notKey v.kind)

/-- Adds keys and values that alternate. -/
def addPairs (entries : Entries Value) : List Value → Except CallError (Entries Value)
  | key :: value :: rest => do
    let key ← keyOf key
    addPairs (entries.set key value) rest
  | _ => .ok entries

def toMap : Function := fun arguments => do
  if arguments.length % 2 ≠ 0 then refuse "to_map" (.countOdd arguments.length)
  else return .mapping (← addPairs [] arguments)

theorem toMap_of_even {arguments : List Value} (h : arguments.length % 2 = 0) :
    toMap arguments = (addPairs [] arguments).map .mapping := by
  rw [toMap, if_neg (by omega)]
  cases addPairs [] arguments <;> rfl

def addMappings (entries : Entries Value) : List Value → Except CallError (Entries Value)
  | [] => .ok entries
  | v :: vs => do
    let more ← asMapping "merge" v
    addMappings (more.foldl (fun entries entry => entries.set entry.1 entry.2) entries) vs

/-- All entries of the arguments. The last value of a key wins. -/
def merge : Function := fun arguments => return .mapping (← addMappings [] arguments)

def reverse : Function
  | [collection] => do
    let items ← asSequence "reverse" collection
    return .sequence items.reverse
  | arguments => refuse "reverse" (.count 1 arguments.length)

/-- The elements of the first sequence that have an equal one in every other. -/
def setintersection : Function := fun arguments =>
  if arguments.length < 2 then refuse "setintersection" (.countAtLeastTwo arguments.length)
  else do
    match ← asSequences "setintersection" arguments with
    | [] => return .sequence []
    | first :: others =>
      return .sequence ((distinctBy Value.equal first).filter fun v =>
        others.all fun items => items.any fun item => item.equal v)

/-- The elements of the first sequence, without duplicates, that all others have as well. -/
def common (first : List Value) (others : List (List Value)) : List Value :=
  (distinctBy Value.equal first).filter fun v =>
    others.all fun items => (Value.sequence items).hasMember v

theorem setintersection_cons (first : List Value) {others : List (List Value)}
    (h : others ≠ []) :
    setintersection ((first :: others).map .sequence) = .ok (.sequence (common first others)) := by
  have hl : ¬ ((first :: others).map Value.sequence).length < 2 := by
    have := List.length_pos_iff.mpr h
    rw [List.length_map, List.length_cons]
    omega
  rw [setintersection, if_neg hl, asSequences_map]
  rfl

theorem mem_common {first : List Value} {others : List (List Value)} {v : Value} :
    v ∈ common first others ↔
      v ∈ distinctBy Value.equal first ∧
        ∀ items ∈ others, (Value.sequence items).hasMember v = true := by
  rw [common, List.mem_filter, List.all_eq_true]

theorem common_sublist {first : List Value} {others : List (List Value)} :
    (common first others).Sublist first :=
  List.filter_sublist.trans distinctBy_sublist

end Collection

end SnapshotRules
