import SnapshotRules.Value.Basic

/-! # Record formats

A format tells how the parts of a record are read from data, so that one reader of a record
serves every format. JSON data may also list the fields of a record in their order.
-/

namespace SnapshotRules

/-- Readers of data. Each of them fails on data of the wrong kind. -/
structure Format (σ : Type) where
  /-- The fields of a record by name. Data without names takes those of the list in turn. -/
  fields : List String → σ → Option (Entries σ)
  items : σ → Option (List σ)
  text : σ → Option String
  /-- A text, or nothing. -/
  optionalText : σ → Option (Option String)
  /-- A natural number below a limit. -/
  natural : Nat → σ → Option Nat

namespace Format

variable {σ α : Type}

def required (read : σ → Option α) (field : Option σ) : Option α := field.bind read

/-- A field with a value that stands in for it. -/
def optional (absent : α) (read : σ → Option α) : Option σ → Option α
  | none => some absent
  | some data => read data

def list (f : Format σ) (read : σ → Option α) (data : σ) : Option (List α) :=
  (f.items data).bind fun items => items.mapM read

end Format

namespace Value

/-- The natural number below a limit that a value is. -/
def natural? (limit : Nat) : Value → Option Nat
  | .number (.integer i _ _) => if 0 ≤ i ∧ i < limit then some i.toNat else none
  | _ => none

def fields? (names : List String) : Value → Option (Entries Value)
  | .mapping entries => some entries
  | .sequence items => if items.length ≤ names.length then some (names.zip items) else none
  | _ => none

def items? : Value → Option (List Value)
  | .sequence items => some items
  | _ => none

def string? : Value → Option String
  | .string s => some s
  | _ => none

def optionalString? : Value → Option (Option String)
  | .null => some none
  | .string s => some (some s)
  | _ => none

def boolean? : Value → Option Bool
  | .bool b => some b
  | _ => none

def int64? : Value → Option Int64
  | .number (.integer i _ _) => if i < 2 ^ 63 then some (Int64.ofInt i) else none
  | _ => none

def ofOptionalString : Option String → Value
  | some s => .string s
  | none => .null

def format : Format Value where
  fields := fields?
  items := items?
  text := string?
  optionalText := optionalString?
  natural := natural?

end Value

end SnapshotRules
