import SnapshotRules.Record.Format
import SnapshotRules.Rule.Error
import SnapshotRules.Text.Blank

/-! # Configuration

Settings come from defaults, then from a file, then from overrides in the environment.
-/

namespace SnapshotRules

structure Config where
  /-- The time allowed for a fetch, in milliseconds. -/
  fetchTimeout : UInt64
  /-- The collection of nodes that name none. -/
  defaultCollection : String
  /-- How many rules run at once. -/
  concurrency : UInt64
  port : UInt16
  deriving DecidableEq

inductive ConfigFault where
  | noConcurrency
  | noDefaultCollection
  | invalidValue (key value : String)
  deriving DecidableEq

def ConfigFault.message (fault : ConfigFault) : String :=
  "Configuration error: " ++ match fault with
    | .noConcurrency => "concurrency must be at least 1"
    | .noDefaultCollection => "default_collection must not be empty"
    | .invalidValue key value => "invalid value for " ++ key ++ ": '" ++ value ++ "'"

namespace Config

def default : Config where
  fetchTimeout := 30000
  defaultCollection := "resources"
  concurrency := 16
  port := 8080

def fieldNames : List String := ["fetch_timeout_ms", "default_collection", "concurrency", "port"]

/-- Reads a configuration. Absent fields have their defaults. -/
def read? {σ : Type} (f : Format σ) (data : σ) : Option Config := do
  let fields ← f.fields fieldNames data
  let fetchTimeout ← Format.optional default.fetchTimeout.toNat (f.natural (2 ^ 64))
    (fields.get? "fetch_timeout_ms")
  let defaultCollection ← Format.optional default.defaultCollection f.text
    (fields.get? "default_collection")
  let concurrency ← Format.optional default.concurrency.toNat (f.natural (2 ^ 64))
    (fields.get? "concurrency")
  let port ← Format.optional default.port.toNat (f.natural (2 ^ 16)) (fields.get? "port")
  return {
    fetchTimeout := .ofNat fetchTimeout
    defaultCollection
    concurrency := .ofNat concurrency
    port := .ofNat port }

def toValue (c : Config) : Value := .mapping [
  ("fetch_timeout_ms", .ofNat c.fetchTimeout.toNat),
  ("default_collection", .string c.defaultCollection),
  ("concurrency", .ofNat c.concurrency.toNat),
  ("port", .ofNat c.port.toNat)]

def fault? (c : Config) : Option ConfigFault :=
  if c.concurrency = 0 then some .noConcurrency
  else if trimmed c.defaultCollection.toList = [] then some .noDefaultCollection
  else none

def validated (c : Config) : Except ConfigFault Config :=
  match c.fault? with
  | some fault => .error fault
  | none => .ok c

/-- A number below a limit, with blanks around it. -/
def readNumber? (limit : Nat) (text : String) : Option Nat :=
  readNatural? limit (trimmed text.toList)

/-- An override: its key, and what its text does to a configuration, if it means anything. -/
structure Override where
  key : String
  apply : Config → String → Option Config

/-- The overrides in the order in which they are looked up. -/
def overrides : List Override := [
  ⟨"SNAPCHECK_FETCH_TIMEOUT_MS", fun c text =>
    (readNumber? (2 ^ 64) text).map fun n => { c with fetchTimeout := .ofNat n }⟩,
  ⟨"SNAPCHECK_DEFAULT_COLLECTION", fun c text => some { c with defaultCollection := text }⟩,
  ⟨"SNAPCHECK_CONCURRENCY", fun c text =>
    (readNumber? (2 ^ 64) text).map fun n => { c with concurrency := .ofNat n }⟩,
  ⟨"SNAPCHECK_PORT", fun c text =>
    (readNumber? (2 ^ 16) text).map fun n => { c with port := .ofNat n }⟩]

/-- Applies overrides one after another and validates the outcome. A fault ends it and
leaves what was applied before. -/
def applyOverrides (lookup : String → Option String) :
    List Override → Config → Config × Option ConfigFault
  | [], c => (c, c.fault?)
  | o :: rest, c =>
    match lookup o.key with
    | none => applyOverrides lookup rest c
    | some text =>
      match o.apply c text with
      | some c => applyOverrides lookup rest c
      | none => (c, some (.invalidValue o.key text))

def overridden (lookup : String → Option String) (c : Config) : Except ConfigFault Config :=
  match applyOverrides lookup overrides c with
  | (_, some fault) => .error fault
  | (c, none) => .ok c

end Config

end SnapshotRules
