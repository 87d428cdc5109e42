import SnapshotRules.Snapshot.Document

/-! # Sources of documents

A source answers fetches and may change with every one of them. It answers at once or not at
all: a fetch that ends, ends where it is asked for, before anything else is asked. A failure that
is only reported after other documents have been asked for at the same time is left out, and with
it what else such fetches would have asked for. Documents may arrive late, for when a task looks at
the answer is up to the order of its steps.
-/

namespace SnapshotRules

inductive StoreError where
  | timeout (id : String) (milliseconds : UInt64)
  | unavailable (reason : String)
  deriving DecidableEq

def StoreError.message : StoreError → String
  | .timeout id milliseconds =>
    "Fetch of snapshot '" ++ id ++ "' timed out after " ++ decimalText milliseconds.toNat ++ " ms"
  | .unavailable reason => "Snapshot store unavailable: " ++ reason

inductive Fetched where
  | found (document : Document)
  | missing
  | unavailable (reason : String)
  /-- The fetch never ends by itself. -/
  | hanging
  deriving DecidableEq

/-- A store with states `σ`, asked for the latest document of an id in a collection. A fetch that
does not hang is answered at once, a failure as well. -/
structure Source (σ : Type) where
  fetch : σ → String → String → Fetched × σ

/-- The source that answers from memory. -/
def MemoryStore.source : Source MemoryStore where
  fetch m id collection :=
    match m.latest? id collection with
    | some d => (.found d, m)
    | none => (.missing, m)

inductive Fault where
  | failing (reason : String)
  | hanging
  deriving DecidableEq

/-- A store in memory with faults under some ids. -/
structure FaultyStore where
  memory : MemoryStore
  faults : Entries Fault

def FaultyStore.source : Source FaultyStore where
  fetch m id collection :=
    match m.faults.get? id with
    | some (.failing reason) => (.unavailable reason, m)
    | some .hanging => (.hanging, m)
    | none => ((MemoryStore.source.fetch m.memory id collection).1, m)

end SnapshotRules
