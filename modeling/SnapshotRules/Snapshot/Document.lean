import SnapshotRules.Rule.Error
import SnapshotRules.Value.Basic

/-! # Snapshot documents

Captured documents, and the store that keeps them in memory.
-/

namespace SnapshotRules

structure Document where
  snapshotId : String
  collection : String
  checksum : String
  /-- Milliseconds since the epoch. -/
  timestamp : Int64
  json : Value
  deriving DecidableEq

/-- Documents in the order of their insertion. -/
structure MemoryStore where
  documents : List Document

namespace MemoryStore

def empty : MemoryStore := ⟨[]⟩

def insert (m : MemoryStore) (d : Document) : MemoryStore := ⟨m.documents ++ [d]⟩

/-- The later of two documents. Of equal timestamps the second wins. -/
def later (best : Option Document) (d : Document) : Option Document :=
  match best with
  | none => some d
  | some b => if b.timestamp ≤ d.timestamp then some d else some b

/-- The document of an id and a collection with the greatest timestamp. -/
def latest? (m : MemoryStore) (id collection : String) : Option Document :=
  (m.documents.filter fun d => d.snapshotId = id ∧ d.collection = collection).foldl later none

end MemoryStore

end SnapshotRules
