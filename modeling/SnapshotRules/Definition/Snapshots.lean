import SnapshotRules.Entries
import SnapshotRules.Record.Format
import SnapshotRules.Text.LowerCase

/-! # Snapshot definitions

A definition declares snapshots in groups of nodes.
-/

namespace SnapshotRules

structure SnapshotNode where
  snapshotId : String
  collection : Option String
  path : Option String
  deriving DecidableEq

structure SnapshotGroup where
  source : Option String
  nodes : List SnapshotNode
  deriving DecidableEq

structure SnapshotFile where
  groups : List SnapshotGroup
  deriving DecidableEq

section Records

variable {σ : Type} (f : Format σ)

namespace SnapshotNode

def fieldNames : List String := ["snapshotId", "collection", "path"]

def read? (data : σ) : Option SnapshotNode := do
  let fields ← f.fields fieldNames data
  let snapshotId ← Format.required f.text (fields.get? "snapshotId")
  let collection ← Format.optional none f.optionalText (fields.get? "collection")
  let path ← Format.optional none f.optionalText (fields.get? "path")
  return { snapshotId, collection, path }

def toValue (n : SnapshotNode) : Value := .mapping [
  ("snapshotId", .string n.snapshotId),
  ("collection", .ofOptionalString n.collection),
  ("path", .ofOptionalString n.path)]

end SnapshotNode

namespace SnapshotGroup

def fieldNames : List String := ["source", "nodes"]

def read? (data : σ) : Option SnapshotGroup := do
  let fields ← f.fields fieldNames data
  let source ← Format.optional none f.optionalText (fields.get? "source")
  let nodes ← Format.optional [] (f.list (SnapshotNode.read? f)) (fields.get? "nodes")
  return { source, nodes }

def toValue (g : SnapshotGroup) : Value := .mapping [
  ("source", .ofOptionalString g.source),
  ("nodes", .sequence (g.nodes.map SnapshotNode.toValue))]

end SnapshotGroup

namespace SnapshotFile

def fieldNames : List String := ["snapshots"]

def read? (data : σ) : Option SnapshotFile := do
  let fields ← f.fields fieldNames data
  let groups ← Format.optional [] (f.list (SnapshotGroup.read? f)) (fields.get? "snapshots")
  return { groups }

def toValue (file : SnapshotFile) : Value := .mapping [
  ("snapshots", .sequence (file.groups.map SnapshotGroup.toValue))]

end SnapshotFile

end Records

/-- Collections are known by their names in lower case and without dots. -/
def collectionName (name : String) : String :=
  String.ofList (lowerCase (name.toList.filter (· ≠ '.')))

namespace SnapshotFile

def nodes (file : SnapshotFile) : List SnapshotNode := file.groups.flatMap SnapshotGroup.nodes

/-- The collection of every declared id. The last node of an id decides. -/
def collections (file : SnapshotFile) (defaultCollection : String) : Entries String :=
  file.nodes.foldl (fun collections node =>
    collections.set node.snapshotId
      (collectionName (node.collection.getD defaultCollection))) []

end SnapshotFile

end SnapshotRules
