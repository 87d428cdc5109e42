import SnapshotRules.Config
import SnapshotRules.Definition.Snapshots
import SnapshotRules.Definition.Tests
import SnapshotRules.Digest
import SnapshotRules.Files.Tree
import SnapshotRules.Json.Reader
import SnapshotRules.Snapshot.Document
import SnapshotRules.Yaml.Format

/-! # Loading

Configurations, definitions and documents are read from files. A document that cannot be
read is an empty mapping.
-/

namespace SnapshotRules

inductive LoadError where
  | config (fault : ConfigFault)
  | fileNotFound (path : String)
  | file (fault : FileFault)
  | json
  | yaml
  deriving DecidableEq

def LoadError.message : LoadError → String
  | .config fault => fault.message
  | .fileNotFound path => "File not found: " ++ path
  | .file fault => fault.message
  | .json => "malformed JSON"
  | .yaml => "malformed YAML"

def existingText (path : String) : Reading (Except LoadError String) := do
  return match ← Reading.entry path with
    | .missing => .error (.fileNotFound path)
    | entry => entry.text.mapError .file

def ofYaml {α : Type} (record : Format Yaml.Node → Yaml.Node → Option α) (text : String) :
    Except LoadError α :=
  match Yaml.read? record text with
  | some a => .ok a
  | none => .error .yaml

namespace Config

def ofText (text : String) : Except LoadError Config :=
  match ofYaml read? text with
  | .ok c => c.validated.mapError .config
  | .error e => .error e

/-- The defaults or the configuration of a file, with the overrides of the environment. -/
def load (path : Option String) (environment : String → Option String) :
    Reading (Except LoadError Config) := do
  let base : Except LoadError Config ← match path with
    | none => pure (.ok default)
    | some path => do pure ((← existingText path).bind ofText)
  return base.bind fun c => (c.overridden environment).mapError .config

end Config

namespace SnapshotFile

def ofText (text : String) : Except LoadError SnapshotFile := ofYaml read? text

def load (path : String) : Reading (Except LoadError SnapshotFile) := do
  return (← existingText path).bind ofText

/-- The document of an entry, an empty mapping unless the entry is a file of JSON text. -/
def documentOf (entry : FileEntry) : Value :=
  match entry.text with
  | .ok text => (Json.read? text).getD (.mapping [])
  | .error _ => .mapping []

def nodeDocument (directory : String) (node : SnapshotNode) : Reading Value :=
  match node.path with
  | none => pure (.mapping [])
  | some path => do return documentOf (← Reading.entry (joinPath directory path))

/-- The documents of nodes, at the times that `clock` shows from `position` on. -/
def readNodes (directory : String) (collections : Entries String) (clock : Nat → Int64)
    (position : Nat) : List SnapshotNode → Reading (List Document)
  | [] => pure []
  | node :: rest =>
    match collections.get? node.snapshotId with
    | none => readNodes directory collections clock position rest
    | some collection => do
      let json ← nodeDocument directory node
      let documents ← readNodes directory collections clock (position + 1) rest
      return {
        snapshotId := node.snapshotId, collection
        checksum := json.checksum
        timestamp := clock position
        json } :: documents

/-- Adds the documents of all nodes to a store and tells how many there are. -/
def populate (file : SnapshotFile) (directory defaultCollection : String)
    (clock : Nat → Int64) (store : MemoryStore) : Reading (Nat × MemoryStore) := do
  let collections := file.collections defaultCollection
  let documents ← readNodes directory collections clock 0 file.nodes
  return (documents.length, documents.foldl MemoryStore.insert store)

end SnapshotFile

namespace TestFile

def ofText (text : String) : Except LoadError TestFile := ofYaml read? text

def load (path : String) : Reading (Except LoadError TestFile) := do
  return (← existingText path).bind ofText

end TestFile

end SnapshotRules
