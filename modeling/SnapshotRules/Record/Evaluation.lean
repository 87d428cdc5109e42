import SnapshotRules.Record.Format
import SnapshotRules.Rule.Evaluation

/-! # Written evaluations

Operators, evaluations and documents as JSON records.
-/

namespace SnapshotRules

namespace Operator

/-- An operator is its name, or a mapping from its name to null. -/
def ofValue? : Value → Option Operator
  | .string name => ofName? name
  | .mapping [(name, .null)] => ofName? name
  | _ => none

def toValue (op : Operator) : Value := .string op.name

theorem ofValue?_toValue (op : Operator) : ofValue? op.toValue = some op := ofName?_name op

end Operator

namespace Evaluation

def fieldNames : List String :=
  ["rule", "verdict", "resolved_left", "operator", "resolved_right", "diagnostics"]

def ofValue? (v : Value) : Option Evaluation := do
  let fields ← v.fields? fieldNames
  let rule ← Format.required Value.string? (fields.get? "rule")
  let verdict ← Format.required Value.boolean? (fields.get? "verdict")
  let left ← fields.get? "resolved_left"
  let operator ← Format.required Operator.ofValue? (fields.get? "operator")
  let right ← fields.get? "resolved_right"
  let diagnostics ← Format.required Value.string? (fields.get? "diagnostics")
  return { rule, verdict, left, operator, right, diagnostics }

def toValue (e : Evaluation) : Value := .mapping [
  ("rule", .string e.rule),
  ("verdict", .bool e.verdict),
  ("resolved_left", e.left),
  ("operator", e.operator.toValue),
  ("resolved_right", e.right),
  ("diagnostics", .string e.diagnostics)]

end Evaluation

namespace Document

def fieldNames : List String := ["snapshotId", "collection", "checksum", "timestamp", "json"]

def ofValue? (v : Value) : Option Document := do
  let fields ← v.fields? fieldNames
  let snapshotId ← Format.required Value.string? (fields.get? "snapshotId")
  let collection ← Format.required Value.string? (fields.get? "collection")
  let checksum ← Format.required Value.string? (fields.get? "checksum")
  let timestamp ← Format.required Value.int64? (fields.get? "timestamp")
  let json ← fields.get? "json"
  return { snapshotId, collection, checksum, timestamp, json }

def toValue (d : Document) : Value := .mapping [
  ("snapshotId", .string d.snapshotId),
  ("collection", .string d.collection),
  ("checksum", .string d.checksum),
  ("timestamp", .ofInt64 d.timestamp),
  ("json", d.json)]

end Document

end SnapshotRules
