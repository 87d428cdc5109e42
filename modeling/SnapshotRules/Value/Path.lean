import SnapshotRules.Number.Numeral
import SnapshotRules.Value.Basic

/-! # Field paths

A path leads from a document to a value inside it, one key or index at a time.
-/

namespace SnapshotRules.Value

/-- The position that a segment names in a sequence. -/
def position? (segment : String) : Option Nat := readNatural? (2 ^ 64) segment.toList

/-- The value one segment further in. -/
def child? : Value → String → Option Value
  | .mapping entries, segment => Entries.get? entries segment
  | .sequence items, segment => (position? segment).bind fun i => items[i]?
  | _, _ => none

def path? : Value → List String → Option Value
  | root, [] => some root
  | root, segment :: rest => (root.child? segment).bind fun child => child.path? rest

/-- The value at the end of a path, or null when there is none. -/
def pathOrNull (root : Value) (segments : List String) : Value :=
  (root.path? segments).getD .null

end SnapshotRules.Value
