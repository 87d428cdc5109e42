import SnapshotRules.Number.Numeral
import SnapshotRules.Record.Format
import SnapshotRules.Yaml.Node

/-! # Records in YAML

Scalars are texts as they are written. Only plain ones can be numbers or stand for nothing,
and an empty one also is a record without fields and a list without elements. A text with
anchors, aliases, tags, block scalars or directives holds no record.
-/

namespace SnapshotRules.Yaml

def radixDigit? (radix : Nat) (c : Char) : Option Nat := (Json.hexValue? c).filter (· < radix)

def radixValue? (radix : Nat) (digits : List Char) : Option Nat :=
  if digits = [] then none
  else
    digits.foldl (fun n c => n.bind fun n => (radixDigit? radix c).map fun d => radix * n + d)
      (some 0)

/-- A number as YAML writes it. Decimal ones have no zeros in front. -/
def natural? (text : List Char) : Option Nat :=
  let unsigned := match text with
    | '+' :: rest => rest
    | cs => cs
  match unsigned with
  | '0' :: 'x' :: digits => radixValue? 16 digits
  | '0' :: 'o' :: digits => radixValue? 8 digits
  | '0' :: 'b' :: digits => radixValue? 2 digits
  | '0' :: _ :: _ => none
  | digits => radixValue? 10 digits

def isNull (text : String) : Bool := ["", "~", "null", "Null", "NULL"].contains text

namespace Node

def text? : Node → Option String
  | .scalar _ text => some text
  | _ => none

def optionalText? : Node → Option (Option String)
  | .scalar plain text => some (if plain && isNull text then none else some text)
  | _ => none

def items? : Node → Option (List Node)
  | .sequence items => some items
  | .scalar true "" => some []
  | _ => none

/-- Every known name may occur once. -/
def fields? (names : List String) : Node → Option (Entries Node)
  | .mapping entries => do
    let fields ← entries.mapM fun (key, value) => key.text?.map fun name => (name, value)
    let known := (Entries.keys fields).filter names.contains
    if known.Nodup then some fields else none
  | .scalar true "" => some []
  | _ => none

/-- The number below a limit that a plain scalar denotes. -/
def below? (limit : Nat) : Node → Option Nat
  | .scalar true text => (natural? text.toList).filter (· < limit)
  | _ => none

end Node

def format : Format Node where
  fields := Node.fields?
  items := Node.items?
  text := Node.text?
  optionalText := Node.optionalText?
  natural := Node.below?

/-- The record of a text. A text without a document has the record without fields. -/
def read? {α : Type} (record : Format Node → Node → Option α) (text : String) : Option α := do
  let node ← Node.document? (← tokens? text)
  record format (node.getD .empty)

end SnapshotRules.Yaml
