import SnapshotRules.Json.Event

/-! # Reading JSON

Values are built from the events of a text. A repeated key keeps its first place and its
last value.
-/

namespace SnapshotRules.Json

inductive Frame where
  | sequence (items : List Value)
  | mapping (entries : Entries Value) (key : String)

def Frame.add (v : Value) : Frame → Frame
  | .sequence items => .sequence (v :: items)
  | .mapping entries key => .mapping (entries.set key v) key

def Frame.close : Frame → Value
  | .sequence items => .sequence items.reverse
  | .mapping entries _ => .mapping entries

/-- A value on its way: the collections that are still open, innermost first, or the value. -/
inductive Growth where
  | opened (frames : List Frame)
  | complete (value : Value)

namespace Growth

def start : Growth := .opened []

def put (v : Value) : List Frame → Growth
  | [] => .complete v
  | frame :: outer => .opened (frame.add v :: outer)

def step? : Growth → Event → Option Growth
  | .complete _, _ => none
  | .opened frames, .beginSequence => some (.opened (.sequence [] :: frames))
  | .opened frames, .beginMapping => some (.opened (.mapping [] "" :: frames))
  | .opened (.mapping entries _ :: outer), .key name =>
    some (.opened (.mapping entries name :: outer))
  | .opened _, .key _ => none
  | .opened frames, .scalar v => some (put v frames)
  | .opened [], .endSequence | .opened [], .endMapping => none
  | .opened (frame :: outer), .endSequence | .opened (frame :: outer), .endMapping =>
    some (put frame.close outer)

def value? : Growth → Option Value
  | .complete v => some v
  | .opened _ => none

end Growth

def read? (text : String) : Option Value :=
  match events text with
  | (stream, true) => (stream.foldlM Growth.step? .start).bind Growth.value?
  | (_, false) => none

end SnapshotRules.Json
