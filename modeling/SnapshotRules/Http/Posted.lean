import SnapshotRules.Json.Reader

/-! # Posted batches

A body is read event by event, so the first fault decides what is wrong with it: its text or
its shape. Fields come by name or, in a list, in their order.
-/

namespace SnapshotRules.Http

inductive BodyFault where
  | malformed
  | wrongShape
  deriving DecidableEq

structure PostedBatch where
  rules : List String
  snapshots : Mapping Value
  document : Option Value
  sequential : Bool
  deriving DecidableEq

inductive Field where
  | rules
  | snapshots
  | document
  | sequential
  deriving DecidableEq

namespace Field

def all : List Field := [.rules, .snapshots, .document, .sequential]

def name : Field → String
  | .rules => "rules"
  | .snapshots => "snapshots"
  | .document => "document"
  | .sequential => "sequential"

def ofName? (name : String) : Option Field := all.find? fun f => f.name = name

end Field

/-- The fields read so far. Of a list, `upcoming` are those still to come. -/
structure Draft where
  rules : Option (List String)
  snapshots : Option (Mapping Value)
  document : Option (Option Value)
  sequential : Option Bool
  upcoming : Option (List Field)

namespace Draft

def empty (upcoming : Option (List Field)) : Draft := ⟨none, none, none, none, upcoming⟩

def has (d : Draft) : Field → Bool
  | .rules => d.rules.isSome
  | .snapshots => d.snapshots.isSome
  | .document => d.document.isSome
  | .sequential => d.sequential.isSome

/-- Only the rules must be there. -/
def batch? (d : Draft) : Except BodyFault PostedBatch :=
  match d.rules with
  | none => .error .wrongShape
  | some rules => .ok {
      rules
      snapshots := d.snapshots.getD .empty
      document := d.document.getD none
      sequential := d.sequential.getD false }

end Draft

inductive Purpose where
  | snapshot (documents : Mapping Value) (id : String)
  | document
  | nothing

inductive Progress where
  | start
  | between (d : Draft)
  | field (d : Draft) (f : Field)
  | rules (d : Draft) (texts : List String)
  | snapshots (d : Draft) (documents : Mapping Value)
  | value (d : Draft) (purpose : Purpose) (growth : Json.Growth)
  | finished (batch : PostedBatch)

namespace Progress

def use (d : Draft) (v : Value) : Purpose → Progress
  | .snapshot documents id => .snapshots d (documents.set id v)
  | .document => .between { d with document := some v }
  | .nothing => .between d

def grow (d : Draft) (purpose : Purpose) (growth : Json.Growth) (e : Json.Event) :
    Except BodyFault Progress :=
  match growth.step? e with
  | none => .error .malformed
  | some (.complete v) => .ok (use d v purpose)
  | some growth => .ok (.value d purpose growth)

/-- The first event of a field's value. -/
def beginField (d : Draft) : Field → Json.Event → Except BodyFault Progress
  | .rules, .beginSequence => .ok (.rules d [])
  | .snapshots, .beginMapping => .ok (.snapshots d .empty)
  | .document, .scalar .null => .ok (.between { d with document := some none })
  | .document, e => grow d .document .start e
  | .sequential, .scalar (.bool b) => .ok (.between { d with sequential := some b })
  | _, _ => .error .wrongShape

def step : Progress → Json.Event → Except BodyFault Progress
  | .start, .beginMapping => .ok (.between (.empty none))
  | .start, .beginSequence => .ok (.between (.empty (some Field.all)))
  | .start, _ => .error .wrongShape
  | .between d, e =>
    match d.upcoming, e with
    | none, .key name =>
      match Field.ofName? name with
      | none => .ok (.value d .nothing .start)
      | some f => if d.has f then .error .wrongShape else .ok (.field d f)
    | none, .endMapping | some _, .endSequence => d.batch?.map .finished
    | some (f :: rest), e => beginField { d with upcoming := some rest } f e
    | _, _ => .error .malformed
  | .field d f, e => beginField d f e
  | .rules d texts, .scalar (.string s) => .ok (.rules d (texts ++ [s]))
  | .rules d texts, .endSequence => .ok (.between { d with rules := some texts })
  | .rules _ _, _ => .error .wrongShape
  | .snapshots d documents, .key id => .ok (.value d (.snapshot documents id) .start)
  | .snapshots d documents, .endMapping =>
    .ok (.between { d with snapshots := some documents })
  | .snapshots _ _, _ => .error .malformed
  | .value d purpose growth, e => grow d purpose growth e
  | .finished _, _ => .error .malformed

end Progress

/-- The batch that a body describes. Fields of other names are skipped. -/
def PostedBatch.ofBody (body : String) : Except BodyFault PostedBatch :=
  let (events, complete) :=
    Json.eventsSkipping (fun name => (Field.ofName? name).isNone) body
  match events.foldlM Progress.step .start with
  | .error fault => .error fault
  | .ok (.finished batch) => if complete then .ok batch else .error .malformed
  | .ok _ => .error .malformed

end SnapshotRules.Http
