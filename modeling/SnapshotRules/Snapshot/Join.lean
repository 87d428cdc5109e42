import SnapshotRules.Snapshot.Context

/-! # Joins

The fetches that a task waits for. Other tasks may be fetching the same ids; an id is in
flight while a fetch of it has not ended, and then nobody else asks for it.
-/

namespace SnapshotRules

/-- Progress of a task with one of the documents it needs. -/
inductive Fetching where
  /-- Not asked for yet, or another task is fetching it. -/
  | waiting
  /-- The store has the answer, which is still on its way. -/
  | arriving (document : Value)
  /-- This task's fetch has not ended. -/
  | hanging
  /-- This task's fetch has not ended in time. -/
  | expired
  | failed (error : StoreError)
  | ready (document : Value)
  deriving DecidableEq

namespace Fetching

def isHanging : Fetching → Bool
  | .hanging => true
  | _ => false

def isInFlight : Fetching → Bool
  | .arriving _ | .hanging | .expired => true
  | .waiting | .failed _ | .ready _ => false

/-- A fetch that hangs has run out of time. -/
def expire : Fetching → Fetching
  | .hanging => .expired
  | f => f

end Fetching

/-- The ids that a task needs, with its progress on each of them. -/
structure Join where
  slots : List (String × Fetching)
  /-- Whether the task looks at the last slots first. -/
  backwards : Bool

namespace Join

variable {σ : Type}

/-- The fetches of some ids. Documents that are kept need none. -/
def start (documents : Entries Value) (ids : List String) : Join where
  slots := ids.map fun id =>
    (id, match documents.get? id with
      | some v => .ready v
      | none => .waiting)
  backwards := false

def expire (j : Join) : Join :=
  { j with slots := j.slots.map fun slot => (slot.1, slot.2.expire) }

def isHanging (j : Join) : Bool := j.slots.any fun slot => slot.2.isHanging

/-- The ids that the task has in flight. -/
def held (j : Join) : List String :=
  (j.slots.filter fun slot => slot.2.isInFlight).map Prod.fst

/-- How the fetches end, once that is certain: with all documents or with the first failure.
With `inOrder`, a failure counts only when everything in front of it is ready. -/
def settle? (inOrder : Bool) :
    List (String × Fetching) → Option (Except StoreError (Entries Value))
  | [] => some (.ok [])
  | (_, .failed e) :: _ => some (.error e)
  | (id, .ready v) :: rest =>
    match settle? inOrder rest with
    | some (.ok documents) => some (.ok ((id, v) :: documents))
    | other => other
  | _ :: rest =>
    match inOrder, settle? inOrder rest with
    | false, some (.error e) => some (.error e)
    | _, _ => none

def outcome? (j : Join) : Option (Except StoreError (Entries Value)) :=
  settle? (Context.reportsInOrder j.slots.length) j.slots

/-- What looking at a slot comes to: the slot, the session, and the ids in flight. -/
def look (ctx : Context σ) (s : Session σ) (inFlight : List String) (id : String) :
    Fetching → Option (Fetching × Session σ × List String)
  | .waiting =>
    match s.documents.get? id with
    | some v => some (.ready v, s, inFlight)
    | none =>
      if id ∈ inFlight then none
      else
        match ctx.ask id s with
        | (.ok v, s) => some (.arriving v, s, inFlight ++ [id])
        | (.error (.timeout _ _), s) => some (.hanging, s, inFlight ++ [id])
        | (.error e, s) => some (.failed e, s, inFlight)
  | .arriving v => some (.ready v, s.keep id v, inFlight.filter (· ≠ id))
  | .expired => some (.failed (.timeout id ctx.fetchTimeout), s, inFlight.filter (· ≠ id))
  | .hanging | .failed _ | .ready _ => none

/-- Looks at the first slot where that comes to something. -/
def lookFirst (ctx : Context σ) (s : Session σ) (inFlight : List String) :
    List (String × Fetching) → Option (List (String × Fetching) × Session σ × List String)
  | [] => none
  | (id, slot) :: rest =>
    match look ctx s inFlight id slot with
    | some (slot, s, inFlight) => some ((id, slot) :: rest, s, inFlight)
    | none =>
      (lookFirst ctx s inFlight rest).map fun (rest, s, inFlight) =>
        ((id, slot) :: rest, s, inFlight)

/-- Looks at the first or the last slot where that comes to something. -/
def poll (ctx : Context σ) (s : Session σ) (inFlight : List String) (j : Join) :
    Option (Join × Session σ × List String) :=
  if j.backwards then
    (lookFirst ctx s inFlight j.slots.reverse).map fun (slots, s, inFlight) =>
      ({ j with slots := slots.reverse }, s, inFlight)
  else
    (lookFirst ctx s inFlight j.slots).map fun (slots, s, inFlight) =>
      ({ j with slots }, s, inFlight)

end Join

end SnapshotRules
