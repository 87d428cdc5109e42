import SnapshotRules.Snapshot.Source

/-! # Contexts

The documents that a batch of rules shares. A document is fetched when it is first needed
and then kept; a fetch that fails leaves nothing behind.
-/

namespace SnapshotRules

structure Context (σ : Type) where
  source : Source σ
  /-- The collection of every known snapshot id. -/
  collections : Entries String
  defaultDocument : Option Value
  /-- The time allowed for a fetch, in milliseconds. -/
  fetchTimeout : UInt64

/-- What happens between a context and its store. -/
inductive Event where
  | fetched (id : String) (answer : Fetched)
  /-- The document that a fetch came to is kept. -/
  | kept (id : String) (document : Value)
  deriving DecidableEq

def Event.request? : Event → Option String
  | .fetched id _ => some id
  | .kept _ _ => none

/-- What fetches change: the store, the documents kept so far, and what has happened, oldest
first. -/
structure Session (σ : Type) where
  store : σ
  documents : Entries Value
  history : List Event

namespace Session

variable {σ : Type}

def start (store : σ) : Session σ := ⟨store, [], []⟩

def keep (s : Session σ) (id : String) (document : Value) : Session σ :=
  { s with documents := s.documents.set id document, history := s.history ++ [.kept id document] }

/-- The ids that the store was asked for, oldest first. -/
def requests (s : Session σ) : List String := s.history.filterMap Event.request?

def requestCount (s : Session σ) (id : String) : Nat := s.requests.count id

end Session

namespace Context

variable {σ : Type}

def defaultTimeout : UInt64 := 30000

def isKnown (ctx : Context σ) (id : String) : Bool := ctx.collections.contains id

/-- Asks the store for the document of an id. One that the store does not have is null. -/
def ask (ctx : Context σ) (id : String) (s : Session σ) : Except StoreError Value × Session σ :=
  match ctx.collections.get? id with
  | none => (.error (.unavailable ("unknown snapshot '" ++ id ++ "'")), s)
  | some collection =>
    let (fetched, store) := ctx.source.fetch s.store id collection
    let s : Session σ := { s with store, history := s.history ++ [.fetched id fetched] }
    match fetched with
    | .found d => (.ok d.json, s)
    | .missing => (.ok .null, s)
    | .unavailable reason => (.error (.unavailable reason), s)
    | .hanging => (.error (.timeout id ctx.fetchTimeout), s)

/-- The document of an id, kept from its first successful fetch on. -/
def document (ctx : Context σ) (id : String) (s : Session σ) :
    Except StoreError Value × Session σ :=
  match s.documents.get? id with
  | some v => (.ok v, s)
  | none =>
    match ctx.ask id s with
    | (.ok v, s) => (.ok v, s.keep id v)
    | (.error e, s) => (.error e, s)

/-- Up to so many fetches at once report a failure when it occurs. -/
def promptLimit : Nat := 30

/-- Whether so many fetches at once report their failures in list order. -/
def reportsInOrder (count : Nat) : Bool := promptLimit < count

/--
Fetches known ids at once. The first store failure ends it; ids that hang only matter when
nothing fails, and then the first of them times out. With `inOrder`, a failure after an id
that hangs comes too late, because the timeout of that id is reported first.
-/
def gather (ctx : Context σ) (inOrder : Bool) (hanging : List String) (done : Entries Value) :
    List String → Session σ → Except StoreError (Entries Value) × Session σ
  | [], s =>
    match hanging with
    | [] => (.ok done, s)
    | id :: _ => (.error (.timeout id ctx.fetchTimeout), s)
  | id :: rest, s =>
    if id ∈ hanging then ctx.gather inOrder hanging done rest s
    else
      match ctx.document id s with
      | (.ok v, s) => ctx.gather inOrder hanging (done.set id v) rest s
      | (.error (.timeout _ _), s) => ctx.gather inOrder (hanging ++ [id]) done rest s
      | (.error e, s) =>
        if inOrder && !hanging.isEmpty then ctx.gather inOrder hanging done rest s
        else (.error e, s)

/-- The documents of the known ids among `ids`. -/
def prefetch (ctx : Context σ) (ids : List String) (s : Session σ) :
    Except StoreError (Entries Value) × Session σ :=
  let known := ids.filter ctx.isKnown
  ctx.gather (reportsInOrder known.length) [] [] known s

end Context

end SnapshotRules
