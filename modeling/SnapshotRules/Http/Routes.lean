import SnapshotRules.Batch.Concurrent
import SnapshotRules.Batch.Sequential
import SnapshotRules.Config
import SnapshotRules.Digest
import SnapshotRules.Http.MediaType
import SnapshotRules.Http.Posted
import SnapshotRules.Record.Report

/-! # Routes

The answers of the service: its health, its functions, and reports on posted rules.
-/

namespace SnapshotRules.Http

structure Request where
  method : String
  target : String
  contentType : Option String
  body : String

structure Response where
  status : Nat
  body : Option Value

def Response.empty (status : Nat) : Response := ⟨status, none⟩

namespace PostedBatch

/-- A case for every rule, numbered from one. -/
def cases (batch : PostedBatch) : List Case :=
  batch.rules.mapIdx fun i rule => ⟨decimalText (i + 1), rule⟩

/-- The posted documents, all in one collection. -/
def store (batch : PostedBatch) (collection : String) (now : Int64) : MemoryStore :=
  batch.snapshots.entries.foldl (fun store (id, json) =>
    store.insert {
      snapshotId := id, collection, checksum := json.checksum, timestamp := now, json }) .empty

def context (batch : PostedBatch) (config : Config) : Context MemoryStore where
  source := MemoryStore.source
  collections := batch.snapshots.entries.map fun (id, _) => (id, config.defaultCollection)
  defaultDocument := batch.document
  fetchTimeout := config.fetchTimeout

/-- Runs the rules against the posted documents. As tasks they may break off. -/
def run (batch : PostedBatch) (config : Config) (now : Int64) : Option Report :=
  let ctx := batch.context config
  let state : RunState MemoryStore :=
    ⟨.start (batch.store config.defaultCollection now), false⟩
  if batch.sequential then some (ctx.run .builtins batch.cases state).1
  else (ctx.runConcurrent? .builtins config.concurrency.toNat batch.cases state).map Prod.fst

end PostedBatch

def answerBatch (config : Config) (stamp : RunStamp) (now : Int64) (batch : PostedBatch) :
    Option Response :=
  if batch.rules = [] then some ⟨400, some (.mapping [("error", .string "no rules given")])⟩
  else (batch.run config now).map fun report => ⟨200, some (report.toValue stamp)⟩

/-- How many bytes a body may have. -/
def maxBodySize : Nat := 2 ^ 21

def evaluate (config : Config) (stamp : RunStamp) (now : Int64) (r : Request) : Option Response :=
  if r.contentType.any isJson then
    if maxBodySize < r.body.utf8ByteSize then some (.empty 413)
    else
      match PostedBatch.ofBody r.body with
      | .error .malformed => some (.empty 400)
      | .error .wrongShape => some (.empty 422)
      | .ok batch => answerBatch config stamp now batch
  else some (.empty 415)

def readOnly (method : String) (body : Value) : Response :=
  if method = "GET" then ⟨200, some body⟩
  else if method = "HEAD" then .empty 200
  else .empty 405

def health : Value := .mapping [("status", .string "ok")]

def functions : Value := .sequence (Registry.builtins.names.map .string)

def isSchemeChar (c : Char) : Bool := c.isAlphanum || c = '+' || c = '-' || c = '.'

/-- Whether a character ends the authority of a target. -/
def endsAuthority (c : Char) : Bool := c = '/' || c = '?' || c = '#'

/-- A target without its scheme and authority, if it has them. -/
def localPart (target : List Char) : List Char :=
  match target.dropWhile isSchemeChar with
  | ':' :: '/' :: '/' :: rest => rest.dropWhile fun c => !endsAuthority c
  | _ => target

def path (target : String) : String :=
  String.ofList ((localPart target.toList).takeWhile fun c => c ≠ '?' && c ≠ '#')

/-- The response to a request, or `none` when the service breaks off without one. Every path has
options. -/
def respond (config : Config) (stamp : RunStamp) (now : Int64) (r : Request) : Option Response :=
  if r.method = "OPTIONS" then some (.empty 200)
  else
    match path r.target with
    | "/api/health" => some (readOnly r.method health)
    | "/api/functions" => some (readOnly r.method functions)
    | "/api/evaluate" =>
      if r.method = "POST" then evaluate config stamp now r else some (.empty 405)
    | _ => some (.empty 404)

end SnapshotRules.Http
