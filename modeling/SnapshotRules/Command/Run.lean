import SnapshotRules.Batch.Concurrent
import SnapshotRules.Batch.Sequential
import SnapshotRules.Command.Arguments
import SnapshotRules.Command.EnvironmentFile
import SnapshotRules.Definition.Loading
import SnapshotRules.Record.Report
import SnapshotRules.Value.Indented

/-! # Running commands

What a command prints, and how it ends.
-/

namespace SnapshotRules

structure Outcome where
  output : String
  errors : String
  exitCode : Nat

inductive Failure where
  | plain (message : String)
  | during (activity message : String)
  /-- The program breaks off. -/
  | panic (message : String)

namespace Failure

/-- An activity is told first, and the lines of its cause are indented. -/
def text : Failure → String
  | .plain message => "Error: " ++ message
  | .during activity message =>
    let cause := message.toList.flatMap fun c => if c = '\n' then "\n    ".toList else [c]
    "Error: " ++ activity ++ "\n\nCaused by:\n    " ++ String.ofList cause
  | .panic message => message

def exitCode : Failure → Nat
  | .plain _ | .during _ _ => 1
  | .panic _ => 101

def outcome (f : Failure) : Outcome := ⟨"", f.text ++ "\n", f.exitCode⟩

def tooManyPermits : Failure :=
  .panic ("a semaphore may not have more than MAX_PERMITS permits (" ++
    decimalText maxPermits ++ ")")

end Failure

namespace Report

def caseLines (c : CaseReport) : List String :=
  let head (label : String) := label ++ c.id ++ "  " ++ c.rule
  match c.status with
  | .passed => [head "PASS     "]
  | .failed =>
    head "FAIL     " :: c.evaluation.toList.map fun e => "         " ++ e.diagnostics
  | .invalid error => [head "INVALID  ", "         " ++ error]
  | .cancelled => [head "SKIPPED  "]

def summary (r : Report) : String :=
  decimalText r.passed ++ " passed, " ++ decimalText r.failed ++ " failed, " ++
    decimalText r.invalid ++ " invalid, " ++ decimalText r.cancelled ++ " cancelled"

/-- The report as lines of text, and the id of its run at the end. -/
def lines (stamp : RunStamp) (r : Report) : List String :=
  r.results.flatMap caseLines ++
    (r.aborted.toList.map fun error => "Aborted: " ++ error) ++
    [r.summary ++ " (run " ++ stamp.runId ++ ")"]

end Report

def unlines (lines : List String) : String := String.join (lines.map fun line => line ++ "\n")

namespace Command

def checkReport (config : Config) (clock : Nat → Int64) (snapshot tests directory : String)
    (concurrent : Bool) : Reading (Except Failure Report) := do
  match ← SnapshotFile.load snapshot with
  | .error e => return .error (.during ("loading " ++ snapshot) e.message)
  | .ok file =>
    match ← TestFile.load tests with
    | .error e => return .error (.during ("loading " ++ tests) e.message)
    | .ok testFile =>
      let (_, store) ← file.populate directory config.defaultCollection clock .empty
      let ctx : Context MemoryStore := {
        source := MemoryStore.source
        collections := file.collections config.defaultCollection
        defaultDocument := none
        fetchTimeout := config.fetchTimeout }
      let state : RunState MemoryStore := ⟨.start store, false⟩
      if concurrent then
        let ran := ctx.runConcurrent? .builtins config.concurrency.toNat testFile.cases state
        return match ran with
          | some (report, _) => .ok report
          | none => .error .tooManyPermits
      else return .ok (ctx.run .builtins testFile.cases state).1

def readDocument (path : String) : Reading (Except Failure Value) := do
  match (← Reading.entry path).text with
  | .error fault => return .error (.during ("reading " ++ path) fault.message)
  | .ok text =>
    match Json.read? text with
    | some v => return .ok v
    | none => return .error (.plain LoadError.json.message)

/-- Evaluates one rule, with a document for its paths if one is given. -/
def evaluateRule (rule : String) (document : Option String) :
    Reading (Except Failure Evaluation) := do
  let document : Except Failure (Option Value) ← match document with
    | none => pure (.ok none)
    | some path => do pure ((← readDocument path).map some)
  match document with
  | .error failure => return .error failure
  | .ok document =>
    let ctx : Context MemoryStore := {
      source := MemoryStore.source
      collections := []
      defaultDocument := document
      fetchTimeout := Context.defaultTimeout }
    return (ctx.evaluate .builtins false rule (.start .empty)).1.mapError fun e => .plain e.message

def reportOutcome (json : Bool) (stamp : RunStamp) (r : Report) : Outcome :=
  let output := if json then (r.toValue stamp).indented ++ "\n" else unlines (r.lines stamp)
  ⟨output, "", if r.isSuccess then 0 else 1⟩

def evaluationOutcome (e : Evaluation) : Outcome :=
  ⟨e.diagnostics ++ "\n", "", if e.verdict then 0 else 1⟩

def outcomeOf {α : Type} (outcome : α → Outcome) : Except Failure α → Outcome
  | .ok a => outcome a
  | .error failure => failure.outcome

/-- Runs a command with its configuration. There is no listener to serve with. -/
def run (config : Config) (stamp : RunStamp) (clock : Nat → Int64) : Command → Reading Outcome
  | .check snapshot tests directory concurrent json => do
    return outcomeOf (reportOutcome json stamp)
      (← checkReport config clock snapshot tests directory concurrent)
  | .eval rule document => do return outcomeOf evaluationOutcome (← evaluateRule rule document)
  | .serve port =>
    let port := port.getD config.port
    return Failure.outcome (.plain ("cannot listen on port " ++ decimalText port.toNat))

end Command

/-- The environment file: the first one in the working directory and in so many directories
above it. -/
def environmentFile (path : String) : Nat → Reading FileEntry
  | 0 => Reading.entry path
  | levels + 1 => do
    match ← Reading.entry path with
    | .file bytes => return .file bytes
    | _ => environmentFile ("../" ++ path) levels

def environmentAssignments (levels : Nat) : Reading (List EnvironmentFile.Assignment) := do
  return EnvironmentFile.assignments (← environmentFile ".env" levels)

/--
Runs the program. The environment file completes the environment before anything else is looked
at; `levels` is how many directories are above the working directory.
-/
def program (arguments : List String) (environment : String → Option String) (levels : Nat)
    (stamp : RunStamp) (clock : Nat → Int64) : Reading Outcome := do
  let environment := EnvironmentFile.extend environment (← environmentAssignments levels)
  match Arguments.invocation? arguments with
  | none => return ⟨"", "", 2⟩
  | some .help => return ⟨"", "", 0⟩
  | some (.run path command) =>
    match ← Config.load path environment with
    | .error e => return Failure.outcome (.plain e.message)
    | .ok config => command.run config stamp clock

end SnapshotRules
