import SnapshotRules.Command.Run

/-! # The program

Arguments, variables and files come from the system, and the outcome goes back to it.
-/

namespace SnapshotRules

def diskEntry (path : String) : IO FileEntry := do
  try
    return .file (← IO.FS.readBinFile path)
  catch
    | .noFileOrDirectory .. => return .missing
    | _ => return .directory

/-- Answers what a computation asks for from the disk. -/
def Reading.perform {α : Type} : Reading α → IO α
  | .done a => return a
  | .read path next => do (next (← diskEntry path)).perform

def readVariables (names : List String) : IO (Entries String) := do
  let found ← names.mapM fun name => return (← IO.getEnv name).map fun value => (name, value)
  return found.filterMap id

def directoryLevels : IO Nat := do
  return ((pathParts (← IO.currentDir).toString).filter (· ≠ [])).length

end SnapshotRules

open SnapshotRules in
def main (arguments : List String) : IO UInt32 := do
  let levels ← directoryLevels
  let assignments ← (environmentAssignments levels).perform
  let environment ← readVariables
    (Config.overrides.map Config.Override.key ++ EnvironmentFile.dependencies assignments)
  let now ← IO.monoMsNow
  let time := RunStamp.timeText now
  let stamp : RunStamp := ⟨RunStamp.idText (← IO.getRandomBytes 16).toList, time, time⟩
  let outcome ← (program arguments (Entries.get? environment) levels stamp
    fun _ => Int64.ofNat now).perform
  (← IO.getStdout).putStr outcome.output
  (← IO.getStderr).putStr outcome.errors
  return .ofNat outcome.exitCode
