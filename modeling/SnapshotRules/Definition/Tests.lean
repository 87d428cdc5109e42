import SnapshotRules.Batch.Report
import SnapshotRules.Record.Format

/-! # Test files

A test file lists rules in sets.
-/

namespace SnapshotRules

structure TestCase where
  testId : Option String
  rule : String
  deriving DecidableEq

structure TestSet where
  testName : Option String
  cases : List TestCase
  deriving DecidableEq

structure TestFile where
  /-- The definition that the rules were written for. -/
  snapshot : Option String
  testSets : List TestSet
  deriving DecidableEq

section Records

variable {σ : Type} (f : Format σ)

namespace TestCase

def fieldNames : List String := ["testId", "rule"]

def read? (data : σ) : Option TestCase := do
  let fields ← f.fields fieldNames data
  let testId ← Format.optional none f.optionalText (fields.get? "testId")
  let rule ← Format.required f.text (fields.get? "rule")
  return { testId, rule }

def toValue (c : TestCase) : Value := .mapping [
  ("testId", .ofOptionalString c.testId),
  ("rule", .string c.rule)]

end TestCase

namespace TestSet

def fieldNames : List String := ["testName", "cases"]

def read? (data : σ) : Option TestSet := do
  let fields ← f.fields fieldNames data
  let testName ← Format.optional none f.optionalText (fields.get? "testName")
  let cases ← Format.optional [] (f.list (TestCase.read? f)) (fields.get? "cases")
  return { testName, cases }

def toValue (s : TestSet) : Value := .mapping [
  ("testName", .ofOptionalString s.testName),
  ("cases", .sequence (s.cases.map TestCase.toValue))]

end TestSet

namespace TestFile

def fieldNames : List String := ["snapshot", "testSet"]

def read? (data : σ) : Option TestFile := do
  let fields ← f.fields fieldNames data
  let snapshot ← Format.optional none f.optionalText (fields.get? "snapshot")
  let testSets ← Format.optional [] (f.list (TestSet.read? f)) (fields.get? "testSet")
  return { snapshot, testSets }

def toValue (file : TestFile) : Value := .mapping [
  ("snapshot", .ofOptionalString file.snapshot),
  ("testSet", .sequence (file.testSets.map TestSet.toValue))]

end TestFile

end Records

namespace TestFile

/-- The name of a case without an id: the numbers of its set and of itself. -/
def caseName (set case : Nat) : String := decimalText set ++ "." ++ decimalText case

def setCases (set : Nat) (cases : List TestCase) : List Case :=
  cases.mapIdx fun i case => ⟨case.testId.getD (caseName set (i + 1)), case.rule⟩

/-- The cases of all sets in the order of the file. -/
def cases (file : TestFile) : List Case :=
  (file.testSets.mapIdx fun i set => setCases (i + 1) set.cases).flatten

end TestFile

end SnapshotRules
