import SnapshotRules.Rule.Error
import SnapshotRules.Value.Text

/-! # Faults of function calls -/

namespace SnapshotRules

/-- Why a function refuses its arguments. Kinds are those that `Value.kind` names. -/
inductive ArgumentFault where
  | count (expected got : Nat)
  | countTwoOrThree (got : Nat)
  | countAtLeastTwo (got : Nat)
  | countOdd (got : Nat)
  | notSequence (kind : String)
  | notMapping (kind : String)
  | emptySequence
  | indexNotInteger (index : Value)
  | negativeIndex (index : Int)
  | chunkSize (size : Value)
  | noLength (kind : String)
  | keyNotString (kind : String)
  | notSearchable (kind : String)
  | notKey (kind : String)
  /-- A reason of a function that is not built in. -/
  | other (reason : String)
  deriving DecidableEq

def integerText (i : Int) : String :=
  String.ofList ((if i < 0 then ['-'] else []) ++ digitsOf i.natAbs)

def ArgumentFault.reason : ArgumentFault → String
  | .count expected got =>
    "expected " ++ decimalText expected ++ " argument(s), got " ++ decimalText got
  | .countTwoOrThree got => "expected 2 or 3 arguments, got " ++ decimalText got
  | .countAtLeastTwo got => "expected at least 2 arguments, got " ++ decimalText got
  | .countOdd got => "expected an even number of arguments, got " ++ decimalText got
  | .notSequence kind => "expected sequence, got " ++ kind
  | .notMapping kind => "expected mapping, got " ++ kind
  | .emptySequence => "cannot index an empty sequence"
  | .indexNotInteger index => "index must be an integer, got " ++ index.json
  | .negativeIndex index => "negative index " ++ integerText index
  | .chunkSize size => "chunk size must be a positive integer, got " ++ size.json
  | .noLength kind => "cannot take length of " ++ kind
  | .keyNotString kind => "key must be a string, got " ++ kind
  | .notSearchable kind => "cannot search in " ++ kind
  | .notKey kind => kind ++ " cannot be used as a key"
  | .other reason => reason

inductive CallError where
  | unknownFunction (name : String)
  | invalidArguments (function : String) (fault : ArgumentFault)
  deriving DecidableEq

def CallError.message : CallError → String
  | .unknownFunction name => "Unknown function: " ++ name
  | .invalidArguments function fault =>
    "Invalid arguments for " ++ function ++ ": " ++ fault.reason

end SnapshotRules
