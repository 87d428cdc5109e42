import SnapshotRules.Digest

/-! # Stamps of runs

Every run has an id of its own and tells when it started and when it finished.
-/

namespace SnapshotRules

/-- The id of a run, and the times of its start and of its end as they are written. -/
structure RunStamp where
  runId : String
  startedAt : String
  finishedAt : String

namespace RunStamp

def groups : List Nat → List UInt8 → List (List Char)
  | [], _ => []
  | size :: sizes, bytes =>
    (bytes.take size).flatMap Digest.hexByte :: groups sizes (bytes.drop size)

/-- The id that sixteen random bytes make. Six of their bits tell that it is a random one. -/
def idText (bytes : List UInt8) : String :=
  let marked := (bytes.modify 6 fun b => b &&& 0x0f ||| 0x40).modify 8 fun b => b &&& 0x3f ||| 0x80
  String.intercalate "-" ((groups [4, 2, 2, 2, 6] marked).map String.ofList)

def padded (length n : Nat) : String :=
  let digits := digitsOf n
  String.ofList (List.replicate (length - digits.length) '0' ++ digits)

/-- The year, the month and the day that so many days after the beginning of 1970 are. Years are
counted from March on, in eras of four hundred of them. -/
def dateOf (days : Nat) : Nat × Nat × Nat :=
  let shifted := days + 719468
  let dayOfEra := shifted % 146097
  let yearOfEra := (dayOfEra - dayOfEra / 1460 + dayOfEra / 36524 - dayOfEra / 146096) / 365
  let dayOfYear := dayOfEra - (365 * yearOfEra + yearOfEra / 4 - yearOfEra / 100)
  let month := (5 * dayOfYear + 2) / 153
  let year := yearOfEra + 400 * (shifted / 146097)
  let day := dayOfYear - (153 * month + 2) / 5 + 1
  if month < 10 then (year, month + 3, day) else (year + 1, month - 9, day)

def timeText (milliseconds : Nat) : String :=
  let seconds := milliseconds / 1000
  let (year, month, day) := dateOf (seconds / 86400)
  let fraction := if milliseconds % 1000 = 0 then "" else "." ++ padded 3 (milliseconds % 1000)
  padded 4 year ++ "-" ++ padded 2 month ++ "-" ++ padded 2 day ++ "T" ++
    padded 2 (seconds / 3600 % 24) ++ ":" ++ padded 2 (seconds / 60 % 60) ++ ":" ++
    padded 2 (seconds % 60) ++ fraction ++ "Z"

end RunStamp

end SnapshotRules
