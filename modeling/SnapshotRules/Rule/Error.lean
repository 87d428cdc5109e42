import SnapshotRules.Rule.Token

/-! # Faults of rule texts -/

namespace SnapshotRules

/-! What a result was whose value has been mapped. -/

section

variable {ε α β : Type _} {f : α → β} {result : Except ε α}

theorem map_eq_ok_iff {b : β} : result.map f = .ok b ↔ ∃ a, result = .ok a ∧ f a = b := by
  cases result <;> simp [Except.map]

theorem map_eq_error_iff {e : ε} : result.map f = .error e ↔ result = .error e := by
  cases result <;> simp [Except.map]

end

inductive LexFault where
  | unexpectedCharacter (c : Char)
  /-- The first half of an operator that only exists with an equals sign. -/
  | halfOperator (c : Char)
  | unterminatedString
  | malformedNumber
  | integerOutOfRange (text : List Char)
  | numberTooLarge (text : List Char)
  deriving DecidableEq

def LexFault.reason : LexFault → String
  | .unexpectedCharacter c => "unexpected character '" ++ c.toString ++ "'"
  | .halfOperator c => "expected '" ++ c.toString ++ "=' operator"
  | .unterminatedString => "unterminated string literal"
  | .malformedNumber => "malformed number literal"
  | .integerOutOfRange text => "integer out of range '" ++ String.ofList text ++ "'"
  | .numberTooLarge text => "invalid number '" ++ String.ofList text ++ "'"

structure LexError where
  position : Nat
  fault : LexFault
  deriving DecidableEq

def decimalText (n : Nat) : String := String.ofList (digitsOf n)

def LexError.message (e : LexError) : String :=
  "Lex error at " ++ decimalText e.position ++ ": " ++ e.fault.reason

/-- What a rule should have continued with. -/
inductive Expectation where
  | operand
  | comparator
  | endOfRule
  | endOfSimpleRule
  | openParenthesis
  | commaOr (close : Punctuation)
  | mapKey
  | colon
  | pathSegment
  deriving DecidableEq

def Expectation.text : Expectation → String
  | .operand => "operand"
  | .comparator => "comparator"
  | .endOfRule => "end of rule"
  | .endOfSimpleRule => "end of rule (compound rules are not supported)"
  | .openParenthesis => "'('"
  | .commaOr close => "',' or '" ++ close.char.toString ++ "'"
  | .mapKey => "map key"
  | .colon => "':'"
  | .pathSegment => "field path segment"

structure ParseError where
  position : Nat
  expected : Expectation
  found : String
  deriving DecidableEq

def ParseError.message (e : ParseError) : String :=
  "Parse error at " ++ decimalText e.position ++ ": expected " ++ e.expected.text ++
    ", found " ++ e.found

end SnapshotRules
