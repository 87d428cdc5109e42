import SnapshotRules.Number.Numeral
import SnapshotRules.Rule.Operator

/-! # Tokens of a rule -/

namespace SnapshotRules

inductive Punctuation where
  | openParenthesis
  | closeParenthesis
  | openBracket
  | closeBracket
  | openBrace
  | closeBrace
  | comma
  | colon
  deriving DecidableEq, Repr

namespace Punctuation

def char : Punctuation → Char
  | .openParenthesis => '('
  | .closeParenthesis => ')'
  | .openBracket => '['
  | .closeBracket => ']'
  | .openBrace => '{'
  | .closeBrace => '}'
  | .comma => ','
  | .colon => ':'

def ofChar? : Char → Option Punctuation
  | '(' => some .openParenthesis
  | ')' => some .closeParenthesis
  | '[' => some .openBracket
  | ']' => some .closeBracket
  | '{' => some .openBrace
  | '}' => some .closeBrace
  | ',' => some .comma
  | ':' => some .colon
  | _ => none

theorem ofChar?_char (p : Punctuation) : ofChar? p.char = some p := by cases p <;> rfl

end Punctuation

inductive TokenKind where
  | identifier (name : String)
  /-- A word right before an opening parenthesis. -/
  | function (name : String)
  | string (value : String)
  | number (value : Number)
  | boolean (value : Bool)
  | null
  | operator (operator : Operator)
  /-- The words of compound rules, which no rule may hold. -/
  | logical (word : String)
  | punctuation (mark : Punctuation)
  | endOfRule
  deriving DecidableEq

/-- A lexical unit with its text and its place, counted in bytes. -/
structure Token where
  kind : TokenKind
  text : String
  position : Nat
  deriving DecidableEq

/-- How messages name a token. -/
def Token.describe (t : Token) : String :=
  if t.kind = .endOfRule then "end of rule" else "'" ++ t.text ++ "'"

end SnapshotRules
