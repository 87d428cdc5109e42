import SnapshotRules.Number.Numeral
import SnapshotRules.Value.Basic

/-! # Text of values

Compact text of a value, and the quoted form in which strings appear in rules.
-/

namespace SnapshotRules

def hexDigit (n : Nat) : Char :=
  if n < 10 then Char.ofNat ('0'.toNat + n) else Char.ofNat ('a'.toNat + (n - 10))

/-- Inside double quotes only the quote, the backslash and control characters are escaped. -/
def escaped (c : Char) : List Char :=
  match c with
  | '"' => ['\\', '"']
  | '\\' => ['\\', '\\']
  | '\n' => ['\\', 'n']
  | '\t' => ['\\', 't']
  | '\r' => ['\\', 'r']
  | '\x08' => ['\\', 'b']
  | '\x0c' => ['\\', 'f']
  | c =>
    if c.toNat < 32 then
      ['\\', 'u', '0', '0', hexDigit (c.toNat / 16), hexDigit (c.toNat % 16)]
    else [c]

def doubleQuoted (s : String) : List Char := '"' :: s.toList.flatMap escaped ++ ['"']

/-- A string as a literal of a rule: in single quotes, each inner one after a backslash. -/
def singleQuoted (s : String) : List Char :=
  '\'' :: (s.toList.flatMap fun c => if c = '\'' then ['\\', '\''] else [c]) ++ ['\'']

def joined (separator : List Char) : List (List Char) → List Char
  | [] => []
  | [part] => part
  | part :: rest => part ++ separator ++ joined separator rest

namespace Value

mutual

def jsonChars : Value → List Char
  | .null => "null".toList
  | .bool b => (if b then "true" else "false").toList
  | .number n => n.chars
  | .string s => doubleQuoted s
  | .sequence items => '[' :: joined [','] (jsonItems items) ++ [']']
  | .mapping entries => '{' :: joined [','] (jsonEntries entries) ++ ['}']
termination_by structural v => v

def jsonItems : List Value → List (List Char)
  | [] => []
  | x :: xs => x.jsonChars :: jsonItems xs
termination_by structural xs => xs

def jsonEntries : List (String × Value) → List (List Char)
  | [] => []
  | (k, x) :: xs => (doubleQuoted k ++ ':' :: x.jsonChars) :: jsonEntries xs
termination_by structural xs => xs

end

def json (v : Value) : String := String.ofList v.jsonChars

/-- A string as a literal of a rule, and any other value as JSON. -/
def textChars : Value → List Char
  | .string s => singleQuoted s
  | v => v.jsonChars

/-- The value as reports show it. -/
def text (v : Value) : String := String.ofList v.textChars

end Value

end SnapshotRules
