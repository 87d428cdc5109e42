import SnapshotRules.Value.Text

/-! # Indented text of values

JSON with a line for every element and every entry.
-/

namespace SnapshotRules.Value

def newLine (depth : Nat) : List Char := '\n' :: List.replicate (2 * depth) ' '

/-- Parts on lines of their own between brackets. -/
def bracketed (opening closing : Char) (depth : Nat) (parts : List (List Char)) : List Char :=
  if parts = [] then [opening, closing]
  else
    opening :: newLine (depth + 1) ++ joined (',' :: newLine (depth + 1)) parts ++
      newLine depth ++ [closing]

mutual

/-- The value as part of a text in which so many collections are open. -/
def indentedChars (depth : Nat) : Value → List Char
  | .sequence items => bracketed '[' ']' depth (indentedItems (depth + 1) items)
  | .mapping entries => bracketed '{' '}' depth (indentedEntries (depth + 1) entries)
  | v => v.jsonChars
termination_by structural v => v

def indentedItems (depth : Nat) : List Value → List (List Char)
  | [] => []
  | x :: xs => x.indentedChars depth :: indentedItems depth xs
termination_by structural xs => xs

def indentedEntries (depth : Nat) : List (String × Value) → List (List Char)
  | [] => []
  | (k, x) :: xs =>
    (doubleQuoted k ++ ':' :: ' ' :: x.indentedChars depth) :: indentedEntries depth xs
termination_by structural xs => xs

end

def indented (v : Value) : String := String.ofList (v.indentedChars 0)

end SnapshotRules.Value
