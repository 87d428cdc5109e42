import SnapshotRules.Distinct
import SnapshotRules.Rule.Operator
import SnapshotRules.Value.Text

/-! # Expressions

A rule compares two operands. The text of an expression is a rule again.
-/

namespace SnapshotRules

inductive Operand where
  | literal (value : Value)
  /-- A dotted path. The reference, its first part, may name a snapshot. -/
  | path (reference : Option String) (segments : List String)
  | call (name : String) (arguments : List Operand)
  | list (items : List Operand)
  | map (entries : List (String × Operand))

structure Expression where
  left : Operand
  operator : Operator
  right : Operand

namespace Operand

mutual

/-- Whether two trees are the same, literals in every detail. -/
def same : Operand → Operand → Bool
  | .literal a, .literal b => a.same b
  | .path r s, .path r' s' => r == r' && s == s'
  | .call n xs, .call n' ys => n == n' && sameItems xs ys
  | .list xs, .list ys => sameItems xs ys
  | .map xs, .map ys => sameEntries xs ys
  | _, _ => false
termination_by structural o => o

def sameItems : List Operand → List Operand → Bool
  | [], [] => true
  | x :: xs, y :: ys => x.same y && sameItems xs ys
  | _, _ => false
termination_by structural xs => xs

def sameEntries : List (String × Operand) → List (String × Operand) → Bool
  | [], [] => true
  | (k, x) :: xs, (l, y) :: ys => k == l && x.same y && sameEntries xs ys
  | _, _ => false
termination_by structural xs => xs

end

mutual

theorem same_iff : ∀ a b : Operand, a.same b = true ↔ a = b
  | .literal a, b => by cases b <;> simp [same, Value.same_iff]
  | .path _ _, b => by cases b <;> simp [same]
  | .call _ xs, b => by cases b <;> simp [same, sameItems_iff xs]
  | .list xs, b => by cases b <;> simp [same, sameItems_iff xs]
  | .map xs, b => by cases b <;> simp [same, sameEntries_iff xs]

theorem sameItems_iff : ∀ a b : List Operand, sameItems a b = true ↔ a = b
  | [], b => by cases b <;> simp [sameItems]
  | x :: xs, b => by cases b <;> simp [sameItems, same_iff x, sameItems_iff xs]

theorem sameEntries_iff : ∀ a b : List (String × Operand), sameEntries a b = true ↔ a = b
  | [], b => by cases b <;> simp [sameEntries]
  | (_, x) :: xs, b => by
    cases b with
    | nil => simp [sameEntries]
    | cons entry ys =>
      obtain ⟨_, y⟩ := entry
      simp [sameEntries, same_iff x y, sameEntries_iff xs ys, and_assoc]

end

instance : DecidableEq Operand := fun a b => decidable_of_iff _ (same_iff a b)

mutual

def references : Operand → List String
  | .literal _ => []
  | .path reference _ => reference.toList
  | .call _ arguments => referencesOfItems arguments
  | .list items => referencesOfItems items
  | .map entries => referencesOfEntries entries
termination_by structural o => o

def referencesOfItems : List Operand → List String
  | [] => []
  | x :: xs => x.references ++ referencesOfItems xs
termination_by structural xs => xs

def referencesOfEntries : List (String × Operand) → List String
  | [] => []
  | (_, x) :: xs => x.references ++ referencesOfEntries xs
termination_by structural xs => xs

end

/-- Every reference once, in order of first appearance. -/
def snapshotRefs (o : Operand) : List String := distinctBy (· == ·) o.references

mutual

def chars : Operand → List Char
  | .literal v => v.textChars
  | .path reference segments =>
    joined ['.'] ((reference.toList ++ segments).map String.toList)
  | .call name arguments =>
    name.toList ++ '(' :: joined [',', ' '] (charsOfItems arguments) ++ [')']
  | .list items => '[' :: joined [',', ' '] (charsOfItems items) ++ [']']
  | .map entries => '{' :: joined [',', ' '] (charsOfEntries entries) ++ ['}']
termination_by structural o => o

def charsOfItems : List Operand → List (List Char)
  | [] => []
  | x :: xs => x.chars :: charsOfItems xs
termination_by structural xs => xs

def charsOfEntries : List (String × Operand) → List (List Char)
  | [] => []
  | (k, x) :: xs => (singleQuoted k ++ ':' :: ' ' :: x.chars) :: charsOfEntries xs
termination_by structural xs => xs

end

def text (o : Operand) : String := String.ofList o.chars

mutual

/-- How many paths and calls the operand holds. -/
def steps : Operand → Nat
  | .literal _ => 0
  | .path _ _ => 1
  | .call _ arguments => 1 + stepsOfItems arguments
  | .list items => stepsOfItems items
  | .map entries => stepsOfEntries entries
termination_by structural o => o

def stepsOfItems : List Operand → Nat
  | [] => 0
  | x :: xs => x.steps + stepsOfItems xs
termination_by structural xs => xs

def stepsOfEntries : List (String × Operand) → Nat
  | [] => 0
  | (_, x) :: xs => x.steps + stepsOfEntries xs
termination_by structural xs => xs

end

end Operand

namespace Expression

deriving instance DecidableEq for Expression

def snapshotRefs (e : Expression) : List String :=
  distinctBy (· == ·) (e.left.references ++ e.right.references)

def chars (e : Expression) : List Char :=
  e.left.chars ++ ' ' :: e.operator.symbol.toList ++ ' ' :: e.right.chars

def text (e : Expression) : String := String.ofList e.chars

end Expression

end SnapshotRules
