import SnapshotRules.Function.Registry
import SnapshotRules.Rule.Parser
import SnapshotRules.Snapshot.Source
import SnapshotRules.Value.Path

/-! # Resolution

Operands become values. Paths and calls are the points at which a run that was cancelled
gives up.
-/

namespace SnapshotRules

/-- Why a rule has no verdict. -/
inductive RuleError where
  | lex (error : LexError)
  | parse (error : ParseError)
  | call (error : CallError)
  | store (error : StoreError)
  | cancelled
  deriving DecidableEq

namespace RuleError

def ofSyntax : SyntaxError → RuleError
  | .lex e => .lex e
  | .parse e => .parse e

def message : RuleError → String
  | .lex e => e.message
  | .parse e => e.message
  | .call e => e.message
  | .store e => e.message
  | .cancelled => "Rule evaluation cancelled"

def isInvalidRule : RuleError → Bool
  | .lex _ | .parse _ | .call _ => true
  | .store _ | .cancelled => false

end RuleError

structure Scope where
  registry : Registry
  documents : Entries Value
  defaultDocument : Option Value

namespace Scope

/-- A path that starts at a document's id leads into that document, and any other path into
the default document. -/
def lookup (scope : Scope) (reference : Option String) (segments : List String) : Value :=
  match reference.bind fun id => scope.documents.get? id with
  | some document => document.pathOrNull segments
  | none =>
    match scope.defaultDocument with
    | some document => document.pathOrNull (reference.toList ++ segments)
    | none => .null

end Scope

namespace Operand

mutual

/-- The value of an operand. Calls are checked for cancellation before their arguments. -/
def resolve (scope : Scope) (cancelled : Bool) : Operand → Except RuleError Value
  | .literal v => .ok v
  | .path reference segments =>
    if cancelled then .error .cancelled else .ok (scope.lookup reference segments)
  | .call name arguments =>
    if cancelled then .error .cancelled
    else
      match resolveItems scope cancelled arguments with
      | .ok values => (scope.registry.call name values).mapError .call
      | .error e => .error e
  | .list items => (resolveItems scope cancelled items).map .sequence
  | .map entries => (resolveEntries scope cancelled [] entries).map .mapping
termination_by structural o => o

def resolveItems (scope : Scope) (cancelled : Bool) : List Operand → Except RuleError (List Value)
  | [] => .ok []
  | x :: xs =>
    match x.resolve scope cancelled with
    | .ok v => (resolveItems scope cancelled xs).map (v :: ·)
    | .error e => .error e
termination_by structural xs => xs

def resolveEntries (scope : Scope) (cancelled : Bool) (done : Entries Value) :
    List (String × Operand) → Except RuleError (Entries Value)
  | [] => .ok done
  | (k, x) :: xs =>
    match x.resolve scope cancelled with
    | .ok v => resolveEntries scope cancelled (done.set k v) xs
    | .error e => .error e
termination_by structural xs => xs

end

mutual

/-- How often resolution checks for cancellation when nothing cancels it. It ends early at
the first call that fails. -/
def checkpoints (scope : Scope) : Operand → Nat
  | .literal _ => 0
  | .path _ _ => 1
  | .call _ arguments => 1 + checkpointsOfItems scope arguments
  | .list items => checkpointsOfItems scope items
  | .map entries => checkpointsOfEntries scope entries
termination_by structural o => o

def checkpointsOfItems (scope : Scope) : List Operand → Nat
  | [] => 0
  | x :: xs =>
    match x.resolve scope false with
    | .ok _ => x.checkpoints scope + checkpointsOfItems scope xs
    | .error _ => x.checkpoints scope
termination_by structural xs => xs

def checkpointsOfEntries (scope : Scope) : List (String × Operand) → Nat
  | [] => 0
  | (_, x) :: xs =>
    match x.resolve scope false with
    | .ok _ => x.checkpoints scope + checkpointsOfEntries scope xs
    | .error _ => x.checkpoints scope
termination_by structural xs => xs

end

end Operand

end SnapshotRules
