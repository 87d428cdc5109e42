import SnapshotRules.Rule.Resolution
import SnapshotRules.Snapshot.Context

/-! # Evaluation

The verdict of a rule, with the two values that it compared.
-/

namespace SnapshotRules

namespace Value

def ordered (a b : Value) (accepts : Ordering → Bool) : Bool := (a.order? b).any accepts

/-- Every operator has a verdict on every pair of values. -/
def satisfies (a : Value) (operator : Operator) (b : Value) : Bool :=
  match operator with
  | .equal => a.equal b
  | .notEqual => !a.equal b
  | .greater => a.ordered b fun o => o == .gt
  | .greaterOrEqual => a.ordered b fun o => o != .lt
  | .less => a.ordered b fun o => o == .lt
  | .lessOrEqual => a.ordered b fun o => o != .gt
  | .memberOf => b.hasMember a
  | .contains => a.hasMember b

end Value

structure Evaluation where
  rule : String
  verdict : Bool
  left : Value
  operator : Operator
  right : Value
  diagnostics : String
  deriving DecidableEq

def Evaluation.compare (rule : String) (left : Value) (operator : Operator) (right : Value) :
    Evaluation :=
  let verdict := left.satisfies operator right
  { rule, verdict, left, operator, right
    diagnostics := "Actual rule: " ++ rule ++ "; LHS: " ++ left.text ++ "; operator: " ++
      operator.symbol ++ "; RHS: " ++ right.text ++ "; verdict: " ++
      (if verdict then "true" else "false") }

namespace Expression

/-- Resolves both sides, the left one first, and compares them. -/
def evaluateIn (scope : Scope) (cancelled : Bool) (rule : String) (e : Expression) :
    Except RuleError Evaluation :=
  match e.left.resolve scope cancelled with
  | .error error => .error error
  | .ok left =>
    match e.right.resolve scope cancelled with
    | .error error => .error error
    | .ok right => .ok (.compare rule left e.operator right)

/-- How often the evaluation checks for cancellation when nothing cancels it. -/
def checkpoints (scope : Scope) (e : Expression) : Nat :=
  match e.left.resolve scope false with
  | .error _ => e.left.checkpoints scope
  | .ok _ => e.left.checkpoints scope + e.right.checkpoints scope

end Expression

namespace Context

variable {σ : Type}

def scope (ctx : Context σ) (registry : Registry) (documents : Entries Value) : Scope :=
  ⟨registry, documents, ctx.defaultDocument⟩

def resolve (ctx : Context σ) (registry : Registry) (cancelled : Bool) (o : Operand)
    (s : Session σ) : Except RuleError Value × Session σ :=
  if cancelled then (.error .cancelled, s)
  else
    match ctx.prefetch o.snapshotRefs s with
    | (.error e, s) => (.error (.store e), s)
    | (.ok documents, s) => (o.resolve (ctx.scope registry documents) cancelled, s)

/-- Fetches what an expression refers to and evaluates it. The rule is only reported. -/
def evaluateExpression (ctx : Context σ) (registry : Registry) (cancelled : Bool)
    (rule : String) (e : Expression) (s : Session σ) : Except RuleError Evaluation × Session σ :=
  if cancelled then (.error .cancelled, s)
  else
    match ctx.prefetch e.snapshotRefs s with
    | (.error e, s) => (.error (.store e), s)
    | (.ok documents, s) => (e.evaluateIn (ctx.scope registry documents) cancelled rule, s)

def evaluate (ctx : Context σ) (registry : Registry) (cancelled : Bool) (rule : String)
    (s : Session σ) : Except RuleError Evaluation × Session σ :=
  if cancelled then (.error .cancelled, s)
  else
    match parse rule with
    | .error e => (.error (.ofSyntax e), s)
    | .ok e => ctx.evaluateExpression registry cancelled rule e s

end Context

end SnapshotRules
