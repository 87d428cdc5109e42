/-! # Comparison operators -/

namespace SnapshotRules

inductive Operator where
  | equal
  | notEqual
  | greater
  | greaterOrEqual
  | less
  | lessOrEqual
  /-- The left value is a member of the right one. -/
  | memberOf
  /-- The right value is a member of the left one. -/
  | contains
  deriving DecidableEq, Repr

namespace Operator

def all : List Operator :=
  [.equal, .notEqual, .greater, .greaterOrEqual, .less, .lessOrEqual, .memberOf, .contains]

/-- How a rule writes the operator. -/
def symbol : Operator → String
  | .equal => "=="
  | .notEqual => "!="
  | .greater => ">"
  | .greaterOrEqual => ">="
  | .less => "<"
  | .lessOrEqual => "<="
  | .memberOf => "in"
  | .contains => "contains"

/-- How a result names the operator. -/
def name : Operator → String
  | .equal => "eq"
  | .notEqual => "noteq"
  | .greater => "gt"
  | .greaterOrEqual => "gte"
  | .less => "lt"
  | .lessOrEqual => "lte"
  | .memberOf => "in"
  | .contains => "contains"

def ofSymbol? (symbol : String) : Option Operator := all.find? fun op => op.symbol = symbol

def ofName? (name : String) : Option Operator := all.find? fun op => op.name = name

theorem ofName?_name (op : Operator) : ofName? op.name = some op := by cases op <;> decide

end Operator

end SnapshotRules
