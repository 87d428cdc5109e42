import SnapshotRules.Number.Double

/-! # Numbers

A number of a document is an integer of the range -2^63 .. 2^64 - 1 or a finite double.
-/

namespace SnapshotRules

inductive Number where
  | integer (value : Int) (lower : -2 ^ 63 ≤ value) (upper : value < 2 ^ 64)
  | double (value : Double)
  deriving DecidableEq

namespace Number

/-- Fails outside the range of integers. -/
def ofInt? (i : Int) : Option Number :=
  if h : -2 ^ 63 ≤ i ∧ i < 2 ^ 64 then some (.integer i h.1 h.2) else none

def ofInt64 (i : Int64) : Number :=
  .integer i.toInt (by have := i.le_toInt; omega) (by have := i.toInt_lt; omega)

/-- The count `n`, or the largest integer when `n` passes it. -/
def ofNat (n : Nat) : Number :=
  if h : n < 2 ^ 64 then .integer n (by omega) (by omega)
  else .integer (2 ^ 64 - 1) (by decide) (by decide)

/-- The units of the number itself or, for an integer, of the double nearest to it. -/
def units : Number → Int
  | .integer i _ _ => Double.nearestInt i * Double.one
  | .double d => d.units

/-- Integers are compared exactly, and doubles with anything as doubles. -/
def equal : Number → Number → Bool
  | .integer i _ _, .integer j _ _ => i == j
  | a, b => a.units == b.units

theorem equal_comm (a b : Number) : a.equal b = b.equal a := by
  cases a <;> cases b <;> exact BEq.comm

theorem equal_self (a : Number) : a.equal a = true := by cases a <;> simp [equal]

/-- Integers below 2^63 are ordered exactly, and all other pairs as doubles. -/
def order : Number → Number → Ordering
  | .integer i hi ui, .integer j hj uj =>
    if i < 2 ^ 63 ∧ j < 2 ^ 63 then compare i j
    else compare (integer i hi ui).units (integer j hj uj).units
  | a, b => compare a.units b.units

/-- The number as an integer below 2^63 in magnitude, if it is one. -/
def index? : Number → Option Int
  | .integer i _ _ => if i < 2 ^ 63 then some i else none
  | .double d =>
    if d.magnitude % Double.one = 0 ∧ d.magnitude < 2 ^ 63 * Double.one then
      some (d.units / Double.one)
    else none

end Number

end SnapshotRules
