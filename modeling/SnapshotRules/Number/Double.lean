/-! # Finite doubles

A finite binary64 number is an integer multiple of 2^-1074, its *units*. Equality and
order of doubles are equality and order of units, so both are decided on integers.
-/

namespace SnapshotRules

/-- Powers are those of the core library, also where other libraries bring their own. -/
@[default_instance 20000]
instance (priority := 2000) instCorePow {α : Type} [NatPow α] : Pow α Nat := instPowNat

/-- The nearest integer to `numerator / denominator`, a half going to the even neighbour. -/
def roundHalfEven (numerator denominator : Nat) : Nat :=
  let quotient := numerator / denominator
  let twice := 2 * (numerator % denominator)
  if twice < denominator then quotient
  else if denominator < twice then quotient + 1
  else quotient + quotient % 2

/-- The finite number ± `significand` · 2^(`exponent` - 1074). -/
structure Double where
  negative : Bool
  significand : Nat
  exponent : Nat
  canonical : significand < 2 ^ 53 ∧ exponent ≤ 2045 ∧ (exponent = 0 ∨ 2 ^ 52 ≤ significand)
  deriving DecidableEq

namespace Double

def one : Nat := 2 ^ 1074

def zero (negative : Bool) : Double := ⟨negative, 0, 0, by decide⟩

def magnitude (d : Double) : Nat := d.significand * 2 ^ d.exponent

/-- The number as a multiple of 2^-1074. Both zeros have no units. -/
def units (d : Double) : Int := if d.negative then -d.magnitude else d.magnitude

/-- Fails on an exponent past the largest, and on a significand that is not normalized. -/
def make? (negative : Bool) (significand exponent : Nat) : Option Double :=
  if h : significand < 2 ^ 53 ∧ exponent ≤ 2045 ∧ (exponent = 0 ∨ 2 ^ 52 ≤ significand) then
    some ⟨negative, significand, exponent, h⟩
  else none

/-- How many binary places of `n` lie below its 53 leading ones. -/
def excess (n : Nat) : Nat := n.log2 - 52

/-- The double nearest to `numerator / denominator` units, or `none` when that is too large. -/
def ofUnits? (negative : Bool) (numerator denominator : Nat) : Option Double :=
  let exponent := excess (numerator / denominator)
  let significand := roundHalfEven numerator (denominator * 2 ^ exponent)
  if significand < 2 ^ 53 then make? negative significand exponent
  else make? negative (significand / 2) (exponent + 1)

/-- The natural number that the double nearest to `n` denotes. -/
def nearestNat (n : Nat) : Nat := roundHalfEven n (2 ^ excess n) * 2 ^ excess n

def nearestInt (i : Int) : Int := if i < 0 then -nearestNat i.natAbs else nearestNat i.natAbs

/--
The double nearest to ± `digits` · 10^`scale`, or `none` when that is too large. Numbers
below 10^-330 or from 10^310 on are decided by their length alone.
-/
def ofDecimal? (negative : Bool) (digits : Nat) (scale : Int) : Option Double :=
  let length : Int := (Nat.toDigits 10 digits).length
  if digits = 0 ∨ length + scale < -330 then some (zero negative)
  else if 310 < length + scale then none
  else if 0 ≤ scale then ofUnits? negative (digits * 10 ^ scale.toNat * one) 1
  else ofUnits? negative (digits * one) (10 ^ (-scale).toNat)

end Double

end SnapshotRules
