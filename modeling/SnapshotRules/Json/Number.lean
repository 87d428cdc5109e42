import SnapshotRules.Number.Numeral

/-! # Numbers of JSON text

An integer out of range and a numeral with a point or an exponent are read as doubles. As many
digits as 64 bits hold become a double, and that is multiplied or divided by a power of ten. Each
step rounds, so that a long numeral need not be read as the double nearest to it, and one just
below the largest double may count as too large.
-/

namespace SnapshotRules

namespace Double

/-- The double nearest to a product, or `none` when that is too large. -/
def times? (a b : Double) : Option Double :=
  ofUnits? (a.negative != b.negative) (a.magnitude * b.magnitude) one

def over? (a b : Double) : Option Double :=
  ofUnits? (a.negative != b.negative) (a.magnitude * one) b.magnitude

/-- The largest power of ten that is a double. -/
def maxPower : Nat := 308

/-- Multiplies or divides by a power of ten, by one beyond `maxPower` in several steps. -/
def scale? (d : Double) (exponent : Int) : Option Double :=
  if _h : exponent.natAbs ≤ maxPower then
    (ofDecimal? false 1 exponent.natAbs).bind fun power =>
      if 0 ≤ exponent then d.times? power else d.over? power
  else if d.significand = 0 then some d
  else if 0 ≤ exponent then none
  else
    (ofDecimal? false 1 maxPower).bind fun power =>
      (d.over? power).bind fun quotient => scale? quotient (exponent + maxPower)
termination_by exponent.natAbs
decreasing_by simp only [maxPower] at *; omega

end Double

namespace Json

/-- A significand of 64 bits with more digits, and the digits from the first one on that does not
fit any more. -/
def addDigits (significand : Nat) : List Char → Nat × List Char
  | [] => (significand, [])
  | c :: rest =>
    let next := 10 * significand + digitValue c
    if next < 2 ^ 64 then addDigits next rest else (significand, c :: rest)

/-- The significand of a numeral, and the power of ten that belongs to it. Digits that do not fit
are dropped. -/
def significand (n : Numeral) : Nat × Int :=
  let (whole, droppedWhole) := addDigits 0 n.whole
  let (all, droppedFraction) := addDigits whole n.fraction
  (all, droppedWhole.length + droppedFraction.length - n.fraction.length)

/-- The double that a numeral is read as, or `none` when that is too large. An exponent of more
than 31 bits makes it zero or too large, whatever its digits are. -/
def double? (n : Numeral) : Option Double :=
  let (digits, power) := significand n
  let exponent := (n.exponent.map Exponent.value).getD 0
  if exponent.natAbs < 2 ^ 31 then
    (Double.ofDecimal? n.negative digits 0).bind fun d => d.scale? (power + exponent)
  else if digits = 0 ∨ exponent < 0 then some (.zero n.negative)
  else none

/-- An integer in range keeps its representation; minus zero and all else is a double. -/
def numberOf? (n : Numeral) : Option Number :=
  if n.isPlain && !(n.negative && n.integer == 0) then
    (Number.ofInt? n.integer).or ((double? n).map Number.double)
  else (double? n).map Number.double

end Json

end SnapshotRules
