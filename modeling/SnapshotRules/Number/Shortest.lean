import SnapshotRules.Number.Double

/-! # Shortest decimals

The fewest decimal digits that read back as a given double. The number is held as an
integer count of 10^-1074; grids of ever smaller powers of ten are tried in turn, and on
each only the two neighbours of the number matter.
-/

namespace SnapshotRules.Double

/-- The magnitude as a multiple of 10^-1074. -/
def scaled (d : Double) : Nat := d.magnitude * 5 ^ 1074

/-- The gap to the next larger double, as a multiple of 10^-1074. -/
def gap (d : Double) : Nat := 2 ^ d.exponent * 5 ^ 1074

/-- Whether the gap below is half the gap above. -/
def startsBinade (d : Double) : Bool := d.significand == 2 ^ 52 && d.exponent != 0

/--
Whether `x` · 10^-1074 rounds to the magnitude of `d`. The midpoints on both sides count
exactly when the significand is even.
-/
def attracts (d : Double) (x : Nat) : Bool :=
  let low := 4 * d.scaled - (if d.startsBinade then 1 else 2) * d.gap
  let high := 4 * d.scaled + 2 * d.gap
  if d.significand % 2 = 0 then decide (low ≤ 4 * x) && decide (4 * x ≤ high)
  else decide (low < 4 * x) && decide (4 * x < high)

/-- Of `c` and `c + 1` steps the one nearer to the magnitude, and of a tie the even one. -/
def nearer (d : Double) (c step : Nat) : Nat :=
  let below := d.scaled - c * step
  let above := (c + 1) * step - d.scaled
  if below < above then c
  else if above < below then c + 1
  else c + c % 2

/-- The first grid 10^`place` · 10^-1074, counting down, with a point that rounds to `d`. -/
def shortestFrom (d : Double) : Nat → Nat × Nat
  | 0 => (d.scaled, 0)
  | place + 1 =>
    let step := 10 ^ (place + 1)
    let c := d.scaled / step
    match d.attracts (c * step), d.attracts ((c + 1) * step) with
    | true, true => (d.nearer c step, place + 1)
    | true, false => (c, place + 1)
    | false, true => (c + 1, place + 1)
    | false, false => d.shortestFrom place

/-- A place above the leading digit of `n`, for log₁₀ 2 is below 0.30103. -/
def leadingPlace (n : Nat) : Nat := (n.log2 + 1) * 30103 / 100000 + 1

/-- Digits `c` and a place `p` such that `c` · 10^(`p` - 1074) is the shortest decimal of `d`. -/
def shortest (d : Double) : Nat × Nat := d.shortestFrom (leadingPlace d.scaled)

end SnapshotRules.Double
