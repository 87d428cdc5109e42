/-! # Permits

How many tasks of a batch may run at once. Not every number of permits can be given out.
-/

namespace SnapshotRules

/-- The most permits that can be given out: three bits of a word of 64 are kept for other ends. -/
def maxPermits : Nat := (UInt64.size - 1) >>> 3

structure Permits where
  count : Nat
  positive : 1 ≤ count
  bounded : count ≤ maxPermits
  deriving DecidableEq

namespace Permits

def requested (concurrency : Nat) : Nat := max concurrency 1

/-- The permits of a batch, or `none` when it asks for too many. -/
def of? (concurrency : Nat) : Option Permits :=
  if h : requested concurrency ≤ maxPermits then
    some ⟨requested concurrency, Nat.le_max_right .., h⟩
  else none

theorem of?_eq_some_iff {concurrency : Nat} {permits : Permits} :
    of? concurrency = some permits ↔ permits.count = requested concurrency := by
  unfold of?
  constructor
  · intro h
    split at h
    · exact Option.some.inj h ▸ rfl
    · exact absurd h (by simp)
  · intro h
    rw [dif_pos (h ▸ permits.bounded)]
    obtain ⟨count, positive, bounded⟩ := permits
    obtain rfl : count = requested concurrency := h
    rfl

theorem isSome_of?_iff {concurrency : Nat} :
    (of? concurrency).isSome ↔ concurrency ≤ maxPermits := by
  have hpos : 1 ≤ maxPermits := by decide
  unfold of? requested
  split <;> simp <;> omega

end Permits

end SnapshotRules
