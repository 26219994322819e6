import Courier.Number.Binary64
/-
How long to wait before trying again. The wait grows by a factor with every
attempt up to a maximum, and may be spread at random around that value.
-/

namespace Courier

open Number (Binary64)

structure Backoff where
  /-- The first wait in milliseconds. -/
  initial : Nat := 1000
  /-- The longest wait in milliseconds. -/
  maximum : Nat := 60000
  multiplier : Binary64 := Binary64.ofNat 2
  /-- The part of the wait by which it may be longer or shorter. -/
  jitter : Binary64 := Binary64.ofDecimal false 1 (-1)
  deriving DecidableEq, Repr, Inhabited

namespace Backoff

/-- The longest wait there is. -/
def limit : Nat := 2 ^ 64 - 1

/-- The greatest power of the multiplier. -/
def maxExponent : Nat := 32

/-- The wait before attempt `attempt`, the first one being 1, before it is spread. -/
def base (b : Backoff) (attempt : Nat) : Binary64 :=
  let growth := b.multiplier.pow (min (attempt - 1) maxExponent)
  ((Binary64.ofNat b.initial).mul growth).min (Binary64.ofNat b.maximum)

/-- Whether a wait is spread. -/
def isSpread (b : Backoff) (wait : Binary64) : Bool :=
  Binary64.lt (Binary64.zero false) b.jitter && Binary64.lt (Binary64.zero false) wait

/-- A wait in whole milliseconds, one at least. -/
def toMillis (wait : Binary64) : Nat := (wait.max (Binary64.ofNat 1)).toNatWithin limit

/-- The wait before an attempt in milliseconds. `draw` gives a number between
two bounds, for spreading it. -/
def delay (b : Backoff) (draw : Binary64 → Binary64 → Binary64) (attempt : Nat) : Nat :=
  let wait := b.base attempt
  if b.isSpread wait then
    let range := wait.mul b.jitter
    toMillis (wait.add (draw range.neg range))
  else toMillis wait

/-- A count of attempts, each of which waits longer than the one before. -/
structure Counter where
  config : Backoff
  attempt : Nat := 0
  deriving Repr, Inhabited

namespace Counter

/-- The wait before the next attempt. The count has 32 bits. -/
def next (c : Counter) (draw : Binary64 → Binary64 → Binary64) : Counter × Nat :=
  let attempt := (c.attempt + 1) % 2 ^ 32
  ({ c with attempt }, c.config.delay draw attempt)

/-- One wait more, after any number of them. -/
theorem next_mod (b : Backoff) (n : Nat) (draw : Binary64 → Binary64 → Binary64) :
    next ⟨b, n % 2 ^ 32⟩ draw = (⟨b, (n + 1) % 2 ^ 32⟩, b.delay draw ((n + 1) % 2 ^ 32)) := by
  simp only [next, Nat.mod_add_mod]

/-- Starts over, as after a success. -/
def reset (c : Counter) : Counter := { c with attempt := 0 }

end Counter
end Backoff
end Courier
