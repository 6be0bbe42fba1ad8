/-
The length of a clock tick.
-/

namespace Executive

/-- A length of time in whole nanoseconds. -/
structure Duration where
  nanoseconds : Nat
  deriving DecidableEq, Repr

namespace Duration

/-- Nanoseconds in a second. -/
def perSecond : Nat := 1000000000

/-- The whole seconds of a duration. -/
def seconds (d : Duration) : Nat := d.nanoseconds / perSecond

/-- What a duration has beyond its whole seconds, in nanoseconds. -/
def subsecond (d : Duration) : Nat := d.nanoseconds % perSecond

end Duration

/-- The time between two ticks at a rate per second, rounded down; a rate of 0 counts as 1. -/
def tickPeriod (rate : Nat) : Duration := ⟨Duration.perSecond / max rate 1⟩

end Executive
