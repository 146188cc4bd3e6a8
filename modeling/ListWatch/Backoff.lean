/-!
# Delays between attempts

The delay doubles with every attempt from its base up to its greatest value, in
64-bit arithmetic that stops at the largest word. It doubles at most twenty
times. A fixed delay is one whose base is its greatest value, and it is given as
a length of time, of which the milliseconds that are over count.
-/
namespace ListWatch

/-- Milliseconds before the collection is listed again. -/
def defaultRelistDelay : UInt64 := 5000

/-- A length of time: its seconds that are over, and the nanoseconds of the one that is not. -/
structure Duration where
  seconds : UInt64
  nanoseconds : UInt32
  nanoseconds_lt : nanoseconds < 1000000000
  deriving DecidableEq, Repr

/-- Milliseconds that are over. -/
def Duration.milliseconds (duration : Duration) : Nat :=
  duration.seconds.toNat * 1000 + (duration.nanoseconds / 1000000).toNat

structure Backoff where
  base : UInt64
  greatest : UInt64
  deriving DecidableEq, Repr, Inhabited

namespace Backoff

def growing (base greatest : UInt64) : Backoff := ⟨base, max greatest base⟩

/-- The delay of a number of milliseconds, cut to the largest word. -/
def fixed (milliseconds : Nat) : Backoff :=
  let delay := UInt64.ofNat (min milliseconds (UInt64.size - 1))
  growing delay delay

def isFixed (backoff : Backoff) : Bool := backoff.base = backoff.greatest

/-- A product that stops at the largest word. -/
def saturatingMul (first second : UInt64) : UInt64 :=
  if first.toNat * second.toNat < UInt64.size then first * second
  else UInt64.ofNat (UInt64.size - 1)

def delay (backoff : Backoff) (attempt : UInt32) : UInt64 :=
  let multiplier : UInt64 := 1 <<< (min attempt 20).toUInt64
  min (saturatingMul backoff.base multiplier) backoff.greatest

instance : Inhabited Backoff := ⟨fixed defaultRelistDelay.toNat⟩

end Backoff

end ListWatch
