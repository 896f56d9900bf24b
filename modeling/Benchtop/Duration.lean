/-!
# Durations

Spans of time in nanoseconds. Settings and diagnostics count whole milliseconds in 64 bits;
`Duration.millis` drops the rest, so a span shorter than a millisecond counts as zero there.
-/

namespace Benchtop

structure Duration where
  nanos : Nat
  deriving DecidableEq, Repr

namespace Duration

def ofMillis (ms : UInt64) : Duration := ⟨ms.toNat * 1000000⟩

/-- The span of so many seconds and nanoseconds. -/
def ofSeconds (secs : UInt64) (nanos : Nat) : Duration := ⟨secs.toNat * 1000000000 + nanos⟩

/-- The whole milliseconds, modulo `2 ^ 64`. -/
def millis (d : Duration) : UInt64 := UInt64.ofNat (d.nanos / 1000000)

@[simp] theorem millis_ofMillis (ms : UInt64) : (ofMillis ms).millis = ms := by
  simp [ofMillis, millis]

end Duration

end Benchtop
