/-!
# Transfer tags

Two rolling counters. Bulk transfers are tagged 1, 2, …, 255, 1, …; status byte requests
2, 3, …, 127, 2, …. Neither ever gives 0, the value of a counter that has not been used.
-/

namespace Benchtop.Wire

/-- The bulk tag given out last, 0 before the first. -/
structure TagCounter where
  current : UInt8 := 0
  deriving DecidableEq, Repr

/-- The counter after one more tag; the tag is its `current`. -/
def TagCounter.next (c : TagCounter) : TagCounter := ⟨c.current % 255 + 1⟩

/-- The status byte tag given out last, 0 before the first. -/
structure StatusTagCounter where
  current : UInt8 := 0
  deriving DecidableEq, Repr

/-- The counter after one more tag; the tag is its `current`. Tag 1 is left out, because a
notification that begins with `0x81` announces a service request. -/
def StatusTagCounter.next (c : StatusTagCounter) : StatusTagCounter :=
  ⟨max (c.current % 127 + 1) 2⟩

end Benchtop.Wire
