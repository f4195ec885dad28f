/-!
Time stamps in microseconds. Stamps strictly increase, whatever the system clock does: a stamp is
the clock's reading, or the number after the last stamp if the reading is not past it.
-/

namespace Relata

/-- The stamp after `last` at a reading of the clock; there is none after the largest number. -/
def nextStamp (reading last : Int64) : Option Int64 :=
  if last = Int64.maxValue then none else some (max reading (last + 1))

structure Clock where
  /-- The stamp given out last. -/
  last : Int64
  /-- The readings of the system clock to come. A clock set before the epoch reads 0, and so does
  one without readings. -/
  readings : List Int64

def Clock.tick (clock : Clock) : Option (Int64 × Clock) :=
  (nextStamp (clock.readings.headD 0) clock.last).map fun stamp =>
    (stamp, ⟨stamp, clock.readings.tail⟩)

end Relata
