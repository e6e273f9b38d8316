namespace RobotBus

/-- A point in time, in nanoseconds after some fixed origin. -/
abbrev Instant := Int

def seconds (nanoseconds : Nat) : Float :=
  (nanoseconds / 1000000000).toUInt64.toFloat +
    (nanoseconds % 1000000000).toUInt64.toFloat / 1000000000

/-- The delays between arrivals are gathered in windows that do not overlap; a full window gives a
new rate and is emptied. -/
structure RateWindow where
  size : Nat
  latest : Instant
  delays : List Nat
  /-- Events per second; zero until a window completes. -/
  rate : Float

namespace RateWindow

def start (size : Nat) (now : Instant) : RateWindow := ⟨size, now, [], 0⟩

/-- An arrival before the latest one counts as a zero delay, and does not move the clock back. -/
def delay (w : RateWindow) (now : Instant) : Nat := (now - w.latest).toNat

def later (w : RateWindow) (now : Instant) : Instant := if w.latest < now then now else w.latest

def total (delays : List Nat) : Nat := delays.foldl (· + ·) 0

def perSecond (count nanoseconds : Nat) : Float := count.toUInt64.toFloat / seconds nanoseconds

/-- The new rate if this arrival completes a window. A window in which no time passed has none. -/
def arrive (w : RateWindow) (now : Instant) : Option Float × RateWindow :=
  let delays := w.delay now :: w.delays
  if delays.length < w.size then (none, { w with latest := w.later now, delays := delays })
  else if total delays = 0 then (none, { w with latest := w.later now, delays := [] })
  else
    let rate := perSecond w.size (total delays)
    (some rate, ⟨w.size, w.later now, [], rate⟩)

def pending (w : RateWindow) : Nat := w.delays.length

end RateWindow

end RobotBus
