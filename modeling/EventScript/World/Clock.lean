import EventScript.Text.Decimal

/-!
# Clocks

Game time runs from zero and is set by the host; the local time of day runs along with it.
-/

namespace EventScript

/-- A clock that the host moves. -/
structure Clock where
  /-- The local time at which game time is zero, in milliseconds since the start of 1970. -/
  origin : Int
  /-- The game time in milliseconds. -/
  now : UInt64
  deriving DecidableEq

namespace Clock

/-- A clock at the start of game time. -/
def start (origin : Int) : Clock := ⟨origin, 0⟩

/-- Let time pass. -/
def advance (c : Clock) (time : UInt64) : Clock := { c with now := c.now + time }

/-- The local time in milliseconds since the start of 1970. Game time counts as a signed number
here. -/
def localTime (c : Clock) : Int := c.origin + c.now.toInt64.toInt

/-- The local time as a 64-bit number. -/
def localMillis (c : Clock) : Int64 := Int64.ofInt c.localTime

/-- The second of the day. -/
def secondOfDay (c : Clock) : Nat := ((c.localTime / 1000) % 86400).toNat

/-- The hour of the day, from 0 to 23. -/
def hour (c : Clock) : Nat := c.secondOfDay / 3600

/-- The hour of the half day, from 1 to 12. -/
def hourOfHalfDay (c : Clock) : Nat := (c.hour + 11) % 12 + 1

/-- Whether it is the second half of the day. -/
def isAfternoon (c : Clock) : Bool := decide (12 ≤ c.hour)

/-- The minute of the hour. -/
def minute (c : Clock) : Nat := c.secondOfDay / 60 % 60

/-- The second of the minute. -/
def second (c : Clock) : Nat := c.secondOfDay % 60

/-- The minute of the day. -/
def minuteOfDay (c : Clock) : UInt32 := UInt32.ofNat (c.hour * 60 + c.minute)

end Clock

end EventScript
