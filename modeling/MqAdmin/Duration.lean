import MqAdmin.Number.Binary64

namespace MqAdmin

structure Duration where
  nanoseconds : Nat
deriving DecidableEq, Inhabited

/-- A point in time, as the time since the clock's origin. -/
structure Instant where
  nanoseconds : Nat
deriving DecidableEq, Inhabited

namespace Duration

def nanosecondsPerSecond : Nat := 1000000000

def ofSeconds (seconds : Nat) : Duration := ⟨seconds * nanosecondsPerSecond⟩

def ofMilliseconds (milliseconds : Nat) : Duration := ⟨milliseconds * 1000000⟩

def zero : Duration := ⟨0⟩

def isZero (d : Duration) : Bool := d.nanoseconds == 0

def seconds (d : Duration) : Nat := d.nanoseconds / nanosecondsPerSecond

def subseconds (d : Duration) : Nat := d.nanoseconds % nanosecondsPerSecond

def add (first second : Duration) : Duration := ⟨first.nanoseconds + second.nanoseconds⟩

instance : Add Duration := ⟨add⟩

def min (first second : Duration) : Duration :=
  if first.nanoseconds ≤ second.nanoseconds then first else second

/-- The longest length of time there is: one nanosecond short of two to the 64th seconds. -/
def longest : Duration := ⟨twoTo 64 * nanosecondsPerSecond - 1⟩

/-- A finite number of seconds, not negative, to the nearest nanosecond; a half goes to the even
one. None if it is longer than the longest length of time. -/
def ofBinary64? (seconds : Binary64) : Option Duration :=
  let rounded : Duration :=
    ⟨roundHalfEven (seconds.units * nanosecondsPerSecond) Binary64.unitsPerOne⟩
  if rounded.nanoseconds ≤ longest.nanoseconds then some rounded else none

/-- Whole seconds and the fraction are rounded apart, and so is their sum. -/
def toBinary64 (d : Duration) : Binary64 :=
  (Binary64.ofNat d.seconds).add
    ((Binary64.ofNat d.subseconds).div (Binary64.ofNat nanosecondsPerSecond))

end Duration

/-- The time since an earlier point; zero if it is a later one. -/
def Instant.since (now start : Instant) : Duration := ⟨now.nanoseconds - start.nanoseconds⟩

end MqAdmin
