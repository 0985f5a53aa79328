import MqAdmin.Duration
import MqAdmin.Error

namespace MqAdmin.Sync

def defaultTimeout : Duration := .ofSeconds 30

def defaultInterval : Duration := .ofSeconds 1

/-- The longest time to wait, and the time between two looks. -/
structure Budget where
  timeout : Duration := defaultTimeout
  interval : Duration := defaultInterval
deriving DecidableEq, Inhabited

namespace Budget

/-- The budget with the default in place of a time that is zero. -/
def normalized (budget : Budget) : Budget where
  timeout := if budget.timeout.isZero then defaultTimeout else budget.timeout
  interval := if budget.interval.isZero then defaultInterval else budget.interval

def of (timeout interval : Duration) : Budget := normalized ⟨timeout, interval⟩

/-- Why numbers of seconds make no budget. -/
inductive Refusal where
  /-- One is below zero or not finite. -/
  | fault (fault : ConfigFault)
  | tooLong
deriving DecidableEq

/-- A number of seconds, to the nearest nanosecond. -/
def duration? (setting : String) (seconds : Binary64) : Except Refusal Duration :=
  if !seconds.isFinite || seconds.isBelowZero then .error (.fault (.negativeTime setting seconds))
  else match Duration.ofBinary64? seconds with
    | some duration => .ok duration
    | none => .error .tooLong

/-- The budget of two numbers of seconds; the timeout is looked at first. -/
def ofSeconds (timeout interval : Binary64) : Except Refusal Budget := do
  let timeout ← duration? "timeout" timeout
  let interval ← duration? "poll interval" interval
  return of timeout interval

/-- How many looks, one interval apart, it takes until the timeout has passed. -/
def looks (budget : Budget) : Nat :=
  (budget.timeout.nanoseconds + budget.interval.nanoseconds - 1) / budget.interval.nanoseconds

theorem timeout_normalized_pos (budget : Budget) : 0 < budget.normalized.timeout.nanoseconds := by
  show 0 < Duration.nanoseconds (if _ then _ else _)
  split
  · decide
  · rename_i nonzero
    exact Nat.pos_of_ne_zero (by simpa [Duration.isZero] using nonzero)

theorem interval_normalized_pos (budget : Budget) :
    0 < budget.normalized.interval.nanoseconds := by
  show 0 < Duration.nanoseconds (if _ then _ else _)
  split
  · decide
  · rename_i nonzero
    exact Nat.pos_of_ne_zero (by simpa [Duration.isZero] using nonzero)

end Budget

end MqAdmin.Sync
