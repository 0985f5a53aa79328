import MqAdmin.Dialogue.Basic

/-!
Playing dialogues against a script. The script says what comes of each request in turn; the clock
moves only by waiting and by the time that requests take; everything that was asked is kept. A
session may also keep to a clock of its own, which leaves the script's clock alone.
-/

namespace MqAdmin.Rehearsal

/-- What comes of one request: an answer or a message why there is none, and the time it takes. -/
structure Cue where
  outcome : Except String Response
  delay : Duration := .zero

structure Stage where
  script : List Cue := []
  files : String → Option String := fun _ => none
  /-- The time since the clock's origin. -/
  time : Duration := .zero
  sent : List Request := []
  slept : List Duration := []
  /-- The time on the session's own clock, if it has one. -/
  ownTime : Option Duration := none

/-- A rehearsal may come to an abort; what was asked before stays known. -/
abbrev Play : Type → Type := ExceptT Abort (StateM Stage)

/-- Moves the clock on. It cannot go beyond the longest length of time. -/
def advance (duration : Duration) : Play Unit := do
  let stage ← get
  let time := stage.time + duration
  if Duration.longest.nanoseconds < time.nanoseconds then throw .overflow
  else set { stage with time }

/-- The time that passes between two looks at a session's own clock. -/
def tick : Duration := ⟨1⟩

/-- Waits, on the session's own clock if it has one. -/
def sleep (duration : Duration) : Play Unit := do
  match (← get).ownTime with
  | some time => modify fun stage => { stage with ownTime := some (time + duration) }
  | none =>
    advance duration
    modify fun stage => { stage with slept := stage.slept ++ [duration] }

/-- The latest point in time that can be told: its seconds have 63 bits. -/
def latest : Instant := ⟨twoTo 63 * Duration.nanosecondsPerSecond - 1⟩

def now : Play Instant := do
  match (← get).ownTime with
  | some time =>
    modify fun stage => { stage with ownTime := some (time + tick) }
    return ⟨(time + tick).nanoseconds⟩
  | none =>
    let now : Instant := ⟨(← get).time.nanoseconds⟩
    if latest.nanoseconds < now.nanoseconds then throw .overflow else return now

def exhausted : String := "script exhausted"

def reply (request : Request) : Play Reply := do
  modify fun stage => { stage with sent := stage.sent ++ [request] }
  match (← get).script with
  | [] => return .error ⟨request.url, exhausted⟩
  | cue :: script =>
    modify fun stage => { stage with script }
    advance cue.delay
    return cue.outcome.mapError (⟨request.url, ·⟩)

def noSuchFile : String := "No such file or directory (os error 2)"

def answer : (question : Question) → Play question.Answer
  | .send request => reply request
  | .sleep duration => sleep duration
  | .now => now
  | .read path => return ((← get).files path).elim (.error noSuchFile) .ok

def play {α : Type} (dialogue : Dialogue α) : Play α := dialogue.run answer throw

end MqAdmin.Rehearsal
