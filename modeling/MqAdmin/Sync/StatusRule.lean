import MqAdmin.Document.Record
import MqAdmin.Text.Blank

namespace MqAdmin.Sync

/-- What an operation that waits for an object has done to it. -/
inductive Transition where
  | started
  | stopped
  | restarted
deriving DecidableEq, Inhabited

def Transition.name : Transition → String
  | .started => "started"
  | .stopped => "stopped"
  | .restarted => "restarted"

/-- How objects of one type are started, stopped and looked at. -/
structure StatusRule where
  qualifier : String
  statusQualifier : String
  keys : List String
  /-- Whether an object without status records has stopped. -/
  emptyMeansStopped : Bool
deriving DecidableEq

namespace StatusRule

/-- An inactive channel has no status at all. -/
def channel : StatusRule := ⟨"CHANNEL", "CHSTATUS", ["channel_status", "STATUS"], true⟩

def listener : StatusRule := ⟨"LISTENER", "LSSTATUS", ["status", "STATUS"], false⟩

def service : StatusRule := ⟨"SERVICE", "SVSTATUS", ["status", "STATUS"], false⟩

end StatusRule

/-- The states of a started object, on the wire and mapped. -/
def runningStates : List String := ["RUNNING", "running"]

def stoppedStates : List String := ["STOPPED", "stopped", "INACTIVE", "inactive"]

/-- Whether a record has one of the states under one of the attributes; blanks around a state do
not count. -/
def recordShows (keys states : List String) (record : Attributes) : Bool :=
  keys.any fun key =>
    match (record.get? key).bind Json.string? with
    | some text => states.contains (Text.trim text)
    | none => false

def showsState (records : List Attributes) (keys states : List String) : Bool :=
  records.any (recordShows keys states)

/-- Whether status records show that an object has come to the state that an operation aims at. -/
def reached (rule : StatusRule) (operation : Transition) (records : List Attributes) : Bool :=
  match operation with
  | .started => showsState records rule.keys runningStates
  | .stopped => (rule.emptyMeansStopped && records.isEmpty) ||
      showsState records rule.keys stoppedStates
  | .restarted => showsState records rule.keys stoppedStates

/-- What a successful wait came to. -/
structure Outcome where
  operation : Transition
  /-- How often the status was looked at. -/
  polls : UInt32
  elapsed : Binary64
deriving DecidableEq

namespace Outcome

def json (outcome : Outcome) : Json :=
  .object [
    ("operation", .string outcome.operation.name),
    ("polls", .ofNat outcome.polls.toNat),
    ("elapsed_secs", .number (.real outcome.elapsed))]

def decode? (document : Document) : Option Outcome := do
  let record ← Record.of? ["operation", "polls", "elapsed_secs"] document
  return { operation := ← record.required "operation"
             (Document.variant? .json [("started", .started), ("stopped", .stopped),
               ("restarted", .restarted)])
           polls := UInt32.ofNat (← record.required "polls" (Document.naturalBelow? (twoTo 32)))
           elapsed := ← record.required "elapsed_secs" Document.binary64? }

end Outcome

end MqAdmin.Sync
