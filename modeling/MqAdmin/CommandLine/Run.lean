import MqAdmin.CommandLine.Connect
import MqAdmin.Ensure.Converge
import MqAdmin.Health
import MqAdmin.Sync.Polling

namespace MqAdmin.CommandLine

/-- What a piece of work gives: a document to be printed, and whether all is well. -/
structure Product where
  document : Json
  isWell : Bool := true
deriving DecidableEq

/-- The options of a command; without names to answer with, the usual ones are asked for. -/
def commandOptions (parameters : List (String × Json)) (response : List String)
    (whereClause : Option String) : Catalogue.Options where
  parameters := KeyMap.ofList parameters
  responseParameters := if response.isEmpty then none else some response
  whereClause

/-- The budget of a wait; what the command line leaves out the settings give. -/
def budget (settings : Settings) (arguments : SyncArguments) :
    Except Sync.Budget.Refusal Sync.Budget :=
  Sync.Budget.ofSeconds (arguments.timeout.getD settings.syncTimeout)
    (arguments.interval.getD settings.pollInterval)

def wait (transition : Sync.Transition) :
    Sync.StatusRule → String → Sync.Budget → Operation Sync.Outcome :=
  match transition with
  | .started => Sync.start
  | .stopped => Sync.stop
  | .restarted => Sync.restart

/-- An operation in a session as work; the session's later state is of no interest. -/
def inSession {α : Type} (session : Session) (operation : Operation α) : Work α := ExceptT.mk do
  let (result, _) ← operation.run session
  return result.mapError .session

def recordsDocument (records : List Attributes) : Json := .array (records.map .ofAttributes)

def runCommand (session : Session) (command : Command) : Work Product := do
  let records ← inSession session (Session.execute command)
  return ⟨recordsDocument records, true⟩

def perform (session : Session) : Action → Work Product
  | .display qualifier name parameters response whereClause =>
    runCommand session (Catalogue.command "DISPLAY" qualifier name
      (commandOptions parameters response whereClause))
  | .run verb qualifier name parameters response =>
    runCommand session (Catalogue.command verb qualifier name
      (commandOptions parameters response none))
  | .ensure kind name parameters => do
    let desired := KeyMap.ofList parameters
    let outcome ← match kind.target, name with
      | none, _ => inSession session (Ensure.queueManager desired)
      | some target, some name => inSession session (Ensure.object target name desired)
      | some _, none => throw (.unnamed kind.label)
    return ⟨outcome.json, true⟩
  | .sync transition arguments => do
    match budget session.settings arguments with
    | .ok budget =>
      let outcome ← inSession session (wait transition arguments.rule arguments.name budget)
      return ⟨outcome.json, true⟩
    | .error (.fault fault) => throw (.session (.invalidConfig fault))
    | .error .tooLong => ExceptT.lift (Dialogue.abort .overflow)
  | .health => do
    let report ← inSession session Health.check
    return ⟨report.json, report.passed⟩

/-- How the program ends: what it prints, what it says of a failure, and its exit code. -/
structure Ending where
  output : String := ""
  messages : List String := []
  code : Nat
deriving DecidableEq

def Ending.ofStop : Stop → Ending
  | .usage => { code := 2 }
  | .shown => { code := 0 }

/-- How work ends: documents are printed over several lines, and health that is not well shows in
the exit code. -/
def Ending.ofWork : Except Failed Product → Ending
  | .ok product =>
    { output := product.document.pretty ++ "\n", code := if product.isWell then 0 else 1 }
  | .error failed => { messages := failed.messages, code := 1 }

def carryOut (arguments : Arguments) (environment : Variables.Source) (showsIdentity : Bool) :
    Work Product := do
  let opened ← connect arguments.preferences environment showsIdentity
  perform opened.session arguments.action

def program (words : List String) (environment : Variables.Source) (showsIdentity : Bool) :
    Dialogue Ending := do
  match Arguments.read words with
  | .error stop => return .ofStop stop
  | .ok arguments => return .ofWork (← (carryOut arguments environment showsIdentity).run)

end MqAdmin.CommandLine
