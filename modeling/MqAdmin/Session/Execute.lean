import MqAdmin.Command.Answer
import MqAdmin.Document.JsonText
import MqAdmin.Session.Basic

/-!
Running one command: prepare it, send it at most once, and judge the answer. The tests on an answer
have a fixed order: refusal, no object, reported failure, success.
-/

namespace MqAdmin

namespace Response

def isRefusal (response : Response) : Bool := response.status == 401 || response.status == 403

/-- The object in an answer that is no refusal. -/
def payload? (response : Response) : Option Json :=
  if response.isRefusal then none
  else match Json.parse? response.body with
    | some (.object fields) => some (.object fields)
    | _ => none

end Response

namespace Session

def callerRecords (session : Session) (kind : Option String) (records : List Attributes) :
    Except Error (List Attributes) :=
  match session.mapper, kind with
  | some table, some kind =>
    if table.hasQualifier kind && !records.isEmpty then
      let outcome := table.mapResponses kind records
      if session.settings.mappingStrict && !outcome.issues.isEmpty then
        .error (.mapping outcome.issues)
      else .ok outcome.mapped
    else .ok records
  | _, _ => .ok records

def judge (session : Session) (kind : Option String) (response : Response) :
    Except Error (List Attributes) :=
  if response.isRefusal then .error (.auth session.commandUrl response.status)
  else match response.payload? with
    | none => .error (.response response.status response.body)
    | some payload =>
      if Answer.reportsFailure payload then .error (.command response.status payload)
      else session.callerRecords kind (Answer.records payload)

def diagnosticsOf (payload : Json) (response : Response) : Diagnostics where
  httpStatus := some response.status
  responseText := some response.body
  responsePayload := response.payload?
  commandPayload := some payload

/-- How long the answer to a command may take: the time that the settings allow, and no longer than
until the deadline. None if the deadline is over. -/
def patience (session : Session) (deadline : Option Instant) :
    Dialogue (Option (Option Duration)) :=
  match deadline with
  | none => return some session.settings.timeout
  | some deadline => do
    let now : Instant ← Dialogue.answer .now
    if deadline.nanoseconds ≤ now.nanoseconds then return none
    else
      let left := deadline.since now
      return some (some ((session.settings.timeout.map left.min).getD left))

def request (session : Session) (payload : Json) (timeout : Option Duration) : Request where
  url := session.commandUrl
  payload
  headers := session.headers
  timeout
  verifyTls := session.settings.verifyTls

def execute (command : Command) : Operation (List Attributes) := ExceptT.mk fun session =>
  match command.prepare session.mapper session.settings.mappingStrict with
  | .error issues => return (.error (.mapping issues), session.noting {})
  | .ok prepared => do
    let prepared' := session.noting { commandPayload := some prepared.payload }
    match ← session.patience command.deadline with
    | none =>
      let late := "deadline exceeded before the request was sent"
      return (.error (.transport session.commandUrl late), prepared')
    | some timeout =>
      let reply : Reply ← Dialogue.answer (.send (session.request prepared.payload timeout))
      match reply with
      | .error failure => return (.error (.transport failure.url failure.message), prepared')
      | .ok response =>
        return (session.judge prepared.kind response,
          session.noting (diagnosticsOf prepared.payload response))

/-- Runs a command; a failure that the queue manager reports counts as no records. -/
def executeOrNone (command : Command) : Operation (List Attributes) :=
  tryCatch (execute command) fun error => if error.isCommand then pure [] else throw error

end Session

end MqAdmin
