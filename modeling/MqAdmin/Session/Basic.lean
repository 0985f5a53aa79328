import MqAdmin.Command.Basic
import MqAdmin.Credentials.Basic
import MqAdmin.Dialogue.Basic
import MqAdmin.Settings.Basic

namespace MqAdmin

structure Diagnostics where
  httpStatus : Option Nat := none
  responseText : Option String := none
  responsePayload : Option Json := none
  commandPayload : Option Json := none
deriving DecidableEq, Inhabited

structure Session where
  settings : Settings
  baseUrl : String
  credentials : Credentials
  /-- The table that names are mapped by, if they are. -/
  mapper : Option Mapping.Table
  token : Option String
  budget : Sync.Budget
  diagnostics : Diagnostics := {}
deriving DecidableEq

/-- Something that is done in a session. It may fail, and the session's diagnostics outlive the
failure. -/
abbrev Operation : Type → Type := ExceptT Error (StateT Session Dialogue)

namespace Session

def commandUrl (session : Session) : String :=
  session.baseUrl ++ "/admin/action/qmgr/" ++ session.settings.queueManager ++ "/mqsc"

def csrfHeader : String := "ibm-mq-rest-csrf-token"

/-- The header that names the queue manager which passes commands on. -/
def gatewayHeader : String := "ibm-mq-rest-gateway-qmgr"

def addHeader (name : String) (value : Option String) (headers : KeyMap String) : KeyMap String :=
  match value with
  | some value => headers.insert name value
  | none => headers

def documentHeaders : KeyMap String :=
  .ofAscending [("Accept", "application/json"), ("Content-Type", "application/json")]

def headers (session : Session) : KeyMap String :=
  addHeader gatewayHeader session.settings.gateway <|
    addHeader csrfHeader session.settings.csrfToken <|
      session.credentials.addHeaders session.token documentHeaders

/-- The session with other diagnostics. -/
def noting (session : Session) (diagnostics : Diagnostics) : Session :=
  { session with diagnostics }

def summary (session : Session) : String :=
  let status := match session.diagnostics.httpStatus with
    | some status => "Some(" ++ toString status ++ ")"
    | none => "None"
  "Session \x7b base_url: " ++ Text.quoted .text session.baseUrl ++ ", qmgr_name: " ++
    Text.quoted .text session.settings.queueManager ++ ", credentials: " ++
    session.credentials.summary ++ ", map_attributes: " ++
    (if session.mapper.isSome then "true" else "false") ++ ", last_http_status: " ++ status ++
    ", .. \x7d"

end Session

end MqAdmin
