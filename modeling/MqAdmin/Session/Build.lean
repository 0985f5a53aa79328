import MqAdmin.Credentials.Identity
import MqAdmin.Mapping.Bundled
import MqAdmin.Session.Basic
import MqAdmin.Settings.File

/-!
Building a session: check the settings, make the mapping table, read the client's identity and log
in, in this order.
-/

namespace MqAdmin

def ofFault {α : Type} (step : ExceptT ConfigFault Dialogue α) : ExceptT Error Dialogue α :=
  ExceptT.mk (step.run >>= fun result => return result.mapError .invalidConfig)

/-- The budget for waiting; a time too long to be counted aborts. -/
def Settings.checkedBudget (settings : Settings) : ExceptT Error Dialogue Sync.Budget :=
  match settings.budget with
  | .ok budget => return budget
  | .error (.fault fault) => throw (.invalidConfig fault)
  | .error .tooLong => ExceptT.lift (Dialogue.abort .overflow)

def Settings.readOverrides (settings : Settings) :
    ExceptT ConfigFault Dialogue (Option (Mapping.Table × Mapping.OverrideMode)) :=
  match settings.mappingOverrides with
  | none => return none
  | some path => do
    let text ← readSettingsFile "" path
    match Mapping.Table.ofJsonText text with
    | .ok table => return some (table, settings.overrideMode)
    | .error fault => throw fault

/-- The table that names are mapped by: the bundled one with overrides laid over it. Overrides
that are given come before those of the settings. -/
def Settings.mappingTable (settings : Settings)
    (overrides : Option (Mapping.Table × Mapping.OverrideMode)) :
    ExceptT ConfigFault Dialogue (Option Mapping.Table) := do
  if settings.mapAttributes then
    let overrides ← match overrides with
      | some given => pure (some given)
      | none => settings.readOverrides
    match overrides with
    | some (table, mode) => return some (Mapping.Table.bundled.withOverrides table mode)
    | none => return some .bundled
  else return none

/-- The path of the login, after the base address. -/
def loginPath : String := "/login"

def loginRequest (settings : Settings) (username password : String) : Request where
  url := settings.normalizedBaseUrl ++ loginPath
  payload := .object [("password", .string password), ("username", .string username)]
  headers := Session.addHeader Session.csrfHeader settings.csrfToken Session.documentHeaders
  timeout := settings.timeout
  verifyTls := settings.verifyTls

/-- The token in the answer to a login; there is none in an answer of status 400 or above. -/
def loginToken? (response : Response) : Option String :=
  if 400 ≤ response.status then none
  else (response.header? "set-cookie").bind Credentials.extractToken

def logIn (settings : Settings) (username password : String) : ExceptT Error Dialogue String := do
  let request := loginRequest settings username password
  let reply : Reply ← ExceptT.lift (Dialogue.answer (.send request))
  match reply with
  | .error failure => throw (.transport failure.url failure.message)
  | .ok response => match loginToken? response with
    | some token => return token
    | none => throw (.auth request.url response.status)

structure Blueprint where
  settings : Settings
  credentials : Credentials
  /-- Overrides for the mapping table, with the way they are laid over it. -/
  overrides : Option (Mapping.Table × Mapping.OverrideMode) := none
  /-- Whether the connection shows the client's identity, so that it has to be read. -/
  showsIdentity : Bool := true

/-- A new session, and the identity that its connection shows. -/
structure Opened where
  session : Session
  identity : Option Identity

def Session.build (blueprint : Blueprint) : ExceptT Error Dialogue Opened := do
  let settings := blueprint.settings
  let credentials := blueprint.credentials
  if let some fault := settings.fault? then throw (.invalidConfig fault)
  let budget ← settings.checkedBudget
  let mapper ← ofFault (settings.mappingTable blueprint.overrides)
  let identity ← if blueprint.showsIdentity then ofFault credentials.identity else pure none
  let token ← match credentials with
    | .ltpa username password => some <$> logIn settings username password
    | _ => pure none
  let baseUrl := settings.normalizedBaseUrl
  return { session := { settings, baseUrl, credentials, mapper, token, budget }, identity }

end MqAdmin
