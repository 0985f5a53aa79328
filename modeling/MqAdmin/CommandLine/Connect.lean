import MqAdmin.CommandLine.Arguments
import MqAdmin.Session.Build
import MqAdmin.Settings.File
import MqAdmin.Settings.Variables

/-!
From a command line to a session. Settings come from a file or from variables, and options count
more than both. A name and its password never come from different places, except that a password
given as an option goes with every name.
-/

namespace MqAdmin.CommandLine

/-- Why a command line's work fails, beside what fails in a session. -/
inductive Failed where
  | session (error : Error)
  | noSettings (fault : ConfigFault)
  | noCredentials
  /-- A password or a login cannot be combined with a certificate. -/
  | certificateOnly
  | unnamed (label : String)
deriving DecidableEq

/-- What is said of a failure: the outermost message first, then its causes. -/
def Failed.messages : Failed → List String
  | .session error => [error.message]
  | .noSettings fault =>
    ["set --base-url and --qmgr, or " ++ Variables.baseUrl ++ " and " ++ Variables.queueManager,
      (Error.invalidConfig fault).message]
  | .noCredentials => ["no credentials: pass --user or set " ++ Variables.adminUser]
  | .certificateOnly =>
    ["--ltpa and --password need a username; the config file uses a certificate"]
  | .unnamed label => ["ensure " ++ label ++ " needs a name"]

def namedCredentials (logsIn : Bool) (user password : String) : Credentials :=
  if logsIn then .ltpa user password else .basic user password

def fileCredentials (preferences : Preferences) : Credentials → Except Failed Credentials
  | .basic user password =>
    .ok (namedCredentials preferences.logsIn user (preferences.password.getD password))
  | .ltpa user password => .ok (.ltpa user (preferences.password.getD password))
  | .certificate certificatePath keyPath =>
    if preferences.logsIn || preferences.password.isSome then .error .certificateOnly
    else .ok (.certificate certificatePath keyPath)

/-- The credentials to use: those of the options, else those of the file, else those of the
variables. -/
def credentials (preferences : Preferences) (source : Variables.Source)
    (fromFile : Option Credentials) : Except Failed Credentials :=
  match preferences.user, fromFile with
  | none, some found => fileCredentials preferences found
  | option, _ =>
    match option.or (source Variables.adminUser) with
    | none => .error .noCredentials
    | some user =>
      let password := (preferences.password.or (source Variables.adminPassword)).getD ""
      .ok (namedCredentials preferences.logsIn user password)

/-- The variables with the options that name the queue manager over them. -/
def withOptions (preferences : Preferences) (source : Variables.Source) : Variables.Source :=
  fun name =>
    if name = Variables.baseUrl then preferences.baseUrl.or (source name)
    else if name = Variables.queueManager then preferences.queueManager.or (source name)
    else source name

def adjust (preferences : Preferences) (settings : Settings) : Settings :=
  { settings with
    baseUrl := preferences.baseUrl.getD settings.baseUrl
    queueManager := preferences.queueManager.getD settings.queueManager
    verifyTls := settings.verifyTls && !preferences.insecure
    mapAttributes := settings.mapAttributes && !preferences.unmapped
    mappingStrict := settings.mappingStrict && !preferences.permissive }

abbrev Work : Type → Type := ExceptT Failed Dialogue

/-- The settings and credentials of the file, if one is named, or else the settings of the
variables. -/
def source (preferences : Preferences) (environment : Variables.Source) :
    Work (Settings × Option Credentials) := ExceptT.mk do
  match preferences.settingsFile with
  | some path =>
    match ← (SettingsFile.load path).run with
    | .ok file => return .ok (file.settings, file.credentials)
    | .error fault => return .error (.session (.invalidConfig fault))
  | none =>
    match Variables.settings (withOptions preferences environment) with
    | .ok settings => return .ok (settings, none)
    | .error fault => return .error (.noSettings fault)

def connect (preferences : Preferences) (environment : Variables.Source) (showsIdentity : Bool) :
    Work Opened := do
  let (settings, fromFile) ← source preferences environment
  let settings := adjust preferences settings
  let credentials ← ExceptT.mk (return credentials preferences environment fromFile)
  ExceptT.mk do
    match ← (Session.build { settings, credentials, showsIdentity }).run with
    | .ok opened => return .ok opened
    | .error error => return .error (.session error)

end MqAdmin.CommandLine
