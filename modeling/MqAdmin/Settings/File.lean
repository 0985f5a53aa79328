import MqAdmin.Credentials.Basic
import MqAdmin.Dialogue.Basic
import MqAdmin.Document.JsonText
import MqAdmin.Error
import MqAdmin.Settings.Basic
import MqAdmin.Toml.Reader

namespace MqAdmin

/-- In a settings file an empty table or list is the empty value. -/
def VariantForm.file : VariantForm where
  isUnit
    | .object [] => true
    | .array [] => true
    | _ => false

/-- Beside credentials only an empty table is the empty value. -/
def VariantForm.fileWithCredentials : VariantForm where
  isUnit
    | .object [] => true
    | _ => false

namespace Settings

def optionJson : Option String → Json
  | some text => .string text
  | none => .null

/-- The gateway and the overrides are left out if there are none, but not the token. -/
def json (settings : Settings) : Json :=
  let option (name : String) (text : Option String) : List (String × Json) := match text with
    | some text => [(name, .string text)]
    | none => []
  .object <| [
    ("base_url", .string settings.baseUrl),
    ("qmgr_name", .string settings.queueManager)] ++
    option "gateway_qmgr" settings.gateway ++ [
    ("verify_tls", .bool settings.verifyTls),
    ("timeout_secs", .ofNat settings.timeoutSeconds),
    ("map_attributes", .bool settings.mapAttributes),
    ("mapping_strict", .bool settings.mappingStrict),
    ("csrf_token", optionJson settings.csrfToken)] ++
    option "mapping_overrides" settings.mappingOverrides ++ [
    ("mapping_overrides_mode", settings.overrideMode.json),
    ("sync_timeout_secs", .number (.real settings.syncTimeout)),
    ("poll_interval_secs", .number (.real settings.pollInterval))]

/-- A token; the empty one is none. -/
def csrfToken? (document : Document) : Option (Option String) := do
  let token ← Document.optional? Document.string? document
  return token.filter (!·.isEmpty)

def decode? (form : VariantForm) (document : Document) : Option Settings := do
  let record ← Record.of? ["base_url", "qmgr_name", "gateway_qmgr", "verify_tls", "timeout_secs",
    "map_attributes", "mapping_strict", "csrf_token", "mapping_overrides",
    "mapping_overrides_mode", "sync_timeout_secs", "poll_interval_secs"] document
  let usual : Settings := { baseUrl := ← record.required "base_url" Document.string?
                            queueManager := ← record.required "qmgr_name" Document.string? }
  let text := Document.optional? Document.string?
  return { usual with
    gateway := ← record.withDefault "gateway_qmgr" text usual.gateway
    verifyTls := ← record.withDefault "verify_tls" Document.bool? usual.verifyTls
    timeoutSeconds := ← record.withDefault "timeout_secs" (Document.naturalBelow? (twoTo 64))
      usual.timeoutSeconds
    mapAttributes := ← record.withDefault "map_attributes" Document.bool? usual.mapAttributes
    mappingStrict := ← record.withDefault "mapping_strict" Document.bool? usual.mappingStrict
    csrfToken := ← record.withDefault "csrf_token" csrfToken? usual.csrfToken
    mappingOverrides := ← record.withDefault "mapping_overrides" text usual.mappingOverrides
    overrideMode := ← record.withDefault "mapping_overrides_mode"
      (Mapping.OverrideMode.decode? form) usual.overrideMode
    syncTimeout := ← record.withDefault "sync_timeout_secs" Document.binary64? usual.syncTimeout
    pollInterval := ← record.withDefault "poll_interval_secs" Document.binary64?
      usual.pollInterval }

def unusable : String := "the text does not describe it"

/-- The settings in the text of a file that holds nothing else of interest. -/
def ofToml (text : String) : Except ConfigFault Settings :=
  match (Document.ofTomlText? text).bind (decode? .file) with
  | some settings => .ok settings
  | none => .error (.document unusable)

end Settings

structure SettingsFile where
  settings : Settings
  credentials : Option Credentials
deriving DecidableEq

namespace SettingsFile

def decode? : Document → Option SettingsFile
  | .object fields => do
    let credentials ← match fields.lookup (some "credentials") with
      | some document => Document.optional? Credentials.decode? document
      | none => some none
    let others := fields.filter fun field => field.1 ≠ some "credentials"
    return ⟨← Settings.decode? .fileWithCredentials (.object others), credentials⟩
  | _ => none

def ofToml (text : String) : Except ConfigFault SettingsFile :=
  match (Document.ofTomlText? text).bind decode? with
  | some file => .ok file
  | none => .error (.document Settings.unusable)

end SettingsFile

namespace Mapping.Table

def ofJsonText (text : String) : Except ConfigFault Table :=
  match (Document.ofJsonText? text).bind decode? with
  | some table => .ok table
  | none => .error (.mappingData Settings.unusable)

def ofJson (value : Json) : Except ConfigFault Table :=
  match decode? value.document with
  | some table => .ok table
  | none => .error (.mappingData Settings.unusable)

end Mapping.Table

/-- Reads a file; `what` says in front of the path what the file is for. -/
def readSettingsFile (what path : String) : ExceptT ConfigFault Dialogue String := do
  match ← (Dialogue.answer (.read path) : Dialogue (Except String String)) with
  | .ok text => return text
  | .error detail => throw (.unreadable (what ++ path) detail)

def Settings.load (path : String) : ExceptT ConfigFault Dialogue Settings := do
  let text ← readSettingsFile "" path
  ExceptT.mk (return Settings.ofToml text)

def SettingsFile.load (path : String) : ExceptT ConfigFault Dialogue SettingsFile := do
  let text ← readSettingsFile "" path
  ExceptT.mk (return SettingsFile.ofToml text)

end MqAdmin
