import MqAdmin.Credentials.Basic
import MqAdmin.Number.Reading
import MqAdmin.Settings.Basic
import MqAdmin.Text.Case

namespace MqAdmin.Variables

def baseUrl : String := "MQ_REST_BASE_URL"
def queueManager : String := "MQ_QMGR_NAME"
def gateway : String := "MQ_GATEWAY_QMGR"
def verifyTls : String := "MQ_VERIFY_TLS"
def timeoutSeconds : String := "MQ_REST_TIMEOUT_SECS"
def adminUser : String := "MQ_ADMIN_USER"
def adminPassword : String := "MQ_ADMIN_PASSWORD"

def names : List String :=
  [baseUrl, queueManager, gateway, verifyTls, timeoutSeconds, adminUser, adminPassword]

/-- The value of each variable that is set. -/
abbrev Source := String → Option String

/-- A switch in one of its spellings; blanks around it and the letter case do not count. -/
def switch? (text : String) : Option Bool :=
  let word := Text.asciiLower (Text.trim text)
  if ["1", "true", "yes", "on"].contains word then some true
  else if ["0", "false", "no", "off"].contains word then some false
  else none

def required (source : Source) (name : String) : Except ConfigFault String :=
  match source name with
  | some value => .ok value
  | none => .error (.unset name)

def optional {α : Type} (source : Source) (name : String) (read : String → Option α)
    (fault : String → ConfigFault) (usual : α) : Except ConfigFault α :=
  match source name with
  | none => .ok usual
  | some text => match read text with
    | some value => .ok value
    | none => .error (fault name)

/-- The settings that variables give; an empty gateway is none. -/
def settings (source : Source) : Except ConfigFault Settings := do
  let usual : Settings := { baseUrl := ← required source baseUrl
                            queueManager := ← required source queueManager }
  let verify ← optional source verifyTls switch? .notBoolean usual.verifyTls
  let timeout ← optional source timeoutSeconds (fun text => word? (Text.trimChars text.toList))
    .notWholeSeconds usual.timeoutSeconds
  return { usual with
    gateway := (source gateway).filter (!·.isEmpty)
    verifyTls := verify
    timeoutSeconds := timeout }

/-- The credentials that variables give; without a password it is empty. -/
def credentials (source : Source) : Option Credentials :=
  (source adminUser).map fun user => .basic user ((source adminPassword).getD "")

end MqAdmin.Variables
