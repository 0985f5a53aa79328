import MqAdmin.Command.Answer
import MqAdmin.Mapping.Issue
import MqAdmin.Number.Notation
import MqAdmin.Sync.StatusRule

namespace MqAdmin

/-- What is wrong with the settings or with a document they refer to. -/
inductive ConfigFault where
  | emptyBaseUrl
  | emptyQueueManager
  | unset (name : String)
  | notBoolean (name : String)
  | notWholeSeconds (name : String)
  | negativeTime (setting : String) (value : Binary64)
  | unreadable (file : String) (detail : String)
  | mappingData (detail : String)
  | document (detail : String)
  | clientCertificate (detail : String)
  | stated (text : String)
deriving DecidableEq

def ConfigFault.message : ConfigFault → String
  | .emptyBaseUrl => "base_url is empty"
  | .emptyQueueManager => "qmgr_name is empty"
  | .unset name => name ++ " is not set"
  | .notBoolean name => name ++ " must be true or false"
  | .notWholeSeconds name => name ++ " must be whole seconds"
  | .negativeTime setting value =>
    "sync " ++ setting ++ " must not be negative, got " ++ value.messageText
  | .unreadable file detail => "cannot read " ++ file ++ ": " ++ detail
  | .mappingData detail => "invalid mapping data: " ++ detail
  | .document detail => "invalid config: " ++ detail
  | .clientCertificate detail => "invalid client certificate: " ++ detail
  | .stated text => text

inductive Error where
  | transport (url message : String)
  /-- The login failed, or a command was refused for want of authority. -/
  | auth (url : String) (status : Nat)
  /-- The answer is no JSON object. -/
  | response (status : Nat) (body : String)
  /-- The queue manager reports a code other than zero. -/
  | command (status : Nat) (payload : Json)
  /-- Attributes that cannot be mapped, where that matters. -/
  | mapping (issues : List Mapping.Issue)
  | timeout (name : String) (operation : Sync.Transition) (elapsed : Binary64)
  | invalidConfig (fault : ConfigFault)
deriving DecidableEq

namespace Error

def isTransport : Error → Bool
  | .transport .. => true
  | _ => false

def isAuth : Error → Bool
  | .auth .. => true
  | _ => false

def isCommand : Error → Bool
  | .command .. => true
  | _ => false

def isMapping : Error → Bool
  | .mapping _ => true
  | _ => false

def isTimeout : Error → Bool
  | .timeout .. => true
  | _ => false

/-- The value of a code in a message, or a dash. -/
def codeText (payload : Json) (name : String) : String :=
  match payload.get? name with
  | some value => value.compact
  | none => "-"

def message : Error → String
  | .transport url message => "Transport error for " ++ url ++ ": " ++ message
  | .auth url status => "Authentication failed (HTTP " ++ toString status ++ ") for " ++ url
  | .response status body => "Unparseable response (HTTP " ++ toString status ++ "): " ++ body
  | .command status payload =>
    "Command failed (HTTP " ++ toString status ++ "): completion code " ++
      codeText payload "overallCompletionCode" ++ ", reason code " ++
      codeText payload "overallReasonCode"
  | .mapping issues => "Mapping failed: " ++ "; ".intercalate (issues.map (·.text))
  | .timeout name operation elapsed =>
    "Timed out waiting for " ++ name ++ " to be " ++ operation.name ++ " after " ++
      elapsed.tenthsText ++ "s"
  | .invalidConfig fault => "Invalid configuration: " ++ fault.message

/-- A code of a failed command: the overall one unless it is zero or missing, else the first of
the items' codes that is not zero, else the overall one whatever it is. -/
def code? (overall item : String) : Error → Option Int
  | .command _ payload =>
    let whole := (payload.get? overall).bind Json.signedWord?
    match whole.filter (· ≠ 0) with
    | some code => some code
    | none =>
      let codes := (Answer.items payload).filterMap fun entry =>
        (entry.get? item).bind Json.signedWord?
      (codes.find? (· ≠ 0)).or whole
  | _ => none

def completionCode? : Error → Option Int := code? "overallCompletionCode" "completionCode"

def reasonCode? : Error → Option Int := code? "overallReasonCode" "reasonCode"

def mappingIssues : Error → List Mapping.Issue
  | .mapping issues => issues
  | _ => []

end Error

end MqAdmin
