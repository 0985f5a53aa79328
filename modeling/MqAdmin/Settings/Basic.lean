import MqAdmin.Mapping.Codec
import MqAdmin.Sync.Budget
import MqAdmin.Text.Blank

namespace MqAdmin

structure Settings where
  baseUrl : String
  queueManager : String
  /-- The queue manager that passes commands on. -/
  gateway : Option String := none
  verifyTls : Bool := true
  /-- How long to wait for each answer; zero waits for ever. -/
  timeoutSeconds : Nat := 30
  mapAttributes : Bool := true
  /-- Whether an issue of the mapping is an error. -/
  mappingStrict : Bool := true
  csrfToken : Option String := some "local"
  /-- The file with a mapping table to lay over the bundled one. -/
  mappingOverrides : Option String := none
  overrideMode : Mapping.OverrideMode := .merge
  syncTimeout : Binary64 := .ofNat 30
  pollInterval : Binary64 := .ofNat 1
deriving DecidableEq

namespace Settings

/-- The base address without slashes at its end. -/
def normalizedBaseUrl (settings : Settings) : String :=
  String.ofList (settings.baseUrl.toList.reverse.dropWhile (· = '/')).reverse

def timeout (settings : Settings) : Option Duration :=
  if settings.timeoutSeconds = 0 then none else some (.ofSeconds settings.timeoutSeconds)

def budget (settings : Settings) : Except Sync.Budget.Refusal Sync.Budget :=
  Sync.Budget.ofSeconds settings.syncTimeout settings.pollInterval

/-- What keeps a session from being built at all. -/
def fault? (settings : Settings) : Option ConfigFault :=
  if (Text.trim settings.baseUrl).isEmpty then some .emptyBaseUrl
  else if (Text.trim settings.queueManager).isEmpty then some .emptyQueueManager
  else none

end Settings

end MqAdmin
