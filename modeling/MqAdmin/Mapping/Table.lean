import MqAdmin.KeyMap
import MqAdmin.Text.Case

namespace MqAdmin.Mapping

structure WirePair where
  key : String
  value : String
deriving DecidableEq

structure QualifierTable where
  /-- Wire name by caller's name. -/
  requestKeys : KeyMap String := ∅
  /-- Wire value by caller's value, for each wire name. -/
  requestValues : KeyMap (KeyMap String) := ∅
  /-- The pair that a caller's name and value stand for together. -/
  requestPairs : KeyMap (KeyMap WirePair) := ∅
  /-- Caller's name by wire name. -/
  responseKeys : KeyMap String := ∅
  /-- Caller's value by wire value, for each wire name. -/
  responseValues : KeyMap (KeyMap String) := ∅
deriving DecidableEq, Inhabited

structure CommandEntry where
  qualifier : String
  /-- Names that are asked for as well when all attributes are. -/
  macros : List String := []
deriving DecidableEq

/-- The entries for commands, named by verb and wire qualifier, and for kinds of objects. -/
structure Table where
  commands : KeyMap CommandEntry := ∅
  qualifiers : KeyMap QualifierTable := ∅
  version : Option UInt32 := none
deriving DecidableEq, Inhabited

/-- The kinds of objects behind wire qualifiers whose command the table does not list. -/
def fallbacks : List (String × String) := [
  ("QUEUE", "queue"), ("QLOCAL", "queue"), ("QREMOTE", "queue"), ("QALIAS", "queue"),
  ("QMODEL", "queue"), ("QCLUSTER", "queue"), ("QSTATUS", "qstatus"), ("CHANNEL", "channel"),
  ("CHSTATUS", "chstatus"), ("QMGR", "qmgr"), ("QMSTATUS", "qmstatus"), ("CMDSERV", "cmdserv"),
  ("LISTENER", "listener"), ("LSSTATUS", "lsstatus"), ("SERVICE", "service"),
  ("SVSTATUS", "svstatus"), ("TOPIC", "topic"), ("SUB", "sub"), ("NAMELIST", "namelist"),
  ("PROCESS", "process"), ("AUTHINFO", "authinfo"), ("CONN", "conn"), ("STGCLASS", "stgclass"),
  ("COMMINFO", "comminfo"), ("CFSTRUCT", "cfstruct"), ("BUFFPOOL", "buffpool"),
  ("PSID", "psid"), ("LOG", "log"), ("MAXSMSGS", "maxsmsgs"), ("SMDS", "smds"),
  ("SMDSCONN", "smdsconn"), ("SECURITY", "security"), ("TRACE", "trace"), ("CHINIT", "chinit")]

namespace Table

/-- The entry for a command, named by verb and wire qualifier in capitals. -/
def command? (table : Table) (verb wireQualifier : String) : Option CommandEntry :=
  table.commands.get? (verb ++ " " ++ wireQualifier)

def qualifier? (table : Table) (qualifier : String) : Option QualifierTable :=
  table.qualifiers.get? qualifier

def hasQualifier (table : Table) (qualifier : String) : Bool :=
  table.qualifiers.contains qualifier

/-- The kind of object that a command concerns: as the table says for the command, else as is
usual for the wire qualifier, else the wire qualifier in small letters. -/
def resolveQualifier (table : Table) (verb wireQualifier : String) : String :=
  match table.command? verb wireQualifier with
  | some entry => entry.qualifier
  | none => (fallbacks.lookup wireQualifier).getD (Text.lower wireQualifier)

end Table

end MqAdmin.Mapping
