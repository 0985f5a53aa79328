import MqAdmin.Session.Execute

/-!
The usual commands by name: verb and qualifier in small letters with an underscore between them.
Each has a shape, which tells whether it takes an object's name and what it answers with.
-/

namespace MqAdmin.Catalogue

inductive Shape where
  /-- Displays objects; without a name, all of them. -/
  | wildcard
  /-- Displays the only object of its type. -/
  | singleton
  /-- Displays objects; the name may be left out. -/
  | list
  | named
  | unnamed
deriving DecidableEq

def groups : List (Shape × String × List String) := [
  (.wildcard, "DISPLAY", ["QUEUE", "CHANNEL"]),
  (.singleton, "DISPLAY", ["QMGR", "QMSTATUS", "CMDSERV"]),
  (.list, "DISPLAY", ["APSTATUS", "ARCHIVE", "AUTHINFO", "AUTHREC", "AUTHSERV", "CFSTATUS",
    "CFSTRUCT", "CHINIT", "CHLAUTH", "CHSTATUS", "CLUSQMGR", "COMMINFO", "CONN", "ENTAUTH",
    "GROUP", "LISTENER", "LOG", "LSSTATUS", "MAXSMSGS", "NAMELIST", "POLICY", "PROCESS", "PUBSUB",
    "QSTATUS", "SBSTATUS", "SECURITY", "SERVICE", "SMDS", "SMDSCONN", "STGCLASS", "SUB",
    "SVSTATUS", "SYSTEM", "TCLUSTER", "THREAD", "TOPIC", "TPSTATUS", "TRACE", "USAGE"]),
  (.named, "DEFINE", ["QLOCAL", "QREMOTE", "QALIAS", "QMODEL", "CHANNEL", "AUTHINFO", "BUFFPOOL",
    "CFSTRUCT", "COMMINFO", "LISTENER", "LOG", "MAXSMSGS", "NAMELIST", "PROCESS", "PSID",
    "SERVICE", "STGCLASS", "SUB", "TOPIC"]),
  (.named, "ALTER", ["QLOCAL", "QREMOTE", "QALIAS", "QMODEL", "AUTHINFO", "BUFFPOOL", "CFSTRUCT",
    "CHANNEL", "COMMINFO", "LISTENER", "NAMELIST", "PROCESS", "PSID", "SECURITY", "SERVICE",
    "SMDS", "STGCLASS", "SUB", "TOPIC", "TRACE"]),
  (.named, "DELETE", ["QUEUE", "QLOCAL", "QREMOTE", "QALIAS", "QMODEL", "CHANNEL", "AUTHINFO",
    "AUTHREC", "BUFFPOOL", "CFSTRUCT", "COMMINFO", "LISTENER", "NAMELIST", "POLICY", "PROCESS",
    "PSID", "SERVICE", "STGCLASS", "SUB", "TOPIC"]),
  (.named, "START", ["CHANNEL", "CHINIT", "LISTENER", "SERVICE", "SMDSCONN", "TRACE"]),
  (.named, "STOP", ["CHANNEL", "CHINIT", "CONN", "LISTENER", "SERVICE", "SMDSCONN", "TRACE"]),
  (.named, "PING", ["CHANNEL"]),
  (.named, "CLEAR", ["QLOCAL", "TOPICSTR"]),
  (.named, "REFRESH", ["CLUSTER", "SECURITY"]),
  (.named, "RESET", ["CFSTRUCT", "CHANNEL", "CLUSTER", "QSTATS", "SMDS", "TPIPE"]),
  (.named, "RESOLVE", ["CHANNEL", "INDOUBT"]),
  (.named, "SET", ["ARCHIVE", "AUTHREC", "CHLAUTH", "LOG", "POLICY", "SYSTEM"]),
  (.named, "ARCHIVE", ["LOG"]),
  (.named, "BACKUP", ["CFSTRUCT"]),
  (.named, "RECOVER", ["BSDS", "CFSTRUCT"]),
  (.named, "PURGE", ["CHANNEL"]),
  (.named, "MOVE", ["QLOCAL"]),
  (.named, "RVERIFY", ["SECURITY"]),
  (.unnamed, "ALTER", ["QMGR"]),
  (.unnamed, "START", ["QMGR", "CMDSERV"]),
  (.unnamed, "STOP", ["QMGR", "CMDSERV"]),
  (.unnamed, "PING", ["QMGR"]),
  (.unnamed, "REFRESH", ["QMGR"]),
  (.unnamed, "RESET", ["QMGR"]),
  (.unnamed, "RESUME", ["QMGR"]),
  (.unnamed, "SUSPEND", ["QMGR"])]

structure Entry where
  shape : Shape
  verb : String
  qualifier : String
deriving DecidableEq

def entries : List (String × Entry) :=
  groups.flatMap fun (shape, verb, qualifiers) => qualifiers.map fun qualifier =>
    (Text.asciiLower (verb ++ "_" ++ qualifier), ⟨shape, verb, qualifier⟩)

def find? (name : String) : Option Entry := entries.lookup name

/-- What may be said beside the verb, the qualifier and the name. -/
structure Options where
  parameters : Attributes := ∅
  responseParameters : Option (List String) := none
  whereClause : Option String := none
deriving DecidableEq

def command (verb qualifier : String) (name : Option String) (options : Options) : Command where
  verb
  qualifier
  name
  parameters := options.parameters
  responseParameters := options.responseParameters
  whereClause := options.whereClause

inductive Result where
  | records (records : List Attributes)
  | record (record : Option Attributes)
  | nothing
deriving DecidableEq

/-- Runs a usual command. Conditions are for commands that display a list only. -/
def run (entry : Entry) (name : Option String) (options : Options) : Operation Result :=
  let ask (name : Option String) (options : Options) : Operation (List Attributes) :=
    Session.execute (command entry.verb entry.qualifier name options)
  let unconditional := { options with whereClause := none }
  match entry.shape with
  | .wildcard => return .records (← ask (some (name.getD "*")) options)
  | .list => return .records (← ask name options)
  | .singleton => return .record (← ask none unconditional).head?
  | .named => do
    let _ ← ask (some (name.getD "")) unconditional
    return .nothing
  | .unnamed => do
    let _ ← ask none unconditional
    return .nothing

end MqAdmin.Catalogue
