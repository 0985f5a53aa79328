import MqAdmin.CommandLine.Grammar
import MqAdmin.CommandLine.Parameter
import MqAdmin.Ensure.Target
import MqAdmin.Sync.StatusRule

namespace MqAdmin.CommandLine

/-- What the options that every command knows say. -/
structure Preferences where
  settingsFile : Option String := none
  baseUrl : Option String := none
  queueManager : Option String := none
  user : Option String := none
  password : Option String := none
  /-- Log in once and go on with a token. -/
  logsIn : Bool := false
  /-- Skip the check of the server's certificate. -/
  insecure : Bool := false
  /-- Send and show names as they go over the wire. -/
  unmapped : Bool := false
  /-- Pass on attributes that cannot be mapped. -/
  permissive : Bool := false
deriving DecidableEq

/-- Types of objects that can be brought to desired attributes. The queue manager has no target,
since it is never defined. -/
structure EnsureKind where
  label : String
  target : Option Ensure.Target
deriving DecidableEq

structure SyncArguments where
  rule : Sync.StatusRule
  name : String
  timeout : Option Binary64
  interval : Option Binary64
deriving DecidableEq

inductive Action where
  | display (qualifier : String) (name : Option String) (parameters : List (String × Json))
      (response : List String) (whereClause : Option String)
  | run (verb qualifier : String) (name : Option String) (parameters : List (String × Json))
      (response : List String)
  | ensure (kind : EnsureKind) (name : Option String) (parameters : List (String × Json))
  | sync (transition : Sync.Transition) (arguments : SyncArguments)
  | health
deriving DecidableEq

structure Arguments where
  preferences : Preferences
  action : Action
deriving DecidableEq

/-- A name with a capital at its beginning. -/
def label (name : String) : String :=
  match name.toList with
  | c :: rest => String.ofList (c.toUpper :: rest)
  | [] => name

def ensureKinds : List (String × EnsureKind) :=
  ("qmgr", ⟨label "qmgr", none⟩) ::
    Ensure.targets.map fun (name, target) => (name, ⟨label name, some target⟩)

def syncKinds : List (String × Sync.StatusRule) :=
  [("channel", .channel), ("listener", .listener), ("service", .service)]

def isParameter (text : String) : Bool :=
  match parameter? text with
  | .ok _ => true
  | .error _ => false

def seconds? (text : String) : Option Binary64 := Binary64.parse? text.toList

def anyText (_ : String) : Bool := true

def parameterOption : OptionRule := ⟨"param", some 'p', .values isParameter⟩

def responseOption : OptionRule := ⟨"response", some 'r', .values anyText⟩

def syncLevel : Level where
  options := [
    ⟨"timeout", none, .value fun text => (seconds? text).isSome⟩,
    ⟨"interval", none, .value fun text => (seconds? text).isSome⟩]
  operands := [⟨true, (syncKinds.map (·.1)).contains⟩, ⟨true, anyText⟩]

def grammar : Grammar where
  shared := [
    ⟨"config", some 'c', .value (!·.isEmpty)⟩,
    ⟨"base-url", none, .value anyText⟩,
    ⟨"qmgr", none, .value anyText⟩,
    ⟨"user", some 'u', .value anyText⟩,
    ⟨"password", none, .value anyText⟩,
    ⟨"ltpa", none, .nothing⟩,
    ⟨"insecure", none, .nothing⟩,
    ⟨"no-mapping", none, .nothing⟩,
    ⟨"permissive", none, .nothing⟩,
    ⟨"verbose", some 'v', .nothing⟩,
    ⟨"help", some 'h', .help⟩]
  first := [⟨"version", some 'V', .help⟩]
  commands := [
    ("display", {
      options := [parameterOption, responseOption, ⟨"where", some 'w', .value anyText⟩]
      operands := [⟨true, anyText⟩, ⟨false, anyText⟩] }),
    ("run", {
      options := [parameterOption, responseOption]
      operands := [⟨true, anyText⟩, ⟨true, anyText⟩, ⟨false, anyText⟩] }),
    ("ensure", {
      options := [parameterOption]
      operands := [⟨true, (ensureKinds.map (·.1)).contains⟩, ⟨false, anyText⟩] }),
    ("start", syncLevel), ("stop", syncLevel), ("restart", syncLevel),
    ("health", { options := [] })]

namespace Line

def preferences (line : Line) : Preferences where
  settingsFile := line.value? "config"
  baseUrl := line.value? "base-url"
  queueManager := line.value? "qmgr"
  user := line.value? "user"
  password := line.value? "password"
  logsIn := line.has "ltpa"
  insecure := line.has "insecure"
  unmapped := line.has "no-mapping"
  permissive := line.has "permissive"

def parameters (line : Line) : List (String × Json) :=
  (line.after.allValues "param").filterMap fun text => match parameter? text with
    | .ok parameter => some parameter
    | .error _ => none

def action? (line : Line) : Option Action := do
  let found := line.after
  let response := found.allValues "response"
  let wait (transition : Sync.Transition) : Option Action := match found.operands with
    | [kind, name] => do
      let rule ← syncKinds.lookup kind
      return .sync transition {
        rule, name
        timeout := (found.value? "timeout").bind seconds?
        interval := (found.value? "interval").bind seconds? }
    | _ => none
  match line.command, found.operands with
  | "display", qualifier :: name =>
    return .display qualifier name.head? line.parameters response (found.value? "where")
  | "run", verb :: qualifier :: name =>
    return .run verb qualifier name.head? line.parameters response
  | "ensure", kind :: name => do
    return .ensure (← ensureKinds.lookup kind) name.head? line.parameters
  | "start", _ => wait .started
  | "stop", _ => wait .stopped
  | "restart", _ => wait .restarted
  | "health", _ => return .health
  | _, _ => none

end Line

def Arguments.read (words : List String) : Except Stop Arguments := do
  let line ← grammar.read words
  match line.action? with
  | some action => return ⟨line.preferences, action⟩
  | none => throw .usage

end MqAdmin.CommandLine
