import MqAdmin.Command.Catalogue
import MqAdmin.Json.Printer

/-!
The health of a queue manager: whether it answers, its state, that of its command server, and its
listeners. Only the first question decides whether it answers; later failures leave their part
unknown.
-/

namespace MqAdmin.Health

def unknown : String := "UNKNOWN"

structure Listener where
  name : String
  startMode : String
deriving DecidableEq

structure Report where
  queueManager : String
  reachable : Bool := false
  status : String := unknown
  commandServer : String := unknown
  listeners : List Listener := []
  /-- Whether the queue manager answers and its state is known. -/
  passed : Bool := false
deriving DecidableEq

/-- The text of the first attribute that has one, without blanks around it. -/
def text? (record : Attributes) (names : List String) : Option String :=
  (names.filterMap fun name => (record.get? name).map fun value => Text.trim value.plainText).find?
    (!·.isEmpty)

def attempt {α : Type} (operation : Operation α) : Operation (Option α) :=
  tryCatch (some <$> operation) fun _ => pure none

def display (qualifier : String) (name : Option String) : Operation (Option (List Attributes)) :=
  attempt (Session.execute (Catalogue.command "DISPLAY" qualifier name {}))

/-- An attribute's text in the first record, or unknown. -/
def firstText (records : Option (List Attributes)) (names : List String) : String :=
  match records with
  | some (record :: _) => (text? record names).getD unknown
  | _ => unknown

def listenerOf (record : Attributes) : Listener where
  name := (text? record ["listener_name", "LISTENER"]).getD ""
  startMode := (text? record ["start_mode", "CONTROL"]).getD ""

def check : Operation Report := do
  let named := (← (get : StateT Session Dialogue Session)).settings.queueManager
  match ← display "QMGR" none with
  | none => return { queueManager := named }
  | some managers =>
    let queueManager := match managers with
      | manager :: _ => (text? manager ["queue_manager_name", "QMNAME"]).getD named
      | [] => named
    let status := firstText (← display "QMSTATUS" none)
      ["status", "ha_status", "STATUS", "HASTATUS"]
    let commandServer := firstText (← display "CMDSERV" none) ["status", "STATUS"]
    let listeners := ((← display "LISTENER" (some "*")).getD []).map listenerOf
    return { queueManager, reachable := true, status, commandServer, listeners,
             passed := status ≠ unknown }

namespace Report

def json (report : Report) : Json :=
  .object [
    ("qmgr_name", .string report.queueManager),
    ("reachable", .bool report.reachable),
    ("status", .string report.status),
    ("command_server", .string report.commandServer),
    ("listeners", .array (report.listeners.map fun listener => .object [
      ("name", .string listener.name), ("start_mode", .string listener.startMode)])),
    ("passed", .bool report.passed)]

end Report

end MqAdmin.Health
