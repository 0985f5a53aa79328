import MqAdmin.Session.Execute
import MqAdmin.Sync.StatusRule

/-!
Starting and stopping objects and waiting until their status shows it. The status is looked at after
every interval; a look that shows the state wins over the end of the budget.
-/

namespace MqAdmin.Sync

def statusCommand (rule : StatusRule) (name : String) : Command :=
  { verb := "DISPLAY", qualifier := rule.statusQualifier, name,
    responseParameters := some ["all"] }

def asking (question : Question) : Operation question.Answer :=
  ExceptT.lift (StateT.lift (Dialogue.answer question))

def givingUp {α : Type} (cause : Abort) : Operation α :=
  ExceptT.lift (StateT.lift (Dialogue.abort cause))

/-- Looks at the status after each interval, at most `limit` times. -/
def pollWithin (rule : StatusRule) (name : String) (budget : Budget) (operation : Transition)
    (start : Instant) : (limit : Nat) → (polls : UInt32) → Operation Outcome
  | 0, _ => givingUp .endless
  | limit + 1, polls => do
    asking (.sleep budget.interval)
    let records ← Session.executeOrNone (statusCommand rule name)
    let now ← asking .now
    let elapsed := (Instant.since now start).toBinary64
    if reached rule operation records then return ⟨operation, polls + 1, elapsed⟩
    else if budget.timeout.toBinary64.le elapsed then throw (.timeout name operation elapsed)
    else pollWithin rule name budget operation start limit (polls + 1)

def awaitWithin (limit : Nat) (rule : StatusRule) (name : String) (budget : Budget)
    (operation : Transition) : Operation Outcome := do
  let start ← asking .now
  pollWithin rule name budget operation start limit 0

/-- Starts an object and waits until it is running, with at most `limit` looks. -/
def startWithin (limit : Nat) (rule : StatusRule) (name : String) (budget : Budget) :
    Operation Outcome := do
  let _ ← Session.execute { verb := "START", qualifier := rule.qualifier, name }
  awaitWithin limit rule name budget.normalized .started

def stopWithin (limit : Nat) (rule : StatusRule) (name : String) (budget : Budget) :
    Operation Outcome := do
  let _ ← Session.execute { verb := "STOP", qualifier := rule.qualifier, name }
  awaitWithin limit rule name budget.normalized .stopped

/-- Stops an object and starts it again; looks and seconds of both waits are added up. -/
def restartWithin (limit : Nat) (rule : StatusRule) (name : String) (budget : Budget) :
    Operation Outcome := do
  let stopped ← stopWithin limit rule name budget
  let started ← startWithin limit rule name budget
  return ⟨.restarted, stopped.polls + started.polls, stopped.elapsed.add started.elapsed⟩

def start (rule : StatusRule) (name : String) (budget : Budget) : Operation Outcome :=
  startWithin budget.normalized.looks rule name budget

def stop (rule : StatusRule) (name : String) (budget : Budget) : Operation Outcome :=
  stopWithin budget.normalized.looks rule name budget

def restart (rule : StatusRule) (name : String) (budget : Budget) : Operation Outcome :=
  restartWithin budget.normalized.looks rule name budget

def rules : List (String × StatusRule) :=
  [("channel", .channel), ("listener", .listener), ("service", .service)]

end MqAdmin.Sync
