import MqAdmin.Ensure.Target
import MqAdmin.Json.Printer
import MqAdmin.Session.Execute
import MqAdmin.Text.Blank
import MqAdmin.Text.Case

/-!
Bringing an object to desired attributes: define it if it is absent, and otherwise alter only the
attributes that differ. Values are compared as texts, without blanks around them and without regard
to the case of ASCII letters.
-/

namespace MqAdmin.Ensure

/-- The text by which values are compared. -/
def norm (value : Json) : String := Text.asciiLower (Text.trim value.plainText)

def agrees (desired current : Json) : Bool := norm desired == norm current

def isMet (current : Attributes) (name : String) (desired : Json) : Bool :=
  match current.get? name with
  | some value => agrees desired value
  | none => false

/-- The desired attributes that do not have their value. -/
def changed (desired current : Attributes) : Attributes :=
  desired.filter fun name value => !isMet current name value

/-- The attributes that differ so far, and their names as they were found. -/
structure Difference where
  names : List String := []
  changed : Attributes := ∅

def Difference.note (found : Difference) (current : Attributes) (name : String) (desired : Json) :
    Difference :=
  if isMet current name desired then found
  else ⟨found.names ++ [name], found.changed.insert name desired⟩

/-- The desired attributes that differ from the current ones, looked at in order. -/
def difference (desired current : Attributes) : Difference :=
  desired.entries.foldl (fun found entry => found.note current entry.1 entry.2) {}

/-- Alters the attributes that differ; nothing is sent if none does. -/
def alter (command : Command) (desired current : Attributes) : Operation Outcome := do
  let found := difference desired current
  if found.names.isEmpty then return ⟨.unchanged, []⟩
  else
    let _ ← Session.execute { command with parameters := found.changed }
    return ⟨.updated, found.names⟩

/-- Brings a named object to desired attributes. A failure that the queue manager reports for the
display means that the object is absent. -/
def object (target : Target) (name : String) (desired : Attributes) : Operation Outcome := do
  let display : Command :=
    { verb := "DISPLAY", qualifier := target.display, name, responseParameters := some ["all"] }
  match (← Session.executeOrNone display).head? with
  | none =>
    let _ ← Session.execute
      { verb := "DEFINE", qualifier := target.define, name, parameters := desired }
    return ⟨.created, []⟩
  | some current =>
    alter { verb := "ALTER", qualifier := target.alter, name } desired current

/-- Brings the queue manager to desired attributes. It always exists, so it is never defined. -/
def queueManager (desired : Attributes) : Operation Outcome := do
  if desired.isEmpty then return ⟨.unchanged, []⟩
  else
    let records ← Session.execute
      { verb := "DISPLAY", qualifier := "QMGR", responseParameters := some ["all"] }
    alter { verb := "ALTER", qualifier := "QMGR" } desired (records.head?.getD ∅)

section Difference

variable (desired current : Attributes)

theorem foldl_note (entries : List (String × Json)) (found : Difference) :
    entries.foldl (fun found entry => found.note current entry.1 entry.2) found =
      let unmet := entries.filter fun entry => !isMet current entry.1 entry.2
      ⟨found.names ++ unmet.map (·.1),
        unmet.foldl (fun map entry => map.insert entry.1 entry.2) found.changed⟩ := by
  induction entries generalizing found with
  | nil => simp
  | cons entry rest ih =>
    rw [List.foldl_cons, ih]
    cases met : isMet current entry.1 entry.2 <;> simp [Difference.note, met]

/-- The walk finds what the filter keeps, and its names are the keys in their order. -/
theorem difference_eq :
    difference desired current = ⟨(changed desired current).keys, changed desired current⟩ := by
  have collected : KeyMap.empty.union (changed desired current) = changed desired current :=
    KeyMap.ext_get? fun name => by simp
  rw [difference, foldl_note]
  exact congrArg (Difference.mk _) collected

theorem alter_eq (command : Command) : alter command desired current =
    if (changed desired current).isEmpty then return ⟨.unchanged, []⟩
    else (do
      let _ ← Session.execute { command with parameters := changed desired current }
      return ⟨.updated, (changed desired current).keys⟩) := by
  have none : (changed desired current).keys.isEmpty = (changed desired current).isEmpty :=
    List.isEmpty_map
  simp only [alter, difference_eq, none]

end Difference

end MqAdmin.Ensure
