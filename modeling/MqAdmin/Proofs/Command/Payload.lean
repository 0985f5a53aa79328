import MqAdmin.Dialogue.Basic
import MqAdmin.Command.Basic
import MqAdmin.Proofs.KeyMap

namespace MqAdmin

namespace Json

@[simp] theorem get?_object (fields : List (String × Json)) (name : String) :
    (Json.object fields).get? name = (KeyMap.ofList fields).get? name := rfl

@[simp] theorem object?_ofAttributes (attributes : Attributes) :
    (Json.ofAttributes attributes).object? = some attributes := by
  simp [ofAttributes, object?]

end Json

namespace Text

@[simp] theorem upper_display : upper "DISPLAY" = "DISPLAY" := by decide

@[simp] theorem upper_define : upper "DEFINE" = "DEFINE" := by decide

@[simp] theorem upper_alter : upper "ALTER" = "ALTER" := by decide

@[simp] theorem upper_start : upper "START" = "START" := by decide

@[simp] theorem upper_stop : upper "STOP" = "STOP" := by decide

end Text

/-- The field of a document for parameters; it is left out if there are none. -/
def parametersField (parameters : Attributes) : Option Json :=
  if parameters.isEmpty then none else some (.ofAttributes parameters)

/-- Whether a document is that of a command: its verb and qualifier, the object's name if there is
one, and the parameters. -/
structure Json.Carries (payload : Json) (verb qualifier : String) (name : Option String)
    (parameters : Attributes) : Prop where
  command : payload.get? "command" = some (.string verb)
  qualifier : payload.get? "qualifier" = some (.string qualifier)
  name : payload.get? "name" = name.map .string
  parameters : payload.get? "parameters" = parametersField parameters

instance (payload : Json) (verb qualifier : String) (name : Option String)
    (parameters : Attributes) : Decidable (payload.Carries verb qualifier name parameters) :=
  decidable_of_iff (payload.get? "command" = some (.string verb) ∧
      payload.get? "qualifier" = some (.string qualifier) ∧
      payload.get? "name" = name.map .string ∧
      payload.get? "parameters" = parametersField parameters)
    ⟨fun fields => ⟨fields.1, fields.2.1, fields.2.2.1, fields.2.2.2⟩, fun carries =>
      ⟨carries.command, carries.qualifier, carries.name, carries.parameters⟩⟩

theorem Command.payload_carries (verb qualifier : String) (name : Option String)
    (parameters : Attributes) (names : Option (List String)) :
    (Command.payload verb qualifier name parameters names).Carries verb qualifier name
      parameters := by
  by_cases none : parameters.isEmpty = true <;> rcases names with _ | _ | _ <;> cases name <;>
    constructor <;> simp [Command.payload, parametersField, none, KeyMap.get?_ofList_cons]

theorem Json.Carries.read {payload : Json} {verb qualifier : String} {name : Option String}
    {parameters : Attributes} (carries : payload.Carries verb qualifier name parameters) :
    ((payload.get? "parameters").bind Json.object?).getD ∅ = parameters := by
  rw [carries.parameters, parametersField]
  split
  · rename_i none
    simp [KeyMap.isEmpty_iff.mp none]
  · simp

end MqAdmin
