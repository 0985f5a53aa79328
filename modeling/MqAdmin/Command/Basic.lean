import MqAdmin.Duration
import MqAdmin.Mapping.Outcome
import MqAdmin.Text.Blank

namespace MqAdmin

def isDisplayVerb (verb : String) : Bool := Text.sameIgnoringCase verb "DISPLAY"

structure Command where
  verb : String
  qualifier : String
  name : Option String := none
  parameters : Attributes := ∅
  responseParameters : Option (List String) := none
  whereClause : Option String := none
  /-- Whether to ask for all attributes if none are named. -/
  display : Bool := isDisplayVerb verb
  /-- When it is too late to send the command. -/
  deadline : Option Instant := none
deriving DecidableEq

namespace Command

def names (command : Command) : Option (List String) :=
  match command.responseParameters with
  | some names => some names
  | none => if command.display then some ["all"] else none

/-- A condition with its first word, an attribute's name, mapped; the rest stays as it is. -/
def mapClause (names : KeyMap String) (clause : String) : String :=
  let trimmed := Text.trimChars clause.toList
  let key (word : List Char) : String := (names.get? (String.ofList word)).getD (String.ofList word)
  match Text.cutAt Text.isBlank trimmed with
  | some (word, rest) => key word ++ " " ++ String.ofList (rest.dropWhile Text.isBlank)
  | none => key trimmed

/-- A condition as an attribute, over any other of that name. -/
def withClause (parameters : Attributes) : Option String → Attributes
  | some clause => parameters.insert "WHERE" (.string clause)
  | none => parameters

/-- The document of a command in wire names. What is empty is left out. -/
def payload (verb qualifier : String) (name : Option String) (parameters : Attributes)
    (names : Option (List String)) : Json :=
  .object <|
    [("command", .string verb)] ++
    (match name with
      | some name => [("name", .string name)]
      | none => []) ++
    (if parameters.isEmpty then [] else [("parameters", .ofAttributes parameters)]) ++
    [("qualifier", .string qualifier)] ++
    (match names with
      | none | some [] => []
      | some names => [("responseParameters", .ofStrings names)]) ++
    [("type", .string "runCommandJSON")]

end Command

structure Prepared where
  /-- The kind of object, if names are mapped. -/
  kind : Option String
  payload : Json
deriving DecidableEq

/-- Maps a command and makes its document. Issues of the parameters stop it where they
matter; names that are asked for and conditions never do. -/
def Command.prepare (mapper : Option Mapping.Table) (strict : Bool) (command : Command) :
    Except (List Mapping.Issue) Prepared :=
  let verb := Text.upper command.verb
  let qualifier := Text.upper command.qualifier
  match mapper with
  | none =>
    let clause := command.whereClause.map (mapClause ∅)
    .ok ⟨none, payload verb qualifier command.name (withClause command.parameters clause)
      command.names⟩
  | some table =>
    let kind := table.resolveQualifier verb qualifier
    let request := table.mapRequest kind command.parameters
    if strict && !request.issues.isEmpty then .error request.issues
    else
      let names := command.names.map fun names =>
        table.expandMacros verb qualifier (table.mapNames kind names).mapped
      let keys := match table.qualifier? kind with
        | some maps => maps.requestKeys
        | none => ∅
      let clause := command.whereClause.map (mapClause keys)
      .ok ⟨some kind, payload verb qualifier command.name (withClause request.mapped clause) names⟩

end MqAdmin
