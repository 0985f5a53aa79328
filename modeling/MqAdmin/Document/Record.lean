import MqAdmin.Document.Basic

/-!
Decoding documents. A record is written as an object of its fields or as the list of their values
in the order of declaration; fields of an object that the record does not know are passed over.
-/

namespace MqAdmin

/-- The form of a document that comes with the empty value for a variant without content. -/
structure VariantForm where
  isUnit : Document → Bool

namespace Document

def string? : Document → Option String
  | .string text => text
  | _ => none

def bool? : Document → Option Bool
  | .bool value => some value
  | _ => none

def naturalBelow? (bound : Nat) : Document → Option Nat
  | .number (some (.integer value)) =>
    if 0 ≤ value && value < bound then some value.toNat else none
  | _ => none

def binary64? : Document → Option Binary64
  | .number (some value) => some value.toBinary64
  | _ => none

/-- An optional part: null stands for none. -/
def optional? {α : Type} (decode : Document → Option α) : Document → Option (Option α)
  | .null => some none
  | document => (decode document).map some

def list? {α : Type} (decode : Document → Option α) : Document → Option (List α)
  | .array items => items.mapM decode
  | _ => none

def pairs? {α : Type} (decode : Document → Option α) : Document → Option (List (String × α))
  | .object fields => fields.mapM fun (name, value) => do
    let key ← name
    return (key, ← decode value)
  | _ => none

/-- An object as a map; a repeated name takes its last value. -/
def map? {α : Type} (decode : Document → Option α) (document : Document) : Option (KeyMap α) :=
  (document.pairs? decode).map KeyMap.ofList

/-- A variant without content: its name, or an object that gives it the empty value. -/
def variant? {α : Type} (form : VariantForm) (variants : List (String × α)) :
    Document → Option α
  | .string (some name) => variants.lookup name
  | .object [(some name, content)] =>
    if form.isUnit content then variants.lookup name else none
  | _ => none

def isNull : Document → Bool
  | .null => true
  | _ => false

end Document

def VariantForm.json : VariantForm := ⟨Document.isNull⟩

/-- The known fields of a record that a document gives. -/
structure Record where
  /-- Whether the fields were given by name, and not by position. -/
  named : Bool
  fields : List (String × Document)

namespace Record

/-- The named fields that a record knows; none if a name is no text or a known one repeats. -/
def knownFields (known : List String) :
    List (Option String × Document) → Option (List (String × Document))
  | [] => some []
  | (name, value) :: rest => do
    let key ← name
    let others ← knownFields known rest
    if known.contains key then
      guard (!others.any (·.1 == key))
      return (key, value) :: others
    else return others

/-- The fields that a document gives, by name or by position. A list may end early but not hold
more values than there are fields. -/
def of? (known : List String) : Document → Option Record
  | .object fields => (knownFields known fields).map (⟨true, ·⟩)
  | .array items => if items.length ≤ known.length then some ⟨false, known.zip items⟩ else none
  | _ => none

/-- A field, decoded if it is given and `missing` otherwise. -/
def read {α : Type} (record : Record) (name : String) (decode : Document → Option α)
    (missing : Option α) : Option α :=
  match record.fields.lookup name with
  | some value => decode value
  | none => missing

def required {α : Type} (record : Record) (name : String) (decode : Document → Option α) :
    Option α :=
  record.read name decode none

def withDefault {α : Type} (record : Record) (name : String) (decode : Document → Option α)
    (default : α) : Option α :=
  record.read name decode (some default)

/-- A field that may be left out among named fields, but not in a list. -/
def option {α : Type} (record : Record) (name : String) (decode : Document → Option α) :
    Option (Option α) :=
  record.read name (Document.optional? decode) (if record.named then some none else none)

end Record

end MqAdmin
