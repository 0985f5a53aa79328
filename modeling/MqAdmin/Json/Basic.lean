import MqAdmin.KeyMap
import MqAdmin.Number.Notation

/-!
JSON values. Integers and double-precision numbers are kept apart, so `5` and `5.0` differ. The
fields of an object stand in the order in which they are to be written; the object of a record of
attributes has them in ascending order.
-/

namespace MqAdmin

/-- A number: a whole number written without point and exponent, or any other. -/
inductive Number where
  | integer (value : Int)
  | real (value : Binary64)
deriving DecidableEq

namespace Number

def isZero : Number → Bool
  | .integer value => value == 0
  | .real value => value.isZero

def toBinary64 : Number → Binary64
  | .integer value => .ofInt value
  | .real value => value

end Number

inductive Json where
  | null
  | bool (value : Bool)
  | number (value : Number)
  | string (text : String)
  | array (items : List Json)
  | object (fields : List (String × Json))
deriving Inhabited

namespace Json

mutual

/-- Equality of values, for objects with the order of the fields. -/
def decEq : (first second : Json) → Decidable (first = second)
  | .null, .null => isTrue rfl
  | .bool b, .bool c => if h : b = c then isTrue (h ▸ rfl) else isFalse (by simp [h])
  | .number n, .number m => if h : n = m then isTrue (h ▸ rfl) else isFalse (by simp [h])
  | .string s, .string t => if h : s = t then isTrue (h ▸ rfl) else isFalse (by simp [h])
  | .array xs, .array ys => match decEqItems xs ys with
    | isTrue h => isTrue (h ▸ rfl)
    | isFalse h => isFalse (by simp [h])
  | .object fs, .object gs => match decEqFields fs gs with
    | isTrue h => isTrue (h ▸ rfl)
    | isFalse h => isFalse (by simp [h])
  | .null, .bool _ | .null, .number _ | .null, .string _ | .null, .array _ | .null, .object _
  | .bool _, .null | .bool _, .number _ | .bool _, .string _ | .bool _, .array _
  | .bool _, .object _ | .number _, .null | .number _, .bool _ | .number _, .string _
  | .number _, .array _ | .number _, .object _ | .string _, .null | .string _, .bool _
  | .string _, .number _ | .string _, .array _ | .string _, .object _ | .array _, .null
  | .array _, .bool _ | .array _, .number _ | .array _, .string _ | .array _, .object _
  | .object _, .null | .object _, .bool _ | .object _, .number _ | .object _, .string _
  | .object _, .array _ => isFalse (by simp)

def decEqItems : (first second : List Json) → Decidable (first = second)
  | [], [] => isTrue rfl
  | x :: xs, y :: ys => match decEq x y with
    | isTrue h => match decEqItems xs ys with
      | isTrue g => isTrue (by rw [h, g])
      | isFalse g => isFalse (by simp [g])
    | isFalse h => isFalse (by simp [h])
  | [], _ :: _ | _ :: _, [] => isFalse (by simp)

def decEqFields : (first second : List (String × Json)) → Decidable (first = second)
  | [], [] => isTrue rfl
  | (k, x) :: xs, (l, y) :: ys =>
    if named : k = l then
      match decEq x y with
      | isTrue h => match decEqFields xs ys with
        | isTrue g => isTrue (by rw [named, h, g])
        | isFalse g => isFalse (by simp [g])
      | isFalse h => isFalse (by simp [h])
    else isFalse (by simp [named])
  | [], _ :: _ | _ :: _, [] => isFalse (by simp)

end

instance : DecidableEq Json := decEq

/-- The field of an object with the given name; of several the last. -/
def get? (name : String) : Json → Option Json
  | .object fields => (KeyMap.ofList fields).get? name
  | _ => none

def string? : Json → Option String
  | .string text => some text
  | _ => none

def array? : Json → Option (List Json)
  | .array items => some items
  | _ => none

def object? : Json → Option (KeyMap Json)
  | .object fields => some (KeyMap.ofList fields)
  | _ => none

def signedWord? : Json → Option Int
  | .number (.integer value) =>
    if -twoTo 63 ≤ value && value < twoTo 63 then some value else none
  | _ => none

def isNonZeroNumber : Json → Bool
  | .number value => !value.isZero
  | _ => false

def ofStrings (texts : List String) : Json := .array (texts.map .string)

def ofInt (value : Int) : Json := .number (.integer value)

def ofNat (value : Nat) : Json := ofInt value

end Json

/-- A record of attributes: values by name, in ascending order of the names. -/
abbrev Attributes := KeyMap Json

def Json.ofAttributes (attributes : Attributes) : Json := .object attributes.entries

end MqAdmin
