import MqAdmin.KeyMap
import MqAdmin.Number.Binary64

namespace MqAdmin.Http.Header

def isNameChar (c : Char) : Bool :=
  c.isAlphanum || "!#$%&\x27*+-.^_\x60|~".toList.contains c

def longestName : Nat := twoTo 16 - 1

def isName (name : String) : Bool :=
  !name.isEmpty && name.length ≤ longestName && name.toList.all isNameChar

/-- Whether a value holds no control character but tabs. -/
def isValue (value : String) : Bool :=
  value.toList.all fun c => c = '\t' || 32 ≤ c.toNat && c.toNat ≠ 127

/-- Whether a value consists of visible ASCII characters, spaces and tabs. -/
def isPlain (value : String) : Bool :=
  value.toList.all fun c => c = '\t' || 32 ≤ c.toNat && c.toNat < 127

/-- Names are the same whatever their letter case. -/
def key (name : String) : String := name.map Char.toLower

def isPadding (c : Char) : Bool := c = ' ' || c = '\t'

/-- A value without spaces and tabs at its ends. -/
def trimmed (value : String) : String :=
  String.ofList ((value.toList.dropWhile isPadding).reverse.dropWhile isPadding).reverse

/-- Adds one header to those gathered: the value of a repeated one comes after a semicolon. -/
def addTo (gathered : KeyMap String) (name value : String) : KeyMap String :=
  match gathered.get? (key name) with
  | some earlier => gathered.insert (key name) (earlier ++ "; " ++ value)
  | none => gathered.insert (key name) value

/-- Gathers received headers. Values that are not plain are left out. -/
def gather (received : List (String × String)) : KeyMap String :=
  received.foldl (fun gathered (name, value) =>
    if isPlain value then addTo gathered name (trimmed value) else gathered) ∅

theorem get?_addTo (gathered : KeyMap String) (name value other : String) :
    (addTo gathered name value).get? other =
      if other = key name then
        some ((gathered.get? (key name)).elim value (· ++ "; " ++ value))
      else gathered.get? other := by
  rw [addTo]
  split <;> rename_i found <;> simp [KeyMap.get?_insert, found]

example : (addTo (.insert ∅ "set-cookie" "a=1") "Set-Cookie" "b=2").get? "set-cookie" =
    some "a=1; b=2" := by decide +kernel

end MqAdmin.Http.Header
