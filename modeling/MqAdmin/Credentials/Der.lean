import MqAdmin.Number.Binary64

namespace MqAdmin.Credentials.Der

/-- The tags of the elements that certificates and keys are made of. -/
inductive Tag where
  | integer
  | bits
  | octets
  | identifier
  | sequence
  | zeroth
  | first
deriving DecidableEq

def Tag.byte : Tag → UInt8
  | .integer => 0x02
  | .bits => 0x03
  | .octets => 0x04
  | .identifier => 0x06
  | .sequence => 0x30
  | .zeroth => 0xA0
  | .first => 0xA1

structure Element where
  tag : UInt8
  content : List UInt8
deriving DecidableEq

/-- The value of bytes, the highest first. -/
def value (bytes : List UInt8) : Nat := bytes.foldl (fun n byte => n * 256 + byte.toNat) 0

/-- A length and what comes after it. A length has the shortest form there is. -/
def length? : List UInt8 → Option (Nat × List UInt8)
  | [] => none
  | byte :: rest =>
    if byte < 128 then some (byte.toNat, rest)
    else
      let count := byte.toNat - 128
      let length := value (rest.take count)
      if count = 0 ∨ 4 < count ∨ rest.length < count then none
      else if length < 128 ∨ length < twoTo (8 * (count - 1)) then none
      else some (length, rest.drop count)

def next? : List UInt8 → Option (Element × List UInt8)
  | [] => none
  | tag :: rest => do
    let (length, content) ← length? rest
    if content.length < length then none
    else return (⟨tag, content.take length⟩, content.drop length)

theorem length_le_of_length? {bytes rest : List UInt8} {length : Nat}
    (found : length? bytes = some (length, rest)) : rest.length ≤ bytes.length := by
  cases bytes with
  | nil => simp [length?] at found
  | cons byte tail =>
    simp only [length?] at found
    split at found
    · obtain ⟨_, rfl⟩ := Prod.mk.inj (Option.some.inj found)
      simp
    · split at found
      · contradiction
      · split at found
        · contradiction
        · obtain ⟨_, rfl⟩ := Prod.mk.inj (Option.some.inj found)
          simp only [List.length_drop, List.length_cons]
          omega

theorem length_lt_of_next? {bytes rest : List UInt8} {element : Element}
    (found : next? bytes = some (element, rest)) : rest.length < bytes.length := by
  cases bytes with
  | nil => simp [next?] at found
  | cons tag tail =>
    simp only [next?, Option.bind_eq_bind, Option.bind_eq_some_iff] at found
    obtain ⟨⟨length, content⟩, read, found⟩ := found
    have := length_le_of_length? read
    split at found
    · contradiction
    · obtain ⟨_, rfl⟩ := Prod.mk.inj (Option.some.inj found)
      simp only [List.length_drop, List.length_cons]
      omega

def elements? (bytes : List UInt8) : Option (List Element) :=
  if bytes.isEmpty then some []
  else match _found : next? bytes with
    | none => none
    | some (element, rest) => (elements? rest).map (element :: ·)
termination_by bytes.length
decreasing_by exact length_lt_of_next? _found

/-- The content of the one element that bytes consist of. -/
def only? (tag : Tag) (bytes : List UInt8) : Option (List UInt8) :=
  match elements? bytes with
  | some [element] => if element.tag = tag.byte then some element.content else none
  | _ => none

def sequence? (bytes : List UInt8) : Option (List Element) := only? .sequence bytes >>= elements?

def Element.content? (element : Element) (tag : Tag) : Option (List UInt8) :=
  if element.tag = tag.byte then some element.content else none

def Element.inner? (element : Element) : Option (List Element) :=
  element.content? .sequence >>= elements?

def lengthBytes (length : Nat) : List UInt8 :=
  if length < 128 then [.ofNat length]
  else if length < 256 then [0x81, .ofNat length]
  else [0x82, .ofNat (length / 256), .ofNat (length % 256)]

/-- The bytes of an element with less than 65536 bytes in it. -/
def encode (tag : Tag) (content : List UInt8) : List UInt8 :=
  tag.byte :: lengthBytes content.length ++ content

end MqAdmin.Credentials.Der
