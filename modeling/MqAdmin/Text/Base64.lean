namespace MqAdmin.Text.Base64

def alphabet : List Char :=
  "ABCDEFGHIJKLMNOPQRSTUVWXYZabcdefghijklmnopqrstuvwxyz0123456789+/".toList

def digit (value : Nat) : Char := alphabet.getD value '='

def value? (c : Char) : Option Nat := alphabet.idxOf? c

/-- Three bytes make four characters; a shorter last group is padded. -/
def encodeBytes : List UInt8 → List Char
  | [] => []
  | [a] =>
    let n := a.toNat * 65536
    [digit (n / 262144), digit (n / 4096 % 64), '=', '=']
  | [a, b] =>
    let n := a.toNat * 65536 + b.toNat * 256
    [digit (n / 262144), digit (n / 4096 % 64), digit (n / 64 % 64), '=']
  | a :: b :: c :: rest =>
    let n := a.toNat * 65536 + b.toNat * 256 + c.toNat
    digit (n / 262144) :: digit (n / 4096 % 64) :: digit (n / 64 % 64) :: digit (n % 64) ::
      encodeBytes rest

def encode (text : String) : String := String.ofList (encodeBytes text.toUTF8.toList)

/-- The bytes of a list of six-bit values; a single value left over is no byte. -/
def joinBytes : List Nat → Option (List UInt8)
  | [] => some []
  | [_] => none
  | [a, b] => some [UInt8.ofNat (a * 4 + b / 16)]
  | [a, b, c] => some [UInt8.ofNat (a * 4 + b / 16), UInt8.ofNat (b % 16 * 16 + c / 4)]
  | a :: b :: c :: d :: rest => do
    let bytes ← joinBytes rest
    return UInt8.ofNat (a * 4 + b / 16) :: UInt8.ofNat (b % 16 * 16 + c / 4) ::
      UInt8.ofNat (c % 4 * 64 + d) :: bytes

def isSkipped (c : Char) : Bool := c = ' ' || c = '\t' || c = '\n' || c = '\r'

/-- Decodes a text, passing over blanks. Padding may be left out; when it is there it stands at
the end and fills the last group of four. -/
def decode (cs : List Char) : Option (List UInt8) := do
  let kept := cs.filter (!isSkipped ·)
  let digits := kept.takeWhile (· ≠ '=')
  let padding := kept.dropWhile (· ≠ '=')
  guard (padding.all (· = '='))
  guard (padding.isEmpty || (padding.length ≤ 2 && kept.length % 4 == 0))
  let values ← digits.mapM value?
  joinBytes values

example : encode "admin:passw0rd" = "YWRtaW46cGFzc3cwcmQ=" := by decide +kernel
example : decode "AA==".toList = some [0] := by decide +kernel
example : decode "A=A=".toList = none := by decide +kernel

end MqAdmin.Text.Base64
