import MqAdmin.Credentials.Der
import MqAdmin.Credentials.Identity

/-!
Whether an identity can be shown: its key has a known form, and it belongs to the first
certificate.
-/

namespace MqAdmin

namespace Credentials

structure PublicKey where
  algorithm : List UInt8
  bits : List UInt8
deriving DecidableEq

/-- What a private key says of the public key that it goes with; not every one holds its bits. -/
structure PrivateKey where
  algorithm : List UInt8
  bits : Option (List UInt8)
deriving DecidableEq

/-- Whether a private and a public key go together, as far as the private one says. -/
def PrivateKey.fits (key : PrivateKey) (other : PublicKey) : Bool :=
  key.algorithm == other.algorithm && key.bits.all (· == other.bits)

def publicKey? (certificate : List UInt8) : Option PublicKey := do
  let parts ← Der.sequence? certificate
  let body ← (← parts.head?).inner?
  let fields := match body with
    | field :: rest => if field.tag = Der.Tag.zeroth.byte then rest else body
    | [] => []
  match ← (← fields[5]?).inner? with
  | [algorithm, bits] =>
    return ⟨← algorithm.content? .sequence, ← bits.content? .bits⟩
  | _ => none

/-- The curves that keys are drawn on: the bytes that name each, and the size of a key. -/
def curves : List (List UInt8 × Nat) := [
  ([0x2A, 0x86, 0x48, 0xCE, 0x3D, 0x03, 0x01, 0x07], 32), ([0x2B, 0x81, 0x04, 0x00, 0x22], 48)]

/-- The bytes that name keys on curves, keys of two primes, and keys of the Edwards curve. -/
def curveKey : List UInt8 := [0x2A, 0x86, 0x48, 0xCE, 0x3D, 0x02, 0x01]
def primesKey : List UInt8 := [0x2A, 0x86, 0x48, 0x86, 0xF7, 0x0D, 0x01, 0x01, 0x01]
def edwardsKey : List UInt8 := [0x2B, 0x65, 0x70]

def curveAlgorithm (curve : List UInt8) : List UInt8 :=
  Der.encode .identifier curveKey ++ Der.encode .identifier curve

/-- A key on a curve. It holds its public point; the curve it may name is the given one. -/
def onCurve? (curve : List UInt8) (size : Nat) (bytes : List UInt8) : Option PrivateKey := do
  match ← Der.sequence? bytes with
  | version :: scalar :: rest =>
    guard ((← version.content? .integer) == [1])
    guard ((← scalar.content? .octets).length == size)
    let rest ← match rest with
      | field :: others =>
        if field.tag = Der.Tag.zeroth.byte then
          guard ((← Der.only? .identifier field.content) == curve)
          pure others
        else pure rest
      | [] => none
    let point ← (← rest.head?).content? .first
    return ⟨curveAlgorithm curve, some (← Der.only? .bits point)⟩
  | _ => none

/-- A key of two primes, with a modulus of 2048 to 4096 bits. -/
def ofPrimes? (bytes : List UInt8) : Option PrivateKey := do
  let fields ← (← Der.sequence? bytes).mapM (·.content? .integer)
  match fields with
  | [version, modulus, exponent, _, _, _, _, _, _] =>
    guard (version == [0])
    let size := (modulus.dropWhile (· = 0)).length
    guard (256 ≤ size && size ≤ 512)
    let pair := Der.encode .integer modulus ++ Der.encode .integer exponent
    return ⟨Der.encode .identifier primesKey ++ [0x05, 0x00], some (0 :: Der.encode .sequence pair)⟩
  | _ => none

def named? (bytes : List UInt8) : Option PrivateKey := do
  match ← Der.sequence? bytes with
  | version :: algorithm :: key :: _ =>
    guard ((← version.content? .integer) ∈ [[0], [1]])
    let key ← key.content? .octets
    match (← algorithm.inner?).map (·.content) with
    | [name, parameter] =>
      if name = primesKey then ofPrimes? key
      else if name = curveKey then onCurve? parameter (← curves.lookup parameter) key
      else none
    | [name] =>
      guard (name = edwardsKey && (← Der.only? .octets key).length == 32)
      return ⟨Der.encode .identifier edwardsKey, none⟩
    | _ => none
  | _ => none

def privateKey? : KeyForm → List UInt8 → Option PrivateKey
  | .pkcs1, bytes => ofPrimes? bytes
  | .pkcs8, bytes => named? bytes
  | .sec1, bytes => curves.findSome? fun (curve, size) => onCurve? curve size bytes

end Credentials

/-- Whether a connection can show the identity. -/
def Identity.isUsable (identity : Identity) : Bool :=
  match Credentials.privateKey? identity.keyForm identity.key,
    identity.certificates.head?.bind Credentials.publicKey? with
  | some key, some other => key.fits other
  | _, _ => false

end MqAdmin
