import MqAdmin.Credentials.Basic
import MqAdmin.Credentials.Pem
import MqAdmin.Settings.File

namespace MqAdmin

inductive KeyForm where
  | pkcs1
  | pkcs8
  | sec1
deriving DecidableEq

structure Identity where
  certificates : List (List UInt8)
  keyForm : KeyForm
  key : List UInt8
deriving DecidableEq

namespace Identity

def keyForm? : Credentials.SectionKind → Option KeyForm
  | .rsaPrivateKey => some .pkcs1
  | .privateKey => some .pkcs8
  | .ecPrivateKey => some .sec1
  | _ => none

/-- The identity in a text that holds sections of certificates and private keys only. There is at
least one of each, and the last key counts. -/
def ofPem? (text : String) : Option Identity := do
  let sections ← Credentials.Pem.sections? text
  let certificates := sections.filter (·.kind = .certificate)
  let others := sections.filter (·.kind ≠ .certificate)
  let keys ← others.mapM fun part => (keyForm? part.kind).map (·, part.bytes)
  guard !certificates.isEmpty
  let (form, key) ← keys.getLast?
  return ⟨certificates.map (·.bytes), form, key⟩

end Identity

/-- The identity of a certificate; other credentials have none. The key may stand in the file of
the certificate or in one of its own. -/
def Credentials.identity : Credentials → ExceptT ConfigFault Dialogue (Option Identity)
  | .certificate certificatePath keyPath => do
    let certificate ← readSettingsFile "client certificate " certificatePath
    let text ← match keyPath with
      | some path => do
        let key ← readSettingsFile "client key " path
        pure (certificate ++ "\n" ++ key)
      | none => pure certificate
    match Identity.ofPem? text with
    | some identity => return some identity
    | none => throw (.clientCertificate "it holds no certificate with its key")
  | _ => return none

end MqAdmin
