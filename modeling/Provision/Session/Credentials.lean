import Provision.Encoding.Pem
import Provision.Json.Record

/-!
# Client credentials

A secret holds a certificate and a key as raw text.  The key may be of any of three kinds; the
first kind of which the text holds a block, even an unusable one, decides.
-/

set_option autoImplicit false

namespace Provision.Session

open Encoding (Pem.Label)
open Encoding.Pem (materialize payloadsOf)

/-- The raw texts of a secret. -/
structure Secret where
  cert : String
  key : String
  deriving DecidableEq, Repr

/-- A secret as it may be shown: the size of the certificate and nothing of the key. -/
def Secret.redacted (secret : Secret) : String :=
  "SecretMaterial \x7b cert: " ++ Text.quoted
    ("<" ++ Number.decimal secret.cert.utf8ByteSize ++ " bytes>") ++ ", key: "
    ++ Text.quoted "<redacted>" ++ " \x7d"

/-- Certificate and key in their regular form. -/
structure Credentials where
  certPem : String
  keyPem : String
  keyLabel : Encoding.Pem.Label
  deriving DecidableEq, Repr

namespace Credentials

/-- How a kind of block is shown. -/
def labelName : Encoding.Pem.Label → String
  | .certificate => "Certificate"
  | .rsaPrivateKey => "RsaPrivateKey"
  | .privateKey => "PrivateKey"
  | .ecPrivateKey => "EcPrivateKey"

/-- Credentials as they may be shown: nothing of the key. -/
def redacted (credentials : Credentials) : String :=
  "ClientCredentials \x7b cert_pem: " ++ Text.quoted credentials.certPem ++ ", key_pem: "
    ++ Text.quoted "<redacted>" ++ ", key_label: " ++ labelName credentials.keyLabel ++ " \x7d"

/-- The kinds of key in the order in which they are looked for. -/
def keyLabels : List Encoding.Pem.Label :=
  [.rsaPrivateKey, .ecPrivateKey, .privateKey]

/-- Brings a secret into regular form. -/
def ofSecret (secret : Secret) : Outcome Credentials := do
  let certPem ← materialize .certificate secret.cert
  let compact := (Text.removeBlanks secret.key).toList
  match keyLabels.find? fun label => !(payloadsOf label compact).isEmpty with
  | none => throw (.format "未找到私钥边界标记")
  | some keyLabel =>
      let keyPem ← materialize keyLabel secret.key
      pure { certPem, keyPem, keyLabel }

end Credentials

end Provision.Session
