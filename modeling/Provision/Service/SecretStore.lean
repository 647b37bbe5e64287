import Provision.Encoding.Base64
import Provision.Json.Record
import Provision.Service.Exchange
import Provision.Session.Credentials
import Provision.Settings.Basic
import Provision.Text.Pieces
import Provision.Text.Utf8

/-!
# The store of secrets

A secret is named alone or together with its namespace.  It holds encoded fields and plain ones;
an encoded field is preferred to a plain one of the same name.
-/

set_option autoImplicit false

namespace Provision.Service.SecretStore

open Json (Codec Record)
open Session (Secret)

/-- A request to the store; all requests read. -/
structure Request where
  path : String

/-! ## Places -/

/-- Where a secret is kept. -/
structure Place where
  namespaceName : String
  name : String
  deriving DecidableEq, Repr

namespace Place

/-- The place of a secret: in the namespace before the first slash if there are names on both
sides of it, else under the whole name in the namespace of the settings. -/
def ofName (settings : Settings.Secrets) (name : String) : Place :=
  match Text.cutFirst '/' name.toList with
  | some (before, after) =>
      if before.isEmpty || after.isEmpty then ⟨settings.namespaceName, name⟩
      else ⟨String.ofList before, String.ofList after⟩
  | none => ⟨settings.namespaceName, name⟩

/-- The place in a message. -/
def display (place : Place) : String := place.namespaceName ++ "/" ++ place.name

/-- What is asked for to read the secret of a place. -/
def target (place : Place) : String :=
  "/api/v1/namespaces/" ++ place.namespaceName ++ "/secrets/" ++ place.name

end Place

/-- The characters of a path; all others would have to be encoded. -/
def isPathChar (character : Char) : Bool :=
  '!' ≤ character && character ≤ '~' && !"<>\x60".toList.contains character

/-- The characters of a query; all others would have to be encoded. -/
def isQueryChar (character : Char) : Bool :=
  '!' ≤ character && character ≤ '~' && !"\"<>".toList.contains character

/-- The path that a target leads to, without a query and a fragment behind it; a target with
characters that would have to be encoded leads nowhere. -/
def targetPath? (target : List Char) : Option String :=
  let (path, rest) := target.span fun character => character != '?' && character != '#'
  let query := (rest.drop 1).takeWhile fun character => character != '#'
  let queried := rest.head? == some '?'
  if path.all isPathChar && (!queried || query.all isQueryChar) then some (String.ofList path)
  else none

/-! ## Refusals -/

/-- What the store says of a request that it refuses. -/
structure Refusal where
  status : String
  message : String
  reason : String
  code : Nat
  deriving DecidableEq, Repr

namespace Refusal

/-- The fields of a refusal. -/
def record : Record Refusal Refusal :=
  Refusal.mk
    <$> .required "status" Codec.text Refusal.status
    <*> .defaulted "message" Codec.text "" Refusal.message
    <*> .defaulted "reason" Codec.text "" Refusal.reason
    <*> .required "code" (Codec.unsigned 16) Refusal.code

/-- The refusal in a reply; a body of another form counts by the status of the reply. -/
def ofReply (reply : Reply) : Refusal :=
  match (record.codec "ErrorResponse").read reply.body with
  | .ok refusal => refusal
  | .error _ => ⟨Number.decimal reply.status, reply.body, "", reply.status⟩

/-- The failure to read a secret. -/
def failure (place : Place) (refusal : Refusal) : Failure :=
  if refusal.reason == "NotFound" then
    .validation ("密钥 " ++ place.display ++ " 不存在")
  else
    let kind : FailureKind :=
      if refusal.code == 401 || refusal.code == 403 then .permissionDenied else .transient
    ⟨kind, "读取密钥 " ++ place.display ++ " 失败"⟩

end Refusal

/-! ## Documents -/

/-- The fields of a secret as they are stored. -/
structure Fields where
  encoded : List (String × List UInt8)
  plain : List (String × String)

namespace Fields

/-- The members of an object that may be missing or null. -/
def members? (name : String) (document : Properties) : Option Properties :=
  match document.get? name with
  | none => some []
  | some .null => some []
  | some (.object members) => some members
  | some _ => none

/-- The bytes of an encoded field; null stands for none. -/
def bytes? : Json → Option (List UInt8)
  | .null => some []
  | .text encoded => (Encoding.Base64.decodeText encoded.toList).toOption
  | _ => none

/-- A plain field. -/
def plain? : Json → Option String
  | .text value => some value
  | _ => none

/-- Whether a member, if it is present, is the given text. -/
def agrees (name expected : String) (document : Properties) : Bool :=
  match document.get? name with
  | none => true
  | some (.text value) => value == expected
  | some _ => false

/-- The fields in a document, if it is one of a secret. -/
def ofDocument? : Json → Option Fields
  | .object document => do
      guard (agrees "apiVersion" "v1" document && agrees "kind" "Secret" document)
      let _ ← members? "metadata" document
      let encoded ← (← members? "data" document).mapM fun (name, value) => do
        some (name, ← bytes? value)
      let plain ← (← members? "stringData" document).mapM fun (name, value) => do
        some (name, ← plain? value)
      some ⟨encoded, plain⟩
  | _ => none

/-- The text of a field. -/
def text (fields : Fields) (place : Place) (name : String) : Outcome String :=
  match fields.encoded.lookup name with
  | some bytes =>
      match Text.decode? bytes with
      | some characters => .ok (String.ofList characters)
      | none =>
          .error (.format ("密钥 " ++ place.display ++ " 的字段 " ++ name ++ " 不是 UTF-8 文本"))
  | none =>
      match fields.plain.lookup name with
      | some value => .ok value
      | none => .error (.validation ("密钥 " ++ place.display ++ " 缺少字段 " ++ name))

end Fields

/-! ## Reading -/

/-- The failure to read a secret for no reason of the store. -/
def unreadable (place : Place) : Failure :=
  Refusal.failure place ⟨"", "", "", 0⟩

/-- The secret in a reply. -/
def ofReply (settings : Settings.Secrets) (place : Place) (reply : Reply) : Outcome Secret :=
  if reply.isRefusal then .error ((Refusal.ofReply reply).failure place)
  else
    match (Json.read reply.body).toOption.bind Fields.ofDocument? with
    | none => .error (unreadable place)
    | some fields => do
        let cert ← fields.text place settings.certField
        let key ← fields.text place settings.keyField
        .ok ⟨cert, key⟩

/-- Reads a secret; nothing is sent for a place that cannot be asked for. -/
def getSecret (settings : Settings.Secrets) (name : String) : Call Request Secret := do
  let place := Place.ofName settings name
  match targetPath? place.target.toList with
  | none => throw (unreadable place)
  | some path =>
      let reply ← Call.send ⟨path⟩
      ExceptT.mk (.done (ofReply settings place reply))

end Provision.Service.SecretStore
