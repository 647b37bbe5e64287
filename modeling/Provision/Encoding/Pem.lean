import Provision.Encoding.Base64
import Provision.Failure
import Provision.Text.Blank
import Provision.Text.Pieces

/-!
# PEM blocks

Secrets do not reliably keep the line breaks of PEM text.  So all blanks are removed first, also
those inside the markers; then the payload between each begin marker and the next end marker is
taken and written anew in lines of 64 characters.
-/

set_option autoImplicit false

namespace Provision.Encoding.Pem

/-- What a block holds. -/
inductive Label where
  | certificate
  | rsaPrivateKey
  | privateKey
  | ecPrivateKey
  deriving DecidableEq, Repr

namespace Label

/-- The words of the label. -/
def words : Label → String
  | .certificate => "CERTIFICATE"
  | .rsaPrivateKey => "RSA PRIVATE KEY"
  | .privateKey => "PRIVATE KEY"
  | .ecPrivateKey => "EC PRIVATE KEY"

/-- The line before a block. -/
def beginMarker (label : Label) : String :=
  "-----BEGIN " ++ label.words ++ "-----"

/-- The line behind a block. -/
def endMarker (label : Label) : String :=
  "-----END " ++ label.words ++ "-----"

/-- The begin marker without blanks. -/
def compactBegin (label : Label) : List Char :=
  (Text.removeBlanks label.beginMarker).toList

/-- The end marker without blanks. -/
def compactEnd (label : Label) : List Char :=
  (Text.removeBlanks label.endMarker).toList

end Label

/-! ## Writing -/

/-- The longest line of a payload, in bytes. -/
def lineWidth : Nat := 64

/-- Pieces of the given length, the last of which may be shorter; of length one if the length is
zero. -/
def cutEvery {α : Type} (length : Nat) : List α → List (List α)
  | [] => []
  | item :: rest => (item :: rest.take (length - 1)) :: cutEvery length (rest.drop (length - 1))
  termination_by items => items.length
  decreasing_by simp only [List.length_drop, List.length_cons]; omega

/-- A payload between its markers, in lines. -/
def format (label : Label) (payload : List Char) : String :=
  let lines := (cutEvery lineWidth (Text.utf8 payload)).map Text.decodeLossy
  Text.joined "\n" (label.beginMarker :: lines.map String.ofList ++ [label.endMarker])

/-! ## Reading -/

/-- The text before the first occurrence of a marker, and the text behind it. -/
def cutAtMarker (marker : List Char) : List Char → Option (List Char × List Char)
  | [] => (Text.afterOpening marker []).map fun rest => ([], rest)
  | character :: rest =>
      match Text.afterOpening marker (character :: rest) with
      | some behind => some ([], behind)
      | none =>
          (cutAtMarker marker rest).map fun (before, behind) => (character :: before, behind)

/-- What stands between each begin marker and the next end marker; `fuel` bounds the number of
blocks. -/
def payloadsWithin (first last : List Char) : Nat → List Char → List (List Char)
  | 0, _ => []
  | fuel + 1, text =>
      match cutAtMarker first text with
      | none => []
      | some (_, opened) =>
          match cutAtMarker last opened with
          | none => []
          | some (payload, behind) => payload :: payloadsWithin first last fuel behind

/-- The payloads of the blocks in a text without blanks. -/
def payloadsOf (label : Label) (compact : List Char) : List (List Char) :=
  payloadsWithin label.compactBegin label.compactEnd compact.length compact

/-- Refuses an empty payload and one that is not base64. -/
def checkPayload (label : Label) (payload : List Char) : Outcome Unit :=
  if payload.isEmpty then .error (.format (label.words ++ " 块内容为空"))
  else
    match Base64.decodeText payload with
    | .ok _ => .ok ()
    | .error fault =>
        .error (.format (label.words ++ " 块不是有效的 base64: " ++ fault.message))

/-- The payloads of all blocks in a raw text. -/
def extract (label : Label) (raw : String) : Outcome (List (List Char)) := do
  let payloads := payloadsOf label (Text.removeBlanks raw).toList
  if payloads.isEmpty then throw (.format ("未找到 " ++ label.beginMarker ++ " 边界标记"))
  payloads.forM (checkPayload label)
  pure payloads

/-- The payload of the first block in a raw text. -/
def extractFirst (label : Label) (raw : String) : Outcome (List Char) := do
  match ← extract label raw with
  | payload :: _ => pure payload
  | [] => throw (.format ("未找到 " ++ label.words ++ " 块"))

/-- The blocks of a raw text in their regular form. -/
def materialize (label : Label) (raw : String) : Outcome String := do
  let payloads ← extract label raw
  pure (Text.joined "\n" (payloads.map (format label)))

end Provision.Encoding.Pem
