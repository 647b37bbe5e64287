import Provision.Service.Operation

/-!
# Replies and their documents

An operation that succeeds has decoded the document of its reply, and nothing else
(`Operation.document?_of_result`). A path through a document is followed in parts
(`Document.follow?_append`), and the document of a body that is written out character by character
is read from the characters (`Reply.document?_of_characters`).
-/

set_option autoImplicit false

namespace Provision

/-! ## Documents -/

namespace Json

/-- One value with nothing but spacing behind it. -/
def Scanner.whole : Scanner Json := do
  let result ← value
  match ← peekPastSpacing with
  | none => pure result
  | some _ => failAhead .trailingCharacters

/-- The object that characters hold. -/
def object? (characters : List Char) : Option Json :=
  match Scanner.whole.run (Cursor.start characters) with
  | .ok (.object members, _) => some (.object members)
  | _ => none

/-- A text that is put together from characters is read from them. -/
theorem read_ofList (characters : List Char) :
    read (String.ofList characters) =
      (Scanner.whole.run (Cursor.start characters)).map Prod.fst := by
  unfold read readWith
  rw [String.toList_ofList]
  rfl

end Json

namespace Service

/-- The document of a reply whose body is put together from characters. -/
theorem Reply.document?_of_characters {reply : Reply} {characters : List Char}
    (body : reply.body = String.ofList characters) (something : characters ≠ []) :
    reply.document? = Json.object? characters := by
  have nonempty : ¬ (String.ofList characters).isEmpty = true := by
    rw [String.isEmpty_iff, String.ofList_eq_empty_iff]
    exact something
  unfold document? Json.object?
  rw [body, if_neg nonempty, Json.read_ofList]
  rcases Json.Scanner.whole.run (Json.Cursor.start characters) with fault | ⟨value, cursor⟩
  · rfl
  · cases value <;> rfl

/-- A path goes on from the member that it names first. -/
theorem Document.follow?_cons (name : String) (path : List String) (members : Properties) :
    follow? (name :: path) (.object members) =
      (Properties.get? members name).elim (some none) (follow? path) := by
  rw [follow?]
  cases Properties.get? members name <;> rfl

/-- A path is followed in parts. -/
theorem Document.follow?_append (first second : List String) (document : Json) :
    follow? (first ++ second) document =
      (follow? first document).bind fun found => found.elim (some none) (follow? second) := by
  induction first generalizing document with
  | nil => cases document <;> first | rfl | (cases second <;> rfl)
  | cons name rest ih =>
      cases document with
      | object members =>
          rw [List.cons_append, follow?_cons, follow?_cons]
          cases Properties.get? members name with
          | none => rfl
          | some value => exact ih value
      | _ => rfl

/-! ## Results -/

theorem Exchange.value_bind {ρ α β : Type} (exchange : Exchange ρ α) (follow : α → Exchange ρ β)
    (replies : List Reply) :
    (exchange.bind follow).value replies =
      (follow (exchange.value replies).1).value (exchange.value replies).2 := by
  induction exchange generalizing replies with
  | done value => rfl
  | send request next ih =>
      cases replies with
      | nil => exact ih _ _
      | cons reply later => exact ih _ _

/-- The document of a reply has been decoded. -/
theorem Operation.document?_of_result {α : Type} {operation : Operation} {decode : Json → Option α}
    {reply : Reply} {value : α} (succeeded : operation.result decode reply = .ok value) :
    ∃ document, reply.document? = some document ∧ decode document = some value := by
  unfold result at succeeded
  split at succeeded
  · split at succeeded
    · rename_i found read
      cases succeeded
      exact Option.bind_eq_some_iff.mp read
    · cases succeeded
  · cases succeeded

theorem Operation.result_of_document? {α : Type} {operation : Operation} {decode : Json → Option α}
    {reply : Reply} {document : Json} {value : α} (success : reply.isSuccess = true)
    (read : reply.document? = some document) (decoded : decode document = some value) :
    operation.result decode reply = .ok value := by
  unfold result
  rw [if_pos success, read, Option.bind_some, decoded]

end Service

end Provision
