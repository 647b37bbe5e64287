import Provision.Failure
import Provision.Json.Reader

/-!
# Exchanges of requests and replies

A client of a service sends requests and goes on with the replies.  An exchange is that as data:
it can be run against any list of replies, and the run tells which requests were sent.
`sent_bind` says that what follows an exchange sends its requests after those of the exchange.
-/

set_option autoImplicit false

namespace Provision.Service

/-! ## Replies -/

/-- The reply to a request. -/
structure Reply where
  status : Nat
  headers : List (String × String)
  body : String
  deriving DecidableEq, Repr

namespace Reply

/-- The reply of a service that has no other left. -/
def exhausted : Reply := ⟨500, [], ""⟩

/-- Whether the request was carried out. -/
def isSuccess (reply : Reply) : Bool :=
  200 ≤ reply.status && reply.status < 300

/-- Whether the request was refused. -/
def isRefusal (reply : Reply) : Bool :=
  400 ≤ reply.status && reply.status < 600

/-- The value of a header; names of headers are the same in any case. -/
def header? (reply : Reply) (name : String) : Option String :=
  (reply.headers.find? fun header => header.1.toLower == name.toLower).map Prod.snd

end Reply

/-! ## Exchanges -/

/-- An exchange of requests `ρ` that ends with a value. -/
inductive Exchange (ρ α : Type) where
  | done (value : α)
  | send (request : ρ) (next : Reply → Exchange ρ α)

namespace Exchange

variable {ρ α β : Type}

/-- Goes on with what follows from the value of an exchange. -/
def bind : Exchange ρ α → (α → Exchange ρ β) → Exchange ρ β
  | .done value, follow => follow value
  | .send request next, follow => .send request fun reply => (next reply).bind follow

instance : Monad (Exchange ρ) where
  pure := .done
  bind := bind

/-- The value of an exchange with the given replies, one to a request, and the replies that are
left. -/
def value : Exchange ρ α → List Reply → α × List Reply
  | .done result, replies => (result, replies)
  | .send _ next, [] => (next .exhausted).value []
  | .send _ next, reply :: replies => (next reply).value replies

/-- The requests that an exchange sends when it gets the given replies. -/
def sent : Exchange ρ α → List Reply → List ρ
  | .done _, _ => []
  | .send request next, [] => request :: (next .exhausted).sent []
  | .send request next, reply :: replies => request :: (next reply).sent replies

theorem sent_bind (exchange : Exchange ρ α) (follow : α → Exchange ρ β) (replies : List Reply) :
    (exchange.bind follow).sent replies
      = exchange.sent replies
        ++ (follow (exchange.value replies).1).sent (exchange.value replies).2 := by
  induction exchange generalizing replies with
  | done value => rfl
  | send request next ih => cases replies <;> simp [bind, sent, value, ih]

end Exchange

/-- An exchange that may fail. -/
abbrev Call (ρ α : Type) := ExceptT Failure (Exchange ρ) α

namespace Call

variable {ρ α : Type}

/-- Sends one request. -/
def send (request : ρ) : Call ρ Reply := ExceptT.mk (.send request fun reply => .done (.ok reply))

end Call

end Provision.Service
