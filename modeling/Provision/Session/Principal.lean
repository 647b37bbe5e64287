import Provision.Failure
import Provision.Text.Blank
import Provision.Text.Pieces
import Provision.Text.Quoted

/-!
# The brokers' own identity

The brokers of a cluster share a domain, and their identity is the wildcard over it.  The domain
is derived from all bootstrap addresses, so that one odd address cannot widen the identity.
-/

set_option autoImplicit false

namespace Provision.Session

/-- The addresses between the commas of a list, without blanks around them and without empty
ones. -/
def splitBrokers (raw : String) : List String :=
  let trimmed := (Text.pieces ',' raw.toList).map Text.trimChars
  (trimmed.filter fun address => !address.isEmpty).map String.ofList

/-- An address without its port: the last colon and the digits behind it. -/
def withoutPort (address : List Char) : List Char :=
  match Text.cutLast ':' address with
  | some (host, port) => if port.all Char.isDigit then host else address
  | none => address

/-- The domain of a broker: its host without the first label. -/
def brokerDomain (broker : String) : Outcome String :=
  let address := Text.trimChars broker.toList
  match Text.cutFirst '.' (withoutPort address) with
  | some (label, domain) =>
      if label.isEmpty || domain.isEmpty then
        .error (.validation ("无法从 Broker 地址推导域名: " ++ String.ofList address))
      else .ok (String.ofList domain)
  | none => .error (.validation ("无法从 Broker 地址推导域名: " ++ String.ofList address))

/-- Adds a text to a list in ascending order without repetition. -/
def insertSorted (text : String) : List String → List String
  | [] => [text]
  | first :: rest =>
      if text = first then first :: rest
      else if text < first then text :: first :: rest
      else first :: insertSorted text rest

/-- The domains of all brokers, in ascending order. -/
def brokerDomains : List String → Outcome (List String)
  | brokers => do
      let domains ← brokers.mapM brokerDomain
      pure (domains.foldr insertSorted [])

/-- The principal of the brokers with the given addresses. -/
def bootstrapPrincipal (brokers : List String) : Outcome String := do
  match ← brokerDomains brokers with
  | [] => throw (.transient "没有可用的引导 Broker 地址")
  | [domain] => pure ("User:CN=*." ++ domain)
  | domains =>
      throw (.validation
        ("引导 Broker 跨越多个域名，无法推导唯一的 Broker 身份: " ++ Text.quotedSet domains))

end Provision.Session
