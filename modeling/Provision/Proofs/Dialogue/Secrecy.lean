import Mathlib.Data.List.Forall2
import Provision.Proofs.Dialogue.Punctuality
import Provision.Proofs.Session.Credentials

/-!
# What is told of a key

Two secrets are twins if nothing but the texts of their keys tells them apart. Two dialogues
resemble each other if they ask the same and end with the same, whatever is replied, where a secret
may be replied to one of them and its twin to the other; only in the credentials of a connection may
they differ, and there in the key (`Dialogue.Resembles`). A dialogue is discreet if it resembles
itself (`Dialogue.Discreet`): then it has no other use for a key than to connect with it.

Discretion is a property of two runs of one dialogue. With services that answer alike, as long as
the key does not count for them, the two runs end at the same time with the same value, and what is
shown of the secrets and of the connections is the same (`Dialogue.Resembles.outlast`).
-/

set_option autoImplicit false

namespace Provision

open Dialogue (ConnectOptions Request)
open Session (Credentials Secret)

/-! ## Twins -/

namespace Session

/-- The secrets have the same certificate, and keys of the same kind that can both be brought into
regular form. -/
structure Secret.Twins (first second : Secret) : Prop where
  cert : first.cert = second.cert
  keys : ∃ label, Credentials.kindOf first.key = some label ∧
    Credentials.kindOf second.key = some label ∧
    (∃ pem, Encoding.Pem.materialize label first.key = .ok pem) ∧
    ∃ pem, Encoding.Pem.materialize label second.key = .ok pem

/-- The credentials are the same but for the key. -/
structure Credentials.Alike (first second : Credentials) : Prop where
  certPem : first.certPem = second.certPem
  keyLabel : first.keyLabel = second.keyLabel

/-- Nothing of the key is shown of a secret. -/
theorem Secret.Twins.redacted_eq {first second : Secret} (twins : first.Twins second) :
    first.redacted = second.redacted := by
  unfold Secret.redacted
  simp only [twins.cert]

theorem Credentials.Alike.refl (credentials : Credentials) : credentials.Alike credentials :=
  ⟨rfl, rfl⟩

/-- Nothing of the key is shown of credentials. -/
theorem Credentials.Alike.redacted_eq {first second : Credentials} (alike : first.Alike second) :
    first.redacted = second.redacted := by
  unfold Credentials.redacted
  simp only [alike.certPem, alike.keyLabel]

/-- The secrets are equal or twins, or they could not be read for the same reason. -/
inductive SecretsAlike : Outcome Secret → Outcome Secret → Prop where
  | same (reply : Outcome Secret) : SecretsAlike reply reply
  | twins {first second : Secret} (twins : first.Twins second) :
      SecretsAlike (.ok first) (.ok second)

/-- Twins make credentials that are alike, or fail with the same failure. -/
theorem Secret.Twins.ofSecret {first second : Secret} (twins : first.Twins second) :
    (∃ failure, Credentials.ofSecret first = .error failure ∧
        Credentials.ofSecret second = .error failure) ∨
      ∃ here there, Credentials.ofSecret first = .ok here ∧
        Credentials.ofSecret second = .ok there ∧ here.Alike there := by
  obtain ⟨label, kind, same, ⟨pem, key⟩, other, second_key⟩ := twins.keys
  cases cert : Encoding.Pem.materialize .certificate first.cert with
  | error failure =>
      refine .inl ⟨failure, ?_, ?_⟩
      · rw [Credentials.ofSecret, cert]
        rfl
      · rw [Credentials.ofSecret, ← twins.cert, cert]
        rfl
  | ok certPem =>
      refine .inr ⟨⟨certPem, pem, label⟩, ⟨certPem, other, label⟩, ?_, ?_, ⟨rfl, rfl⟩⟩
      · exact Credentials.ofSecret_eq_ok.mpr ⟨cert, kind, key⟩
      · exact Credentials.ofSecret_eq_ok.mpr ⟨twins.cert ▸ cert, same, second_key⟩

end Session

/-- The connections are the same but for the key. -/
structure Dialogue.ConnectOptions.Alike (first second : ConnectOptions) : Prop where
  clientId : first.clientId = second.clientId
  brokers : first.brokers = second.brokers
  credentials : first.credentials.Alike second.credentials
  requestMs : first.requestMs = second.requestMs
  debug : first.debug = second.debug

/-- Nothing of the key is shown of a connection. -/
theorem Dialogue.ConnectOptions.Alike.redacted_eq {first second : ConnectOptions}
    (alike : first.Alike second) : first.redacted = second.redacted := by
  unfold ConnectOptions.redacted
  simp only [alike.clientId, alike.brokers, alike.credentials.redacted_eq, alike.requestMs,
    alike.debug]

/-! ## Dialogues that resemble each other -/

/-- Whether the request is for a secret. -/
def Dialogue.Request.readsSecret : Request → Bool
  | .getSecret _ => true
  | _ => false

variable {α β : Type}

namespace Dialogue

/-- The dialogues go the same way and end with the same value, whichever of two twins is the secret.
-/
inductive Resembles {α : Type} : Dialogue α → Dialogue α → Prop where
  | done (value : α) : Resembles (.done value) (.done value)
  | ask {request : Request} {next other : request.Reply → Dialogue α}
      (plain : request.readsSecret = false) (rest : ∀ reply, Resembles (next reply) (other reply)) :
      Resembles (.ask request next) (.ask request other)
  | secret {name : String} {next other : Request.Reply (.getSecret name) → Dialogue α}
      (rest : ∀ reply instead : Outcome Secret, Session.SecretsAlike reply instead →
        Resembles (next reply) (other instead)) :
      Resembles (.ask (.getSecret name) next) (.ask (.getSecret name) other)
  | askWithin {limit : Nat} {request : Request} {next other : Option request.Reply → Dialogue α}
      (plain : request.readsSecret = false) (rest : ∀ reply, Resembles (next reply) (other reply)) :
      Resembles (.askWithin limit request next) (.askWithin limit request other)
  | connect {limit : Nat} {first second : ConnectOptions}
      {next : Option (Request.Reply (.connect first)) → Dialogue α}
      {other : Option (Request.Reply (.connect second)) → Dialogue α} (alike : first.Alike second)
      (rest : ∀ reply : Option (Except Session.AdminFailure Unit),
        Resembles (next reply) (other reply)) :
      Resembles (.askWithin limit (.connect first) next) (.askWithin limit (.connect second) other)
  | pause {duration : Nat} {next other : Unit → Dialogue α}
      (rest : Resembles (next ()) (other ())) :
      Resembles (.pause duration next) (.pause duration other)
  | clock {next other : Nat → Dialogue α} (rest : ∀ time, Resembles (next time) (other time)) :
      Resembles (.clock next) (.clock other)

/-- The dialogue has no use for a key but to connect with it. -/
def Discreet (dialogue : Dialogue α) : Prop :=
  dialogue.Resembles dialogue

theorem Resembles.bind {dialogue other : Dialogue α} {follow instead : α → Dialogue β}
    (first : dialogue.Resembles other)
    (second : ∀ value, (follow value).Resembles (instead value)) :
    (dialogue.bind follow).Resembles (other.bind instead) := by
  induction first with
  | done value => exact second value
  | ask plain _ ih => exact .ask plain ih
  | secret _ ih => exact .secret ih
  | askWithin plain _ ih => exact .askWithin plain ih
  | connect alike _ ih => exact .connect alike ih
  | pause _ ih => exact .pause ih
  | clock _ ih => exact .clock ih

theorem Discreet.bind {dialogue : Dialogue α} {follow : α → Dialogue β} (first : dialogue.Discreet)
    (second : ∀ value, (follow value).Discreet) : (dialogue.bind follow).Discreet :=
  Resembles.bind first second

theorem Discreet.bind_done {dialogue : Dialogue α} {view : α → β} (discreet : dialogue.Discreet) :
    (dialogue.bind fun value => .done (view value)).Discreet :=
  discreet.bind fun value => .done (view value)

/-! ## Two runs -/

/-- The exchanges are the same, or a secret is replied in one and its twin in the other, or the
connections are the same but for the key. -/
inductive ExchangesAlike : TimedExchange → TimedExchange → Prop where
  | same (exchange : TimedExchange) : ExchangesAlike exchange exchange
  | secret {name : String} {first second : Secret} {asked answered : Nat}
      (twins : first.Twins second) :
      ExchangesAlike ⟨⟨.getSecret name, some (.ok first)⟩, asked, answered⟩
        ⟨⟨.getSecret name, some (.ok second)⟩, asked, answered⟩
  | connect {first second : ConnectOptions} {reply : Option (Except Session.AdminFailure Unit)}
      {asked answered : Nat} (alike : first.Alike second) :
      ExchangesAlike ⟨⟨.connect first, reply⟩, asked, answered⟩
        ⟨⟨.connect second, reply⟩, asked, answered⟩

/-- What an exchange shows of a secret: the secret that has been read, or the connection that is to
be made. -/
def shown : TimedExchange → Option String
  | ⟨⟨.getSecret _, some (.ok secret)⟩, _, _⟩ => some (Session.Secret.redacted secret)
  | ⟨⟨.connect options, _⟩, _, _⟩ => some options.redacted
  | _ => none

theorem ExchangesAlike.shown_eq {first second : TimedExchange}
    (alike : ExchangesAlike first second) : shown first = shown second := by
  cases alike with
  | same => rfl
  | secret twins => exact congrArg some twins.redacted_eq
  | connect alike => exact congrArg some alike.redacted_eq

/-- Two runs that nobody outside can tell apart: they end with the same value at the same time, have
made the same exchanges but for the key, and show the same of them. -/
structure SameOutside (first second : List TimedExchange × α × Nat) : Prop where
  log : List.Forall₂ ExchangesAlike first.1 second.1
  shown : first.1.map Dialogue.shown = second.1.map Dialogue.shown
  value : first.2.1 = second.2.1
  ended : first.2.2 = second.2.2

variable {First Second : Type} {service : Service First} {other : Service Second}
  {latency : Request → First → Option Nat} {delay : Request → Second → Option Nat}
  {alike : First → Second → Prop}

/-- The services answer alike, and within the same time, as long as the key does not count: to the
same requests, and to connections that are the same but for the key. A secret of the first may be
the twin of that of the second. -/
structure AnswerAlike (service : Service First) (other : Service Second)
    (latency : Request → First → Option Nat) (delay : Request → Second → Option Nat)
    (alike : First → Second → Prop) : Prop where
  plain : ∀ {request : Request} {here : First} {there : Second},
    request.readsSecret = false → alike here there →
      (service request here).1 = (other request there).1 ∧
        alike (service request here).2 (other request there).2 ∧
        latency request here = delay request there
  secret : ∀ {name : String} {here : First} {there : Second}, alike here there →
    Session.SecretsAlike (service (.getSecret name) here).1 (other (.getSecret name) there).1 ∧
      alike (service (.getSecret name) here).2 (other (.getSecret name) there).2 ∧
      latency (.getSecret name) here = delay (.getSecret name) there
  connect : ∀ {first second : ConnectOptions} {here : First} {there : Second},
    first.Alike second → alike here there →
      (service (.connect first) here).1 = (other (.connect second) there).1 ∧
        alike (service (.connect first) here).2 (other (.connect second) there).2 ∧
        latency (.connect first) here = delay (.connect second) there

/-- One exchange more makes no difference. -/
theorem SameOutside.preceded {first second : Option (List TimedExchange × α × Nat)}
    {exchange instead : TimedExchange} (here : ExchangesAlike exchange instead)
    (rest : Option.Rel SameOutside first second) :
    Option.Rel SameOutside (preceded exchange first) (preceded instead second) := by
  cases rest with
  | none => exact .none
  | some same =>
      refine .some ⟨.cons here same.log, ?_, same.value, same.ended⟩
      simp only [List.map_cons, here.shown_eq, same.shown]

/-- Where one of the runs comes to what is looked for, the other one comes to the same. -/
theorem exists_of_rel_sameOutside {first second : Option (List TimedExchange × Outcome α × Nat)}
    {test : Outcome α → Bool} (same : Option.Rel SameOutside first second)
    (passes : (first.map fun found => test found.2.1) = some true) :
    ∃ log outcome ended record, first = some (log, outcome, ended) ∧
      second = some (record, outcome, ended) ∧ test outcome = true ∧
      SameOutside (log, outcome, ended) (record, outcome, ended) := by
  cases same with
  | none => cases passes
  | @some one two same =>
      obtain ⟨log, outcome, ended⟩ := one
      obtain ⟨record, other, finished⟩ := two
      cases same.value
      cases same.ended
      exact ⟨log, outcome, ended, record, rfl, rfl, Option.some.inj passes, same⟩

/-- **Dialogues that resemble each other cannot be told apart outside**, with services that answer
alike. -/
theorem Resembles.outlast {dialogue instead : Dialogue α} (resembles : dialogue.Resembles instead)
    (answers : AnswerAlike service other latency delay alike) {here : First} {there : Second}
    (states : alike here there) (began : Nat) :
    Option.Rel SameOutside (dialogue.outlast service latency here began)
      (instead.outlast other delay there began) := by
  induction resembles generalizing here there began with
  | done value => exact .some ⟨.nil, rfl, rfl, rfl⟩
  | @ask request next follow plain _ ih =>
      obtain ⟨reply, later, time⟩ := answers.plain plain states
      cases prompt : latency request here with
      | none =>
          rw [outlast_ask_silent prompt, outlast_ask_silent (time ▸ prompt)]
          exact .none
      | some wait =>
          rw [outlast_ask prompt, outlast_ask (time ▸ prompt), reply]
          exact SameOutside.preceded (.same _) (ih _ later _)
  | @secret name next follow _ ih =>
      obtain ⟨replies, later, time⟩ := @answers.secret name here there states
      cases prompt : latency (.getSecret name) here with
      | none =>
          rw [outlast_ask_silent prompt, outlast_ask_silent (time ▸ prompt)]
          exact .none
      | some wait =>
          rw [outlast_ask prompt, outlast_ask (time ▸ prompt)]
          refine SameOutside.preceded ?_ (ih _ _ replies later _)
          generalize (service (.getSecret name) here).1 = reply,
            (other (.getSecret name) there).1 = instead at replies
          cases replies with
          | same => exact .same _
          | twins twins => exact .secret twins
  | @askWithin limit request next follow plain _ ih =>
      obtain ⟨reply, later, time⟩ := answers.plain plain states
      cases prompt : (latency request here).filter fun delay => decide (delay ≤ limit) with
      | none =>
          rw [outlast_giveUp prompt, outlast_giveUp (time ▸ prompt)]
          exact SameOutside.preceded (.same _) (ih none later _)
      | some wait =>
          rw [outlast_askWithin prompt, outlast_askWithin (time ▸ prompt), reply]
          exact SameOutside.preceded (.same _) (ih (some _) later _)
  | @connect limit first second next follow same _ ih =>
      obtain ⟨reply, later, time⟩ := answers.connect same states
      cases prompt : (latency (.connect first) here).filter fun delay => decide (delay ≤ limit) with
      | none =>
          rw [outlast_giveUp prompt, outlast_giveUp (time ▸ prompt)]
          exact SameOutside.preceded (.connect same) (ih none later _)
      | some wait =>
          rw [outlast_askWithin prompt, outlast_askWithin (time ▸ prompt), reply]
          exact SameOutside.preceded (.connect same) (ih (some _) later _)
  | pause _ ih => exact ih states _
  | clock _ ih => exact ih began states began

end Dialogue

/-! ## Discreet flows -/

namespace Flow

/-- The flow has no use for a key but to connect with it. -/
def Discreet (flow : Flow α) : Prop :=
  Dialogue.Discreet flow.run

variable {flow : Flow α} {follow : α → Flow β}

theorem resembles_bind {other : Flow α} {instead : α → Flow β}
    (first : Dialogue.Resembles flow.run other.run)
    (second : ∀ value, Dialogue.Resembles (follow value).run (instead value).run) :
    Dialogue.Resembles (flow >>= follow).run (other >>= instead).run := by
  rw [run_bind, run_bind]
  refine first.bind fun outcome => ?_
  cases outcome with
  | ok value => exact second value
  | error failure => exact .done _

theorem discreet_bind (first : flow.Discreet) (second : ∀ value, (follow value).Discreet) :
    (flow >>= follow).Discreet :=
  resembles_bind first second

theorem discreet_ofOutcome (outcome : Outcome α) : (ofOutcome outcome).Discreet := .done _

theorem discreet_pure (value : α) : (pure value : Flow α).Discreet := .done _

theorem discreet_throw (failure : Failure) : (throw failure : Flow α).Discreet := .done _

theorem discreet_lift {dialogue : Dialogue α} (discreet : dialogue.Discreet) :
    Flow.Discreet (ExceptT.lift dialogue) :=
  discreet.bind_done

theorem discreet_ite {condition : Prop} [Decidable condition] {first second : Flow α}
    (holds : first.Discreet) (fails : second.Discreet) :
    (if condition then first else second).Discreet := by
  split
  · exact holds
  · exact fails

/-- What is known is known to both. -/
theorem discreet_ofOutcome_bind {known : Outcome α} (follows : ∀ value, (follow value).Discreet) :
    (ofOutcome known >>= follow).Discreet :=
  discreet_bind (discreet_ofOutcome known) follows

/-- A flow that looks at the clock sees the same time. -/
theorem discreet_now_bind {follow : Nat → Flow β} (follows : ∀ time, (follow time).Discreet) :
    Discreet (ExceptT.lift Dialogue.now >>= follow) :=
  .clock follows

end Flow

/-! ## Sessions -/

namespace Session

variable {opening : Opening} {properties : Properties} {handle : Handle}
  {call : Dialogue.AdminCall}

/-- Of a secret nothing but its credentials is used. -/
theorem resembles_credentials_bind {name : String} {follow instead : Credentials → Flow α}
    (follows : ∀ here there, here.Alike there →
      Dialogue.Resembles (follow here).run (instead there).run) :
    Dialogue.Resembles
      (Flow.getSecret name >>= fun secret =>
        Flow.ofOutcome (Credentials.ofSecret secret) >>= follow).run
      (Flow.getSecret name >>= fun secret =>
        Flow.ofOutcome (Credentials.ofSecret secret) >>= instead).run := by
  rw [Flow.run_bind, Flow.run_bind]
  refine .secret fun reply other alike => ?_
  cases alike with
  | twins twins =>
      show Dialogue.Resembles (Flow.ofOutcome _ >>= follow).run (Flow.ofOutcome _ >>= instead).run
      rcases twins.ofSecret with ⟨failure, first, second⟩ | ⟨here, there, first, second, alike⟩
      · rw [first, second]
        exact .done _
      · rw [first, second]
        exact follows here there alike
  | same =>
      cases reply with
      | error failure => exact .done _
      | ok secret =>
          show Dialogue.Resembles (Flow.ofOutcome _ >>= follow).run
            (Flow.ofOutcome _ >>= instead).run
          cases Credentials.ofSecret secret with
          | error failure => exact .done _
          | ok credentials => exact follows _ _ (.refl credentials)

theorem resembles_connect (cluster : Cluster.Reference) (limit : Nat)
    {first second : ConnectOptions} (alike : first.Alike second) :
    Dialogue.Resembles (connect cluster limit first).run (connect cluster limit second).run := by
  rw [connect_run, connect_run]
  exact .connect alike fun reply => .done _

/-- **To open a session tells nothing of the key**, and the session does not hold it. -/
theorem discreet_openSession (opening : Opening) (properties : Properties) :
    (openSession opening properties).Discreet := by
  refine Flow.discreet_ofOutcome_bind fun cluster => ?_
  refine Flow.discreet_bind (.ask rfl fun reply => .done _) fun description => ?_
  refine Flow.discreet_ofOutcome_bind fun _ => ?_
  refine resembles_credentials_bind fun here there alike => ?_
  refine Flow.resembles_bind (resembles_connect _ _ ⟨rfl, rfl, alike, rfl, rfl⟩) fun _ => ?_
  exact Flow.discreet_pure _

theorem discreet_request_bind {follow : Except AdminFailure call.Result → Flow α}
    (follows : ∀ answer, (follow answer).Discreet) :
    Flow.Discreet (ExceptT.lift (handle.request call) >>= follow) := by
  unfold Flow.Discreet
  rw [run_request_bind]
  exact .askWithin rfl fun reply => follows _

theorem discreet_perform_bind {follow : call.Result → Flow α}
    (follows : ∀ result, (follow result).Discreet) :
    (handle.perform call >>= follow).Discreet := by
  rw [perform_bind]
  refine discreet_request_bind fun answer => ?_
  cases answer with
  | ok result => exact follows result
  | error refusal => exact Flow.discreet_throw _

end Session

end Provision
