import Provision.Proofs.Connectivity.Reported
import Provision.Proofs.Service.Replies
import Provision.Service.ControlPlane

/-!
# What a description leaves out of the settings

A submission sends four settings. The control plane replies with what it holds of them (`held?`),
and the description reports a projection of that (`Submission.settings`): password authentication
is left out, and every type of public access but `DISABLED` is taken for access. What has been
submitted is read back (`Submission.decode?_encode`) and reported as it was wanted
(`Submission.settings_ofSettings`), but what is reported need not be held in the form in which a
submission would send it. It is when password authentication is off and public access, if there is
any, has the type that a submission gives it (`reports_projected`).
-/

set_option autoImplicit false

namespace Provision

namespace Service.ControlPlane

/-! ## Describing a cluster -/

open Cluster (Description Reference Settings)

variable {cluster : Reference} {description : Description} {desired : Settings}
  {replies rest : List Reply}

/-- An operation sends its request and ends with the reply. -/
theorem perform_run {α : Type} (operation : Operation) (request : Request)
    (decode : Json → Option α) :
    (perform operation request decode).run =
      .send request fun reply =>
        .done (match operation.result decode reply with
          | .ok value => Except.ok value
          | .error code => Except.error (operation.failure (kindOf code))) := by
  show Exchange.send _ _ = _
  congr 1
  funext reply
  show ExceptT.bindCont _ (Except.ok reply) = _
  show ExceptT.run (match operation.result decode reply with
    | .ok value => pure value
    | .error code => throw (operation.failure (kindOf code))) = _
  cases operation.result decode reply with
  | ok value => rfl
  | error code => rfl

/-- The first request of a description, and what follows from its reply. -/
theorem describeCluster_value (reply : Reply) (later : List Reply) :
    (describeCluster cluster).run.value (reply :: later) =
      match describing.result description? reply with
      | .error code => (.error (describing.failure (kindOf code)), later)
      | .ok none => (.error (.transient ("集群 " ++ cluster.name ++ " 的描述为空")), later)
      | .ok (some found) =>
          if found.state.isActive then
            ((fun endpoints => { found with endpoints }) <$> ((brokers cluster).run.value later).1,
              ((brokers cluster).run.value later).2)
          else (.ok found, later) := by
  unfold describeCluster
  rw [ExceptT.run_bind, perform_run]
  show Exchange.value (Exchange.bind (.done _) _) later = _
  cases describing.result description? reply with
  | error code => rfl
  | ok read =>
      cases read with
      | none => rfl
      | some found =>
          show Exchange.value (ExceptT.run (if found.state.isActive then
            brokers cluster >>= fun endpoints => pure { found with endpoints }
            else pure found)) later = if found.state.isActive then (_, _) else (.ok found, later)
          cases active : found.state.isActive with
          | false => rfl
          | true =>
              simp only [if_true, ExceptT.run_bind]
              refine (Exchange.value_bind _ _ _).trans ?_
              cases ((brokers cluster).run.value later).1 <;> rfl

/-- A cluster that is described has been found in the first reply. -/
theorem exists_reply_of_described
    (told : (describeCluster cluster).run.value replies = (.ok description, rest)) :
    ∃ reply later found, replies = reply :: later ∧
      describing.result description? reply = .ok (some found) ∧
      description = { found with endpoints := description.endpoints } := by
  cases replies with
  | nil =>
      have refused : (describeCluster cluster).run.value [] =
          (.error (describing.failure (kindOf (describing.refusal? .exhausted))), []) := rfl
      cases refused.symm.trans told
  | cons reply later =>
      rw [describeCluster_value] at told
      cases read : describing.result description? reply with
      | error code =>
          rw [read] at told
          cases told
      | ok info =>
          rw [read] at told
          cases info with
          | none => cases told
          | some found =>
              refine ⟨reply, later, found, rfl, read, ?_⟩
              cases active : found.state.isActive with
              | false =>
                  simp only [active, Bool.false_eq_true, if_false] at told
                  cases told
                  rfl
              | true =>
                  simp only [active, if_true] at told
                  obtain ⟨named, -⟩ := Prod.mk.inj told
                  generalize ((brokers cluster).run.value later).1 = addresses at named
                  cases addresses with
                  | error failure => cases named
                  | ok endpoints =>
                      cases named
                      rfl

/-! ## Held settings -/

/-- What the control plane holds of the settings, if the document tells. -/
def held? (document : Json) : Option Submission := do
  let content ← Document.follow? ["clusterInfo", "brokerNodeGroupInfo", "connectivityInfo"] document
  Submission.decode? (← content)

/-- **A description reports the settings that are held.** -/
theorem connectivity_of_description? {document : Json} {found : Description}
    (read : description? document = some (some found)) :
    found.connectivity = Submission.settings <$> held? document := by
  have path : ["clusterInfo", "brokerNodeGroupInfo", "connectivityInfo"] =
      ["clusterInfo"] ++ ["brokerNodeGroupInfo", "connectivityInfo"] := rfl
  unfold held?
  rw [path, Document.follow?_append]
  unfold description? at read
  obtain ⟨info, first, read⟩ := Option.bind_eq_some_iff.mp read
  rw [first]
  cases info with
  | none => cases read
  | some info =>
      obtain ⟨state, -, read⟩ := Option.bind_eq_some_iff.mp read
      obtain ⟨token, -, read⟩ := Option.bind_eq_some_iff.mp read
      obtain ⟨content, second, read⟩ := Option.bind_eq_some_iff.mp read
      simp only [Option.bind_some, Option.elim_some, second]
      cases content with
      | none =>
          cases read
          rfl
      | some content =>
          obtain ⟨reported, projected, read⟩ := Option.bind_eq_some_iff.mp read
          cases read
          obtain ⟨settings, decoded, rfl⟩ := Option.map_eq_some_iff.mp projected
          exact decoded.symm

namespace Submission

/-- **A submission is read back as it was sent.** -/
theorem decode?_encode (submission : Submission) : decode? submission.encode = some submission := by
  rfl

/-- What is submitted is reported as it was wanted. -/
theorem settings_ofSettings (desired : Settings) : (ofSettings desired).settings = desired := by
  have access : (publicAccessName desired.publicAccess != publicAccessName false) =
      desired.publicAccess := by
    cases desired.publicAccess <;> decide
  simp only [settings, ofSettings, access]

/-- Settings without public access are held as such. -/
theorem publicAccess_eq_iff (held : Submission) :
    held.publicAccess = publicAccessName false ↔ held.settings.publicAccess = false := by
  simp only [settings, bne_eq_false_iff_eq]

/-- What is held is what would be submitted, but for what is not reported. -/
theorem eq_ofSettings_iff (held : Submission) :
    held = ofSettings held.settings ↔
      held.scramAuth = false ∧
        (held.settings.publicAccess = true → held.publicAccess = publicAccessName true) := by
  constructor
  · intro same
    refine ⟨congrArg Submission.scramAuth same, fun access => ?_⟩
    have sent := congrArg Submission.publicAccess same
    rwa [ofSettings, access] at sent
  · rintro ⟨scram, access⟩
    have sent : held.publicAccess = publicAccessName held.settings.publicAccess := by
      cases found : held.settings.publicAccess with
      | true => exact access found
      | false => exact held.publicAccess_eq_iff.mpr found
    obtain ⟨publicAccess, scramAuth, iamAuth, tlsAuth⟩ := held
    simp only [ofSettings, mk.injEq]
    exact ⟨sent, scram, rfl, rfl⟩

end Submission

end Service.ControlPlane

namespace Connectivity

open Service (Reply)
open Service.ControlPlane (Submission connectivity_of_description? describeCluster
  describeCluster_value exists_reply_of_described held? publicAccessName switch)

variable {cluster : Cluster.Reference} {description : Cluster.Description}
  {desired : Cluster.Settings} {checkpoint : Checkpoint} {target : Target} {threshold : Nat}

/-! ## What the updater does not see -/

/-- A step that has submitted nothing stops at an active cluster that reports what is desired. -/
theorem ends_step_of_desired (referred : target.reference = .ok cluster)
    (fresh : checkpoint.submitted = false) (active : description.state.isActive = true)
    (same : description.connectivity = some target.desired) :
    Flow.Ends (step threshold target checkpoint) [described cluster (.ok description)]
      (.ok (checkpoint.waits description .stable checkpoint.stalePolls)) := by
  apply ends_step_of_described referred active
  simp only [fresh, Bool.false_eq_true, if_false, submitWhenActive, active, Bool.not_true, same,
    beq_self_eq_true, if_true]
  exact Flow.ends_pure.mpr ⟨rfl, rfl⟩

/-- **If an active cluster is described with the desired connectivity, so that nothing is
submitted, then the reply holds what a submission would send up to password authentication and the
type of public access.** It holds just that when password authentication is off and public access
has the type that a submission gives it. -/
theorem reports_projected {replies rest : List Reply}
    (told : (describeCluster cluster).run.value replies = (.ok description, rest))
    (active : description.state.isActive = true)
    (reported : description.connectivity = some desired) :
    (∃ reply later document held, replies = reply :: later ∧
      reply.document? = some document ∧ held? document = some held ∧
      (held.publicAccess = publicAccessName false ↔ desired.publicAccess = false) ∧
      held.iamAuth = desired.iamAuth ∧ held.tlsAuth = desired.tlsAuth ∧
      (held = Submission.ofSettings desired ↔
        held.scramAuth = false ∧
          (desired.publicAccess = true → held.publicAccess = publicAccessName true))) ∧
    ∀ (threshold : Nat) (target : Target) (checkpoint : Checkpoint),
      target.reference = .ok cluster → target.desired = desired → checkpoint.submitted = false →
        Flow.Ends (step threshold target checkpoint) [described cluster (.ok description)]
          (.ok (checkpoint.waits description .stable checkpoint.stalePolls)) := by
  constructor
  · obtain ⟨reply, later, found, rfl, succeeded, described⟩ := exists_reply_of_described told
    obtain ⟨document, read, decoded⟩ := Service.Operation.document?_of_result succeeded
    have projected : some desired = Submission.settings <$> held? document := by
      rw [← connectivity_of_description? decoded, ← reported, described]
    obtain ⟨held, holds, rfl⟩ := Option.map_eq_some_iff.mp projected.symm
    exact ⟨reply, later, document, held, rfl, read, holds, held.publicAccess_eq_iff, rfl, rfl,
      held.eq_ofSettings_iff⟩
  · rintro threshold target checkpoint referred rfl fresh
    exact ends_step_of_desired referred fresh active reported

/-- The text of a reply that describes an active cluster on which nothing is on but password
authentication. -/
def guardedBody : List Char :=
  Json.writeOnto (.object [("clusterInfo", .object
    [("state", .text "ACTIVE"), ("brokerNodeGroupInfo", .object
      [("connectivityInfo", .object [("vpcConnectivity", .object
        [("clientAuthentication", .object [("sasl", .object
          [("scram", switch true)])])])])])])]) []

/-- That reply. -/
def guarded : Reply := { status := 200, headers := [], body := String.ofList guardedBody }

/-- The reply that names no brokers. -/
def brokerless : Reply := { status := 200, headers := [], body := "" }

/-- What is held then, and no submission asks for. -/
def passworded : Submission :=
  { publicAccess := publicAccessName false, scramAuth := true, iamAuth := false, tlsAuth := false }

/-- What is described then: no access and no authentication. -/
def unguarded : Cluster.Description :=
  { state := .active
    versionToken := ""
    endpoints := []
    connectivity := some ⟨false, false, false⟩ }

theorem exists_document_guarded :
    ∃ document, guarded.document? = some document ∧ held? document = some passworded ∧
      Service.ControlPlane.description? document = some (some unguarded) := by
  have given : guarded.document? = Json.object? guardedBody :=
    Reply.document?_of_characters rfl (List.cons_ne_nil _ _)
  have read : (Json.object? guardedBody).map (fun document =>
      (held? document, Service.ControlPlane.description? document)) =
        some (some passworded, some (some unguarded)) := by
    decide +kernel
  obtain ⟨document, found, both⟩ := Option.map_eq_some_iff.mp read
  exact ⟨document, given.trans found, congrArg Prod.fst both, congrArg Prod.snd both⟩

theorem described_guarded :
    (describeCluster orders).run.value [guarded, brokerless] = (.ok unguarded, []) := by
  obtain ⟨document, read, -, described⟩ := exists_document_guarded
  rw [describeCluster_value, Service.Operation.result_of_document? rfl read described]
  rfl

/-- Password authentication is held, and the updater stops all the same. -/
theorem reports_projected_guarded :
    (∃ document, guarded.document? = some document ∧ held? document = some passworded ∧
      passworded ≠ Submission.ofSettings ⟨false, false, false⟩) ∧
    Flow.Ends
      (step 1 ⟨orders.arn, false, false, false, none⟩ ⟨.checking, none, none, false, 0⟩)
      [described orders (.ok unguarded)] (.ok ⟨.stable, some "", none, false, 0⟩) := by
  have referred : Target.reference ⟨orders.arn, false, false, false, none⟩ = .ok orders := rfl
  obtain ⟨⟨reply, later, document, held, same, read, holds, -, -, -, sent⟩, stops⟩ :=
    reports_projected described_guarded rfl rfl
  cases same
  obtain ⟨other, again, found, -⟩ := exists_document_guarded
  obtain rfl : document = other := Option.some.inj (read.symm.trans again)
  obtain rfl : held = passworded := Option.some.inj (holds.symm.trans found)
  refine ⟨⟨document, read, holds, fun equal => ?_⟩, stops 1 _ _ referred rfl rfl⟩
  exact Bool.false_ne_true (sent.mp equal).1.symm

/-- What is reported does not always hold what a submission would send. -/
theorem password_unnoticed :
    ¬ ∀ (cluster : Cluster.Reference) (reply : Reply) (later rest : List Reply)
      (description : Cluster.Description) (desired : Cluster.Settings) (document : Json)
      (held : Submission),
      (describeCluster cluster).run.value (reply :: later) = (.ok description, rest) →
      description.state.isActive = true → description.connectivity = some desired →
      reply.document? = some document → held? document = some held →
      held = Submission.ofSettings desired := by
  intro noticed
  obtain ⟨document, read, holds, -⟩ := exists_document_guarded
  have equal := noticed orders guarded [brokerless] [] unguarded ⟨false, false, false⟩ document
    passworded described_guarded rfl rfl read holds
  exact absurd equal (by decide)

end Connectivity

end Provision
