import Provision.Proofs.Engine.Retry
import Provision.Proofs.Topic.Contents

/-!
# Topics after lost replies

A topic that has been created or grown is found with the declared counts, and one that has been
deleted is not found. What a flow has done in spite of a lost reply is therefore confirmed by the
next attempt, so that the flows can be tried again after any loss (`resumable_respond`).
-/

set_option autoImplicit false

namespace Provision.Topic

open Dialogue (Request)
open Lifecycle (Answer CompletesAs Event)
open Session (AdminFailure Brokers Contents Handle Opening TopicDeclaration after brokerService
  openSession)

variable {replies : (request : Request) → request.Reply} {handle : Handle} {brokers : Brokers}
  {spec : Spec} {current : Description} {leaders : Settings.Leaders} {β : Type}

/-! ## Brokers -/

/-- The brokers with a topic on a cluster. -/
def put (brokers : Brokers) (cluster : Cluster.Reference) (topic : Description) : Brokers :=
  Function.update brokers cluster ((brokers cluster).withTopic topic)

/-- The brokers without a topic on a cluster. -/
def removed (brokers : Brokers) (cluster : Cluster.Reference) (name : String) : Brokers :=
  Function.update brokers cluster ((brokers cluster).withoutTopic name)

theorem topic?_put (brokers : Brokers) (cluster : Cluster.Reference) (topic : Description) :
    (put brokers cluster topic cluster).topic? topic.name = some topic := by
  unfold put
  rw [Function.update_self, Contents.topic?_withTopic]

theorem topic?_removed (brokers : Brokers) (cluster : Cluster.Reference) (name : String) :
    (removed brokers cluster name cluster).topic? name = none := by
  unfold removed
  rw [Function.update_self, Contents.topic?_withoutTopic]

/-- A created topic is found. -/
theorem topic?_put_created (brokers : Brokers) (cluster : Cluster.Reference) (spec : Spec) :
    (put brokers cluster (created spec) cluster).topic? spec.name = some (created spec) :=
  topic?_put brokers cluster (created spec)

/-- A topic that has been grown is found. -/
theorem topic?_put_grown {name : String} {topic : Description} (named : topic.name = name)
    (brokers : Brokers) (cluster : Cluster.Reference) (total : Nat) :
    (put brokers cluster (grown topic total) cluster).topic? name = some (grown topic total) := by
  rw [← named]
  exact topic?_put brokers cluster (grown topic total)

theorem after_createTopic (absent : (brokers handle.cluster).topic? spec.name = none) :
    after brokers handle.cluster (.createTopic spec) =
      put brokers handle.cluster (created spec) := by
  unfold after put
  rw [Contents.perform_createTopic absent]

theorem after_createPartitions {name : String} {total : Nat}
    (present : (brokers handle.cluster).topic? name = some current)
    (more : current.partitions.length < total) :
    after brokers handle.cluster (.createPartitions name total) =
      put brokers handle.cluster (grown current total) := by
  unfold after put
  rw [Contents.perform_createPartitions present more]

theorem after_deleteTopic {name : String}
    (present : (brokers handle.cluster).topic? name = some current) :
    after brokers handle.cluster (.deleteTopic name) = removed brokers handle.cluster name := by
  unfold after removed
  rw [Contents.perform_deleteTopic present]

theorem after_describePartitions (brokers : Brokers) (cluster : Cluster.Reference)
    (name : String) : after brokers cluster (.describePartitions name) = brokers :=
  Function.update_eq_self cluster brokers

/-! ## Descriptions -/

/-- A description changes nothing and tells what is there. -/
theorem leaves_describe_bind {name : String} {follow : Option Description → Flow β}
    {outcome : Outcome β} {left : Brokers}
    (follows : Flow.Leaves (brokerService replies)
      (follow ((brokers handle.cluster).topic? name)) brokers outcome left) :
    Flow.Leaves (brokerService replies) (describe handle name >>= follow) brokers outcome
      left := by
  have described : ((brokers handle.cluster).perform (.describePartitions name)).1 =
      (.ok ((brokers handle.cluster).topic? name) :
        Except AdminFailure (Option Description)) := rfl
  refine Session.leaves_perform_bind described ?_ (.inl (after_describePartitions _ _ _))
  rw [after_describePartitions]
  exact follows

theorem checkSpread_of_shows (shows : Shows spec current) : checkSpread current = .ok () := by
  unfold checkSpread
  cases same : current.partitions with
  | nil => exact absurd same shows.spread
  | cons first rest => rfl

theorem confirm_of_shows (shows : Shows spec current) : confirm spec current = .ok () := by
  unfold confirm
  rw [checkSpread_of_shows shows, shows.partitions, shows.replicas]
  simp only [bne_self_eq_false]
  rfl

/-- Who does not ask for leaders does not wait for them. -/
theorem awaitLeadersIfAsked_eq (patient : spec.waitForLeaders = false) :
    awaitLeadersIfAsked leaders handle spec = pure () := by
  unfold awaitLeadersIfAsked
  rw [patient]
  rfl

/-! ## Creation -/

/-- Finds the declared topic or creates it. -/
def ensure (handle : Handle) (spec : Spec) : Flow Unit := do
  match ← describe handle spec.name with
  | some current => Flow.ofOutcome (confirm spec current)
  | none => createAbsent handle spec

theorem leaves_ensure_of_present
    (present : (brokers handle.cluster).topic? spec.name = some current) :
    Flow.Leaves (brokerService replies) (ensure handle spec) brokers (confirm spec current)
      brokers := by
  refine leaves_describe_bind ?_
  rw [present]
  exact Flow.leaves_ofOutcome _ _

theorem leaves_ensure_of_absent
    (absent : (brokers handle.cluster).topic? spec.name = none) :
    Flow.Leaves (brokerService replies) (ensure handle spec) brokers (.ok ())
      (put brokers handle.cluster (created spec)) := by
  have made := after_createTopic absent
  refine leaves_describe_bind ?_
  rw [absent]
  refine Session.leaves_request_bind ?_ (.inr made.symm)
  rw [made, Contents.perform_createTopic absent]
  exact Flow.leaves_ofOutcome _ _

theorem recovers_ensure (handle : Handle) (fits : spec.Fits) :
    (ensure handle spec).Recovers (brokerService replies) := by
  refine Flow.recovers_of_leaves fun brokers => ?_
  cases found : (brokers handle.cluster).topic? spec.name with
  | some current =>
      exact ⟨_, _, leaves_ensure_of_present found, (leaves_ensure_of_present found).serves⟩
  | none =>
      have present := topic?_put_created brokers handle.cluster spec
      refine ⟨_, _, leaves_ensure_of_absent found, ?_⟩
      rw [(leaves_ensure_of_present present).serves, confirm_of_shows (shows_created fits)]

theorem fragile_createAbsent (handle : Handle) (spec : Spec) :
    (createAbsent handle spec).Fragile := by
  refine Session.fragile_request_bind_unless .topicAlreadyExists (by decide) (by decide)
    (fun _ => rfl) (fun _ => Flow.fragile_pure ()) ?_
  refine Session.fragile_perform_bind fun found => ?_
  cases found with
  | none => exact trivial
  | some current => exact Flow.fragile_ofOutcome _

theorem fragile_ensure (handle : Handle) (spec : Spec) : (ensure handle spec).Fragile := by
  refine Session.fragile_perform_bind fun found => ?_
  cases found with
  | none => exact fragile_createAbsent handle spec
  | some current => exact Flow.fragile_ofOutcome _

variable {opening : Opening} {event : Event} {declared : TopicDeclaration} {id : String}

/-- Who does not wait for leaders finds or creates the topic, and that is all. -/
theorem create_eq (decoded : declaration leaders event.properties = .ok declared)
    (patient : declared.spec.waitForLeaders = false) :
    create opening leaders event =
      openSession opening declared.session >>= fun handle =>
        ensure handle declared.spec >>= fun _ =>
          pure (Answer.complete declared.spec.name (output declared.spec)) := by
  unfold create
  rw [decoded, Flow.ofOutcome_ok_bind]
  dsimp only
  congr 1
  funext handle
  unfold ensure
  rw [Flow.bind_assoc]
  congr 1
  funext found
  cases found <;> simp only [awaitLeadersIfAsked_eq patient] <;> rfl

theorem resumable_create (decoded : declaration leaders event.properties = .ok declared)
    (patient : declared.spec.waitForLeaders = false) :
    Flow.Resumable (brokerService replies) (create opening leaders event)
      (CompletesAs declared.spec.name) := by
  rw [create_eq decoded patient]
  refine Session.resumable_openSession_bind fun handle => ?_
  exact Flow.resumable_bind_pure (fragile_ensure handle declared.spec)
    (recovers_ensure handle (declaration_fits decoded)) fun _ => ⟨_, rfl⟩

/-! ## Growth -/

/-- Growing is refused at once, has nothing to do, or is one call. -/
theorem grow_cases (handle : Handle) (spec : Spec) (current : Description) :
    (∃ failure, grow handle spec current = Flow.ofOutcome (.error failure)) ∨
    (Shows spec current ∧ grow handle spec current = pure ()) ∨
      (current.partitions ≠ [] ∧ current.replicationFactor = spec.replicationFactor ∧
        grow handle spec current =
          handle.perform (.createPartitions spec.name spec.partitionCount) >>= fun _ =>
            pure ()) := by
  unfold grow checkSpread
  cases empty : current.partitions.isEmpty with
  | true => exact .inl ⟨_, rfl⟩
  | false =>
      have spread : current.partitions ≠ [] := by
        intro none
        rw [none] at empty
        cases empty
      rw [if_neg Bool.false_ne_true, Flow.ofOutcome_ok_bind]
      cases replicas : current.replicationFactor != spec.replicationFactor with
      | true => exact .inl ⟨_, rfl⟩
      | false =>
          have same : current.replicationFactor = spec.replicationFactor := by
            simpa using replicas
          rw [if_neg Bool.false_ne_true]
          by_cases fewer : spec.partitionCount < current.partitionCount
          · rw [if_pos fewer]
            exact .inl ⟨_, rfl⟩
          · rw [if_neg fewer]
            by_cases more : current.partitionCount < spec.partitionCount
            · rw [if_pos more]
              exact .inr (.inr ⟨spread, same, rfl⟩)
            · rw [if_neg more]
              exact .inr (.inl ⟨⟨spread, by omega, same⟩, rfl⟩)

theorem grow_of_shows (shows : Shows spec current) : grow handle spec current = pure () := by
  unfold grow
  rw [checkSpread_of_shows shows, shows.partitions, shows.replicas]
  simp only [bne_self_eq_false, Nat.lt_irrefl]
  rfl

theorem fragile_grow (handle : Handle) (spec : Spec) (current : Description) :
    (grow handle spec current).Fragile := by
  rcases grow_cases handle spec current with ⟨failure, same⟩ | ⟨-, same⟩ | ⟨-, -, same⟩
  · rw [same]
    exact Flow.fragile_ofOutcome _
  · rw [same]
    exact Flow.fragile_pure ()
  · rw [same]
    exact Session.fragile_perform_bind fun _ => Flow.fragile_pure ()

/-- What growing comes to: it changes nothing, or the topic shows the declared counts. -/
theorem exists_leaves_grow (fits : spec.Fits)
    (present : (brokers handle.cluster).topic? spec.name = some current) :
    ∃ outcome left, Flow.Leaves (brokerService replies) (grow handle spec current) brokers outcome
        left ∧
      (left = brokers ∨ outcome = .ok () ∧
        ∃ after, (left handle.cluster).topic? spec.name = some after ∧ Shows spec after) := by
  rcases grow_cases handle spec current with
    ⟨failure, same⟩ | ⟨-, same⟩ | ⟨spread, replicas, same⟩
  · rw [same]
    exact ⟨_, _, Flow.leaves_ofOutcome _ _, .inl rfl⟩
  · rw [same]
    exact ⟨_, _, Flow.leaves_ofOutcome (.ok ()) _, .inl rfl⟩
  · rw [same]
    by_cases more : current.partitions.length < spec.partitionCount
    · have performed := Contents.perform_createPartitions present more
      refine ⟨_, _, Session.leaves_perform_bind (congrArg Prod.fst performed)
        (Flow.leaves_ofOutcome (.ok ()) _) (.inr rfl),
        .inr ⟨rfl, grown current spec.partitionCount, ?_, ?_⟩⟩
      · rw [after_createPartitions present more]
        exact topic?_put_grown (Contents.name_eq_of_topic? present) _ _ _
      · exact shows_grown fits spread replicas more
    · have refused := Contents.perform_createPartitions_refused present (Nat.le_of_not_lt more)
      exact ⟨_, _, Session.leaves_perform_bind_error (congrArg Prod.fst refused), .inl rfl⟩

/-! ## Updates -/

theorem name_eq_of_checkUpdate (allowed : checkUpdate event spec id = .ok ()) : spec.name = id := by
  by_cases same : spec.name = id
  · exact same
  · unfold checkUpdate at allowed
    rw [if_pos (bne_iff_ne.mpr same)] at allowed
    cases allowed

/-- What an update does once its session is open. -/
def updateOn (opening : Opening) (leaders : Settings.Leaders) (event : Event) (handle : Handle)
    (spec : Spec) : Flow Answer := do
  match ← describe handle spec.name with
  | none => create opening leaders event
  | some current =>
      grow handle spec current
      pure (Answer.complete spec.name (output spec))

theorem update_eq (decoded : declaration leaders event.properties = .ok declared)
    (patient : declared.spec.waitForLeaders = false)
    (allowed : checkUpdate event declared.spec id = .ok ()) :
    update opening leaders event id =
      openSession opening declared.session >>= fun handle =>
        updateOn opening leaders event handle declared.spec := by
  unfold update
  rw [decoded, Flow.ofOutcome_ok_bind]
  dsimp only
  rw [allowed, Flow.ofOutcome_ok_bind, ← name_eq_of_checkUpdate allowed]
  congr 1
  funext handle
  unfold updateOn
  congr 1
  funext found
  cases found with
  | none => rfl
  | some current =>
      simp only [awaitLeadersIfAsked_eq patient]
      rfl

/-- An update has nothing to do for a topic that shows the declared counts. -/
theorem leaves_updateOn_of_shows (found : (brokers handle.cluster).topic? spec.name = some current)
    (shows : Shows spec current) :
    Flow.Leaves (brokerService replies) (updateOn opening leaders event handle spec) brokers
      (.ok (Answer.complete spec.name (output spec))) brokers := by
  refine leaves_describe_bind ?_
  rw [found]
  dsimp only
  rw [grow_of_shows shows]
  exact Flow.leaves_ofOutcome (.ok _) _

/-- An update creates a topic that is gone. -/
theorem leaves_updateOn_of_absent (decoded : declaration leaders event.properties = .ok declared)
    (patient : declared.spec.waitForLeaders = false)
    (steady : Flow.Steady (brokerService replies) (openSession opening declared.session)
      (.ok handle))
    (absent : (brokers handle.cluster).topic? declared.spec.name = none) :
    Flow.Leaves (brokerService replies) (updateOn opening leaders event handle declared.spec)
      brokers (.ok (Answer.complete declared.spec.name (output declared.spec)))
      (put brokers handle.cluster (created declared.spec)) := by
  refine leaves_describe_bind ?_
  rw [absent]
  dsimp only
  rw [create_eq decoded patient]
  refine Flow.leaves_bind (steady brokers) ?_ (.inl rfl)
  exact Flow.leaves_bind (leaves_ensure_of_absent absent) (Flow.leaves_ofOutcome (.ok _) _)
    (.inr rfl)

/-- What an update comes to if the topic is there: it changes nothing, or the topic shows the
declared counts. -/
theorem exists_leaves_updateOn (fits : spec.Fits)
    (present : (brokers handle.cluster).topic? spec.name = some current) :
    ∃ outcome left,
      Flow.Leaves (brokerService replies) (updateOn opening leaders event handle spec) brokers
        outcome left ∧
      (left = brokers ∨ outcome = .ok (Answer.complete spec.name (output spec)) ∧
        ∃ after, (left handle.cluster).topic? spec.name = some after ∧ Shows spec after) := by
  obtain ⟨outcome, left, grows, kept⟩ := exists_leaves_grow fits present
  cases outcome with
  | error failure =>
      refine ⟨.error failure, left, leaves_describe_bind ?_, ?_⟩
      · rw [present]
        exact Flow.leaves_bind_error grows
      · rcases kept with nothing | ⟨absurd, -⟩
        · exact .inl nothing
        · cases absurd
  | ok value =>
      refine ⟨.ok (Answer.complete spec.name (output spec)), left, leaves_describe_bind ?_, ?_⟩
      · rw [present]
        exact Flow.leaves_bind grows (Flow.leaves_ofOutcome (.ok _) _) (.inr rfl)
      · exact kept.imp_right fun ⟨_, there⟩ => ⟨rfl, there⟩

/-- An update recovers: what it has created or grown is as declared when it is tried again. -/
theorem recovers_updateOn (decoded : declaration leaders event.properties = .ok declared)
    (patient : declared.spec.waitForLeaders = false)
    (steady : Flow.Steady (brokerService replies) (openSession opening declared.session)
      (.ok handle)) :
    (updateOn opening leaders event handle declared.spec).Recovers (brokerService replies) := by
  have fits := declaration_fits decoded
  refine Flow.recovers_of_leaves fun brokers => ?_
  cases found : (brokers handle.cluster).topic? declared.spec.name with
  | none =>
      exact ⟨_, _, leaves_updateOn_of_absent decoded patient steady found,
        (leaves_updateOn_of_shows (topic?_put_created _ _ declared.spec)
          (shows_created fits)).serves⟩
  | some current =>
      obtain ⟨outcome, left, leaves, rfl | ⟨rfl, after, there, shows⟩⟩ :=
        exists_leaves_updateOn fits found
      · exact ⟨outcome, _, leaves, leaves.serves⟩
      · exact ⟨_, left, leaves, (leaves_updateOn_of_shows there shows).serves⟩

theorem resumable_update (decoded : declaration leaders event.properties = .ok declared)
    (patient : declared.spec.waitForLeaders = false)
    (allowed : checkUpdate event declared.spec id = .ok ()) :
    Flow.Resumable (brokerService replies) (update opening leaders event id) (CompletesAs id) := by
  have creates : Flow.Resumable (brokerService replies) (create opening leaders event)
      (CompletesAs declared.spec.name) := resumable_create decoded patient
  rw [update_eq decoded patient allowed, ← name_eq_of_checkUpdate allowed]
  refine ⟨?_, ?_, ?_⟩
  · refine Flow.fragile_bind (Session.fragile_openSession _ _) fun handle => ?_
    refine Session.fragile_perform_bind fun found => ?_
    cases found with
    | none => exact creates.fragile
    | some current => exact Flow.fragile_bind (fragile_grow _ _ _) fun _ => Flow.fragile_pure _
  · obtain ⟨outcome, steady⟩ := Session.exists_steady_openSession opening declared.session
    refine Flow.recovers_bind_of_steady steady ?_
    rintro handle rfl
    exact recovers_updateOn decoded patient steady
  · refine Flow.yields_bind fun handle => Flow.yields_bind fun found => ?_
    cases found with
    | none => exact creates.yields
    | some current => exact Flow.yields_bind fun _ => Flow.yields_pure ⟨_, rfl⟩

/-! ## Deletion -/

/-- What a deletion does once its session is open. -/
def deleteOn (handle : Handle) (id : String) : Flow Answer := do
  match ← describe handle id with
  | none => pure (Answer.complete id [])
  | some _ =>
      match ← ExceptT.lift (handle.request (.deleteTopic id)) with
      | .ok _ => pure (Answer.complete id [])
      | .error refusal =>
          if refusal.kind == .unknownTopicOrPartition then pure (Answer.complete id [])
          else throw refusal.toFailure

/-- A topic that is not there is not deleted. -/
theorem leaves_deleteOn_of_absent {id : String}
    (absent : (brokers handle.cluster).topic? id = none) :
    Flow.Leaves (brokerService replies) (deleteOn handle id) brokers (.ok (Answer.complete id []))
      brokers := by
  refine leaves_describe_bind ?_
  rw [absent]
  exact Flow.leaves_ofOutcome (.ok _) _

theorem leaves_deleteOn_of_present {id : String}
    (present : (brokers handle.cluster).topic? id = some current) :
    Flow.Leaves (brokerService replies) (deleteOn handle id) brokers (.ok (Answer.complete id []))
      (removed brokers handle.cluster id) := by
  have made := after_deleteTopic present
  refine leaves_describe_bind ?_
  rw [present]
  refine Session.leaves_request_bind ?_ (.inr made.symm)
  rw [made, Contents.perform_deleteTopic present]
  exact Flow.leaves_ofOutcome (.ok _) _

/-- Deleting leaves no topic with the name, whatever was there before. -/
theorem leaves_deleteOn (handle : Handle) (id : String) (brokers : Brokers) :
    ∃ left, Flow.Leaves (brokerService replies) (deleteOn handle id) brokers
        (.ok (Answer.complete id [])) left ∧
      (left handle.cluster).topic? id = none := by
  cases found : (brokers handle.cluster).topic? id with
  | none => exact ⟨brokers, leaves_deleteOn_of_absent found, found⟩
  | some current =>
      exact ⟨_, leaves_deleteOn_of_present found, topic?_removed brokers handle.cluster id⟩

theorem recovers_deleteOn (handle : Handle) (id : String) :
    (deleteOn handle id).Recovers (brokerService replies) := by
  refine Flow.recovers_of_leaves fun brokers => ?_
  obtain ⟨left, leaves, gone⟩ := leaves_deleteOn handle id brokers
  refine ⟨_, left, leaves, ?_⟩
  refine (leaves_describe_bind ?_).serves
  rw [gone]
  exact Flow.leaves_ofOutcome (.ok _) _

theorem fragile_deleteOn (handle : Handle) (id : String) : (deleteOn handle id).Fragile := by
  refine Session.fragile_perform_bind fun found => ?_
  cases found with
  | none => exact trivial
  | some current =>
      exact Session.fragile_request_bind_unless .unknownTopicOrPartition (by decide) (by decide)
        (fun _ => rfl) (fun _ => Flow.fragile_pure _) (Flow.fragile_pure _)

theorem yields_deleteOn (handle : Handle) (id : String) :
    (deleteOn handle id).Yields (CompletesAs id) := by
  refine Flow.yields_bind fun found => ?_
  cases found with
  | none => exact Flow.yields_pure ⟨_, rfl⟩
  | some current =>
      refine Flow.yields_bind fun answer => ?_
      cases answer with
      | ok result => exact Flow.yields_pure ⟨_, rfl⟩
      | error refusal =>
          dsimp only
          split
          · exact Flow.yields_pure ⟨_, rfl⟩
          · exact Flow.yields_error _ _

theorem resumable_delete :
    Flow.Resumable (brokerService replies) (delete opening leaders event id) (CompletesAs id) := by
  unfold delete
  cases declaration leaders event.properties with
  | error failure => exact Flow.resumable_pure ⟨_, rfl⟩
  | ok declared =>
      exact Session.resumable_openSession_bind fun handle =>
        ⟨fragile_deleteOn handle id, recovers_deleteOn handle id, yields_deleteOn handle id⟩

/-! ## Answers that can be tried again -/

/-- A creation is identified by the declared name. -/
theorem name_eq_of_create (asked : event.request = .create)
    (named : physicalId leaders event = .ok id)
    (decoded : declaration leaders event.properties = .ok declared) :
    declared.spec.name = id := by
  unfold physicalId at named
  rw [Event.idOr_of_create asked, decoded] at named
  cases named
  rfl

/-- **An answer about a topic can be tried again after any loss**, unless it waits for leaders. -/
theorem resumable_respond (opening : Opening) (named : physicalId leaders event = .ok id)
    (patient : ∀ declared, declaration leaders event.properties = .ok declared →
      declared.spec.waitForLeaders = false) :
    Flow.Resumable (brokerService replies) (respond opening leaders event) (CompletesAs id) := by
  unfold respond
  rw [named, Flow.ofOutcome_ok_bind]
  cases asked : event.request with
  | create =>
      cases decoded : declaration leaders event.properties with
      | error failure =>
          show Flow.Resumable _ (create opening leaders event) _
          unfold create
          rw [decoded]
          exact Flow.resumable_error _ _
      | ok declared =>
          rw [← name_eq_of_create asked named decoded]
          exact resumable_create decoded (patient declared decoded)
  | update =>
      cases decoded : declaration leaders event.properties with
      | error failure =>
          show Flow.Resumable _ (update opening leaders event id) _
          unfold update
          rw [decoded]
          exact Flow.resumable_error _ _
      | ok declared =>
          cases allowed : checkUpdate event declared.spec id with
          | error failure =>
              show Flow.Resumable _ (update opening leaders event id) _
              unfold update
              rw [decoded, Flow.ofOutcome_ok_bind]
              dsimp only
              rw [allowed]
              exact Flow.resumable_error _ _
          | ok value => exact resumable_update decoded (patient declared decoded) allowed
  | delete => exact resumable_delete

/-- The handling of topics is repeatable, unless leaders are waited for. -/
theorem repeatable (opening : Opening) (leaders : Settings.Leaders) (event : Event)
    (patient : ∀ declared, declaration leaders event.properties = .ok declared →
      declared.spec.waitForLeaders = false) :
    Engine.Repeatable (brokerService replies) (handler opening leaders) event :=
  Engine.repeatable_repeating (fun _ => rfl) (fun _ named => Event.idOr_withId named) (fun _ => rfl)
    fun _ named => resumable_respond opening named patient

end Provision.Topic
