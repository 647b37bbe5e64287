import Provision.Proofs.Dialogue.Timing
import Provision.Proofs.Engine.Transience
import Provision.Proofs.Topic.Growth
import Provision.Proofs.Topic.Waiting

/-!
# What a wait for leaders has seen

A wait is over as soon as the metadata lists some partition of the topic and none that lacks a
leader. So an event that asks for leaders completes with such a reply as its last exchange, and if
that reply lists as many partitions as declared, then all declared partitions have leaders
(`completion_led`).

Metadata may trail behind the broker that has just grown the topic, and the wait does not look at
how many partitions are listed. So it is not true that all declared partitions have been seen with a
leader whenever the event completes: an update is over with the only partition that was there before
(`expansion_unled`).
-/

set_option autoImplicit false

namespace Provision

open Dialogue (Request)
open Lifecycle (Answer Event ResourceKind)
open Session (AdminFailure Handle TopicDeclaration)

/-- The description of the topic in a reply with metadata. -/
def Exchange.listed? (name : String) : Exchange → Option Topic.Description
  | ⟨.admin _ (.describePartitions topic), some (.ok (some description))⟩ =>
      if topic = name then some description else none
  | _ => none

namespace Topic

/-- Every partition in the description has a leader. -/
abbrev Description.AllLed (description : Description) : Prop :=
  ∀ part ∈ description.partitions, part.leader.isSome = true

/-- Some reply lists at least the declared number of partitions, each of them with a leader. -/
def Led (spec : Spec) (log : List Exchange) : Prop :=
  ∃ description ∈ log.filterMap (Exchange.listed? spec.name),
    spec.partitionCount ≤ description.partitions.length ∧ description.AllLed

instance (spec : Spec) (log : List Exchange) : Decidable (Led spec log) :=
  inferInstanceAs (Decidable (∃ description ∈ log.filterMap (Exchange.listed? spec.name),
    spec.partitionCount ≤ description.partitions.length ∧ description.AllLed))

/-- The topic is described by its brokers. -/
abbrev listing (cluster : Cluster.Reference) (name : String) (description : Description) :
    Exchange :=
  ⟨.admin cluster (.describePartitions name), some (.ok (some description))⟩

variable {settings : Settings.Engine} {event : Event} {declared : TopicDeclaration}
  {leaders : Settings.Leaders} {handle : Handle} {spec : Spec} {description : Description}
  {log : List Exchange}

/-! ## The end of a wait -/

/-- A description that lists no partition without a leader shows a leader for each one. -/
theorem allLed_of_leaderless (none : description.leaderless.isEmpty = true) :
    description.AllLed := by
  intro part member
  have all : description.partitions.filter (fun part => part.leader.isNone) = [] := by
    simpa [Description.leaderless] using none
  have led := List.filter_eq_nil_iff.mp all part member
  simpa [Option.isSome_iff_ne_none] using led

/-- A wait is over with a reply that lists partitions with leaders only. -/
theorem exists_led_of_settled {reply : Option (Except AdminFailure (Option Description))}
    (settles : settledBy? reply = some (.ok ())) :
    ∃ description, reply = some (.ok (some description)) ∧ description.partitions ≠ [] ∧
      description.AllLed := by
  rcases reply with _ | (refusal | _ | description)
  · cases settles
  · have failed : (if refusal.toFailure.isTerminal then some (.error refusal.toFailure) else none)
        = some (Except.ok () : Outcome Unit) := settles
    split at failed <;> cases failed
  · cases settles
  · have passed : (if !description.partitions.isEmpty && description.leaderless.isEmpty then
        some (Except.ok ()) else none) = some (Except.ok () : Outcome Unit) := settles
    obtain ⟨both, -⟩ := Option.ite_none_right_eq_some.mp passed
    obtain ⟨some, none⟩ := Bool.and_eq_true_iff.mp both
    refine ⟨description, rfl, ?_, allLed_of_leaderless none⟩
    intro empty
    rw [empty] at some
    cases some

/-- A turn of a wait is one exchange. Its reply settles the wait, or the wait is given up, or it
goes on with the next turn. -/
theorem awaitLeaders_turn {interval deadline fuel : Nat} {outcome : Outcome Unit}
    (ends : (awaitLeaders interval handle spec deadline (fuel + 1)).Ends log outcome) :
    ∃ reply rest, log = ⟨.admin handle.cluster (.describePartitions spec.name), reply⟩ :: rest ∧
      (settledBy? reply = some outcome ∧ rest = [] ∨
        outcome = .error (noLeaders spec) ∧ rest = [] ∨
        (awaitLeaders interval handle spec deadline fuel).Ends rest outcome) := by
  unfold Flow.Ends at ends
  rw [awaitLeaders_run] at ends
  cases ends with
  | clock asked ends =>
  cases ends with
  | askWithin reply ends =>
  refine ⟨reply, _, rfl, ?_⟩
  cases verdict : settledBy? reply with
  | some found =>
      simp only [verdict] at ends
      obtain ⟨rfl, rfl⟩ := Dialogue.ends_done.mp ends
      exact .inl ⟨rfl, rfl⟩
  | none =>
      simp only [verdict] at ends
      cases ends with
      | clock answered ends =>
      dsimp only at ends
      split at ends
      · cases ends with
        | pause ends =>
            obtain ⟨rfl, rfl⟩ := Dialogue.ends_done.mp ends
            exact .inr (.inl ⟨rfl, rfl⟩)
      · cases ends with
        | pause ends => exact .inr (.inr ends)

/-- **A wait that succeeds has just been told of partitions with leaders.** -/
theorem exists_listing_of_awaitLeaders {interval deadline fuel : Nat}
    (ends : (awaitLeaders interval handle spec deadline fuel).Ends log (.ok ())) :
    ∃ earlier description, log = earlier ++ [listing handle.cluster spec.name description] ∧
      description.partitions ≠ [] ∧ description.AllLed := by
  induction fuel generalizing log with
  | zero => cases (Flow.ends_throw.mp ends).2
  | succ fuel ih =>
      obtain ⟨reply, rest, rfl, ⟨settles, rfl⟩ | ⟨failed, -⟩ | goesOn⟩ := awaitLeaders_turn ends
      · obtain ⟨description, rfl, spread, led⟩ := exists_led_of_settled settles
        exact ⟨[], description, rfl, spread, led⟩
      · cases failed
      · obtain ⟨earlier, description, rfl, spread, led⟩ := ih goesOn
        exact ⟨_ :: earlier, description, rfl, spread, led⟩

/-! ## Completed events -/

/-- The controller completes an event only with a finished answer of its handler. -/
theorem exists_finished (about : ResourceKind.ofName event.resourceType = .ok .topic)
    {answer : Answer} (ends : (Engine.respond settings event).Ends log (.ok answer))
    (complete : answer.isComplete = true) :
    (respond (.ofSettings settings) settings.leaders event).Ends log (.ok answer) := by
  obtain ⟨found, responded, told⟩ :=
    (Engine.respond_ends_iff (Engine.route_of_ofName about)).mp ends
  cases found with
  | ok found =>
      cases told
      exact responded
  | error failure =>
      cases transient : failure.isTransient with
      | false =>
          rw [Engine.answered_of_terminal transient] at told
          cases told
      | true =>
          obtain ⟨id, derived⟩ := Engine.exists_physicalId_of_transient responded transient
          rw [Engine.answered_of_transient transient derived] at told
          cases told
          cases complete

/-- **An event that asks for leaders completes with metadata that lists some partitions, each of
them with a leader.** If the metadata lists as many partitions as declared, all declared ones have
been seen with a leader. -/
theorem completion_led (about : ResourceKind.ofName event.resourceType = .ok .topic)
    (changes : event.request ≠ .delete)
    (checked : declaration settings.leaders event.properties = .ok declared)
    (waits : declared.spec.waitForLeaders = true) {answer : Answer}
    (ends : (Engine.respond settings event).Ends log (.ok answer))
    (complete : answer.isComplete = true) :
    ∃ cluster earlier description,
      Cluster.Reference.parse declared.session.clusterArn = .ok cluster ∧
      log = earlier ++ [listing cluster declared.spec.name description] ∧
      description.partitions ≠ [] ∧ description.AllLed ∧
      (declared.spec.partitionCount ≤ description.partitions.length → Led declared.spec log) := by
  have responded := exists_finished about ends complete
  rw [respond_eq_finish] at responded
  obtain ⟨failure, -, same⟩ | ⟨work, prepared, wait, prepares, finishes, rfl⟩ :=
    Flow.ends_bind.mp responded
  · cases same
  · obtain ⟨other, handle, ⟨again, referred, -⟩, awaited⟩ :=
      yields_prepare changes work prepared prepares
    cases checked.symm.trans again
    rw [Prepared.finish_eq awaited] at finishes
    obtain ⟨found, awaits, same⟩ := Flow.ends_bind_pure.mp finishes
    cases found with
    | error failure => cases same
    | ok value =>
        rw [awaitLeadersIfAsked_of_waits waits] at awaits
        obtain ⟨start, awaits⟩ := Flow.exists_ends_of_now_bind awaits
        obtain ⟨earlier, description, rfl, spread, led⟩ := exists_listing_of_awaitLeaders awaits
        have parsed := Session.Properties.parse_of_validate referred
        refine ⟨handle.cluster, work ++ earlier, description, parsed, ?_, spread, led, ?_⟩
        · rw [List.append_assoc]
        · intro enough
          refine ⟨description, ?_, enough, led⟩
          have listed : Exchange.listed? declared.spec.name
              (listing handle.cluster declared.spec.name description) = some description :=
            if_pos rfl
          refine List.mem_filterMap.mpr ⟨_, ?_, listed⟩
          simp

/-! ## An update that is over too early -/

/-- A topic is to have two partitions, each with a leader. -/
def awaitedExpansion : Event :=
  { expansion with properties := expansion.properties ++ [("waitForLeaders", .bool true)] }

/-- The declaration of the event. -/
def awaitedOrders : TopicDeclaration :=
  { twoOrders with spec := { twoOrders.spec with waitForLeaders := true } }

theorem checked_awaitedExpansion :
    declaration ({} : Settings.Engine).leaders awaitedExpansion.properties = .ok awaitedOrders := by
  decide +kernel

/-- What a completed answer has exchanged on its way, with a service that replies at once. -/
theorem exists_completed {State : Type} (settings : Settings.Engine) (event : Event)
    (service : Service State) (state : State)
    (completed : ((Engine.respond settings event).run.elapse service (fun _ _ => 0) state
      0).2.1.toOption.map Answer.isComplete = some true) :
    ∃ answer, (Engine.respond settings event).Ends
        ((Engine.respond settings event).run.exchanged service state) (.ok answer) ∧
      answer.isComplete = true := by
  have ends := Dialogue.ends_exchanged service (Engine.respond settings event).run state
  cases outcome :
      ((Engine.respond settings event).run.elapse service (fun _ _ => 0) state 0).2.1 with
  | error failure =>
      rw [outcome] at completed
      cases completed
  | ok answer =>
      rw [outcome] at completed ends
      exact ⟨answer, ends, Option.some.inj completed⟩

/-- The update, with brokers that show both partitions as soon as the topic has been grown. -/
def shown : List Exchange :=
  (Engine.respond {} awaitedExpansion).run.exchanged (Session.brokerService Session.reachable)
    ordersOnly

/-- The update completes when both partitions have been seen with a leader. -/
theorem completion_led_orders :
    ∃ answer, (Engine.respond {} awaitedExpansion).Ends shown (.ok answer) ∧
      answer.isComplete = true ∧ awaitedOrders.spec.waitForLeaders = true ∧
      Led awaitedOrders.spec shown := by
  obtain ⟨answer, ends, complete⟩ := exists_completed {} awaitedExpansion
    (Session.brokerService Session.reachable) ordersOnly (by decide +kernel)
  obtain ⟨cluster, earlier, description, -, split, -, -, led⟩ :=
    completion_led (by decide +kernel) (by decide) checked_awaitedExpansion rfl ends complete
  have both : (shown.getLast?.bind (Exchange.listed? "orders")).map
      (fun description => description.partitions.length) = some 2 := by decide +kernel
  have last : shown.getLast? = some (listing cluster "orders" description) := by
    rw [show shown = _ from split]
    exact List.getLast?_concat
  rw [last] at both
  have count : description.partitions.length = 2 := Option.some.inj both
  exact ⟨answer, ends, complete, rfl, led (by rw [count]; decide)⟩

/-- The metadata keeps to the only partition that was there before, whatever is done to the topic.
-/
def lagging : (request : Request) → request.Reply
  | .admin _ (.describePartitions _) => .ok (some orders)
  | .admin _ (.createPartitions _ _) => .ok ()
  | request => Session.reachable request

/-- **It is not true that every declared partition has been seen with a leader**: an update to two
partitions completes although the second one has never been listed. -/
theorem expansion_unled :
    declaration ({} : Settings.Engine).leaders awaitedExpansion.properties = .ok awaitedOrders ∧
      awaitedOrders.spec.waitForLeaders = true ∧
      ¬ ∀ log answer, (Engine.respond {} awaitedExpansion).Ends log (.ok answer) →
        answer.isComplete = true → Led awaitedOrders.spec log := by
  refine ⟨checked_awaitedExpansion, rfl, fun claimed => ?_⟩
  obtain ⟨answer, ends, complete⟩ := exists_completed {} awaitedExpansion
    (fun request (_ : Unit) => (lagging request, ())) () (by decide +kernel)
  have unled : ¬ Led awaitedOrders.spec ((Engine.respond {} awaitedExpansion).run.exchanged
      (fun request (_ : Unit) => (lagging request, ())) ()) := by
    decide +kernel
  exact unled (claimed _ answer ends complete)

end Topic

end Provision
