import Provision.Proofs.Session.Brokers

/-!
# What dialogues may ask

A rule says which requests are allowed after what has been exchanged before. A dialogue abides by a
rule if it makes no other requests, whatever the replies are (`Dialogue.Abides`). This follows the
dialogue and not its transcripts, so it also covers a dialogue that waits for a reply for ever: all
that it has asked until then was allowed.

What follows a dialogue must abide by the rule after everything that the dialogue can have exchanged
(`Dialogue.Abides.bind`). On a transcript every request was allowed by what precedes it there
(`Dialogue.Abides.allows`).
-/

set_option autoImplicit false

namespace Provision

open Dialogue (AdminCall Request)
open Session (AdminFailure Handle replied)

/-- Says which requests are allowed after which exchanges. -/
abbrev Rule := List Exchange → Request → Prop

variable {α β : Type} {rule : Rule} {earlier : List Exchange}

/-- Whether the request only looks something up, or connects to where that can be done. -/
def Dialogue.Request.reads : Request → Bool
  | .describeCluster _ | .getSecret _ | .connect _ | .getNamespace _ => true
  | .admin _ (.listAcls _) | .admin _ (.describePartitions _) => true
  | _ => false

/-- The rule lets everyone look things up. -/
def Rule.LetsRead (rule : Rule) : Prop :=
  ∀ earlier request, request.reads = true → rule earlier request

namespace Dialogue

/-- After the earlier exchanges and whatever the replies, the dialogue makes allowed requests only.
-/
def Abides (rule : Rule) : Dialogue α → List Exchange → Prop
  | .done _, _ => True
  | .ask request next, earlier =>
      rule earlier request ∧
        ∀ reply, (next reply).Abides rule (earlier ++ [⟨request, some reply⟩])
  | .askWithin _ request next, earlier =>
      rule earlier request ∧ ∀ reply, (next reply).Abides rule (earlier ++ [⟨request, reply⟩])
  | .pause _ next, earlier => (next ()).Abides rule earlier
  | .clock next, earlier => ∀ time, (next time).Abides rule earlier

theorem Abides.mono {weaker : Rule} {dialogue : Dialogue α} (abides : dialogue.Abides rule earlier)
    (implies : ∀ earlier request, rule earlier request → weaker earlier request) :
    dialogue.Abides weaker earlier := by
  induction dialogue generalizing earlier with
  | done value => trivial
  | ask request next ih => exact ⟨implies _ _ abides.1, fun reply => ih reply (abides.2 reply)⟩
  | askWithin limit request next ih =>
      exact ⟨implies _ _ abides.1, fun reply => ih reply (abides.2 reply)⟩
  | pause duration next ih => exact ih () abides
  | clock next ih => exact fun time => ih time (abides time)

/-- What follows a dialogue abides by the rule after what the dialogue has exchanged. -/
theorem Abides.bind {dialogue : Dialogue α} {follow : α → Dialogue β}
    (first : dialogue.Abides rule earlier)
    (second : ∀ log value, Ends dialogue log value → (follow value).Abides rule (earlier ++ log)) :
    (dialogue.bind follow).Abides rule earlier := by
  induction dialogue generalizing earlier with
  | done value =>
      have later := second [] value (.done value)
      rwa [List.append_nil] at later
  | ask request next ih =>
      refine ⟨first.1, fun reply => ih reply (first.2 reply) fun log value ends => ?_⟩
      rw [List.append_assoc]
      exact second _ value (.ask reply ends)
  | askWithin limit request next ih =>
      refine ⟨first.1, fun reply => ih reply (first.2 reply) fun log value ends => ?_⟩
      rw [List.append_assoc]
      exact second _ value (.askWithin reply ends)
  | pause duration next ih =>
      exact ih () first fun log value ends => second log value (.pause ends)
  | clock next ih =>
      exact fun time => ih time (first time) fun log value ends =>
        second log value (.clock time ends)

theorem abides_bind_done {dialogue : Dialogue α} {view : α → β} :
    dialogue.Abides rule earlier →
      (dialogue.bind fun value => .done (view value)).Abides rule earlier :=
  fun abides => abides.bind fun _ _ _ => trivial

/-- **On a transcript of the dialogue every request was allowed when it was made.** -/
theorem Abides.allows {dialogue : Dialogue α} {log : List Exchange} {value : α}
    (abides : dialogue.Abides rule earlier) (ends : Ends dialogue log value)
    {before after : List Exchange} {exchange : Exchange}
    (split : log = before ++ exchange :: after) :
    rule (earlier ++ before) exchange.request := by
  induction ends generalizing earlier before with
  | done value => simp at split
  | ask reply ends ih =>
      cases before with
      | nil =>
          cases split
          rw [List.append_nil]
          exact abides.1
      | cons first before =>
          obtain ⟨rfl, rest⟩ := List.cons.inj split
          rw [List.append_cons]
          exact ih (abides.2 reply) rest
  | askWithin reply ends ih =>
      cases before with
      | nil =>
          cases split
          rw [List.append_nil]
          exact abides.1
      | cons first before =>
          obtain ⟨rfl, rest⟩ := List.cons.inj split
          rw [List.append_cons]
          exact ih (abides.2 reply) rest
  | pause ends ih => exact ih abides split
  | clock time ends ih => exact ih (abides time) split

/-- What every allowed request keeps, the dialogue keeps. -/
theorem Abides.keeps {State : Type} {service : Service State} {dialogue : Dialogue α}
    {holds : State → Prop} {state : State} (abides : dialogue.Abides rule earlier)
    (kept : ∀ earlier request state, rule earlier request → holds state →
      holds (service request state).2)
    (first : holds state) : holds (dialogue.serve service state).2 := by
  induction dialogue generalizing earlier state with
  | done value => exact first
  | ask request next ih => exact ih _ (abides.2 _) (kept _ request state abides.1 first)
  | askWithin limit request next ih =>
      exact ih _ (abides.2 _) (kept _ request state abides.1 first)
  | pause duration next ih => exact ih () abides first
  | clock next ih => exact ih 0 (abides 0) first

end Dialogue

namespace Flow

/-- After the earlier exchanges and whatever the replies, the flow makes allowed requests only. -/
def Abides (rule : Rule) (flow : Flow α) (earlier : List Exchange) : Prop :=
  Dialogue.Abides rule flow.run earlier

theorem abides_ofOutcome (outcome : Outcome α) : (ofOutcome outcome).Abides rule earlier := trivial

theorem abides_pure (value : α) : (pure value : Flow α).Abides rule earlier := trivial

theorem abides_throw (failure : Failure) : (throw failure : Flow α).Abides rule earlier := trivial

/-- A flow that depends on a condition abides by the rule if both of its branches do. -/
theorem abides_ite {condition : Prop} [Decidable condition] {first second : Flow α}
    (holds : condition → first.Abides rule earlier)
    (fails : ¬ condition → second.Abides rule earlier) :
    (if condition then first else second).Abides rule earlier := by
  split
  · exact holds ‹_›
  · exact fails ‹_›

/-- What follows a flow abides by the rule after what the flow has exchanged. -/
theorem abides_bind {flow : Flow α} {follow : α → Flow β} (first : flow.Abides rule earlier)
    (second : ∀ log value, flow.Ends log (.ok value) →
      (follow value).Abides rule (earlier ++ log)) :
    (flow >>= follow).Abides rule earlier := by
  unfold Abides
  rw [run_bind]
  refine Dialogue.Abides.bind first fun log outcome ends => ?_
  cases outcome with
  | error failure => trivial
  | ok value => exact second log value ends

/-- A flow goes on only with what is known. -/
theorem abides_ofOutcome_bind {known : Outcome α} {follow : α → Flow β}
    (follows : ∀ value, known = .ok value → (follow value).Abides rule earlier) :
    (ofOutcome known >>= follow).Abides rule earlier := by
  cases known with
  | error failure => trivial
  | ok value => exact follows value rfl

theorem abides_map {flow : Flow α} {view : α → β} (abides : flow.Abides rule earlier) :
    (view <$> flow).Abides rule earlier := by
  unfold Abides
  rw [run_map]
  exact Dialogue.abides_bind_done abides

/-- A flow that asks one question is allowed to if the question is. -/
theorem abides_question {request : Request} {outcomeOf : request.Reply → Outcome α}
    (allowed : rule earlier request) :
    Abides rule (ExceptT.mk (.ask request fun reply => .done (outcomeOf reply))) earlier :=
  ⟨allowed, fun _ => trivial⟩

end Flow

/-! ## Sessions -/

namespace Session

variable {handle : Handle} {call : AdminCall}

/-- A call is followed by what its reply comes to. -/
theorem abides_request_bind {follow : Except AdminFailure call.Result → Flow β}
    (allowed : rule earlier (.admin handle.cluster call))
    (follows : ∀ reply later, (follow (replied handle call reply)).Abides rule later) :
    Flow.Abides rule (ExceptT.lift (handle.request call) >>= follow) earlier := by
  unfold Flow.Abides
  rw [run_request_bind]
  exact ⟨allowed, fun reply => follows reply _⟩

/-- A call that is carried out is followed by what its result leads to, right after the exchange. -/
theorem abides_perform_bind {follow : call.Result → Flow β}
    (allowed : rule earlier (.admin handle.cluster call))
    (follows : ∀ result, (follow result).Abides rule
      (earlier ++ [⟨.admin handle.cluster call, some (.ok result)⟩])) :
    (handle.perform call >>= follow).Abides rule earlier := by
  rw [perform_bind]
  unfold Flow.Abides
  rw [run_request_bind]
  refine ⟨allowed, fun reply => ?_⟩
  rcases reply with _ | (refusal | result)
  · exact Flow.abides_throw _
  · exact Flow.abides_throw _
  · exact follows result

/-- Opening a session only looks up what is needed. -/
theorem abides_openSession {opening : Opening} {properties : Properties} (reads : rule.LetsRead) :
    (openSession opening properties).Abides rule earlier := by
  apply Flow.abides_ofOutcome_bind
  intro cluster _
  refine Flow.abides_bind (Flow.abides_question (reads _ _ rfl)) fun _ description _ => ?_
  apply Flow.abides_ofOutcome_bind
  intro _ _
  refine Flow.abides_bind (Flow.abides_question (reads _ _ rfl)) fun _ secret _ => ?_
  apply Flow.abides_ofOutcome_bind
  intro credentials _
  refine Flow.abides_bind ?_ fun _ _ _ => Flow.abides_pure _
  unfold Flow.Abides
  rw [connect_run]
  exact ⟨reads _ _ rfl, fun _ => trivial⟩

/-- What follows the opening of a session has one with the cluster that the properties refer to. -/
theorem abides_openSession_bind {opening : Opening} {properties : Properties}
    {follow : Handle → Flow β} (reads : rule.LetsRead)
    (follows : ∀ handle later, properties.validate = .ok handle.cluster →
      (follow handle).Abides rule later) :
    (openSession opening properties >>= follow).Abides rule earlier := by
  refine Flow.abides_bind (abides_openSession reads) fun log handle ends => ?_
  exact follows handle _ (yields_openSession opening properties log handle ends).1

end Session

end Provision
