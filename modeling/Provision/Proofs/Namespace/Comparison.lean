import Mathlib.Data.List.Sort
import Provision.Proofs.Namespace.Convergence

/-!
# What a namespace is compared by

Of what can be changed, the key and the default role are compared as they are, a missing one with a
missing one, and roles and log exports are compared without regard to their order: each of them
counts as often as it occurs (`matchesMutable_iff`).

What a step does is decided by what it has read (`converge_eq`), and the decision looks at the lists
in no other way. Where they are rearranged, in the declaration or in the description, a step
therefore completes, waits, submits or refuses just as before; and a step on an available namespace,
with nothing submitted so far, completes if the namespace is as declared and submits a change if it
is not (`lists_unordered`).
-/

set_option autoImplicit false

namespace Provision.Namespace

variable {threshold : Nat} {spec other : Spec} {current reread : Description}
  {checkpoint : Properties} {found again : Option Description}

/-! ## Lists without their order -/

namespace Spec

theorem pairwise_sorted (texts : List String) :
    (sorted texts).Pairwise fun left right => left ≤ right := by
  have ascending : (sorted texts).Pairwise fun left right => decide (left ≤ right) = true := by
    refine List.pairwise_mergeSort ?_ ?_ texts
    · intro first second third lower upper
      simp only [decide_eq_true_eq] at lower upper ⊢
      exact String.le_trans lower upper
    · intro first second
      simp only [Bool.or_eq_true, decide_eq_true_eq]
      exact String.le_total first second
  exact ascending.imp of_decide_eq_true

/-- **Two lists are the same in ascending order if one is the other rearranged**, and only then. -/
theorem sorted_eq_iff {first second : List String} :
    sorted first = sorted second ↔ first.Perm second := by
  have rearranged (texts : List String) : (sorted texts).Perm texts :=
    List.mergeSort_perm texts _
  constructor
  · intro same
    exact (rearranged first).symm.trans (same ▸ rearranged second)
  · intro perm
    refine List.Perm.eq_of_pairwise (fun _ _ _ _ => String.le_antisymm) (pairwise_sorted first)
      (pairwise_sorted second) ?_
    exact (rearranged first).trans (perm.trans (rearranged second).symm)

end Spec

/-- What can be changed of a namespace is as declared. -/
structure Agrees (spec : Spec) (current : Description) : Prop where
  key : spec.kmsKeyId = current.kmsKeyId
  roles : spec.iamRoles.Perm current.iamRoles
  defaultRole : spec.defaultIamRole = current.defaultIamRole
  logs : spec.logExports.Perm current.logExports

/-- **What can be changed is compared by value, and lists without their order.** -/
theorem matchesMutable_iff : spec.matchesMutable current = true ↔ Agrees spec current := by
  unfold Spec.matchesMutable
  simp only [Bool.and_eq_true, beq_iff_eq, Spec.sorted_eq_iff]
  constructor
  · rintro ⟨⟨⟨key, roles⟩, defaultRole⟩, logs⟩
    exact ⟨key, roles, defaultRole, logs⟩
  · rintro ⟨key, roles, defaultRole, logs⟩
    exact ⟨⟨⟨key, roles⟩, defaultRole⟩, logs⟩

/-! ## Decisions -/

/-- What a step does about what it has read. -/
inductive Decision where
  | complete (data : Properties)
  | wait (checkpoint : Properties)
  | create
  | change
  | refuse (failure : Failure)

/-- What a step decides to do. -/
def decision (threshold : Nat) (spec : Spec) (checkpoint : Properties) :
    Option Description → Decision
  | none => if isSubmitted checkpoint then .wait checkpoint else .create
  | some current =>
      match spec.immutableConflict current with
      | some conflict => .refuse (.conflict conflict)
      | none =>
          match current.status with
          | .available =>
              if spec.matchesMutable current then .complete (output current)
              else if isSubmitted checkpoint && decide (stalePolls checkpoint < threshold) then
                .wait (checkpoint.insert stalePollsKey
                  (.whole ((stalePolls checkpoint + 1 : Nat) : Int)))
              else .change
          | .deleting => .refuse (.conflict ("命名空间 " ++ current.name ++ " 正在被删除"))
          | .modifying | .unknown => .wait checkpoint

/-- A decision carried out. -/
def Decision.carryOut (spec : Spec) : Decision → Flow Progress
  | .complete data => pure (.finished data)
  | .wait checkpoint => pure (.pending checkpoint)
  | .create => Flow.createNamespace spec >>= fun _ => pure (.pending submittedCheckpoint)
  | .change => Flow.updateNamespace spec >>= fun _ => pure (.pending submittedCheckpoint)
  | .refuse failure => throw failure

/-- **A step reads the namespace, and carries out what it decides then.** -/
theorem converge_eq : converge threshold spec checkpoint =
    Flow.getNamespace spec.name >>= fun found =>
      (decision threshold spec checkpoint found).carryOut spec := by
  unfold converge
  congr 1
  funext found
  cases found with
  | none =>
      unfold decision
      cases isSubmitted checkpoint <;> rfl
  | some current =>
      unfold decision settle
      dsimp only
      cases spec.immutableConflict current with
      | some conflict => rfl
      | none =>
          dsimp only
          cases current.status with
          | available =>
              dsimp only
              cases spec.matchesMutable current with
              | true => rfl
              | false =>
                  unfold submitChange
                  dsimp only
                  cases isSubmitted checkpoint && decide (stalePolls checkpoint < threshold) <;> rfl
          | modifying | deleting | unknown => rfl

/-- After the read, a step ends as what it decides does. -/
theorem ends_converge_iff {log : List Exchange} {outcome : Outcome Progress} :
    Flow.Ends (converge threshold spec checkpoint) (read spec.name (.ok found) :: log) outcome ↔
      Flow.Ends ((decision threshold spec checkpoint found).carryOut spec) log outcome := by
  rw [converge_eq]
  constructor
  · intro ends
    obtain ⟨failure, asked, rfl⟩ | ⟨first, value, rest, asked, follows, same⟩ :=
      Flow.ends_bind.mp ends
    · cases Flow.ends_getNamespace asked
    · rw [Flow.ends_getNamespace asked] at same
      cases same
      exact follows
  · intro follows
    have asked : Flow.Ends (Flow.getNamespace spec.name) [read spec.name (.ok found)] (.ok found) :=
      Flow.ends_question.mpr ⟨_, rfl, rfl⟩
    exact Flow.ends_bind.mpr (.inr ⟨_, found, log, asked, follows, rfl⟩)

/-- A submission ends as it is answered: with the failure, or waiting for the effect. -/
theorem ends_submission_iff {ask : Flow Description} {exchange : Outcome Description → Exchange}
    (asks : ∀ log reply, Flow.Ends ask log reply ↔ log = [exchange reply]) {log : List Exchange}
    {outcome : Outcome Progress} :
    Flow.Ends (ask >>= fun _ => pure (.pending submittedCheckpoint)) log outcome ↔
      ∃ reply, log = [exchange reply] ∧
        outcome = (fun _ => .pending submittedCheckpoint) <$> reply := by
  simp only [Flow.ends_bind_pure, asks]

theorem ends_change_iff {log : List Exchange} {outcome : Outcome Progress} :
    Flow.Ends (Decision.change.carryOut spec) log outcome ↔
      ∃ reply, log = [change spec reply] ∧
        outcome = (fun _ => .pending submittedCheckpoint) <$> reply := by
  refine ends_submission_iff fun log reply => ⟨Flow.ends_updateNamespace, ?_⟩
  rintro rfl
  exact Flow.ends_question.mpr ⟨reply, rfl, rfl⟩

theorem ends_create_iff {log : List Exchange} {outcome : Outcome Progress} :
    Flow.Ends (Decision.create.carryOut spec) log outcome ↔
      ∃ reply, log = [creation spec reply] ∧
        outcome = (fun _ => .pending submittedCheckpoint) <$> reply := by
  refine ends_submission_iff fun log reply => ⟨Flow.ends_createNamespace, ?_⟩
  rintro rfl
  exact Flow.ends_question.mpr ⟨reply, rfl, rfl⟩

/-! ## Rearrangements -/

/-- The same declaration with its lists rearranged. -/
structure Spec.Rearranged (spec other : Spec) : Prop where
  name : other.name = spec.name
  dbName : other.dbName = spec.dbName
  adminUsername : other.adminUsername = spec.adminUsername
  kmsKeyId : other.kmsKeyId = spec.kmsKeyId
  iamRoles : other.iamRoles.Perm spec.iamRoles
  defaultIamRole : other.defaultIamRole = spec.defaultIamRole
  logExports : other.logExports.Perm spec.logExports

/-- The same description with its lists rearranged. -/
structure Description.Rearranged (current reread : Description) : Prop where
  name : reread.name = current.name
  id : reread.id = current.id
  arn : reread.arn = current.arn
  status : reread.status = current.status
  dbName : reread.dbName = current.dbName
  adminUsername : reread.adminUsername = current.adminUsername
  kmsKeyId : reread.kmsKeyId = current.kmsKeyId
  iamRoles : reread.iamRoles.Perm current.iamRoles
  defaultIamRole : reread.defaultIamRole = current.defaultIamRole
  logExports : reread.logExports.Perm current.logExports

theorem matchesMutable_rearranged (specs : spec.Rearranged other)
    (described : current.Rearranged reread) :
    other.matchesMutable reread = spec.matchesMutable current := by
  unfold Spec.matchesMutable
  rw [specs.kmsKeyId, described.kmsKeyId, specs.defaultIamRole, described.defaultIamRole,
    Spec.sorted_eq_iff.mpr specs.iamRoles, Spec.sorted_eq_iff.mpr described.iamRoles,
    Spec.sorted_eq_iff.mpr specs.logExports, Spec.sorted_eq_iff.mpr described.logExports]

theorem immutableConflict_rearranged (specs : spec.Rearranged other)
    (described : current.Rearranged reread) :
    other.immutableConflict reread = spec.immutableConflict current := by
  unfold Spec.immutableConflict
  rw [specs.dbName, described.dbName, specs.adminUsername, described.adminUsername,
    described.name]

theorem output_rearranged (described : current.Rearranged reread) :
    output reread = output current := by
  unfold output
  rw [described.id, described.arn, described.name]

/-- **Where lists are rearranged, the decision is the same.** -/
theorem decision_rearranged (specs : spec.Rearranged other)
    (described : Option.Rel Description.Rearranged found again) :
    decision threshold other checkpoint again = decision threshold spec checkpoint found := by
  cases described with
  | none => rfl
  | some described =>
      unfold decision
      dsimp only
      rw [immutableConflict_rearranged specs described, matchesMutable_rearranged specs described,
        output_rearranged described, described.status, described.name]

/-- A decision that needs no further request comes to the same for every declaration. -/
theorem ends_carryOut_nil_iff {made : Decision} {outcome : Outcome Progress} :
    Flow.Ends (made.carryOut spec) [] outcome ↔ Flow.Ends (made.carryOut other) [] outcome := by
  cases made with
  | complete | wait | refuse => exact Iff.rfl
  | create => simp [ends_create_iff]
  | change => simp [ends_change_iff]

/-- A change that is decided for one declaration is submitted for each in its own words. -/
theorem ends_carryOut_change_iff {made : Decision} {reply : Outcome Description}
    {outcome : Outcome Progress} :
    Flow.Ends (made.carryOut spec) [change spec reply] outcome ↔
      Flow.Ends (made.carryOut other) [change other reply] outcome := by
  cases made with
  | complete | wait => simp [Decision.carryOut, Flow.ends_pure]
  | refuse => simp [Decision.carryOut, Flow.ends_throw]
  | create => simp [ends_create_iff]
  | change =>
      rw [ends_change_iff, ends_change_iff]
      constructor <;>
        · rintro ⟨_, same, rfl⟩
          cases same
          exact ⟨reply, rfl, rfl⟩

theorem ends_carryOut_creation_iff {made : Decision} {reply : Outcome Description}
    {outcome : Outcome Progress} :
    Flow.Ends (made.carryOut spec) [creation spec reply] outcome ↔
      Flow.Ends (made.carryOut other) [creation other reply] outcome := by
  cases made with
  | complete | wait => simp [Decision.carryOut, Flow.ends_pure]
  | refuse => simp [Decision.carryOut, Flow.ends_throw]
  | change => simp [ends_change_iff]
  | create =>
      rw [ends_create_iff, ends_create_iff]
      constructor <;>
        · rintro ⟨_, same, rfl⟩
          cases same
          exact ⟨reply, rfl, rfl⟩

/-- After what they have read, the steps towards two declarations do the same: complete, wait or
refuse without a further request, or submit a change or a creation. -/
structure Alike (threshold : Nat) (checkpoint : Properties) (spec : Spec)
    (found : Option Description) (other : Spec) (again : Option Description) : Prop where
  unasked (outcome : Outcome Progress) :
    Flow.Ends (converge threshold spec checkpoint) [read spec.name (.ok found)] outcome ↔
      Flow.Ends (converge threshold other checkpoint) [read other.name (.ok again)] outcome
  changed (reply : Outcome Description) (outcome : Outcome Progress) :
    Flow.Ends (converge threshold spec checkpoint)
        [read spec.name (.ok found), change spec reply] outcome ↔
      Flow.Ends (converge threshold other checkpoint)
        [read other.name (.ok again), change other reply] outcome
  created (reply : Outcome Description) (outcome : Outcome Progress) :
    Flow.Ends (converge threshold spec checkpoint)
        [read spec.name (.ok found), creation spec reply] outcome ↔
      Flow.Ends (converge threshold other checkpoint)
        [read other.name (.ok again), creation other reply] outcome

theorem alike_rearranged (specs : spec.Rearranged other)
    (described : Option.Rel Description.Rearranged found again) :
    Alike threshold checkpoint spec found other again := by
  have same : decision threshold other checkpoint again =
      decision threshold spec checkpoint found := decision_rearranged specs described
  refine ⟨fun outcome => ?_, fun reply outcome => ?_, fun reply outcome => ?_⟩
  · rw [ends_converge_iff, ends_converge_iff, same]
    exact ends_carryOut_nil_iff
  · rw [ends_converge_iff, ends_converge_iff, same]
    exact ends_carryOut_change_iff
  · rw [ends_converge_iff, ends_converge_iff, same]
    exact ends_carryOut_creation_iff

/-- What is decided when an available namespace is read with nothing submitted so far. -/
theorem decision_of_usable (usable : Usable spec current)
    (fresh : isSubmitted checkpoint = false) :
    decision threshold spec checkpoint (some current) =
      if spec.matchesMutable current then .complete (output current) else .change := by
  unfold decision
  dsimp only
  rw [usable.2, usable.1, fresh]
  rfl

/-- A step on an available namespace, with nothing submitted so far, completes if the namespace is
as declared, and submits a change if it is not. -/
theorem ends_converge_usable_iff (usable : Usable spec current)
    (fresh : isSubmitted checkpoint = false) {log : List Exchange} {outcome : Outcome Progress} :
    Flow.Ends (converge threshold spec checkpoint)
        (read spec.name (.ok (some current)) :: log) outcome ↔
      Agrees spec current ∧ log = [] ∧ outcome = .ok (.finished (output current)) ∨
        ¬ Agrees spec current ∧ ∃ reply, log = [change spec reply] ∧
          outcome = (fun _ => .pending submittedCheckpoint) <$> reply := by
  rw [ends_converge_iff, decision_of_usable usable fresh, ← matchesMutable_iff]
  cases spec.matchesMutable current with
  | true => simp [Decision.carryOut, Flow.ends_pure]
  | false => simp [ends_change_iff]

/-- **The order of lists decides nothing.** A namespace is as declared if its key and its default
role are the declared ones and its roles and its log exports are those declared, in any order. Where
lists are rearranged, a step does the same, whatever it starts from and whatever it reads. And where
nothing has been submitted and the namespace is available, it completes if the namespace is as
declared, and submits a change otherwise. -/
theorem lists_unordered (threshold : Nat) (spec : Spec) (checkpoint : Properties) :
    (∀ current, spec.matchesMutable current = true ↔ Agrees spec current) ∧
      (∀ other found again, spec.Rearranged other →
        Option.Rel Description.Rearranged found again →
          Alike threshold checkpoint spec found other again) ∧
      ∀ current, Usable spec current → isSubmitted checkpoint = false → ∀ log outcome,
        Flow.Ends (converge threshold spec checkpoint)
            (read spec.name (.ok (some current)) :: log) outcome ↔
          Agrees spec current ∧ log = [] ∧ outcome = .ok (.finished (output current)) ∨
            ¬ Agrees spec current ∧ ∃ reply, log = [change spec reply] ∧
              outcome = (fun _ => .pending submittedCheckpoint) <$> reply := by
  refine ⟨fun _ => matchesMutable_iff, fun _ _ _ => alike_rearranged, ?_⟩
  intro current usable fresh log outcome
  exact ends_converge_usable_iff usable fresh

/-! ## Log exports that are listed twice -/

/-- The declaration of a namespace with the log exports. -/
def logging (logExports : List String) : Spec := { audited with logExports }

/-- A log export that is declared twice is one to be found twice, wherever it stands. -/
theorem lists_unordered_logging :
    Flow.Ends (converge 3 (logging ["connectionlog", "userlog", "userlog"]) [])
        [read "sales" (.ok (some (sales .available ["userlog", "userlog", "connectionlog"])))]
        (.ok (.finished (output (sales .available ["userlog", "userlog", "connectionlog"])))) ∧
      ∀ reply, Flow.Ends (converge 3 (logging ["connectionlog", "userlog", "userlog"]) [])
        [read "sales" (.ok (some (sales .available ["userlog", "connectionlog"]))),
          change (logging ["connectionlog", "userlog", "userlog"]) reply]
        ((fun _ => .pending submittedCheckpoint) <$> reply) := by
  obtain ⟨-, alike, decided⟩ :=
    lists_unordered 3 (logging ["userlog", "connectionlog", "userlog"]) []
  have specs : (logging ["userlog", "connectionlog", "userlog"]).Rearranged
      (logging ["connectionlog", "userlog", "userlog"]) :=
    ⟨rfl, rfl, rfl, rfl, .refl _, rfl, by decide⟩
  have described : Description.Rearranged (sales .available ["userlog", "connectionlog", "userlog"])
      (sales .available ["userlog", "userlog", "connectionlog"]) :=
    ⟨rfl, rfl, rfl, rfl, rfl, rfl, rfl, .refl _, rfl, by decide⟩
  have fewer : Option.Rel Description.Rearranged
      (some (sales .available ["userlog", "connectionlog"]))
      (some (sales .available ["userlog", "connectionlog"])) :=
    .some ⟨rfl, rfl, rfl, rfl, rfl, rfl, rfl, .refl _, rfl, .refl _⟩
  constructor
  · refine ((alike _ _ _ specs (.some described)).unasked _).mp ?_
    exact (decided _ ⟨rfl, by decide +kernel⟩ rfl _ _).mpr
      (.inl ⟨⟨rfl, .refl _, rfl, .refl _⟩, rfl, rfl⟩)
  · intro reply
    refine ((alike _ _ _ specs fewer).changed reply _).mp ?_
    refine (decided _ ⟨rfl, by decide +kernel⟩ rfl _ _).mpr (.inr ⟨?_, reply, rfl, rfl⟩)
    intro agrees
    exact absurd agrees.logs (by decide)

end Provision.Namespace
