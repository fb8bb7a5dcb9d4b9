import MailSwiftSync.Ledger.Checkpoints

/-!
# The plans of rows

A row runs under its own plan, or under the plan its queue shares with the row's identity put
into it.  While a run of the row is queued or running, neither text changes.
-/

namespace MailSwiftSync

open Foundation

/-- The identity of a row, put into its plan. -/
def LedgerPlatform.applyDurableBatchRowOverrides (platform : LedgerPlatform) (plan : PlanFields)
    (overrides : Option String) : Option PlanFields :=
  match overrides with
  | none => some plan
  | some text => do
      let fields ← platform.parseToml text
      let host ← fields.destinationHost
      let user ← fields.destinationUser
      return { plan with destinationHost := some host, destinationUser := some user }

/-- The endpoint that a row's own plan names, which its lock is taken for. -/
def LedgerPlatform.ownEndpoint (platform : LedgerPlatform) (job : MailboxJob) : Option String :=
  (platform.readablePlan job.config).bind platform.lockEndpoint

namespace Ledger

variable (platform : LedgerPlatform) (ledger : Ledger)

/-- `COALESCE(m.config,p.config)`. -/
def planText (job : MailboxJob) : Option String :=
  job.config.or ((job.batchPlanId.bind ledger.plans.find).map (·.config))

/-- The plan a row runs under. -/
def effectivePlan (job : MailboxJob) : Option PlanFields :=
  (platform.readablePlan (ledger.planText job)).bind fun plan =>
    platform.applyDurableBatchRowOverrides plan job.rowOverrides

/-- The endpoint a row writes to: its host, port and case-folded user. -/
def effectiveEndpoint (job : MailboxJob) : Option String :=
  (ledger.effectivePlan platform job).bind platform.lockEndpoint

/-- The endpoint of the mailbox with an identifier. -/
def destinationOf (jobId : JobId) : Option String :=
  (ledger.jobs.find jobId).bind (ledger.effectiveEndpoint platform)

/-- `batch_plan_id TEXT REFERENCES batch_plans(id)`. -/
def PlansKnown : Prop :=
  ∀ job ∈ ledger.jobs, ∀ planId, job.batchPlanId = some planId →
    ∃ plan ∈ ledger.plans, plan.id = planId

variable {platform : LedgerPlatform} {ledger before after next : Ledger}
  {projectId : ProjectId} {operation : Operation}

/-! ## Plans of new queues -/

/-- Every plan in an index is stored. -/
structure IndexKnown (ledger : Ledger) (index : PlanIndex) : Prop where
  allocations : ∀ allocation planId, (allocation, planId) ∈ index.byAllocation →
    ∃ plan ∈ ledger.plans, plan.id = planId
  digests : ∀ digest planId, (digest, planId) ∈ index.byDigest →
    ∃ plan ∈ ledger.plans, plan.id = planId

theorem mem_of_lookup {κ : Type} [DecidableEq κ] {entries : List (κ × String)} {key : κ}
    {value : String}
    (found : entries.lookup key = some value) : (key, value) ∈ entries := by
  obtain ⟨earlier, later, rfl, _⟩ := List.lookup_eq_some_iff.mp found
  exact List.mem_append_right _ List.mem_cons_self

/-- Persisting the shared plans of a queue adds to the plans. -/
theorem insertSharedPlans_known {plans : List SharedPlan} {newPlanId : Nat → String}
    {index : PlanIndex}
    (ran : plans.foldlM (insertSharedPlan platform projectId newPlanId)
      (({} : PlanIndex), ledger) = .ok (index, next)) :
    (∀ plan ∈ ledger.plans, plan ∈ next.plans) ∧ IndexKnown next index := by
  have known := foldlM_invariant
    (motive := fun _ (state : PlanIndex × Ledger) =>
      (∀ plan ∈ ledger.plans, plan ∈ state.2.plans) ∧ IndexKnown state.2 state.1)
    ⟨fun _ isPlan => isPlan, ⟨by simp, by simp⟩⟩
    (fun _ plan before after held stepped => ?_) ran
  · exact known
  · obtain ⟨index, current⟩ := before
    obtain ⟨kept, allocations, digests⟩ := held
    simp only [insertSharedPlan] at stepped
    split at stepped
    · cases stepped
      exact ⟨kept, allocations, digests⟩
    · split at stepped
      · next planId found =>
          cases stepped
          refine ⟨kept, fun allocation other isEntry => ?_, digests⟩
          cases List.mem_cons.mp isEntry with
          | inl isNew =>
            cases isNew
            exact digests _ _ (mem_of_lookup found)
          | inr isOld => exact allocations allocation other isOld
      · simp only [insertPlan, bind_eq_ok, demand_eq_ok, pure_eq_ok] at stepped
        obtain ⟨_, ⟨plans, inserted, rfl⟩, rfl⟩ := stepped
        have grown : ∀ planId, (∃ plan ∈ current.plans, plan.id = planId) →
            ∃ plan ∈ plans, plan.id = planId := by
          intro planId known
          obtain ⟨plan, isPlan, sameId⟩ := known
          exact ⟨plan, (Table.mem_insert inserted).mpr (.inl isPlan), sameId⟩
        have isNew := (Table.mem_insert inserted).mpr (.inr rfl)
        refine ⟨fun plan isPlan => (Table.mem_insert inserted).mpr (.inl (kept plan isPlan)),
          fun allocation planId isEntry => ?_, fun digest planId isEntry => ?_⟩
        · cases List.mem_cons.mp isEntry with
          | inl isLast =>
            cases isLast
            exact ⟨_, isNew, rfl⟩
          | inr isOld => exact grown _ (allocations allocation planId isOld)
        · cases List.mem_cons.mp isEntry with
          | inl isLast =>
            cases isLast
            exact ⟨_, isNew, rfl⟩
          | inr isOld => exact grown _ (digests digest planId isOld)

/-- The rows of a queue refer to plans of its index. -/
theorem insertQueueRows_known {index : PlanIndex} {newJobId : Nat → JobId}
    {rows : List (QueueInsert × Nat)} (known : IndexKnown ledger index)
    (ran : rows.foldlM (insertQueueRow projectId index newJobId) ledger = .ok next) :
    next.plans = ledger.plans ∧ ∀ job ∈ next.jobs, job ∈ ledger.jobs ∨
      ∀ planId, job.batchPlanId = some planId → ∃ plan ∈ ledger.plans, plan.id = planId := by
  refine foldlM_invariant
    (motive := fun _ (current : Ledger) => current.plans = ledger.plans ∧
      ∀ job ∈ current.jobs, job ∈ ledger.jobs ∨
        ∀ planId, job.batchPlanId = some planId → ∃ plan ∈ ledger.plans, plan.id = planId)
    ⟨rfl, fun _ => .inl⟩ (fun _ numbered current after held stepped => ?_) ran
  simp only [insertQueueRow, insertJob, insertFacts, bind_eq_ok, demand_eq_ok,
    pure_eq_ok] at stepped
  obtain ⟨_, ⟨jobs, newJob, rfl⟩, facts, newFacts, rfl⟩ := stepped
  refine ⟨held.1, fun job isJob => ?_⟩
  cases (Table.mem_insert newJob).mp isJob with
  | inl isOld => exact held.2 job isOld
  | inr isNew =>
    subst isNew
    refine .inr fun planId isPlan => ?_
    obtain ⟨plan, _, found⟩ := Option.bind_eq_some_iff.mp isPlan
    exact known.allocations _ _ (mem_of_lookup found)

theorem createBatchQueue_known {rows : List QueueInsert} {newJobId : Nat → JobId}
    {newPlanId : Nat → String}
    (accepted : ledger.createBatchQueue platform projectId rows newJobId newPlanId = .ok next) :
    (∀ plan ∈ ledger.plans, plan ∈ next.plans) ∧ ∀ job ∈ next.jobs, job ∈ ledger.jobs ∨
      ∀ planId, job.batchPlanId = some planId → ∃ plan ∈ next.plans, plan.id = planId := by
  obtain ⟨projects, index, planned, queued, _, plansRan, rowsRan, rfl⟩ :=
    createBatchQueue_ok accepted
  obtain ⟨kept, known⟩ := insertSharedPlans_known plansRan
  obtain ⟨_, sameLedger⟩ := insertSharedPlans_ok plansRan
  obtain ⟨samePlans, rowsKnown⟩ := insertQueueRows_known known rowsRan
  have sameJobs : planned.jobs = ledger.jobs := by rw [sameLedger]
  rw [sameJobs, ← samePlans] at rowsKnown
  rw [← samePlans] at kept
  exact ⟨kept, rowsKnown⟩

/-! ## Rows and plans of any step -/

/-- The columns of a row that name its plan and its destination. -/
structure SamePlan (old job : MailboxJob) : Prop where
  id : job.id = old.id
  destinationMailbox : job.destinationMailbox = old.destinationMailbox
  config : job.config = old.config
  batchPlanId : job.batchPlanId = old.batchPlanId

/-- What an operation does to the plan of a row: the row is new, or kept, or its identity was
replaced. -/
inductive PlanChange (before : Ledger) (operation : Operation) (after : Ledger)
    (job : MailboxJob) : Prop where
  | new (fresh : ∀ old ∈ before.jobs, old.id ≠ job.id) (noRuns : .runs ∉ operation.writes)
      (known : ∀ planId, job.batchPlanId = some planId → ∃ plan ∈ after.plans, plan.id = planId)
  | kept (old : MailboxJob) (isOld : old ∈ before.jobs) (same : SamePlan old job)
      (sameOverrides : job.rowOverrides = old.rowOverrides)
  | replanned (old : MailboxJob) (isOld : old ∈ before.jobs) (same : SamePlan old job)
      (isReplanned : job.id ∈ operation.replannedJobs)

theorem PlanChange.same {job : MailboxJob} (isJob : job ∈ before.jobs) :
    PlanChange before operation after job :=
  .kept job isJob ⟨rfl, rfl, rfl, rfl⟩ rfl

/-- Updates of progress keep plans. -/
theorem PlanChange.setJobs {ledger : Ledger} {condition : MailboxJob → Bool}
    {change : MailboxProgress → MailboxProgress} {job : MailboxJob}
    (isJob : job ∈ (ledger.setJobs condition change).jobs)
    (keeps : ∀ progress, (change progress).rowOverrides = progress.rowOverrides) :
    PlanChange ledger operation after job := by
  obtain ⟨old, isOld, rfl⟩ := mem_setJobs.mp isJob
  split
  · exact .kept old isOld ⟨rfl, rfl, rfl, rfl⟩ (keeps _)
  · exact .same isOld

/-- What any operation does to the plans of rows. -/
theorem Step.planChange (step : Step platform before operation after) {job : MailboxJob}
    (isJob : job ∈ after.jobs) : PlanChange before operation after job := by
  cases operation with
  | createProjectWithMailbox =>
    obtain ⟨_, _, _, inserted, rfl⟩ := createProjectWithMailbox_ok step
    cases (Table.mem_insert inserted).mp isJob with
    | inl isOld => exact .same isOld
    | inr isNew =>
      subst isNew
      exact .new (Table.insert_eq_some inserted).1 (by simp [Operation.writes]) (by simp)
  | createBatchQueue =>
    have known := (createBatchQueue_known step).2 job isJob
    obtain ⟨_, _, _, _, _, enrolls, rfl⟩ := createBatchQueue_enrolls step
    cases enrolls.added job isJob with
    | inl isOld => exact .same isOld
    | inr isNew =>
      refine .new isNew.2.2 (by simp [Operation.writes]) (known.resolve_left fun isOld => ?_)
      exact isNew.2.2 job isOld rfl
  | updateQueuePlans =>
    obtain ⟨old, isOld, change⟩ := (updateQueuePlans_rows step).1 job isJob
    cases change with
    | inl same =>
      rw [same]
      exact .same isOld
    | inr isReplanned =>
      obtain ⟨isReplanned, overrides, rfl⟩ := isReplanned
      exact .replanned old isOld ⟨rfl, rfl, rfl, rfl⟩ isReplanned
  | beginRunWithSnapshot =>
    obtain ⟨_, _, _, _, _, _, _, _, _, _, inserted, rfl⟩ := beginRunWithSnapshot_ok step
    obtain ⟨_, _, rfl⟩ := insertRun_ok inserted
    exact .setJobs isJob fun _ => rfl
  | claimBatchMailboxForChild =>
    obtain ⟨_, _, _, _, _, _, _, _, _, _, _, _, _, _, _, _, _, _, _, rfl⟩ :=
      claimBatchMailboxForChild_ok step
    exact .setJobs isJob fun _ => rfl
  | finishRunForMailbox =>
    obtain ⟨_, _, _, _, _, _, _, _, _, _, _, _, _, rfl⟩ := finishRunForMailbox_ok step
    exact .setJobs isJob fun _ => rfl
  | finishRunForMailboxWithEvidence =>
    obtain ⟨_, _, _, _, _, _, _, _, _, _, _, rfl⟩ := finishRunForMailboxWithEvidence_ok step
    exact .setJobs isJob fun _ => rfl
  | acceptVerificationDifference =>
    obtain ⟨_, _, _, _, _, _, _, _, rfl⟩ := acceptVerificationDifference_ok step
    rw [jobs_recordAcceptance] at isJob
    exact .setJobs isJob fun _ => rfl
  | reopenProject =>
    obtain ⟨_, _, _, _, rfl⟩ := reopenProject_ok step
    exact .setJobs isJob fun _ => rfl
  | advanceCutover =>
    simp only [Step, Operation.apply, bind_eq_ok, pure_eq_ok] at step
    obtain ⟨⟨_, _⟩, advanced, rfl⟩ := step
    obtain ⟨_, _, _, _, _, _, _, _, _, _, rfl⟩ := advanceCutover_ok advanced
    exact .setJobs isJob fun _ => rfl
  | recoverAbandonedJobsPreserving =>
    obtain ⟨_, _, rfl, _⟩ := recoverAbandonedJobsPreserving_ok step
    exact .setJobs isJob fun _ => rfl
  | _ =>
    rw [step.kept.jobs (by simp [Operation.writes])] at isJob
    exact .same isJob

/-- Plans are added, and no plan is lost. -/
theorem Step.plans_kept (step : Step platform before operation after) :
    ∀ plan ∈ before.plans, plan ∈ after.plans := by
  intro plan isPlan
  cases operation with
  | createBatchQueue => exact (createBatchQueue_known step).1 plan isPlan
  | _ =>
    rw [step.kept.plans (by simp [Operation.writes])]
    exact isPlan

theorem Step.plansKnown (step : Step platform before operation after)
    (known : before.PlansKnown) : after.PlansKnown := by
  intro job isJob planId ofPlan
  have stored : ∀ old ∈ before.jobs, SamePlan old job →
      ∃ plan ∈ after.plans, plan.id = planId := by
    intro old isOld same
    obtain ⟨plan, isPlan, sameId⟩ := known old isOld planId (same.batchPlanId.symm.trans ofPlan)
    exact ⟨plan, step.plans_kept plan isPlan, sameId⟩
  cases step.planChange isJob with
  | new _ _ isKnown => exact isKnown planId ofPlan
  | kept old isOld same => exact stored old isOld same
  | replanned old isOld same => exact stored old isOld same

/-! ## Endpoints that stay -/

/-- Rows with the same columns have the same endpoint, when no plan was lost. -/
theorem effectiveEndpoint_kept (step : Step platform before operation after)
    (known : before.PlansKnown) {old job : MailboxJob} (isOld : old ∈ before.jobs)
    (same : SamePlan old job) (sameOverrides : job.rowOverrides = old.rowOverrides) :
    after.effectiveEndpoint platform job = before.effectiveEndpoint platform old := by
  have samePlans : job.batchPlanId.bind after.plans.find =
      old.batchPlanId.bind before.plans.find := by
    rw [same.batchPlanId]
    cases ofPlan : old.batchPlanId with
    | none => rfl
    | some planId =>
      obtain ⟨plan, isPlan, sameId⟩ := known old isOld planId ofPlan
      exact (Table.find_eq_some.mpr ⟨step.plans_kept plan isPlan, sameId⟩).trans
        (Table.find_eq_some.mpr ⟨isPlan, sameId⟩).symm
  have sameText : after.planText job = before.planText old := by
    rw [planText, planText, same.config, samePlans]
  rw [effectiveEndpoint, effectiveEndpoint, effectivePlan, effectivePlan, sameText, sameOverrides]

end Ledger

end MailSwiftSync
