import MailSwiftSync.Queue.Durable

/-!
# Rebuilding imported plans

A stored row gives the profile of its job back, and a keyring reference put into the row changes
that reference only.
-/

namespace MailSwiftSync.Queue

open Foundation

variable {codec : PlanCodec} {platform : LedgerPlatform} {ledger next : Ledger}
  {projectId : ProjectId} {jobId : JobId} {defaults profile : Profile}

/-! ## Fields of rows -/

/-- A profile has the settings of the defaults and a name where they have one. -/
structure Shares (defaults profile : Profile) : Prop where
  settings : profile.toPlanSettings = defaults.toPlanSettings
  destinationTls : profile.destinationTls = defaults.destinationTls
  named : profile.name = "" → defaults.name = ""

theorem shares_of_imported {shared : BatchPlanDefaults} {job : BulkJob}
    (imported : Imported shared job) : Shares shared.profile job.profile where
  settings := by rw [← imported.defaults]; rfl
  destinationTls := by rw [← imported.defaults]; rfl
  named := by
    intro unnamed
    rw [← imported.defaults]
    change job.profileName.getD job.defaults.profile.name = "" at unnamed
    cases named : job.profileName with
    | none => rwa [named] at unnamed
    | some name =>
      rw [named] at unnamed
      exact absurd (named.trans (congrArg some unnamed)) imported.named

theorem Shares.refer (shares : Shares defaults profile) (source : Bool) (credentialId : String) :
    Shares defaults (profile.refer source credentialId) := by
  cases source with
  | false => exact ⟨shares.settings, shares.destinationTls, shares.named⟩
  | true => exact ⟨shares.settings, shares.destinationTls, shares.named⟩

/-- The fields of a row, put into the shared plan, give the profile of the row. -/
theorem override_blanked (shares : Shares defaults profile) :
    defaults.blanked.override (rowOverrides profile defaults) =
      { profile with extraOptions := "" } := by
  have tenants := BulkJob.getD_otherThan
  have name : (otherThan "" profile.name).getD defaults.name = profile.name := by
    by_cases unnamed : profile.name = ""
    · rw [unnamed, shares.named unnamed]
      rfl
    · rw [otherThan, if_pos unnamed]
      rfl
  obtain ⟨settings, tls, _⟩ := shares
  simp only [Profile.override, Profile.blanked, rowOverrides, tenants, name, settings, tls]

theorem rowOverrides_refer (source : Bool) (credentialId : String) :
    rowOverrides (Profile.refer { profile with extraOptions := "" } source credentialId)
      defaults.blanked = rowOverrides (profile.refer source credentialId) defaults := by
  cases source <;> rfl

/-! ## Stored rows -/

/-- A row stores a profile as a delta to the defaults. -/
structure Stores (codec : PlanCodec) (ledger : Ledger) (defaults profile : Profile)
    (job : MailboxJob) : Prop where
  plan : ∃ text, ledger.planText job = some text ∧
    text.utf8ByteSize ≤ maxPersistedProfileBytes ∧
      codec.decodeProfile text = .ok defaults.blanked
  overrides : ∃ text, job.rowOverrides = some text ∧
    codec.decodeOverrides text = .ok (rowOverrides profile defaults)

theorem Stores.plan_read {job : MailboxJob} (stores : Stores codec ledger defaults profile job)
    (jobId : JobId) :
    decodePersistedBatchProfile codec (ledger.planText job) jobId = .ok defaults.blanked := by
  obtain ⟨text, isText, fits, decoded⟩ := stores.plan
  rw [isText, decodePersistedBatchProfile, if_neg (Nat.not_lt.mpr fits), decoded]
  rfl

theorem Stores.overridden {job : MailboxJob} (stores : Stores codec ledger defaults profile job)
    (shares : Shares defaults profile) (jobId : JobId) :
    applyDurableBatchRowOverrides codec defaults.blanked job.rowOverrides jobId =
      .ok { profile with extraOptions := "" } := by
  obtain ⟨text, isText, decoded⟩ := stores.overrides
  rw [isText, applyDurableBatchRowOverrides, decoded, ← override_blanked shares]
  rfl

/-- What a stored row is read back as. -/
def Profile.rebuilt (profile : Profile) (extraOptions : String) : Profile :=
  { profile with
    destinationTls :=
      if profile.destinationTls = "" then defaultDestinationTls else profile.destinationTls
    extraOptions }

/-- Reading a stored row gives its profile. -/
theorem Stores.jobFromPlan {job : MailboxJob} (stores : Stores codec ledger defaults profile job)
    (shares : Shares defaults profile) (labels : JobId → String) (projectId : ProjectId)
    (extraOptions : String) (secrets : Option (String × String)) (dryRun : Bool) :
    ∃ rebuilt, jobFromPlan codec (queuePlanRow ledger labels projectId job) extraOptions secrets
      dryRun = .ok rebuilt ∧ rebuilt.profile = profile.rebuilt extraOptions := by
  have read : rowProfile codec (queuePlanRow ledger labels projectId job) =
      .ok { profile with extraOptions := "" } := by
    rw [rowProfile, queuePlanRow, stores.plan_read, ok_bind, stores.overridden shares]
  have rebuilt : Queue.jobFromPlan codec (queuePlanRow ledger labels projectId job) extraOptions
      secrets dryRun = .ok (.fromForm (labels job.id) {
        profile := profile.rebuilt extraOptions
        sourcePassword := (secrets.getD ("", "")).1
        destinationPassword := (secrets.getD ("", "")).2
        dryRun } (ledger.effectiveState projectId job)) := by
    rw [Queue.jobFromPlan, read]
    rfl
  exact ⟨_, rebuilt, BulkJob.profile_fromForm _ _ _⟩

/-! ## Storing -/

end MailSwiftSync.Queue

namespace MailSwiftSync.Ledger

open Foundation

variable {platform : LedgerPlatform} {ledger next : Ledger} {projectId : ProjectId}

/-- The identifiers of an index are those of stored plans with the indexed text. -/
structure Indexed (platform : LedgerPlatform) (done : List SharedPlan) (ledger : Ledger)
    (index : PlanIndex) : Prop where
  found : ∀ shared ∈ done, (index.byAllocation.lookup shared.allocation).isSome = true
  allocations : ∀ allocation planId, (allocation, planId) ∈ index.byAllocation →
    ∃ shared ∈ done, shared.allocation = allocation ∧
      ∃ plan ∈ ledger.plans, plan.id = planId ∧ plan.config = shared.config
  digests : ∀ digest planId, (digest, planId) ∈ index.byDigest →
    ∃ shared ∈ done, platform.sha256Hex shared.config = digest ∧
      ∃ plan ∈ ledger.plans, plan.id = planId ∧ plan.config = shared.config

theorem Indexed.extend {done : List SharedPlan} {index : PlanIndex} {plan : SharedPlan}
    (indexed : Indexed platform done ledger index)
    (known : (index.byAllocation.lookup plan.allocation).isSome = true) :
    Indexed platform (done ++ [plan]) ledger index where
  found := by
    intro shared isShared
    cases List.mem_append.mp isShared with
    | inl earlier => exact indexed.found shared earlier
    | inr last => rwa [List.mem_singleton.mp last]
  allocations := by
    intro allocation planId isEntry
    obtain ⟨shared, isShared, facts⟩ := indexed.allocations allocation planId isEntry
    exact ⟨shared, List.mem_append_left _ isShared, facts⟩
  digests := by
    intro digest planId isEntry
    obtain ⟨shared, isShared, facts⟩ := indexed.digests digest planId isEntry
    exact ⟨shared, List.mem_append_left _ isShared, facts⟩

/-- A plan with an identifier of its own, or with that of a plan with the same text. -/
theorem Indexed.allocate {done : List SharedPlan} {index : PlanIndex} {plan : SharedPlan}
    {planId : String} {plans : Table BatchPlan.id} {digests : List (String × String)}
    (indexed : Indexed platform done ledger index)
    (kept : ∀ old ∈ ledger.plans, old ∈ plans)
    (stored : ∃ row ∈ plans, row.id = planId ∧ row.config = plan.config)
    (known : ∀ entry ∈ digests, entry ∈ index.byDigest ∨
      entry = (platform.sha256Hex plan.config, planId)) :
    Indexed platform (done ++ [plan]) { ledger with plans } {
      byAllocation := (plan.allocation, planId) :: index.byAllocation
      byDigest := digests } where
  found := by
    intro shared isShared
    by_cases same : shared.allocation = plan.allocation
    · rw [same, List.lookup_cons_self]
      rfl
    · rw [List.lookup_cons, beq_false_of_ne same]
      cases List.mem_append.mp isShared with
      | inl earlier => exact indexed.found shared earlier
      | inr last =>
        rw [List.mem_singleton.mp last] at same
        exact absurd rfl same
  allocations := by
    intro allocation other isEntry
    cases List.mem_cons.mp isEntry with
    | inl isNew =>
      cases isNew
      exact ⟨plan, by simp, rfl, stored⟩
    | inr isOld =>
      obtain ⟨shared, isShared, same, row, isRow, facts⟩ :=
        indexed.allocations allocation other isOld
      exact ⟨shared, List.mem_append_left _ isShared, same, row, kept row isRow, facts⟩
  digests := by
    intro digest other isEntry
    cases known _ isEntry with
    | inl isOld =>
      obtain ⟨shared, isShared, same, row, isRow, facts⟩ := indexed.digests digest other isOld
      exact ⟨shared, List.mem_append_left _ isShared, same, row, kept row isRow, facts⟩
    | inr isNew =>
      cases isNew
      exact ⟨plan, by simp, rfl, stored⟩

/-- The shared plans of a queue are stored, when no two texts of them have one digest. -/
theorem insertSharedPlans_indexed {plans : List SharedPlan} {newPlanId : Nat → String}
    {index : PlanIndex}
    (collisionFree : ∀ shared ∈ plans, ∀ other ∈ plans,
      platform.sha256Hex shared.config = platform.sha256Hex other.config →
        shared.config = other.config)
    (ran : plans.foldlM (insertSharedPlan platform projectId newPlanId)
      (({} : PlanIndex), ledger) = .ok (index, next)) : Indexed platform plans next index := by
  have indexed := foldlM_invariant
    (motive := fun done (state : PlanIndex × Ledger) =>
      (∀ shared ∈ done, shared ∈ plans) → Indexed platform done state.2 state.1)
    (fun _ => ⟨by simp, by simp, by simp⟩) (fun done plan before after held stepped => ?_) ran
  · exact indexed fun _ isShared => isShared
  · intro within
    obtain ⟨index, current⟩ := before
    have indexed := held fun shared isShared => within shared (List.mem_append_left _ isShared)
    have isPlan := within plan (List.mem_append_right _ List.mem_cons_self)
    simp only [insertSharedPlan] at stepped
    split at stepped
    · next known =>
        cases stepped
        exact indexed.extend known
    · split at stepped
      · next planId isDigest =>
          cases stepped
          obtain ⟨shared, isShared, sameDigest, row, isRow, sameId, sameText⟩ :=
            indexed.digests _ _ (mem_of_lookup isDigest)
          have same := collisionFree shared (within shared (List.mem_append_left _ isShared)) plan
            isPlan sameDigest
          exact indexed.allocate (fun _ isOld => isOld)
            ⟨row, isRow, sameId, sameText.trans same⟩ fun _ isEntry => .inl isEntry
      · simp only [insertPlan, bind_eq_ok, demand_eq_ok, pure_eq_ok] at stepped
        obtain ⟨_, ⟨plans, inserted, rfl⟩, rfl⟩ := stepped
        refine indexed.allocate (fun old isOld => (Table.mem_insert inserted).mpr (.inl isOld))
          ⟨_, (Table.mem_insert inserted).mpr (.inr rfl), rfl, rfl⟩ fun entry isEntry => ?_
        exact (List.mem_cons.mp isEntry).symm

/-- The rows of a queue as they were given. -/
theorem insertQueueRows_stored {index : PlanIndex} {newJobId : Nat → JobId}
    {rows : List (QueueInsert × Nat)}
    (ran : rows.foldlM (insertQueueRow projectId index newJobId) ledger = .ok next) :
    next.plans = ledger.plans ∧ ∀ numbered ∈ rows, ∃ job ∈ next.jobs,
      job.id = newJobId numbered.2 ∧ job.projectId = projectId ∧
      job.rowOverrides = numbered.1.rowOverrides ∧
      job.config = (if numbered.1.batchPlanConfig.isSome then none else some numbered.1.config) ∧
      job.batchPlanId = numbered.1.batchPlanConfig.bind fun plan =>
        index.byAllocation.lookup plan.allocation := by
  refine foldlM_invariant
    (motive := fun done (current : Ledger) => current.plans = ledger.plans ∧
      ∀ numbered ∈ done, ∃ job ∈ current.jobs, job.id = newJobId numbered.2 ∧
        job.projectId = projectId ∧ job.rowOverrides = numbered.1.rowOverrides ∧
        job.config = (if numbered.1.batchPlanConfig.isSome then none else some numbered.1.config) ∧
        job.batchPlanId = numbered.1.batchPlanConfig.bind fun plan =>
          index.byAllocation.lookup plan.allocation)
    ⟨rfl, by simp⟩ (fun done numbered current after held stepped => ?_) ran
  simp only [insertQueueRow, insertJob, insertFacts, bind_eq_ok, demand_eq_ok,
    pure_eq_ok] at stepped
  obtain ⟨_, ⟨jobs, newJob, rfl⟩, facts, newFacts, rfl⟩ := stepped
  refine ⟨held.1, fun other isOther => ?_⟩
  cases List.mem_append.mp isOther with
  | inl earlier =>
    obtain ⟨job, isJob, columns⟩ := held.2 other earlier
    exact ⟨job, (Table.mem_insert newJob).mpr (.inl isJob), columns⟩
  | inr last =>
    cases List.mem_singleton.mp last
    exact ⟨_, (Table.mem_insert newJob).mpr (.inr rfl), rfl, rfl, rfl, rfl, rfl⟩

/-- A new queue has every row with its plan and its own fields. -/
theorem createBatchQueue_stored {rows : List QueueInsert} {newJobId : Nat → JobId}
    {newPlanId : Nat → String}
    (allocated : ∀ row ∈ rows, ∀ other ∈ rows, ∀ shared ∈ row.batchPlanConfig,
      ∀ second ∈ other.batchPlanConfig, shared.allocation = second.allocation →
        shared.config = second.config)
    (collisionFree : ∀ row ∈ rows, ∀ other ∈ rows, ∀ shared ∈ row.batchPlanConfig,
      ∀ second ∈ other.batchPlanConfig,
        platform.sha256Hex shared.config = platform.sha256Hex second.config →
          shared.config = second.config)
    (accepted : ledger.createBatchQueue platform projectId rows newJobId newPlanId = .ok next) :
    ∀ numbered ∈ rows.zipIdx, ∃ job ∈ next.jobs, job.id = newJobId numbered.2 ∧
      job.projectId = projectId ∧ job.rowOverrides = numbered.1.rowOverrides ∧
      next.planText job = some numbered.1.planText ∧
      numbered.1.planText.utf8ByteSize ≤ maxPersistedProfileBytes := by
  have fits : ∀ row ∈ rows, row.planText.utf8ByteSize ≤ maxPersistedProfileBytes := by
    simp only [createBatchQueue, bind_eq_ok, require_eq_ok, List.all_eq_true,
      decide_eq_true_eq] at accepted
    obtain ⟨_, _, _, fits, _⟩ := accepted
    exact fits
  obtain ⟨projects, index, planned, queued, _, plansRan, rowsRan, rfl⟩ :=
    createBatchQueue_ok accepted
  have isShared : ∀ shared, shared ∈ rows.filterMap (·.batchPlanConfig) ↔
      ∃ row ∈ rows, row.batchPlanConfig = some shared := fun _ => List.mem_filterMap
  have indexed := insertSharedPlans_indexed (fun shared first other second => by
    obtain ⟨row, isRow, ofRow⟩ := (isShared shared).mp first
    obtain ⟨otherRow, isOther, ofOther⟩ := (isShared other).mp second
    exact collisionFree row isRow otherRow isOther shared ofRow other ofOther) plansRan
  obtain ⟨samePlans, stored⟩ := insertQueueRows_stored rowsRan
  intro numbered isNumbered
  have isRow : numbered.1 ∈ rows := List.fst_mem_of_mem_zipIdx isNumbered
  obtain ⟨job, isJob, ofId, ofProject, overrides, config, plan⟩ := stored numbered isNumbered
  refine ⟨job, isJob, ofId, ofProject, overrides, ?_, fits numbered.1 isRow⟩
  change queued.planText job = _
  rw [planText, config, plan, samePlans, QueueInsert.planText]
  cases shares : numbered.1.batchPlanConfig with
  | none => rfl
  | some shared =>
    have known := indexed.found shared ((isShared shared).mpr ⟨_, isRow, shares⟩)
    obtain ⟨planId, found⟩ := Option.isSome_iff_exists.mp known
    obtain ⟨other, isOther, sameAllocation, row, isPlan, sameId, sameText⟩ :=
      indexed.allocations _ _ (mem_of_lookup found)
    obtain ⟨otherRow, isOtherRow, ofOther⟩ := (isShared other).mp isOther
    have same := allocated otherRow isOtherRow numbered.1 isRow other ofOther shared shares
      sameAllocation
    have isFound : planned.plans.find planId = some row := Table.find_eq_some.mpr ⟨isPlan, sameId⟩
    simp [found, isFound, sameText, same]

end MailSwiftSync.Ledger
