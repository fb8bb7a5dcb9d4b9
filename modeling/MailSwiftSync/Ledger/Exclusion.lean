import MailSwiftSync.Ledger.Launches
import MailSwiftSync.Ledger.Plans

/-!
# One writer per destination

An admission takes the lock of a row's destination.  The lock is read off the row's own plan,
so it is the destination's exactly as long as rows of one endpoint are locked alike.
-/

namespace MailSwiftSync

open Foundation

/-! ## Mailboxes with something in common -/

namespace Ownership

variable {before after : Ownership} {shared : JobId → JobId → Prop}

/-- A mailbox has a queued or running run. -/
def Taken (ownership : Ownership) (job : JobId) : Prop :=
  ∃ run ∈ ownership.runs, run.jobId = some job ∧ run.status.isActive = true

/-- Two runs are children of one batch. -/
def Siblings (ownership : Ownership) (first second : Run) : Prop :=
  ∃ batch ∈ ownership.runs, IsChild first batch ∧ IsChild second batch

/-- Two mailboxes that share something are taken at the same time by one batch only. -/
def Exclusive (shared : JobId → JobId → Prop) (ownership : Ownership) : Prop :=
  ∀ first ∈ ownership.runs, ∀ second ∈ ownership.runs, first.status.isActive = true →
    second.status.isActive = true → ∀ job other, first.jobId = some job →
      second.jobId = some other → shared job other → ownership.Siblings first second

/-- Runs of idle mailboxes were added, of several mailboxes only as children of one batch. -/
structure Admission (before : Ownership) (new : Set Run) (after : Ownership) : Prop where
  runs : after.runs = new ∪ before.runs
  idle : ∀ run ∈ new, ∀ job, run.jobId = some job → ¬before.Taken job
  together : ∀ first ∈ new, ∀ second ∈ new, ∀ job other, first.jobId = some job →
    second.jobId = some other → job ≠ other → after.Siblings first second
  apart : ∀ first ∈ new, first.jobId ≠ none → ∀ second ∈ before.runs,
    ¬after.Siblings first second

/-- No run was added, and no run became active. -/
def Quiet (before after : Ownership) : Prop :=
  ∀ run ∈ after.runs, ∃ old ∈ before.runs, ∃ progress,
    run = { old with toRunProgress := progress } ∧
      (run.status.isActive = true → old.status.isActive = true)

theorem not_taken_of_idle (sound : Sound before) {job : JobId} {project : ProjectId}
    (known : (job, project) ∈ before.mailboxes) (idle : before.Idle job project) :
    ¬before.Taken job := by
  rintro ⟨run, isRun, ofJob, active⟩
  have sameProject := sound.mailboxKey _ _ _ (sound.runMailbox run isRun job ofJob) known
  rw [idle run isRun sameProject ofJob] at active
  cases active

theorem admission_of_insert {run : Run} {job : JobId} (sound : Sound before)
    (ofJob : run.jobId = some job) (known : (job, run.projectId) ∈ before.mailboxes)
    (idle : before.Idle job run.projectId) (runs : after.runs = insert run before.runs)
    (noBatch : ∀ batch ∈ after.runs, ¬IsChild run batch) : Admission before {run} after where
  runs := runs
  idle := by
    rintro _ rfl other ofOther
    cases ofJob.symm.trans ofOther
    exact not_taken_of_idle sound known idle
  together := by
    rintro _ rfl _ rfl first second ofFirst ofSecond different
    exact absurd (Option.some.inj (ofFirst.symm.trans ofSecond)) different
  apart := by
    rintro _ rfl _ _ _ ⟨batch, isBatch, isChild, _⟩
    exact noBatch batch isBatch isChild

theorem admission_of_batch {parent : Run} {children : Set Run} (sound : Sound before)
    (noJob : parent.jobId = none) (fresh : ∀ other ∈ before.runs, other.id ≠ parent.id)
    (ofParent : ∀ child ∈ children, IsChild child parent)
    (idle : ∀ child ∈ children, ∃ job, child.jobId = some job ∧
      (job, child.projectId) ∈ before.mailboxes ∧ before.Idle job child.projectId)
    (runs : after.runs = insert parent (children ∪ before.runs)) :
    Admission before (insert parent children) after where
  runs := by rw [runs, Set.insert_union]
  idle := by
    intro run isNew other ofOther
    cases isNew with
    | inl isParent =>
      rw [isParent, noJob] at ofOther
      cases ofOther
    | inr isChild =>
      obtain ⟨job, ofJob, known, quiet⟩ := idle run isChild
      cases ofJob.symm.trans ofOther
      exact not_taken_of_idle sound known quiet
  together := by
    intro first isFirst second isSecond job other ofFirst ofSecond _
    refine ⟨parent, by rw [runs]; exact Set.mem_insert _ _, ?_, ?_⟩
    · cases isFirst with
      | inl isParent =>
        rw [isParent, noJob] at ofFirst
        cases ofFirst
      | inr isChild => exact ofParent first isChild
    · cases isSecond with
      | inl isParent =>
        rw [isParent, noJob] at ofSecond
        cases ofSecond
      | inr isChild => exact ofParent second isChild
  apart := by
    rintro first isFirst hasJob second isOld ⟨batch, _, ofBatch, oldChild⟩
    cases isFirst with
    | inl isParent =>
      rw [isParent] at hasJob
      exact hasJob noJob
    | inr isChild =>
      have sameBatch : some batch.id = some parent.id :=
        ofBatch.1.symm.trans (ofParent first isChild).1
      obtain ⟨known, isKnown, sameId⟩ := sound.parentKnown second isOld batch.id oldChild.1
      exact fresh known isKnown (sameId.trans (Option.some.inj sameBatch))

theorem quiet_of_image {change : Run → RunProgress}
    (runs : after.runs = withProgress change '' before.runs)
    (wakes : ∀ run ∈ before.runs, (change run).status.isActive = true →
      run.status.isActive = true) : Quiet before after := by
  intro run isRun
  rw [runs] at isRun
  obtain ⟨old, isOld, rfl⟩ := isRun
  exact ⟨old, isOld, change old, rfl, wakes old isOld⟩

theorem advance_wakes {target run : Run} {progress : RunProgress} (sound : Sound before)
    (isTarget : target ∈ before.runs) (isRun : run ∈ before.runs)
    (wakes : progress.status.isActive = true → target.status.isActive = true)
    (active : (advance target progress run).status.isActive = true) :
    run.status.isActive = true := by
  by_cases hit : run.id = target.id
  · rw [advance, if_pos hit] at active
    rw [sound.runKey run isRun target isTarget hit]
    exact wakes active
  · rwa [advance, if_neg hit] at active

/-- A step either admits runs or wakes none. -/
theorem Sound.admission_or_quiet (sound : Sound before) (step : Step before after) :
    (∃ new, Admission before new after) ∨ Quiet before after := by
  have soundAfter := sound.step step
  cases step with
  | enroll =>
    exact .inr fun run isRun => ⟨run, isRun, run.toRunProgress, rfl, fun active => active⟩
  | take run job ofJob known fresh idle running single transfers =>
    refine .inl ⟨_, admission_of_insert sound ofJob known idle rfl fun batch _ isChild => ?_⟩
    rw [IsChild, single] at isChild
    cases isChild.1
  | audit run job ofJob known fresh idle running baseline audits =>
    obtain ⟨transfer, isTransfer, ofTransfer, transferJob⟩ := baseline
    refine .inl
      ⟨_, admission_of_insert sound ofJob known idle rfl fun batch isBatch isChild => ?_⟩
    have sameId : batch.id = transfer.id :=
      Option.some.inj (isChild.1.symm.trans ofTransfer)
    have same := soundAfter.runKey batch isBatch transfer (.inr isTransfer) sameId
    rw [IsChild, same, transferJob] at isChild
    cases isChild.2
  | batch parent children noJob noParent running fresh freshChildren keys apart queued idle =>
    exact .inl ⟨_, admission_of_batch sound noJob fresh (fun child isChild =>
      (queued child isChild).2.2) idle rfl⟩
  | claim child parent job progress isChild isParent ofJob ofParent queued =>
    refine .inr (quiet_of_image rfl fun run isRun =>
      advance_wakes sound isChild isRun fun _ => ?_)
    exact RunStatus.isActive_eq_true.mpr (.inl queued)
  | finish run job progress isRun ofJob active =>
    exact .inr (quiet_of_image rfl fun other isOther =>
      advance_wakes sound isRun isOther fun _ => active)
  | close run progress isRun terminal ownsNothing active =>
    exact .inr (quiet_of_image rfl fun other isOther =>
      advance_wakes sound isRun isOther fun _ => active)
  | recover closing closes keeps =>
    refine .inr (quiet_of_image rfl fun run isRun wakes => ?_)
    cases active : run.status.isActive with
    | true => rfl
    | false => rwa [keeps run isRun active, active] at wakes

theorem Siblings.kept (step : Step before after) {first second : Run}
    (siblings : before.Siblings first second) (progress other : RunProgress) :
    after.Siblings { first with toRunProgress := progress }
      { second with toRunProgress := other } := by
  obtain ⟨batch, isBatch, ofFirst, ofSecond⟩ := siblings
  obtain ⟨_, isKept⟩ := step.run_kept isBatch
  exact ⟨_, isKept, ofFirst, ofSecond⟩

/-- A step keeps mailboxes apart if and only if it takes none that shares something with a taken
one. -/
theorem Sound.exclusive_iff (sound : Sound before) (step : Step before after)
    (distinct : ∀ job, ¬shared job job)
    (symmetric : ∀ job other, shared job other → shared other job)
    (exclusive : before.Exclusive shared) :
    after.Exclusive shared ↔ ∀ job other, after.Taken job → ¬before.Taken job →
      before.Taken other → ¬shared job other := by
  cases sound.admission_or_quiet step with
  | inl admitted =>
    obtain ⟨new, admission⟩ := admitted
    have origin : ∀ run ∈ after.runs, run ∈ new ∨ run ∈ before.runs := by
      rw [admission.runs]
      exact fun _ isRun => isRun
    constructor
    · rintro keeps job other ⟨run, isRun, ofJob, active⟩ idle ⟨held, isHeld, ofOther, busy⟩ same
      cases origin run isRun with
      | inl isNew =>
        refine admission.apart run isNew (by simp [ofJob]) held isHeld ?_
        have isAfter : held ∈ after.runs := by
          rw [admission.runs]
          exact .inr isHeld
        exact keeps run isRun held isAfter active busy job other ofJob ofOther same
      | inr isOld => exact idle ⟨run, isOld, ofJob, active⟩
    · intro apart first isFirst second isSecond active busy job other ofFirst ofSecond same
      have taken : after.Taken job := ⟨first, isFirst, ofFirst, active⟩
      have takenOther : after.Taken other := ⟨second, isSecond, ofSecond, busy⟩
      cases origin first isFirst with
      | inl newFirst =>
        have idle := admission.idle first newFirst job ofFirst
        cases origin second isSecond with
        | inl newSecond =>
          refine admission.together first newFirst second newSecond job other ofFirst
            ofSecond ?_
          rintro rfl
          exact distinct job same
        | inr oldSecond =>
          exact absurd same (apart job other taken idle ⟨second, oldSecond, ofSecond, busy⟩)
      | inr oldFirst =>
        cases origin second isSecond with
        | inl newSecond =>
          have idle := admission.idle second newSecond other ofSecond
          exact absurd (symmetric job other same)
            (apart other job takenOther idle ⟨first, oldFirst, ofFirst, active⟩)
        | inr oldSecond =>
          exact (exclusive first oldFirst second oldSecond active busy job other ofFirst
            ofSecond same).kept step first.toRunProgress second.toRunProgress
  | inr quiet =>
    constructor
    · rintro _ job other ⟨run, isRun, ofJob, active⟩ idle
      obtain ⟨old, isOld, _, rfl, wasActive⟩ := quiet run isRun
      exact absurd ⟨old, isOld, ofJob, wasActive active⟩ idle
    · intro _ first isFirst second isSecond active busy job other ofFirst ofSecond same
      obtain ⟨old, isOld, progress, rfl, wasActive⟩ := quiet first isFirst
      obtain ⟨oldSecond, isOldSecond, progressSecond, rfl, wasBusy⟩ := quiet second isSecond
      exact (exclusive old isOld oldSecond isOldSecond (wasActive active) (wasBusy busy) job
        other ofFirst ofSecond same).kept step progress progressSecond

end Ownership

/-- The mailboxes an operation admits to runs. -/
def Operation.admitted : Operation → List JobId
  | beginRunWithSnapshot _ jobId .. => [jobId]
  | beginVerificationRunFromTransfer _ jobId .. => [jobId]
  | beginBatchRunWithChildren _ jobIds .. => jobIds
  | _ => []

/-- The own plans of two rows name one endpoint, or neither names one and the mailboxes have
one name. -/
def LedgerPlatform.LockedAlike (platform : LedgerPlatform) (first second : MailboxJob) : Prop :=
  platform.ownEndpoint first = platform.ownEndpoint second ∧
    (platform.ownEndpoint first = none → platform.mailboxIdentity first.destinationMailbox =
      platform.mailboxIdentity second.destinationMailbox)

theorem LedgerPlatform.lockIdentity_eq {platform : LedgerPlatform} {first second : MailboxJob}
    (alike : platform.LockedAlike first second) :
    platform.lockIdentity first = platform.lockIdentity second := by
  have own : ∀ job, platform.lockIdentity job =
      (platform.ownEndpoint job).getD (platform.mailboxIdentity job.destinationMailbox) :=
    fun _ => rfl
  rw [own, own, ← alike.1]
  cases named : platform.ownEndpoint first with
  | none => exact alike.2 named
  | some endpoint => rfl

namespace Ledger

variable (platform : LedgerPlatform)

/-- Two mailboxes write to one endpoint. -/
def SameDestination (ledger : Ledger) (job other : JobId) : Prop :=
  job ≠ other ∧ ∃ endpoint, ledger.destinationOf platform job = some endpoint ∧
    ledger.destinationOf platform other = some endpoint

/-- Two mailboxes of one endpoint have active runs at the same time as children of one batch
only. -/
def ExclusiveDestinations (ledger : Ledger) : Prop :=
  ledger.ownership.Exclusive (ledger.SameDestination platform)

/-- Every admitted row is locked like the taken rows of its endpoint. -/
def LocksAgree (ledger : Ledger) (operation : Operation) : Prop :=
  ∀ job ∈ ledger.jobs, job.id ∈ operation.admitted → ∀ other ∈ ledger.jobs,
    ledger.ownership.Taken other.id → ∀ endpoint,
      ledger.effectiveEndpoint platform job = some endpoint →
        ledger.effectiveEndpoint platform other = some endpoint → platform.LockedAlike job other

variable {platform : LedgerPlatform} {ledger before after : Ledger} {operation : Operation}

theorem destinationOf_eq {job : MailboxJob} (isJob : job ∈ ledger.jobs) :
    ledger.destinationOf platform job.id = ledger.effectiveEndpoint platform job := by
  rw [destinationOf, Table.find_eq_some.mpr ⟨isJob, rfl⟩, Option.bind_some]

theorem hasActiveRun_of_taken (sound : ledger.ownership.Sound) {job : MailboxJob}
    (isJob : job ∈ ledger.jobs) (taken : ledger.ownership.Taken job.id) :
    ledger.hasActiveRun job.projectId job.id = true := by
  cases active : ledger.hasActiveRun job.projectId job.id with
  | true => rfl
  | false =>
    have known : (job.id, job.projectId) ∈ ledger.ownership.mailboxes :=
      ⟨job, isJob, rfl, rfl⟩
    exact absurd taken
      (Ownership.not_taken_of_idle sound known (idle_of_hasActiveRun active))

/-! ## Admissions -/

/-- What an admission found out about a row, and what it did with it. -/
structure AdmittedRow (platform : LedgerPlatform) (before after : Ledger) (job : MailboxJob) :
    Prop where
  isJob : job ∈ before.jobs
  idle : ¬before.ownership.Taken job.id
  taken : after.ownership.Taken job.id
  unlocked : ∀ other ∈ before.jobs, before.ownership.Taken other.id →
    platform.lockIdentity other ≠ platform.lockIdentity job

theorem unlocked_of_free {candidates : List String} {excluded : List JobId}
    (sound : ledger.ownership.Sound)
    (idle : ∀ jobId ∈ excluded, ¬ledger.ownership.Taken jobId)
    (free : ledger.noActiveDestinationLockConflict platform candidates excluded = true)
    {other : MailboxJob} (isOther : other ∈ ledger.jobs)
    (taken : ledger.ownership.Taken other.id) : platform.lockIdentity other ∉ candidates := by
  intro isCandidate
  rw [noActiveDestinationLockConflict, Bool.not_eq_true', Table.any_eq_false] at free
  have conflict := free other isOther
  have included : other.id ∉ excluded := fun isExcluded => idle _ isExcluded taken
  rw [hasActiveRun_of_taken sound isOther taken] at conflict
  simp [included, isCandidate] at conflict

theorem admittedRow_of_insert {run : Run} {job : MailboxJob} {admitted : Ledger}
    (sound : before.ownership.Sound) (isJob : job ∈ before.jobs)
    (idle : before.hasActiveRun job.projectId job.id = false)
    (free : before.noActiveDestinationLockConflict platform [platform.lockIdentity job]
      [job.id] = true)
    (inserted : before.insertRun run = .ok admitted) (ofJob : run.jobId = some job.id)
    (active : run.status.isActive = true) (runsAfter : after.runs = admitted.runs) :
    AdmittedRow platform before after job := by
  have known : (job.id, job.projectId) ∈ before.ownership.mailboxes := ⟨job, isJob, rfl, rfl⟩
  have quiet := Ownership.not_taken_of_idle sound known (idle_of_hasActiveRun idle)
  constructor
  · exact isJob
  · exact quiet
  · obtain ⟨_, isInserted, rfl⟩ := insertRun_ok inserted
    refine ⟨run, ?_, ofJob, active⟩
    rw [mem_ownership_runs, runsAfter]
    exact (Table.mem_insert isInserted).mpr (.inr rfl)
  · intro other isOther taken same
    refine unlocked_of_free sound (fun jobId isExcluded => ?_) free isOther taken
      (List.mem_singleton.mpr same)
    rwa [List.mem_singleton.mp isExcluded]

variable {jobId : JobId}

theorem admittedRow_of_batch {projectId : ProjectId} {jobIds : List JobId} {runId : RunId}
    {engine : TransferEngine} {expectedPlans : List String} {planSnapshot : String}
    {childPlans : List BatchChildPlan} {newRunId : Nat → RunId} (sound : before.ownership.Sound)
    (accepted : before.beginBatchRunWithChildren platform projectId jobIds runId engine
      expectedPlans planSnapshot childPlans newRunId = .ok after) (isAdmitted : jobId ∈ jobIds) :
    ∃ job, job.id = jobId ∧ AdmittedRow platform before after job := by
  obtain ⟨project, jobs, parent, children, _, _, _, _, admitted, free, inserted, added, rfl⟩ :=
    beginBatchRunWithChildren_ok accepted
  obtain ⟨checked, _⟩ := admitBatchMembers_ok admitted
  have members := batchMembers_jobIds jobIds expectedPlans childPlans newRunId
  have found : ∀ selected ∈ jobIds, ∃ job ∈ jobs, job ∈ before.jobs ∧ job.id = selected ∧
      ¬before.ownership.Taken selected := by
    intro selected isSelected
    rw [← members] at isSelected
    obtain ⟨member, isMember, rfl⟩ := List.mem_map.mp isSelected
    obtain ⟨job, isChosen, isJob, _, idle, _⟩ := checked member isMember
    obtain ⟨isRow, sameId, _⟩ := jobIn_eq_some.mp isJob
    exact ⟨job, isChosen, isRow, sameId,
      Ownership.not_taken_of_idle sound (known_of_jobIn isJob) (idle_of_hasActiveRun idle)⟩
  obtain ⟨job, isChosen, isRow, rfl, idle⟩ := found jobId isAdmitted
  refine ⟨job, rfl, isRow, idle, ?_, ?_⟩
  · obtain ⟨_, _, _, rfl, isRun, _⟩ := insertChildren_ok added
    rw [← members] at isAdmitted
    obtain ⟨member, isMember, sameId⟩ := List.mem_map.mp isAdmitted
    refine ⟨childRun projectId runId engine project.phase member,
      (isRun _).mpr (.inr ⟨member, isMember, rfl⟩), ?_, rfl⟩
    rw [childRun, sameId]
  · intro other isOther taken same
    have idleAll : ∀ selected ∈ jobIds, ¬before.ownership.Taken selected := by
      intro selected isSelected
      obtain ⟨_, _, _, _, quiet⟩ := found selected isSelected
      exact quiet
    refine unlocked_of_free sound idleAll free isOther taken ?_
    rw [same]
    exact List.mem_map_of_mem isChosen

/-- Every admission checks the locks of its rows. -/
theorem Step.admittedRow (step : Step platform before operation after)
    (sound : before.ownership.Sound) (isAdmitted : jobId ∈ operation.admitted) :
    ∃ job, job.id = jobId ∧ AdmittedRow platform before after job := by
  cases operation with
  | beginRunWithSnapshot =>
    cases List.mem_singleton.mp isAdmitted
    obtain ⟨job, _, _, isJob, _, _, _, _, idle, free, inserted, rfl⟩ :=
      beginRunWithSnapshot_ok step
    obtain ⟨isRow, rfl, rfl⟩ := jobIn_eq_some.mp isJob
    exact ⟨job, rfl, admittedRow_of_insert sound isRow idle free inserted rfl rfl rfl⟩
  | beginVerificationRunFromTransfer =>
    cases List.mem_singleton.mp isAdmitted
    obtain ⟨job, _, _, isJob, _, _, idle, _, free, inserted, rfl⟩ :=
      beginVerificationRunFromTransfer_ok step
    obtain ⟨isRow, rfl, rfl⟩ := jobIn_eq_some.mp isJob
    exact ⟨job, rfl, admittedRow_of_insert sound isRow idle free inserted rfl rfl rfl⟩
  | beginBatchRunWithChildren => exact admittedRow_of_batch sound step isAdmitted
  | _ => cases isAdmitted

/-- An active run that was known before was active before. -/
theorem Step.taken_of_known (step : Step platform before operation after) {run : Run}
    (isRun : run ∈ after.runs) (ofJob : run.jobId = some jobId)
    (active : run.status.isActive = true) (known : ∃ old ∈ before.runs, old.id = run.id) :
    before.ownership.Taken jobId := by
  cases step.runsFollow.origin run isRun with
  | inl moved =>
    obtain ⟨old, isOld, progress, moves, rfl⟩ := moved
    refine ⟨old, isOld, ofJob, ?_⟩
    cases moves with
    | inl same => rwa [same] at active
    | inr wasActive => exact wasActive.1
  | inr admits =>
    obtain ⟨old, isOld, sameId⟩ := known
    exact absurd sameId (admits.1 old isOld)

theorem known_of_setRuns {ledger : Ledger} {condition : Run → Bool}
    {change : RunProgress → RunProgress} {run : Run}
    (isRun : run ∈ (ledger.setRuns condition change).runs) :
    ∃ old ∈ ledger.runs, old.id = run.id := by
  obtain ⟨old, isOld, rfl⟩ := mem_setRuns.mp isRun
  refine ⟨old, isOld, ?_⟩
  split <;> rfl

theorem admitted_of_insert {run new : Run} {admitted : Ledger}
    (inserted : before.insertRun new = .ok admitted) (isRun : run ∈ admitted.runs)
    (ofJob : run.jobId = some jobId) (ofNew : new.jobId = some jobId → jobId ∈ operation.admitted) :
    (∃ old ∈ before.runs, old.id = run.id) ∨ jobId ∈ operation.admitted := by
  obtain ⟨_, isInserted, rfl⟩ := insertRun_ok inserted
  cases (Table.mem_insert isInserted).mp isRun with
  | inl isOld => exact .inl ⟨run, isOld, rfl⟩
  | inr isNew =>
    subst isNew
    exact .inr (ofNew ofJob)

/-- Runs that were not known before are of admitted mailboxes. -/
theorem Step.known_or_admitted (step : Step platform before operation after) {run : Run}
    (isRun : run ∈ after.runs) (ofJob : run.jobId = some jobId) :
    (∃ old ∈ before.runs, old.id = run.id) ∨ jobId ∈ operation.admitted := by
  cases operation with
  | beginRunWithSnapshot =>
    obtain ⟨_, _, _, _, _, _, _, _, _, _, inserted, rfl⟩ := beginRunWithSnapshot_ok step
    refine admitted_of_insert inserted isRun ofJob fun ofNew => ?_
    exact List.mem_singleton.mpr (Option.some.inj ofNew).symm
  | beginVerificationRunFromTransfer =>
    obtain ⟨_, _, _, _, _, _, _, _, _, inserted, rfl⟩ :=
      beginVerificationRunFromTransfer_ok step
    refine admitted_of_insert inserted isRun ofJob fun ofNew => ?_
    exact List.mem_singleton.mpr (Option.some.inj ofNew).symm
  | beginBatchRunWithChildren _ jobIds _ _ expectedPlans _ childPlans newRunId =>
    obtain ⟨_, _, _, _, _, _, _, _, _, _, inserted, added, rfl⟩ :=
      beginBatchRunWithChildren_ok step
    obtain ⟨_, _, _, rfl, isChild, _⟩ := insertChildren_ok added
    cases (isChild run).mp isRun with
    | inl isEarlier =>
      refine admitted_of_insert inserted isEarlier ofJob fun ofNew => ?_
      cases ofNew
    | inr isNew =>
      obtain ⟨member, isMember, rfl⟩ := isNew
      cases ofJob
      rw [Operation.admitted, ← batchMembers_jobIds jobIds expectedPlans childPlans newRunId]
      exact .inr (List.mem_map_of_mem isMember)
  | claimBatchMailboxForChild =>
    obtain ⟨_, _, _, _, _, _, _, _, _, _, _, _, _, _, _, _, _, _, _, rfl⟩ :=
      claimBatchMailboxForChild_ok step
    exact .inl (known_of_setRuns isRun)
  | finishRun =>
    obtain ⟨_, _, _, _, _, _, _, rfl⟩ := finishRun_ok step
    exact .inl (known_of_setRuns isRun)
  | cancelHeldChildRun =>
    obtain ⟨_, _, _, _, _, rfl⟩ := cancelHeldChildRun_ok step
    exact .inl (known_of_setRuns isRun)
  | finishRunForMailbox =>
    obtain ⟨_, _, _, _, _, _, _, _, _, _, _, _, _, rfl⟩ := finishRunForMailbox_ok step
    exact .inl (known_of_setRuns isRun)
  | finishRunForMailboxWithEvidence =>
    obtain ⟨_, _, _, _, _, _, _, _, _, _, _, rfl⟩ := finishRunForMailboxWithEvidence_ok step
    exact .inl (known_of_setRuns isRun)
  | finishVerificationOnlyRun =>
    obtain ⟨_, _, _, _, _, _, rfl⟩ := finishVerificationOnlyRun_ok step
    exact .inl (known_of_setRuns isRun)
  | recoverAbandonedJobsPreserving =>
    obtain ⟨_, _, rfl, _⟩ := recoverAbandonedJobsPreserving_ok step
    obtain ⟨closed, isClosed, sameId⟩ := known_of_setRuns isRun
    obtain ⟨old, isOld, sameOld⟩ := known_of_setRuns isClosed
    exact .inl ⟨old, isOld, sameOld.trans sameId⟩
  | _ =>
    rw [step.kept.runs (by simp [Operation.writes])] at isRun
    exact .inl ⟨run, isRun, rfl⟩

/-- A mailbox becomes taken by an admission only. -/
theorem Step.admitted_of_taken (step : Step platform before operation after)
    (taken : after.ownership.Taken jobId) (idle : ¬before.ownership.Taken jobId) :
    jobId ∈ operation.admitted := by
  obtain ⟨run, isRun, ofJob, active⟩ := taken
  exact (step.known_or_admitted isRun ofJob).resolve_left fun known =>
    idle (step.taken_of_known isRun ofJob active known)

/-! ## Steps and runs -/

/-- The destination of a mailbox stays while a run of it is active. -/
theorem destination_kept (step : DisciplinedStep platform before operation after)
    (sound : before.ownership.Sound) (known : before.PlansKnown)
    (taken : before.ownership.Taken jobId ∨ after.ownership.Taken jobId) :
    after.destinationOf platform jobId = before.destinationOf platform jobId := by
  have soundAfter := sound.step (DisciplinedStep.ownership sound step)
  have row : ∃ job ∈ after.jobs, job.id = jobId := by
    cases taken with
    | inl wasTaken =>
      obtain ⟨run, isRun, ofJob, _⟩ := wasTaken
      obtain ⟨job, isJob, sameId, _⟩ := (DisciplinedStep.ownership sound step).mailbox_kept
        (sound.runMailbox run isRun jobId ofJob)
      exact ⟨job, isJob, sameId⟩
    | inr isTaken =>
      obtain ⟨run, isRun, ofJob, _⟩ := isTaken
      obtain ⟨job, isJob, sameId, _⟩ := soundAfter.runMailbox run isRun jobId ofJob
      exact ⟨job, isJob, sameId⟩
  obtain ⟨job, isJob, rfl⟩ := row
  have wasTaken : .runs ∉ operation.writes → before.ownership.Taken job.id := by
    intro noRuns
    cases taken with
    | inl wasTaken => exact wasTaken
    | inr isTaken =>
      obtain ⟨run, isRun, ofJob, active⟩ := isTaken
      rw [mem_ownership_runs, step.2.kept.runs noRuns] at isRun
      exact ⟨run, isRun, ofJob, active⟩
  cases step.2.planChange isJob with
  | new fresh noRuns =>
    obtain ⟨run, isRun, ofJob, _⟩ := wasTaken noRuns
    obtain ⟨old, isOld, sameId, _⟩ := sound.runMailbox run isRun job.id ofJob
    exact absurd sameId (fresh old isOld)
  | kept old isOld same sameOverrides =>
    rw [destinationOf_eq isJob, same.id, destinationOf_eq isOld]
    exact effectiveEndpoint_kept step.2 known isOld same sameOverrides
  | replanned old isOld same isReplanned =>
    have noRuns : .runs ∉ operation.writes := by
      cases operation with
      | updateQueuePlans => simp [Operation.writes]
      | _ => cases isReplanned
    obtain ⟨run, isRun, ofJob, active⟩ := wasTaken noRuns
    rw [step.2.replanned_idle sound isReplanned run isRun ofJob] at active
    cases active

/-- An operation keeps destinations exclusive if and only if its locks agree. -/
theorem exclusive_iff_locksAgree (step : DisciplinedStep platform before operation after)
    (sound : before.ownership.Sound) (known : before.PlansKnown)
    (exclusive : before.ExclusiveDestinations platform) :
    after.ExclusiveDestinations platform ↔ before.LocksAgree platform operation := by
  have ownership := DisciplinedStep.ownership sound step
  have kept : ∀ jobId, before.ownership.Taken jobId ∨ after.ownership.Taken jobId →
      after.destinationOf platform jobId = before.destinationOf platform jobId :=
    fun _ => destination_kept step sound known
  have stays : before.ownership.Exclusive (after.SameDestination platform) := by
    intro first isFirst second isSecond active busy job other ofFirst ofSecond same
    obtain ⟨different, endpoint, named, otherNamed⟩ := same
    rw [kept job (.inl ⟨first, isFirst, ofFirst, active⟩)] at named
    rw [kept other (.inl ⟨second, isSecond, ofSecond, busy⟩)] at otherNamed
    exact exclusive first isFirst second isSecond active busy job other ofFirst ofSecond
      ⟨different, endpoint, named, otherNamed⟩
  rw [ExclusiveDestinations, sound.exclusive_iff ownership (fun _ same => same.1 rfl)
    (fun _ _ same => ⟨same.1.symm, same.2.imp fun _ => And.symm⟩) stays]
  constructor
  · intro apart job isJob isAdmitted other isOther taken endpoint named otherNamed
    obtain ⟨row, sameId, admitted⟩ := step.2.admittedRow sound isAdmitted
    cases Table.eq_of_key admitted.isJob isJob sameId
    refine absurd ⟨?_, endpoint, ?_, ?_⟩ (apart job.id other.id admitted.taken admitted.idle taken)
    · intro sameJob
      exact admitted.idle (sameJob ▸ taken)
    · rw [kept job.id (.inr admitted.taken), destinationOf_eq isJob, named]
    · rw [kept other.id (.inl taken), destinationOf_eq isOther, otherNamed]
  · rintro agree job other isTaken idle taken ⟨_, endpoint, named, otherNamed⟩
    have isAdmitted := step.2.admitted_of_taken isTaken idle
    obtain ⟨row, rfl, admitted⟩ := step.2.admittedRow sound isAdmitted
    obtain ⟨run, isRun, ofOther, _⟩ := id taken
    obtain ⟨held, isHeld, rfl, _⟩ := sound.runMailbox run isRun other ofOther
    rw [kept row.id (.inr isTaken), destinationOf_eq admitted.isJob] at named
    rw [kept held.id (.inl taken), destinationOf_eq isHeld] at otherNamed
    have alike := agree row admitted.isJob isAdmitted held isHeld taken endpoint named otherNamed
    exact admitted.unlocked held isHeld taken (LedgerPlatform.lockIdentity_eq alike).symm

end Ledger

/-- The destinations of all ledgers of a run are exclusive if and only if the locks of all its
admissions agree. -/
theorem Ledger.destinations_exclusive_iff (platform : LedgerPlatform)
    (operations : List Operation) (ledger : Ledger) :
    Trace (fun before operation after => Ledger.DisciplinedStep platform before operation after ∧
      after.ExclusiveDestinations platform) {} operations ledger ↔
    Trace (fun before operation after => Ledger.DisciplinedStep platform before operation after ∧
      before.LocksAgree platform operation) {} operations ledger := by
  refine Trace.guarded_iff (fun ledger => ledger.ownership.Sound ∧ ledger.PlansKnown)
    (Ledger.ExclusiveDestinations platform) ⟨Ledger.sound_empty, ?_⟩ ?_ ?_ ?_
  · exact fun _ isJob => absurd isJob (Table.not_mem_empty _)
  · exact fun _ isRun => absurd isRun (Table.not_mem_empty _)
  · intro before operation after step inv
    exact ⟨inv.1.step (Ledger.DisciplinedStep.ownership inv.1 step), step.2.plansKnown inv.2⟩
  · intro before operation after step inv exclusive
    exact Ledger.exclusive_iff_locksAgree step inv.1 inv.2 exclusive

/-! ## A row with a plan of its own beside an imported one -/

/-- The text of a plan with the fields a profile must have. -/
def planToml (source destination user : String) : String :=
  "name = \"\"\nsource_host = \"" ++ source ++ "\"\nsource_user = \"" ++ user ++
    "\"\ndestination_host = \"" ++ destination ++ "\"\ndestination_user = \"" ++ user ++
    "\"\nimapsync_path = \"imapsync\"\nautomap = false\naddheader = false\n" ++
    "justfolders = false\nuseuid = true\nusecache = true\nfastio1 = true\nfastio2 = true\n" ++
    "allowsizemismatch = false\ndelete2 = false\nextra_options = \"\"\n"

/-- The text of a row's identity. -/
def overridesToml (source destination user : String) : String :=
  "source_host = \"" ++ source ++ "\"\nsource_user = \"" ++ user ++
    "\"\nsource_credential_id = \"\"\nsource_oauth_refresh_credential_id = \"\"\n" ++
    "destination_host = \"" ++ destination ++ "\"\ndestination_user = \"" ++ user ++
    "\"\ndestination_credential_id = \"\"\ndestination_oauth_refresh_credential_id = \"\"\n"

/-- A platform that reads the plans of one mailbox, with and without its identity. -/
def LedgerPlatform.adaPlans : LedgerPlatform :=
  { LedgerPlatform.ascii with
    parseToml := fun text =>
      if text = planToml "old.example" "new.example" "ada@new.example" ∨
          text = overridesToml "old.example" "new.example" "ada@new.example" then
        some {
          destinationHost := some "new.example"
          destinationUser := some "ada@new.example" }
      else if text = planToml "" "" "" then
        some { destinationHost := some "", destinationUser := some "" }
      else none }

/-- Two projects of one mailbox: the first keeps its plan itself, the second was imported. -/
def Operation.startBothProjects : List Operation := [
  .createBatchQueue "legacy" [{
      destinationMailbox := "ada@new.example"
      destinationIdentity := "endpoint:new.example:993:ada@new.example"
      config := planToml "old.example" "new.example" "ada@new.example" }]
    (fun _ => "own-row") (fun _ => "own-plan"),
  .createBatchQueue "import" [{
      destinationMailbox := "ada@new.example"
      destinationIdentity := "endpoint:new.example:993:ada@new.example"
      config := ""
      batchPlanConfig := some ⟨0, planToml "" "" ""⟩
      rowOverrides := some (overridesToml "old.example" "new.example" "ada@new.example") }]
    (fun _ => "imported-row") (fun _ => "shared-plan"),
  .beginRunWithSnapshot "legacy" "own-row" "first-run" .imapsync "",
  .beginRunWithSnapshot "import" "imported-row" "second-run" .imapsync ""]

/-- Whether a mailbox of the example runs on its own. -/
def Ledger.runsAlone (ledger : Ledger) (jobId : JobId) : Bool :=
  ledger.runs.any (fun run =>
    run.jobId = some jobId && run.status.isActive && run.parentRunId = none) &&
  ledger.destinationOf .adaPlans jobId = some "endpoint:new.example:993:ada@new.example"

/-- Both rows write to one endpoint, and the locks differ. -/
theorem Ledger.both_rows_run : ¬ ∀ (platform : LedgerPlatform) (operations : List Operation)
    (ledger : Ledger), Trace (Ledger.DisciplinedStep platform) {} operations ledger →
      ledger.ExclusiveDestinations platform := by
  intro claimed
  obtain ⟨ledger, run, ends⟩ := Ledger.exists_run_of_replay .adaPlans {}
    Operation.startBothProjects
    (fun ledger => ledger.runsAlone "own-row" && ledger.runsAlone "imported-row")
    (by decide +kernel)
  have alone : ∀ jobId, ledger.runsAlone jobId = true → ∃ run ∈ ledger.runs,
      run.jobId = some jobId ∧ run.status.isActive = true ∧ run.parentRunId = none ∧
        ledger.destinationOf .adaPlans jobId =
          some "endpoint:new.example:993:ada@new.example" := by
    intro jobId isAlone
    rw [Ledger.runsAlone, Bool.and_eq_true, Table.any_eq_true, decide_eq_true_eq] at isAlone
    obtain ⟨⟨run, isRun, facts⟩, named⟩ := isAlone
    rw [Bool.and_eq_true, Bool.and_eq_true, decide_eq_true_eq, decide_eq_true_eq] at facts
    exact ⟨run, isRun, facts.1.1, facts.1.2, facts.2, named⟩
  rw [Bool.and_eq_true] at ends
  obtain ⟨first, isFirst, ofFirst, active, single, named⟩ := alone _ ends.1
  obtain ⟨second, isSecond, ofSecond, busy, _, otherNamed⟩ := alone _ ends.2
  obtain ⟨_, _, ⟨ofBatch, _⟩, _⟩ := claimed _ _ _ run first isFirst second isSecond active busy
    _ _ ofFirst ofSecond ⟨by decide, _, named, otherNamed⟩
  rw [single] at ofBatch
  cases ofBatch

end MailSwiftSync
