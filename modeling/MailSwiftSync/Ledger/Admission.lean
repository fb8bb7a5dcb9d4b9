import MailSwiftSync.Ledger.Cutover
import MailSwiftSync.Ledger.Destination

/-!
# Admission of runs

A run is admitted for a mailbox that has no active run and whose destination no
other active run writes to.  Single runs own their mailbox at once.  A batch leaves its
children queued until workers claim them.  Audits do not touch the mailbox.
-/

namespace MailSwiftSync.Ledger

open Foundation

variable (platform : LedgerPlatform) (ledger : Ledger)

/-! ## Checks -/

/-- `ensure_no_active_destination_lock_conflict`: no mailbox with an active run, apart
from the excluded ones, has one of the candidate identities. -/
def noActiveDestinationLockConflict (candidates : List String) (excluded : List JobId) :
    Bool :=
  !ledger.jobs.any fun job => ledger.hasActiveRun job.projectId job.id &&
    job.id ∉ excluded && platform.lockIdentity job ∈ candidates

def ensureNoActiveDestinationLockConflict (candidates : List String)
    (excluded : List JobId) : Except LedgerError Unit :=
  require (ledger.noActiveDestinationLockConflict platform candidates excluded)
    (.rejection "another active run already targets this destination mailbox")

/-- The refusal of a held project. -/
def heldRefusal (hold : ProjectHold) : LedgerError :=
  .projectHeld ("the project is on hold (" ++ hold.reason ++ " by " ++ hold.heldBy ++
    "); no new mailboxes start until it is resumed")

def ensureNotHeld (projectId : ProjectId) : Except LedgerError Unit :=
  (ledger.holds.find projectId).elim (.ok ()) fun hold => .error (heldRefusal hold)

/-- Whether a mailbox can be taken into a run. -/
def ensureCanStart (job : MailboxJob) : Except LedgerError Unit :=
  require (job.state ≠ .running && validMailboxTransition job.state .running)
    (.rejection ("a mailbox in state " ++ job.state.asStr ++ " cannot start"))

/-- The mailbox columns of a run that begins. -/
def claimed (progress : MailboxProgress) : MailboxProgress :=
  { progress with
    state := .running
    attentionReason := none
    attempt := progress.attempt + 1 }

/-! ## Single runs -/

/-- The run that a single admission records. -/
def singleRun (projectId : ProjectId) (jobId : JobId) (runId : RunId)
    (engine : TransferEngine) (planSnapshot : String) (phase : Phase) : Run where
  id := runId
  projectId := projectId
  jobId := some jobId
  engine := engine.name
  phaseAtStart := phase
  planSnapshot := planSnapshot
  status := .running

/-- The run that an audit records; its parent is the audited transfer. -/
def auditRun (projectId : ProjectId) (jobId : JobId) (runId transferRunId : RunId)
    (planSnapshot : String) (phase : Phase) : Run where
  id := runId
  projectId := projectId
  jobId := some jobId
  parentRunId := some transferRunId
  engine := imapVerification
  phaseAtStart := phase
  planSnapshot := planSnapshot
  status := .running

/-- Record a transfer run and move its mailbox into `running`. -/
def beginRunWithSnapshot (projectId : ProjectId) (jobId : JobId) (runId : RunId)
    (engine : TransferEngine) (planSnapshot : String) : Except LedgerError Ledger := do
  require (planSnapshot.utf8ByteSize ≤ maxPersistedProfileBytes)
    (.rejection "the plan snapshot exceeds the persisted profile size limit")
  let job ← demand (ledger.jobIn projectId jobId)
  let project ← demand (ledger.projects.find projectId)
  ledger.validateManagedCutoverRunAdmission projectId project.phase
  require (project.phase ≠ .complete) (.rejection "the project is complete")
  ledger.ensureNotHeld projectId
  ensureCanStart job
  require (!ledger.hasActiveRun projectId jobId)
    (.rejection "the mailbox already has an active run")
  ledger.ensureNoActiveDestinationLockConflict platform [platform.lockIdentity job] [jobId]
  let admitted ← ledger.insertRun
    (singleRun projectId jobId runId engine planSnapshot project.phase)
  return ((admitted.invalidateCutoverReadinessForNewRun projectId jobId runId).setJobs
    (·.id = jobId) claimed).emit projectId (some runId) .runStarted

/-- Start an audit of a completed transfer, without touching the mailbox. -/
def beginVerificationRunFromTransfer (projectId : ProjectId) (jobId : JobId)
    (runId transferRunId : RunId) (planSnapshot : String) : Except LedgerError Ledger := do
  require (planSnapshot.utf8ByteSize ≤ maxPersistedProfileBytes)
    (.rejection "the plan snapshot exceeds the persisted profile size limit")
  let project ← demand (ledger.projects.find projectId)
  let job ← demand (ledger.jobIn projectId jobId)
  ledger.validateManagedCutoverRunAdmission projectId project.phase
  require (!ledger.hasActiveRun projectId jobId)
    (.rejection "the mailbox already has an active run")
  require (ledger.runs.any fun run => run.id = transferRunId && run.projectId = projectId &&
      run.jobId = some jobId && run.isTransfer && run.status = .completed)
    (.rejection "the baseline is not a completed transfer run of this mailbox")
  ledger.ensureNoActiveDestinationLockConflict platform [platform.lockIdentity job] [jobId]
  let admitted ← ledger.insertRun
    (auditRun projectId jobId runId transferRunId planSnapshot project.phase)
  return (admitted.invalidateCutoverReadinessForNewRun projectId jobId runId).emit projectId
    (some runId) .verificationStarted

/-! ## Batches -/

/-- The plan a child of a batch runs under. -/
structure BatchChildPlan where
  engine : TransferEngine
  planSnapshot : String

/-- One mailbox of a batch: its row, the plan it was confirmed with, the identifier of
its child run and the child's own plan. -/
structure BatchMember where
  jobId : JobId
  childRunId : RunId
  expectedPlan : Option String
  childPlan : Option BatchChildPlan

/-- The mailboxes of a batch; `newRunId` stands for the generator of identifiers. -/
def batchMembers (jobIds : List JobId) (expectedPlans : List String)
    (childPlans : List BatchChildPlan) (newRunId : Nat → RunId) : List BatchMember :=
  jobIds.mapIdx fun index jobId =>
    { jobId
      childRunId := newRunId index
      expectedPlan := expectedPlans[index]?
      childPlan := childPlans[index]? }

/-- The identity that the mailboxes of a batch must not share. -/
def batchIdentity (job : MailboxJob) : String :=
  if job.destinationIdentity = "" then
    platform.normalizedDestinationIdentity job.destinationMailbox job.config
  else job.destinationIdentity

/-- The checks on one mailbox of a batch; `earlier` are the mailboxes before it. -/
def admitBatchMember (projectId : ProjectId) (earlier : List MailboxJob)
    (member : BatchMember) : Except LedgerError (List MailboxJob) := do
  let job ← demand (ledger.jobIn projectId member.jobId)
  require (batchIdentity platform job ∉ earlier.map (batchIdentity platform))
    (.rejection "two batch mailboxes target the same destination mailbox")
  ensureCanStart job
  require (!ledger.hasActiveRun projectId member.jobId)
    (.rejection "a batch mailbox already has an active run")
  require (member.expectedPlan.all (job.preflightPlan = some ·))
    (.rejection "a batch mailbox plan changed since it was confirmed")
  return earlier ++ [job]

/-- The run of a batch as a whole. -/
def parentRun (projectId : ProjectId) (runId : RunId) (engine : TransferEngine)
    (planSnapshot : String) (phase : Phase) : Run where
  id := runId
  projectId := projectId
  jobId := none
  engine := engine.name
  phaseAtStart := phase
  planSnapshot := planSnapshot
  status := .running

/-- The queued run of one mailbox of a batch. -/
def childRun (projectId : ProjectId) (runId : RunId) (engine : TransferEngine)
    (phase : Phase) (member : BatchMember) : Run where
  id := member.childRunId
  projectId := projectId
  jobId := some member.jobId
  parentRunId := some runId
  engine := ((member.childPlan.map (·.engine)).getD engine).name
  phaseAtStart := phase
  planSnapshot := (member.childPlan.map (·.planSnapshot)).getD ""
  status := .queued

/-- Record the queued child run of one mailbox. -/
def insertChild (projectId : ProjectId) (runId : RunId) (engine : TransferEngine)
    (phase : Phase) (ledger : Ledger) (member : BatchMember) : Except LedgerError Ledger := do
  let admitted ← ledger.insertRun (childRun projectId runId engine phase member)
  return admitted.invalidateCutoverReadinessForNewRun projectId member.jobId member.childRunId

/-- Start a batch as one durable boundary; its mailboxes keep their states. -/
def beginBatchRunWithChildren (projectId : ProjectId) (jobIds : List JobId) (runId : RunId)
    (engine : TransferEngine) (expectedPlans : List String) (planSnapshot : String)
    (childPlans : List BatchChildPlan) (newRunId : Nat → RunId) :
    Except LedgerError Ledger := do
  require (planSnapshot.utf8ByteSize ≤ maxPersistedProfileBytes &&
      childPlans.all fun plan => plan.planSnapshot.utf8ByteSize ≤ maxPersistedProfileBytes)
    (.rejection "a batch plan snapshot exceeds the persisted profile size limit")
  require (jobIds ≠ [] && jobIds.Nodup &&
      (expectedPlans = [] || expectedPlans.length = jobIds.length) &&
      (childPlans.isEmpty || childPlans.length = jobIds.length))
    (.rejection "the batch mailbox selection or plan list is inconsistent")
  let project ← demand (ledger.projects.find projectId)
  ledger.validateManagedCutoverRunAdmission projectId project.phase
  require (project.phase ≠ .complete) (.rejection "the project is complete")
  ledger.ensureNotHeld projectId
  let members := batchMembers jobIds expectedPlans childPlans newRunId
  let jobs ← members.foldlM (ledger.admitBatchMember platform projectId) []
  ledger.ensureNoActiveDestinationLockConflict platform (jobs.map platform.lockIdentity)
    jobIds
  let parent ← ledger.insertRun (parentRun projectId runId engine planSnapshot project.phase)
  let children ← members.foldlM (insertChild projectId runId engine project.phase) parent
  return children.emit projectId (some runId) .runStarted

/-- Claim a mailbox for its queued child run. -/
def claimBatchMailboxForChild (projectId : ProjectId) (jobId : JobId)
    (parentRunId childRunId : RunId) : Except LedgerError Ledger := do
  let child ← demand ((ledger.runs.find childRunId).filter fun run =>
    run.projectId = projectId && run.jobId = some jobId && run.parentRunId = some parentRunId)
  require (ledger.runs.any fun run => run.id = parentRunId && run.projectId = projectId &&
      run.jobId = none && run.status = .running)
    (.rejection "the batch run is no longer running")
  require (child.status = .queued)
    (.rejection ("the child run is already " ++ child.status.asStr))
  let job ← demand (ledger.jobIn projectId jobId)
  let project ← demand (ledger.projects.find projectId)
  ledger.validateManagedCutoverRunAdmission projectId project.phase
  require (project.phase ≠ .complete) (.rejection "the project is complete")
  ledger.ensureNotHeld projectId
  require (job.state ≠ .running) (.rejection "the mailbox is already running")
  require (validMailboxTransition job.state .running)
    (.rejection ("a mailbox in state " ++ job.state.asStr ++ " cannot start"))
  return ((ledger.setJobs (·.id = jobId) claimed).setRuns (·.id = childRunId)
    ({ · with status := .running })).emit projectId (some childRunId) .mailboxClaimed

/-! ## Accepted admissions -/

section Accepted

variable {platform : LedgerPlatform} {ledger next : Ledger} {projectId : ProjectId}
  {jobId : JobId} {runId : RunId} {engine : TransferEngine} {planSnapshot : String}

theorem beginRunWithSnapshot_ok (accepted : ledger.beginRunWithSnapshot platform projectId jobId
      runId engine planSnapshot = .ok next) :
    ∃ job project admitted, ledger.jobIn projectId jobId = some job ∧
      ledger.projects.find projectId = some project ∧
      ledger.validateManagedCutoverRunAdmission projectId project.phase = .ok () ∧
      project.phase ≠ .complete ∧
      (job.state ≠ .running ∧ validMailboxTransition job.state .running = true) ∧
      ledger.hasActiveRun projectId jobId = false ∧
      ledger.noActiveDestinationLockConflict platform [platform.lockIdentity job] [jobId] = true ∧
      ledger.insertRun (singleRun projectId jobId runId engine planSnapshot project.phase) =
        .ok admitted ∧
      next = ((admitted.invalidateCutoverReadinessForNewRun projectId jobId runId).setJobs
        (·.id = jobId) claimed).emit projectId (some runId) .runStarted := by
  simp only [beginRunWithSnapshot, ensureCanStart, ensureNoActiveDestinationLockConflict,
    bind_eq_ok, require_eq_ok, demand_eq_ok, pure_eq_ok, exists_const, Bool.and_eq_true,
    decide_eq_true_eq, Bool.not_eq_true'] at accepted
  obtain ⟨_, job, isJob, project, isProject, _, cutover, open_, _, _, startable, idle, free,
    admitted, inserted, rfl⟩ := accepted
  exact ⟨job, project, admitted, isJob, isProject, cutover, open_, startable, idle, free,
    inserted, rfl⟩

theorem beginVerificationRunFromTransfer_ok {transferRunId : RunId}
    (accepted : ledger.beginVerificationRunFromTransfer platform projectId jobId runId
      transferRunId planSnapshot = .ok next) :
    ∃ job project admitted, ledger.jobIn projectId jobId = some job ∧
      ledger.projects.find projectId = some project ∧
      ledger.validateManagedCutoverRunAdmission projectId project.phase = .ok () ∧
      ledger.hasActiveRun projectId jobId = false ∧
      (∃ transfer ∈ ledger.runs, transfer.id = transferRunId ∧
        transfer.jobId = some jobId ∧ transfer.status = .completed) ∧
      ledger.noActiveDestinationLockConflict platform [platform.lockIdentity job] [jobId] = true ∧
      ledger.insertRun (auditRun projectId jobId runId transferRunId planSnapshot project.phase) =
        .ok admitted ∧
      next = (admitted.invalidateCutoverReadinessForNewRun projectId jobId runId).emit projectId
        (some runId) .verificationStarted := by
  simp only [beginVerificationRunFromTransfer, ensureNoActiveDestinationLockConflict,
    bind_eq_ok, require_eq_ok, demand_eq_ok, pure_eq_ok, exists_const, Bool.and_eq_true,
    decide_eq_true_eq, Bool.not_eq_true', Table.any_eq_true] at accepted
  obtain ⟨_, project, isProject, job, isJob, _, cutover, idle, baseline, free, admitted,
    inserted, rfl⟩ := accepted
  obtain ⟨transfer, isRun, ⟨⟨⟨sameId, _⟩, sameJob⟩, _⟩, completed⟩ := baseline
  exact ⟨job, project, admitted, isJob, isProject, cutover, idle,
    ⟨transfer, isRun, sameId, sameJob, completed⟩, free, inserted, rfl⟩

theorem beginBatchRunWithChildren_ok {jobIds : List JobId} {expectedPlans : List String}
    {childPlans : List BatchChildPlan} {newRunId : Nat → RunId}
    (accepted : ledger.beginBatchRunWithChildren platform projectId jobIds runId engine
      expectedPlans planSnapshot childPlans newRunId = .ok next) :
    ∃ project jobs parent children, ledger.projects.find projectId = some project ∧
      ledger.validateManagedCutoverRunAdmission projectId project.phase = .ok () ∧
      project.phase ≠ .complete ∧ jobIds.Nodup ∧
      (batchMembers jobIds expectedPlans childPlans newRunId).foldlM
        (ledger.admitBatchMember platform projectId) [] = .ok jobs ∧
      ledger.noActiveDestinationLockConflict platform (jobs.map platform.lockIdentity) jobIds =
        true ∧
      ledger.insertRun (parentRun projectId runId engine planSnapshot project.phase) =
        .ok parent ∧
      (batchMembers jobIds expectedPlans childPlans newRunId).foldlM
        (insertChild projectId runId engine project.phase) parent = .ok children ∧
      next = children.emit projectId (some runId) .runStarted := by
  simp only [beginBatchRunWithChildren, ensureNoActiveDestinationLockConflict, bind_eq_ok,
    require_eq_ok, demand_eq_ok, pure_eq_ok, exists_const, Bool.and_eq_true,
    decide_eq_true_eq] at accepted
  obtain ⟨_, ⟨⟨⟨_, distinct⟩, _⟩, _⟩, project, isProject, _, cutover, isOpen, _, _, jobs,
    admitted, free, parent, inserted, children, added, rfl⟩ := accepted
  exact ⟨project, jobs, parent, children, isProject, cutover, isOpen, distinct, admitted, free,
    inserted, added, rfl⟩

theorem admitBatchMember_ok {earlier jobs : List MailboxJob} {member : BatchMember}
    (accepted : ledger.admitBatchMember platform projectId earlier member = .ok jobs) :
    ∃ job, ledger.jobIn projectId member.jobId = some job ∧ job.state ≠ .running ∧
      ledger.hasActiveRun projectId member.jobId = false ∧
      (∀ plan ∈ member.expectedPlan, job.preflightPlan = some plan) ∧
      jobs = earlier ++ [job] := by
  simp only [admitBatchMember, ensureCanStart, bind_eq_ok, require_eq_ok, demand_eq_ok,
    pure_eq_ok, exists_const, Bool.and_eq_true, decide_eq_true_eq,
    Bool.not_eq_true', Option.all_eq_true] at accepted
  obtain ⟨job, isJob, _, ⟨notRunning, _⟩, idle, planned, rfl⟩ := accepted
  exact ⟨job, isJob, notRunning, idle, planned, rfl⟩

theorem batchMembers_jobIds (jobIds : List JobId) (expectedPlans : List String)
    (childPlans : List BatchChildPlan) (newRunId : Nat → RunId) :
    (batchMembers jobIds expectedPlans childPlans newRunId).map (·.jobId) = jobIds := by
  apply List.ext_getElem
  · simp [batchMembers]
  · intro index _ _
    simp [batchMembers]

/-- The mailboxes of an admitted batch, and what was checked about each. -/
theorem admitBatchMembers_ok {members : List BatchMember} {jobs : List MailboxJob}
    (ran : members.foldlM (ledger.admitBatchMember platform projectId) [] = .ok jobs) :
    (∀ member ∈ members, ∃ job ∈ jobs, ledger.jobIn projectId member.jobId = some job ∧
      job.state ≠ .running ∧ ledger.hasActiveRun projectId member.jobId = false ∧
      ∀ plan ∈ member.expectedPlan, job.preflightPlan = some plan) ∧
    ∀ job ∈ jobs, ∃ member ∈ members, ledger.jobIn projectId member.jobId = some job := by
  refine foldlM_invariant
    (motive := fun done (jobs : List MailboxJob) =>
      (∀ member ∈ done, ∃ job ∈ jobs, ledger.jobIn projectId member.jobId = some job ∧
        job.state ≠ .running ∧ ledger.hasActiveRun projectId member.jobId = false ∧
        ∀ plan ∈ member.expectedPlan, job.preflightPlan = some plan) ∧
      ∀ job ∈ jobs, ∃ member ∈ done, ledger.jobIn projectId member.jobId = some job)
    ⟨by simp, by simp⟩ ?_ ran
  rintro done member before after ⟨checked, selected⟩ stepped
  obtain ⟨job, isJob, notRunning, idle, planned, rfl⟩ := admitBatchMember_ok stepped
  constructor
  · intro other isOther
    rcases List.mem_append.mp isOther with earlier | last
    · obtain ⟨found, isFound, facts⟩ := checked other earlier
      exact ⟨found, List.mem_append_left _ isFound, facts⟩
    · obtain rfl := List.mem_singleton.mp last
      exact ⟨job, by simp, isJob, notRunning, idle, planned⟩
  · intro other isOther
    rcases List.mem_append.mp isOther with earlier | last
    · obtain ⟨found, isFound, facts⟩ := selected other earlier
      exact ⟨found, List.mem_append_left _ isFound, facts⟩
    · obtain rfl := List.mem_singleton.mp last
      exact ⟨member, by simp, isJob⟩

theorem insertRun_ok {run : Run} (accepted : ledger.insertRun run = .ok next) :
    ∃ runs, ledger.runs.insert run = some runs ∧
      next = { ledger with runs, facts := countRun 1 run ledger.facts } := by
  simp only [insertRun, bind_eq_ok, demand_eq_ok, pure_eq_ok] at accepted
  obtain ⟨runs, inserted, rfl⟩ := accepted
  exact ⟨runs, inserted, rfl⟩

/-- The children of a batch: new runs, counted among the facts. -/
theorem insertChildren_ok {phase : Phase} {members : List BatchMember}
    (ran : members.foldlM (insertChild projectId runId engine phase) ledger = .ok next) :
    ∃ runs facts events, next = { ledger with runs, facts, events } ∧
      (∀ run, run ∈ runs ↔ run ∈ ledger.runs ∨
        ∃ member ∈ members, run = childRun projectId runId engine phase member) ∧
      ∀ member ∈ members, ∀ other ∈ ledger.runs, other.id ≠ member.childRunId := by
  refine foldlM_invariant
    (motive := fun done current => ∃ runs facts events,
      current = { ledger with runs, facts, events } ∧
      (∀ run, run ∈ runs ↔ run ∈ ledger.runs ∨
        ∃ member ∈ done, run = childRun projectId runId engine phase member) ∧
      ∀ member ∈ done, ∀ other ∈ ledger.runs, other.id ≠ member.childRunId)
    ⟨ledger.runs, ledger.facts, ledger.events, rfl, by simp, by simp⟩ ?_ ran
  rintro done member _ after ⟨runs, facts, events, rfl, isRun, fresh⟩ stepped
  simp only [insertChild, bind_eq_ok, pure_eq_ok] at stepped
  obtain ⟨_, admitted, rfl⟩ := stepped
  obtain ⟨runs', inserted, rfl⟩ := insertRun_ok admitted
  refine ⟨runs', _, _, rfl, ?_, ?_⟩
  · intro run
    rw [Table.mem_insert inserted, isRun, or_assoc]
    refine or_congr_right ?_
    simp only [List.mem_append, List.mem_singleton, or_and_right, exists_or, exists_eq_left]
  · intro other isOther
    rcases List.mem_append.mp isOther with earlier | last
    · exact fresh other earlier
    · obtain rfl := List.mem_singleton.mp last
      intro run isOld
      exact (Table.insert_eq_some inserted).1 run ((isRun run).mpr (.inl isOld))

theorem claimBatchMailboxForChild_ok {parentRunId childRunId : RunId}
    (accepted : ledger.claimBatchMailboxForChild projectId jobId parentRunId childRunId =
      .ok next) :
    ∃ child parent job project, child ∈ ledger.runs ∧ child.id = childRunId ∧
      child.projectId = projectId ∧ child.jobId = some jobId ∧
      child.parentRunId = some parentRunId ∧ child.status = .queued ∧
      parent ∈ ledger.runs ∧ parent.id = parentRunId ∧ parent.jobId = none ∧
      parent.status = .running ∧ ledger.jobIn projectId jobId = some job ∧
      ledger.projects.find projectId = some project ∧
      ledger.validateManagedCutoverRunAdmission projectId project.phase = .ok () ∧
      project.phase ≠ .complete ∧ job.state ≠ .running ∧
      next = ((ledger.setJobs (·.id = jobId) claimed).setRuns (·.id = childRunId)
        ({ · with status := .running })).emit projectId (some childRunId) .mailboxClaimed := by
  simp only [claimBatchMailboxForChild, bind_eq_ok, require_eq_ok, demand_eq_ok, pure_eq_ok,
    exists_const, Bool.and_eq_true, decide_eq_true_eq, Table.any_eq_true,
    Option.filter_eq_some_iff, Table.find_eq_some] at accepted
  obtain ⟨child, ⟨⟨isChild, childId⟩, ⟨childProject, childJob⟩, childParent⟩, ⟨parent, isParent,
    ⟨⟨parentId, _⟩, noJob⟩, parentRunning⟩, queued, job, isJob, project, ⟨isProject, projectKey⟩,
    _, cutover, isOpen, _, _, notRunning, _, rfl⟩ := accepted
  exact ⟨child, parent, job, project, isChild, childId, childProject, childJob, childParent,
    queued, isParent, parentId, noJob, parentRunning, isJob,
    Table.find_eq_some.mpr ⟨isProject, projectKey⟩, cutover, isOpen, notRunning, rfl⟩

end Accepted

end MailSwiftSync.Ledger
