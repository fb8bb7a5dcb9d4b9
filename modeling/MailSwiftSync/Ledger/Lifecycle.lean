import MailSwiftSync.Ledger.Admission
import MailSwiftSync.Ledger.Completion

/-!
# Projects, queues and recovery

The operations around the runs: projects and batch queues are created, phases move
forward, differences are accepted by an operator, projects are held, and a restart
closes whatever an earlier process left open.
-/

namespace MailSwiftSync.Ledger

open Foundation

variable (platform : LedgerPlatform) (ledger : Ledger)

/-! ## Projects -/

def insertProject (project : Project) : Except LedgerError Ledger := do
  let projects ← demand (ledger.projects.insert project) (.constraint "projects.id")
  return { ledger with projects }

def insertJob (job : MailboxJob) : Except LedgerError Ledger := do
  let jobs ← demand (ledger.jobs.insert job) (.constraint "mailbox_jobs.id")
  return { ledger with jobs }

def insertFacts (facts : QueueFacts) : Except LedgerError Ledger := do
  let facts ← demand (ledger.facts.insert facts) (.constraint "mailbox_queue_facts.job_id")
  return { ledger with facts }

def insertPlan (plan : BatchPlan) : Except LedgerError Ledger := do
  let plans ← demand (ledger.plans.insert plan) (.constraint "batch_plans.id")
  return { ledger with plans }

/-- A project of one mailbox, without a plan. -/
def createProjectWithMailbox (projectId : ProjectId) (jobId : JobId)
    (destinationMailbox : String) : Except LedgerError Ledger := do
  let created ← ledger.insertProject { id := projectId, phase := .discovery }
  let queued ← created.insertJob {
    id := jobId, projectId, destinationMailbox,
    destinationIdentity := platform.normalizedDestinationIdentity destinationMailbox none }
  return queued.emit projectId none .projectCreated

/-! ## Batch queues -/

/-- A plan that rows of a queue share, and where it is allocated. -/
structure SharedPlan where
  allocation : Nat
  config : String

/-- One row to insert into a new batch queue. -/
structure QueueInsert where
  destinationMailbox : String
  destinationIdentity : String
  config : String
  batchPlanConfig : Option SharedPlan := none
  rowOverrides : Option String := none

/-- The plan text of a row. -/
def QueueInsert.planText (row : QueueInsert) : String :=
  (row.batchPlanConfig.map (·.config)).getD row.config

/-- The shared plans of a queue, one for each allocation. -/
def sharedPlans (rows : List QueueInsert) : List SharedPlan :=
  (rows.filterMap (·.batchPlanConfig)).foldl (fun plans plan =>
    if plans.any (·.allocation = plan.allocation) then plans else plans ++ [plan]) []

/-- The bytes of the plans that rows store themselves. -/
def inlineProfileBytes (rows : List QueueInsert) : Nat :=
  (rows.map fun row =>
    if row.batchPlanConfig.isSome then 0 else row.config.utf8ByteSize).sum

/-- The bytes of the plans that rows share. -/
def sharedProfileBytes (rows : List QueueInsert) : Nat :=
  ((sharedPlans rows).map (·.config.utf8ByteSize)).sum

/-- Persisted plans: identifiers by allocation and by content. -/
structure PlanIndex where
  byAllocation : List (Nat × String) := []
  byDigest : List (String × String) := []

/-- Persist one shared plan; equal plans are stored once. -/
def insertSharedPlan (projectId : ProjectId) (newPlanId : Nat → String)
    (state : PlanIndex × Ledger) (plan : SharedPlan) :
    Except LedgerError (PlanIndex × Ledger) :=
  let (index, ledger) := state
  if (index.byAllocation.lookup plan.allocation).isSome then .ok (index, ledger)
  else
    let digest := platform.sha256Hex plan.config
    match index.byDigest.lookup digest with
    | some id =>
      .ok ({ index with byAllocation := (plan.allocation, id) :: index.byAllocation }, ledger)
    | none => do
        let id := newPlanId plan.allocation
        let ledger ← ledger.insertPlan { id, projectId, config := plan.config }
        return ({
          byAllocation := (plan.allocation, id) :: index.byAllocation
          byDigest := (digest, id) :: index.byDigest }, ledger)

/-- Insert one row of a queue, with its facts. -/
def insertQueueRow (projectId : ProjectId) (index : PlanIndex) (newJobId : Nat → JobId)
    (ledger : Ledger) (numbered : QueueInsert × Nat) : Except LedgerError Ledger := do
  let (row, position) := numbered
  let id := newJobId position
  let queued ← ledger.insertJob {
    id, projectId
    destinationMailbox := row.destinationMailbox
    destinationIdentity := row.destinationIdentity
    config := if row.batchPlanConfig.isSome then none else some row.config
    batchPlanId := row.batchPlanConfig.bind fun plan => index.byAllocation.lookup plan.allocation
    rowOverrides := row.rowOverrides }
  queued.insertFacts { jobId := id, projectId, state := .queued }

/-- Create a batch project whose rows are the queue. -/
def createBatchQueue (projectId : ProjectId) (rows : List QueueInsert)
    (newJobId : Nat → JobId) (newPlanId : Nat → String) : Except LedgerError Ledger := do
  require (rows.length ≠ 0 && rows.length ≤ maxDurableMailboxRows) .invalidQuery
  require (rows.all fun row => row.planText.utf8ByteSize ≤ maxPersistedProfileBytes)
    .invalidQuery
  require (inlineProfileBytes rows ≤ maxTotalPersistedProfileBytes) .invalidQuery
  require (sharedProfileBytes rows ≤ maxTotalPersistedProfileBytes) .invalidQuery
  require ((rows.map (·.destinationIdentity)).Nodup) .invalidQuery
  let created ← ledger.insertProject { id := projectId, phase := .discovery }
  let (index, planned) ← (rows.filterMap (·.batchPlanConfig)).foldlM
    (insertSharedPlan platform projectId newPlanId) (({} : PlanIndex), created)
  let queued ← rows.zipIdx.foldlM (insertQueueRow projectId index newJobId) planned
  return queued.emit projectId none .projectCreated

/-- `COUNT(*)` over the runs of a mailbox. -/
def countRuns (jobId : JobId) (condition : Run → Bool) : Nat :=
  (ledger.runs.select fun run => run.jobId = some jobId && condition run).length

/-- `COUNT(*)` over the acceptances of a mailbox. -/
def countAcceptances (jobId : JobId) : Nat :=
  (ledger.acceptances.filter (·.jobId = jobId)).length

/-- `FACTS_UPSERT`: a new fact starts from the rows it counts, an old one keeps its
counts. -/
def upsertFacts (jobId : JobId) : Except LedgerError Ledger := do
  let job ← demand (ledger.jobs.find jobId)
  match ledger.facts.find jobId with
  | some facts => return { ledger with
      facts := ledger.facts.upsert { facts with
        jobId, projectId := job.projectId, state := job.state } }
  | none => return { ledger with
      facts := ledger.facts.upsert {
        jobId
        projectId := job.projectId
        state := job.state
        runsTotal := ledger.countRuns jobId fun _ => true
        runsQueued := ledger.countRuns jobId (·.status = .queued)
        acceptances := ledger.countAcceptances jobId } }

/-- Store derived facts for existing rows. -/
def setQueueFacts (jobIds : List JobId) : Except LedgerError Ledger :=
  jobIds.foldlM upsertFacts ledger

/-- The mailbox columns of a row whose plan delta was replaced. -/
def replan (overrides : String) (progress : MailboxProgress) : MailboxProgress :=
  { progress with rowOverrides := some overrides, preflightPlan := none }

/-- Replace the plan delta of one row; its preflight no longer counts. -/
def updateQueuePlan (projectId : ProjectId) (ledger : Ledger) (update : JobId × String) :
    Except LedgerError Ledger := do
  let _ ← demand (ledger.jobIn projectId update.1) .invalidQuery
  ({ ledger with
    jobs := ledger.jobs.update (·.id = update.1) (changedJob (replan update.2))
      (changedJob_id _) }).upsertFacts update.1

/-- Replace plan deltas of rows while no run of the project is active. -/
def updateQueuePlans (projectId : ProjectId) (updates : List (JobId × String)) :
    Except LedgerError Ledger := do
  require (updates.all fun update => update.2.utf8ByteSize ≤ maxPersistedProfileBytes)
    .invalidQuery
  require (!ledger.runs.any fun run => run.projectId = projectId && run.status.isActive)
    .invalidQuery
  updates.foldlM (updateQueuePlan projectId) ledger

/-! ## Phases -/

/-- Whether every mailbox of a project, and at least one, is certified. -/
def everyMailboxCertified (projectId : ProjectId) : Bool :=
  let jobs := ledger.projectJobs projectId
  jobs.length ≠ 0 && (jobs.filter ledger.certified).length = jobs.length

def hasCutoverWorkflow (projectId : ProjectId) : Bool :=
  (ledger.workflows.find projectId).isSome

/-- Whether the ranks of two phases rule a transition out. -/
def isBackwardsTransition (current phase : Phase) : Bool :=
  current ≠ .attention && phase ≠ .attention && phaseRank phase < phaseRank current

def transition (projectId : ProjectId) (phase : Phase) : Except LedgerError Ledger := do
  let project ← demand (ledger.projects.find projectId)
  let current := project.phase
  require (current = phase || !ledger.hasCutoverWorkflow projectId)
    (.rejection "a managed cutover workflow owns this project's phase; use the cutover commands")
  require (current = phase || !(current = .complete ||
      (current = .attention && phase ≠ .preflight && phase ≠ .verification) ||
      isBackwardsTransition current phase))
    (.rejection "this phase transition is not allowed from the current phase")
  require (!(phase = .verification && current = .discovery))
    (.rejection "Verification requires a preflight first")
  require (!(phase = .complete && current ≠ phase) ||
      (ledger.everyMailboxCertified projectId && current = .verification))
    (.rejection ("the project completes only when every mailbox is verified or has accepted " ++
      "exceptions"))
  return (ledger.setPhase projectId phase).emit projectId none (.phaseChanged phase)

/-- Take the verification of every mailbox of a project back. -/
def withdrawVerification (projectId : ProjectId) : Ledger :=
  ledger.setJobs (fun job => job.projectId = projectId &&
      (job.state = .verified || job.state = .verifiedWithExceptions))
    ({ · with state := .attention, attentionReason := some .verificationIncomplete })

/-- Reopen a completed project for a documented reason. -/
def reopenProject (projectId : ProjectId) (reason : String) : Except LedgerError Ledger := do
  let _ ← demand (singleLineAuditText reason 4096) .invalidQuery
  let project ← demand (ledger.projects.find projectId)
  require (project.phase = .complete)
    (.rejection "only a completed project can be reopened")
  require (!ledger.hasCutoverWorkflow projectId)
    (.rejection "a project completed through a managed cutover cannot be reopened")
  require (ledger.everyMailboxCertified projectId &&
      (!ledger.runs.any fun run => run.projectId = projectId && run.status.isActive) &&
      !ledger.processes.any fun process =>
        (ledger.runs.find process.runId).any (·.projectId = projectId))
    (.rejection "reopen requires every mailbox verified and no active runs or processes")
  return ((ledger.withdrawVerification projectId).setPhase projectId .attention).emit projectId
    none .projectReopened

/-! ## Accepted differences -/

/-- Whether every flag was compared and found equal, or flags were not verified. -/
def flagsComplete (value : MailboxEvidence) : Bool :=
  value.flagVerification.all fun flags =>
    flags.mismatchedMessages = 0 && flags.exceptedMessages = 0 &&
      flags.comparedMessages = value.sourceMessages

/-- The transaction of an acceptance, once it is allowed. -/
def recordAcceptance (acceptance : VerificationAcceptance) (projectId : ProjectId)
    (phase : Phase) : Ledger :=
  let accepted := ((ledger.insertAcceptance acceptance).setJobs (·.id = acceptance.jobId)
    ({ · with state := .verifiedWithExceptions, attentionReason := none })
      ).maybeEmitCutoverReady projectId
  let closed :=
    if phase = .verification ∧ ¬accepted.hasCutoverWorkflow projectId = true ∧
        accepted.everyMailboxCertified projectId = true then
      (accepted.setPhase projectId .complete).emit projectId none (.phaseChanged .complete)
    else accepted
  closed.emit projectId none .verificationExceptionAccepted

/-- Accept a recorded verification difference with an operator's explanation. -/
def acceptVerificationDifference (projectId : ProjectId) (jobId : JobId)
    (operator reason : String) : Except LedgerError Ledger := do
  let operator ← demand (singleLineAuditText operator 256) .invalidQuery
  let reason ← demand (singleLineAuditText reason 4096) .invalidQuery
  let job ← demand (ledger.jobIn projectId jobId)
  let project ← demand (ledger.projects.find projectId)
  require (job.state = .verificationDifference && project.phase ≠ .complete) .invalidQuery
  let latest ← demand (ledger.latestHistory jobId)
  require (!(ledger.workflows.find projectId).any (·.stage = .verification) ||
      (ledger.evidence.find jobId).any (·.runId = latest.runId))
    (.rejection ("managed cutover exceptions must be accepted against the current " ++
      "final-verification evidence; rerun final verification before accepting"))
  require (!(flagsComplete latest.value && latest.value.verificationOutcome.any (·.isExact)))
    .invalidQuery
  return ledger.recordAcceptance { jobId, runId := latest.runId, operator, reason } projectId
    project.phase

/-! ## Holds -/

def holdProject (projectId : ProjectId) (operator reason : String) :
    Except LedgerError Ledger := do
  let operator ← demand (singleLineAuditText operator 256)
    (.rejection "the operator must be 1-256 printable characters")
  let reason ← demand (singleLineAuditText reason 500)
    (.rejection "the hold reason must be 1-500 printable characters")
  let _ ← demand (ledger.projects.find projectId)
  (ledger.holds.find projectId).elim (.ok ()) fun existing =>
    .error (.rejection ("the project is already on hold by " ++ existing.heldBy))
  let holds ← demand (ledger.holds.insert { projectId, heldBy := operator, reason })
    (.constraint "project_holds.project_id")
  return { ledger with holds }.emit projectId none .projectHeld

def releaseProjectHold (projectId : ProjectId) (operator : String) :
    Except LedgerError Ledger := do
  let _ ← demand (singleLineAuditText operator 256)
    (.rejection "the operator must be 1-256 printable characters")
  let _ ← demand (ledger.holds.find projectId) (.rejection "the project is not on hold")
  return { ledger with holds := ledger.holds.delete (·.projectId = projectId) }.emit projectId
    none .projectResumed

/-! ## Processes and recovery -/

/-- The durable row of a process. -/
def processRow (process : ActiveProcess) : ActiveProcessRow :=
  { process with startedAt := ledger.currentTimestamp }

/-- Record the operating-system process of a running run. -/
def registerProcess (process : ActiveProcess) : Except LedgerError Ledger := do
  require (ledger.runs.any fun run => run.id = process.runId && run.status = .running &&
      run.jobId = some process.jobId && (ledger.jobIn run.projectId process.jobId).isSome)
    .invalidQuery
  require (process.startTicks.all fitsI64) .invalidQuery
  return { ledger with processes := ledger.processes.upsert (ledger.processRow process) }

/-- Forget all processes after an operator's review. -/
def clearActiveProcessesAfterReview : Ledger :=
  { ledger with processes := .empty }

/-- `INSERT INTO active_processes`, with its foreign keys. -/
def insertProcess (ledger : Ledger) (process : ActiveProcess) : Except LedgerError Ledger := do
  require (process.startTicks.all fitsI64) .invalidQuery
  require ((ledger.runs.find process.runId).isSome && (ledger.jobs.find process.jobId).isSome)
    (.constraint "active_processes foreign key")
  let processes ← demand (ledger.processes.insert (ledger.processRow process))
    (.constraint "active_processes.run_id, active_processes.job_id")
  return { ledger with processes }

def restartDetail : String := "Application restarted before completion"

def unclaimedDetail : String := "Application restarted before batch child was claimed"

/-- The projects whose interrupted runs a recovery closes. -/
def interruptedProjects : List ProjectId :=
  ((ledger.runs.select fun run => run.status = .running || (run.status = .queued &&
    ledger.runs.any fun parent => run.parentRunId = some parent.id &&
      parent.status = .running && parent.jobId = none)).map (·.projectId)).dedup

/-- Move interrupted mailboxes to review and close the running runs. -/
def closeRunning : Ledger :=
  (ledger.setJobs (·.state = .running) ({ · with
    state := .attention
    attentionReason := some .processIdentityUnverified })).setRuns (·.status = .running)
      (ended .abandoned restartDetail)

/-- Whether the batch of a run was closed by a restart. -/
def hasAbandonedBatch (run : Run) : Bool :=
  ledger.runs.any fun parent => run.parentRunId = some parent.id &&
    parent.status = .abandoned && parent.jobId = none && parent.detail = restartDetail

/-- Close interrupted runs and, in closed batches, the children nobody claimed. -/
def abandonRuns : Ledger :=
  ledger.closeRunning.setRuns
    (fun run => run.status = .queued && ledger.closeRunning.hasAbandonedBatch run)
    (ended .abandoned unclaimedDetail)

/-- Recover interrupted work, keeping the processes that could not be verified. -/
def recoverAbandonedJobsPreserving (preserved : List ActiveProcess) :
    Except LedgerError Ledger := do
  let recovered ← preserved.foldlM insertProcess
    { ledger.abandonRuns with processes := .empty }
  return ledger.interruptedProjects.foldl (fun ledger projectId =>
    ledger.emit projectId none .runRecovered) recovered

/-! ## Accepted operations -/

section Accepted

variable {platform : LedgerPlatform} {ledger next : Ledger} {projectId : ProjectId}
  {jobId : JobId}

theorem createProjectWithMailbox_ok {destinationMailbox : String}
    (accepted : ledger.createProjectWithMailbox platform projectId jobId destinationMailbox =
      .ok next) :
    ∃ projects jobs,
      ledger.projects.insert { id := projectId, phase := .discovery } = some projects ∧
      ledger.jobs.insert {
        id := jobId, projectId, destinationMailbox,
        destinationIdentity :=
          platform.normalizedDestinationIdentity destinationMailbox none } = some jobs ∧
      next = { ledger with projects, jobs }.emit projectId none .projectCreated := by
  simp only [createProjectWithMailbox, insertProject, insertJob, bind_eq_ok, demand_eq_ok,
    pure_eq_ok] at accepted
  obtain ⟨_, ⟨projects, newProject, rfl⟩, _, ⟨jobs, newJob, rfl⟩, rfl⟩ := accepted
  exact ⟨projects, jobs, newProject, newJob, rfl⟩

variable {newJobId : Nat → JobId} {newPlanId : Nat → String}

theorem createBatchQueue_ok {rows : List QueueInsert}
    (accepted : ledger.createBatchQueue platform projectId rows newJobId newPlanId = .ok next) :
    ∃ projects index planned queued,
      ledger.projects.insert { id := projectId, phase := .discovery } = some projects ∧
      (rows.filterMap (·.batchPlanConfig)).foldlM (insertSharedPlan platform projectId newPlanId)
        (({} : PlanIndex), { ledger with projects }) = .ok (index, planned) ∧
      rows.zipIdx.foldlM (insertQueueRow projectId index newJobId) planned = .ok queued ∧
      next = queued.emit projectId none .projectCreated := by
  simp only [createBatchQueue, insertProject, bind_eq_ok, require_eq_ok, demand_eq_ok,
    pure_eq_ok, exists_const] at accepted
  obtain ⟨_, _, _, _, _, _, ⟨projects, newProject, rfl⟩, ⟨index, planned⟩, plans, queued, added,
    rfl⟩ := accepted
  exact ⟨projects, index, planned, queued, newProject, plans, added, rfl⟩

/-- Persisting shared plans touches the plans only. -/
theorem insertSharedPlans_ok {plans : List SharedPlan} {start : PlanIndex} {index : PlanIndex}
    (ran : plans.foldlM (insertSharedPlan platform projectId newPlanId) (start, ledger) =
      .ok (index, next)) : ∃ plans, next = { ledger with plans } := by
  have untouched := foldlM_invariant
    (motive := fun _ (state : PlanIndex × Ledger) => ∃ plans, state.2 = { ledger with plans })
    ⟨ledger.plans, rfl⟩ (fun _ plan before after held stepped => ?_) ran
  · exact untouched
  · obtain ⟨index, current⟩ := before
    obtain ⟨plans, rfl⟩ := held
    simp only [insertSharedPlan] at stepped
    split at stepped
    · cases stepped
      exact ⟨plans, rfl⟩
    · split at stepped
      · cases stepped
        exact ⟨plans, rfl⟩
      · simp only [insertPlan, bind_eq_ok, demand_eq_ok, pure_eq_ok] at stepped
        obtain ⟨_, ⟨plans, _, rfl⟩, rfl⟩ := stepped
        exact ⟨plans, rfl⟩

theorem insertQueueRow_ok {index : PlanIndex} {numbered : QueueInsert × Nat}
    (accepted : insertQueueRow projectId index newJobId ledger numbered = .ok next) :
    ∃ job jobs facts, job.id = newJobId numbered.2 ∧ job.projectId = projectId ∧
      job.toMailboxProgress = { rowOverrides := numbered.1.rowOverrides } ∧
      ledger.jobs.insert job = some jobs ∧
      ledger.facts.insert { jobId := job.id, projectId, state := .queued } = some facts ∧
      next = { ledger with jobs, facts } := by
  simp only [insertQueueRow, insertJob, insertFacts, bind_eq_ok, demand_eq_ok,
    pure_eq_ok] at accepted
  obtain ⟨_, ⟨jobs, newJob, rfl⟩, facts, newFacts, rfl⟩ := accepted
  exact ⟨_, jobs, facts, rfl, rfl, rfl, newJob, newFacts, rfl⟩

/-- The mailboxes of a new project: none of them existed before. -/
structure Enrolls (projectId : ProjectId) (before after : Table MailboxJob.id) : Prop where
  kept : ∀ job ∈ before, job ∈ after
  added : ∀ job ∈ after, job ∈ before ∨ (job.projectId = projectId ∧
    (∃ rowOverrides, job.toMailboxProgress = { rowOverrides }) ∧
    ∀ other ∈ before, other.id ≠ job.id)

theorem Enrolls.insert {before between after : Table MailboxJob.id} {job : MailboxJob}
    (enrolls : Enrolls projectId before between) (ofProject : job.projectId = projectId)
    (isNew : ∃ rowOverrides, job.toMailboxProgress = { rowOverrides })
    (inserted : between.insert job = some after) : Enrolls projectId before after where
  kept := fun other isOther => (Table.mem_insert inserted).mpr (.inl (enrolls.kept other isOther))
  added := by
    intro other isOther
    rcases (Table.mem_insert inserted).mp isOther with isOld | rfl
    · exact enrolls.added other isOld
    · exact .inr ⟨ofProject, isNew, fun old isOld =>
        (Table.insert_eq_some inserted).1 old (enrolls.kept old isOld)⟩

theorem insertQueueRows_ok {index : PlanIndex} {rows : List (QueueInsert × Nat)}
    (ran : rows.foldlM (insertQueueRow projectId index newJobId) ledger = .ok next) :
    ∃ jobs facts, Enrolls projectId ledger.jobs jobs ∧ next = { ledger with jobs, facts } := by
  refine foldlM_invariant
    (motive := fun _ current => ∃ jobs facts, Enrolls projectId ledger.jobs jobs ∧
      current = { ledger with jobs, facts })
    ⟨ledger.jobs, ledger.facts, ⟨fun _ isJob => isJob, fun _ => .inl⟩, rfl⟩ ?_ ran
  rintro _ row _ after ⟨jobs, facts, enrolls, rfl⟩ stepped
  obtain ⟨job, jobs', facts', _, ofProject, isNew, inserted, _, rfl⟩ := insertQueueRow_ok stepped
  exact ⟨jobs', facts', enrolls.insert ofProject ⟨_, isNew⟩ inserted, rfl⟩

/-- A queue adds a project, its plans, its mailboxes and their facts. -/
theorem createBatchQueue_enrolls {rows : List QueueInsert}
    (accepted : ledger.createBatchQueue platform projectId rows newJobId newPlanId = .ok next) :
    ∃ projects plans jobs facts,
      ledger.projects.insert { id := projectId, phase := .discovery } = some projects ∧
      Enrolls projectId ledger.jobs jobs ∧
      next = { ledger with projects, plans, jobs, facts }.emit projectId none .projectCreated := by
  obtain ⟨projects, index, planned, queued, newProject, plansRan, rowsRan, rfl⟩ :=
    createBatchQueue_ok accepted
  obtain ⟨plans, rfl⟩ := insertSharedPlans_ok plansRan
  obtain ⟨jobs, facts, enrolls, rfl⟩ := insertQueueRows_ok rowsRan
  exact ⟨projects, plans, jobs, facts, newProject, enrolls, rfl⟩

theorem upsertFacts_ok (accepted : ledger.upsertFacts jobId = .ok next) :
    ∃ facts, next = { ledger with facts } := by
  simp only [upsertFacts, bind_eq_ok, demand_eq_ok] at accepted
  obtain ⟨job, _, accepted⟩ := accepted
  split at accepted <;>
  · cases accepted
    exact ⟨_, rfl⟩

theorem setQueueFacts_ok {jobIds : List JobId}
    (accepted : ledger.setQueueFacts jobIds = .ok next) :
    ∃ facts, next = { ledger with facts } := by
  refine foldlM_invariant (motive := fun _ current => ∃ facts, current = { ledger with facts })
    ⟨ledger.facts, rfl⟩ ?_ accepted
  rintro _ jobId _ after ⟨facts, rfl⟩ stepped
  obtain ⟨facts', rfl⟩ := upsertFacts_ok stepped
  exact ⟨facts', rfl⟩

/-- Only the plan columns of a mailbox changed: overrides were replaced and the
preflight forgotten. -/
def Replanned (job job' : MailboxJob) : Prop :=
  job' = job ∨ ∃ overrides, job' = changedJob (replan overrides) job

theorem Replanned.trans {first second third : MailboxJob} (earlier : Replanned first second)
    (later : Replanned second third) : Replanned first third := by
  rcases later with rfl | ⟨overrides, rfl⟩
  · exact earlier
  · rcases earlier with rfl | ⟨_, rfl⟩
    · exact .inr ⟨overrides, rfl⟩
    · exact .inr ⟨overrides, rfl⟩

/-- Mailboxes before and after new plan deltas. -/
structure Replans (before after : Table MailboxJob.id) : Prop where
  forward : ∀ job ∈ before, ∃ job' ∈ after, Replanned job job'
  backward : ∀ job' ∈ after, ∃ job ∈ before, Replanned job job'

theorem updateQueuePlan_ok {update : JobId × String}
    (accepted : updateQueuePlan projectId ledger update = .ok next) :
    ∃ facts, next = { ledger with
      jobs := ledger.jobs.update (·.id = update.1) (changedJob (replan update.2))
        (changedJob_id _)
      facts } := by
  simp only [updateQueuePlan, bind_eq_ok, demand_eq_ok] at accepted
  obtain ⟨_, _, accepted⟩ := accepted
  obtain ⟨facts, rfl⟩ := upsertFacts_ok accepted
  exact ⟨facts, rfl⟩

theorem updateQueuePlans_ok {updates : List (JobId × String)}
    (accepted : ledger.updateQueuePlans projectId updates = .ok next) :
    (∀ run ∈ ledger.runs, run.projectId = projectId → run.status.isActive = false) ∧
    ∃ jobs facts, Replans ledger.jobs jobs ∧ next = { ledger with jobs, facts } := by
  simp only [updateQueuePlans, bind_eq_ok, require_eq_ok, exists_const, Bool.not_eq_true',
    Table.any_eq_false, Bool.and_eq_true, decide_eq_true_eq, not_and,
    Bool.not_eq_true] at accepted
  obtain ⟨_, quiet, ran⟩ := accepted
  refine ⟨quiet, foldlM_invariant
    (motive := fun _ current => ∃ jobs facts, Replans ledger.jobs jobs ∧
      current = { ledger with jobs, facts })
    ⟨ledger.jobs, ledger.facts, ⟨fun job isJob => ⟨job, isJob, .inl rfl⟩,
      fun job isJob => ⟨job, isJob, .inl rfl⟩⟩, rfl⟩ ?_ ran⟩
  rintro _ update _ after ⟨jobs, facts, replans, rfl⟩ stepped
  obtain ⟨facts', rfl⟩ := updateQueuePlan_ok stepped
  have replanned : ∀ job : MailboxJob, Replanned job
      (if decide (job.id = update.1) = true then changedJob (replan update.2) job else job) := by
    intro job
    split
    · exact .inr ⟨update.2, rfl⟩
    · exact .inl rfl
  refine ⟨_, facts', ⟨?_, ?_⟩, rfl⟩
  · intro job isJob
    obtain ⟨between, isBetween, earlier⟩ := replans.forward job isJob
    exact ⟨_, Table.mem_update.mpr ⟨between, isBetween, rfl⟩, earlier.trans (replanned between)⟩
  · intro job' isJob'
    obtain ⟨between, isBetween, rfl⟩ := Table.mem_update.mp isJob'
    obtain ⟨job, isJob, earlier⟩ := replans.backward between isBetween
    exact ⟨job, isJob, earlier.trans (replanned between)⟩

theorem transition_ok {phase : Phase}
    (accepted : ledger.transition projectId phase = .ok next) :
    ∃ project, ledger.projects.find projectId = some project ∧
      (project.phase = phase ∨ ledger.hasCutoverWorkflow projectId = false) ∧
      (project.phase = phase ∨ project.phase ≠ .complete) ∧
      (phase = .complete → project.phase ≠ phase →
        ledger.everyMailboxCertified projectId = true ∧ project.phase = .verification) ∧
      next = (ledger.setPhase projectId phase).emit projectId none (.phaseChanged phase) := by
  simp only [transition, bind_eq_ok, require_eq_ok, demand_eq_ok, pure_eq_ok,
    exists_const, Bool.or_eq_true, decide_eq_true_eq, Bool.not_eq_true', Bool.or_eq_false_iff,
    decide_eq_false_iff_not, Bool.and_eq_true, Bool.and_eq_false_iff, not_not] at accepted
  obtain ⟨project, isProject, unmanaged, forward, _, certified, rfl⟩ := accepted
  refine ⟨project, isProject, unmanaged, forward.imp_right fun legal => legal.1.1, ?_, rfl⟩
  intro completes differs
  rcases certified with (open_ | same) | certified
  · exact absurd completes open_
  · exact absurd same differs
  · exact certified

theorem reopenProject_ok {reason : String}
    (accepted : ledger.reopenProject projectId reason = .ok next) :
    ∃ project, ledger.projects.find projectId = some project ∧ project.phase = .complete ∧
      ledger.hasCutoverWorkflow projectId = false ∧
      next = ((ledger.withdrawVerification projectId).setPhase projectId .attention).emit
        projectId none .projectReopened := by
  simp only [reopenProject, bind_eq_ok, require_eq_ok, demand_eq_ok, pure_eq_ok,
    exists_const, decide_eq_true_eq, Bool.not_eq_true'] at accepted
  obtain ⟨_, _, project, isProject, complete, unmanaged, _, rfl⟩ := accepted
  exact ⟨project, isProject, complete, unmanaged, rfl⟩

theorem acceptVerificationDifference_ok {operator reason : String}
    (accepted : ledger.acceptVerificationDifference projectId jobId operator reason = .ok next) :
    ∃ acceptance job project, ledger.jobIn projectId jobId = some job ∧
      ledger.projects.find projectId = some project ∧
      job.state = .verificationDifference ∧ project.phase ≠ .complete ∧
      acceptance.jobId = jobId ∧
      next = ledger.recordAcceptance acceptance projectId project.phase := by
  simp only [acceptVerificationDifference, bind_eq_ok, require_eq_ok, demand_eq_ok, pure_eq_ok,
    exists_const, Bool.and_eq_true, decide_eq_true_eq] at accepted
  obtain ⟨_, _, _, _, job, isJob, project, isProject, ⟨differs, isOpen⟩, _, _, _, _, rfl⟩ :=
    accepted
  exact ⟨_, job, project, isJob, isProject, differs, isOpen, rfl, rfl⟩

theorem holdProject_ok {operator reason : String}
    (accepted : ledger.holdProject projectId operator reason = .ok next) :
    ∃ holds, next = { ledger with holds }.emit projectId none .projectHeld := by
  simp only [holdProject, bind_eq_ok, demand_eq_ok, pure_eq_ok] at accepted
  obtain ⟨_, _, _, _, _, _, _, _, holds, _, rfl⟩ := accepted
  exact ⟨holds, rfl⟩

theorem releaseProjectHold_ok {operator : String}
    (accepted : ledger.releaseProjectHold projectId operator = .ok next) :
    ∃ holds, next = { ledger with holds }.emit projectId none .projectResumed := by
  simp only [releaseProjectHold, bind_eq_ok, demand_eq_ok, pure_eq_ok] at accepted
  obtain ⟨_, _, _, _, rfl⟩ := accepted
  exact ⟨_, rfl⟩

theorem registerProcess_ok {process : ActiveProcess}
    (accepted : ledger.registerProcess process = .ok next) :
    (∃ run ∈ ledger.runs, run.id = process.runId ∧ run.jobId = some process.jobId ∧
        (ledger.jobIn run.projectId process.jobId).isSome = true) ∧
      process.startTicks.all fitsI64 = true ∧
      next = { ledger with
        processes := ledger.processes.upsert (ledger.processRow process) } := by
  simp only [registerProcess, bind_eq_ok, require_eq_ok, pure_eq_ok, exists_const,
    Table.any_eq_true, Bool.and_eq_true, decide_eq_true_eq] at accepted
  obtain ⟨⟨run, isRun, ⟨⟨sameId, _⟩, sameJob⟩, isJob⟩, inRange, rfl⟩ := accepted
  exact ⟨⟨run, isRun, sameId, sameJob, isJob⟩, inRange, rfl⟩

theorem insertProcess_ok {process : ActiveProcess}
    (accepted : ledger.insertProcess process = .ok next) :
    ∃ processes, ledger.processes.insert (ledger.processRow process) = some processes ∧
      next = { ledger with processes } := by
  simp only [insertProcess, bind_eq_ok, require_eq_ok, demand_eq_ok, pure_eq_ok,
    exists_const] at accepted
  obtain ⟨_, _, processes, inserted, rfl⟩ := accepted
  exact ⟨processes, inserted, rfl⟩

theorem insertProcesses_ok {preserved : List ActiveProcess}
    (ran : preserved.foldlM insertProcess ledger = .ok next) :
    ∃ processes, next = { ledger with processes } := by
  refine foldlM_invariant
    (motive := fun _ current => ∃ processes, current = { ledger with processes })
    ⟨ledger.processes, rfl⟩ ?_ ran
  rintro _ process _ after ⟨processes, rfl⟩ stepped
  obtain ⟨processes', _, rfl⟩ := insertProcess_ok stepped
  exact ⟨processes', rfl⟩

/-- Emitting one event for each project touches the events only. -/
theorem emitAll_eq (kind : EventKind) (projects : List ProjectId) (ledger : Ledger) :
    ∃ events, projects.foldl (fun ledger projectId => ledger.emit projectId none kind) ledger =
      { ledger with events := ledger.events ++ events } ∧ ∀ event ∈ events, event.kind = kind := by
  induction projects generalizing ledger with
  | nil => exact ⟨[], by simp⟩
  | cons project rest ih =>
    obtain ⟨events, emitted, kinds⟩ := ih (ledger.emit project none kind)
    refine ⟨⟨ledger.events.length + 1, project, none, kind⟩ :: events, ?_, ?_⟩
    · rw [List.foldl_cons, emitted]
      simp [emit]
    · intro event isEvent
      rcases List.mem_cons.mp isEvent with rfl | isEvent
      · rfl
      · exact kinds event isEvent

/-- A recovery abandons the runs, replaces the processes and announces itself. -/
theorem recoverAbandonedJobsPreserving_ok {preserved : List ActiveProcess}
    (accepted : ledger.recoverAbandonedJobsPreserving preserved = .ok next) :
    ∃ processes events, next = { ledger.abandonRuns with
      processes
      events := ledger.events ++ events } ∧ ∀ event ∈ events, event.kind = .runRecovered := by
  simp only [recoverAbandonedJobsPreserving, bind_eq_ok, pure_eq_ok] at accepted
  obtain ⟨_, ran, rfl⟩ := accepted
  obtain ⟨processes, rfl⟩ := insertProcesses_ok ran
  obtain ⟨events, emitted, kinds⟩ := emitAll_eq .runRecovered ledger.interruptedProjects
    { ledger.abandonRuns with processes }
  exact ⟨processes, events, emitted, kinds⟩

end Accepted

end MailSwiftSync.Ledger
