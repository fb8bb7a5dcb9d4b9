import MailSwiftSync.Ledger.Store

/-!
# Managed cutovers

A cutover workflow takes a project through its last passes under operator approval.
Readiness for the final step is an event in the log.  It is published once the
evidence of every mailbox belongs to the final verification, and withdrawn as soon as
a run is admitted.
-/

namespace MailSwiftSync.Ledger

open Foundation

variable (ledger : Ledger)

/-! ## Admission -/

/-- Fifteen minutes, in milliseconds. -/
def quiescenceValidity : Nat := 15 * 60 * 1000

/-- What is wrong with an attestation that the source is quiescent. -/
def sourceQuiescenceError (attestedAt : Option Nat) : Option String :=
  match attestedAt with
  | none => some "source-quiescence attestation is missing"
  | some attestedAt =>
    if ledger.now < attestedAt * 1000 then
      some "source-quiescence attestation timestamp is in the future"
    else if ledger.now - attestedAt * 1000 > quiescenceValidity then
      some "source-quiescence attestation is older than 15 minutes"
    else none

/-- The binding between workflow and phase that admissions check. -/
def validateCutoverRunStage (stage : CutoverStage) (phase : Phase)
    (sourceQuiescenceAt : Option Nat) : Except String Unit :=
  if stage.asStr ≠ phase.asStr then
    .error "managed cutover stage does not match the project phase"
  else if stage ≠ .finalDelta ∧ stage ≠ .verification then .ok ()
  else (ledger.sourceQuiescenceError sourceQuiescenceAt).elim (.ok ()) .error

/-- Runs of a project under a workflow follow its stage. -/
def validateManagedCutoverRunAdmission (projectId : ProjectId) (phase : Phase) :
    Except LedgerError Unit :=
  match ledger.workflows.find projectId with
  | none => .ok ()
  | some workflow => do
      require workflow.approvedBy.isSome
        (.rejection "the managed cutover workflow has not been approved")
      (ledger.validateCutoverRunStage workflow.stage phase
        workflow.sourceQuiescenceAt).mapError fun reason =>
          .rejection ("managed cutover: " ++ reason)

/-! ## Readiness -/

/-- The latest event that satisfies a condition: `ORDER BY id DESC LIMIT 1`. -/
def latestEvent (condition : LedgerEvent → Bool) : Option LedgerEvent :=
  ledger.events.reverse.find? condition

/-- Publications of readiness. -/
def isCutoverReady (projectId : ProjectId) (event : LedgerEvent) : Bool :=
  event.projectId = projectId && match event.kind with
    | .cutoverReady _ => true
    | _ => false

/-- Withdrawals of readiness. -/
def isInvalidation (projectId : ProjectId) (event : LedgerEvent) : Bool :=
  event.projectId = projectId && event.kind = .cutoverReadinessInvalidated

/-- Whether an event is linked to a run of a mailbox. -/
def eventOfJob (jobId : JobId) (event : LedgerEvent) : Bool :=
  ledger.runs.any fun run => event.runId = some run.id && run.jobId = some jobId

/-- Events that start the work of a run. -/
def isStart (runId : RunId) (event : LedgerEvent) : Bool :=
  event.runId = some runId &&
    event.kind ∈ [.runStarted, .verificationStarted, .mailboxClaimed]

/-- The most recent evidence of a mailbox: `ORDER BY captured_at DESC, id DESC`. -/
def latestHistory (jobId : JobId) : Option EvidenceRow :=
  (ledger.history.filter (·.jobId = jobId)).foldl (fun latest row =>
    if latest.all (·.capturedAt ≤ row.capturedAt) then some row else latest) none

/-- The attempt whose verification a run's evidence is backed by. -/
def passAttempt (row : EvidenceRow) : Option Nat :=
  ((ledger.passes.filter fun pass =>
      pass.runId = row.runId && pass.verificationMethod = some row.value.verificationMethod &&
        pass.verificationOutcome.isSome &&
        pass.verificationOutcome = row.value.verificationOutcome &&
        pass.verifiedAt.isSome).foldl
    (fun latest pass =>
      if latest.all fun best => best.passSequence < pass.passSequence then some pass
      else latest) (none : Option TransferPass)).map (·.attempt)

/-- The folders a pass observed on one side. -/
def observedFolders (runId : RunId) (attempt side : Nat) : List TransferPassFolder :=
  ledger.passFolders.filter fun folder =>
    folder.runId = runId && folder.attempt = attempt && folder.side = side

/-- `MAX(scan_completed_at)` of one side of a pass. -/
def lastScan (runId : RunId) (attempt side : Nat) : Option Nat :=
  ((ledger.observedFolders runId attempt side).filterMap (·.scanCompletedAt)).max?

/-- Whether a folder was looked at again after the other side had been scanned. -/
def revalidated (runId : RunId) (attempt : Nat) (folder : TransferPassFolder) : Bool :=
  folder.complete && folder.scanCompletedAt.isSome &&
    let again :=
      if folder.side = 0 then folder.sourceRevalidatedAt else folder.destinationRevalidatedAt
    again.any fun again =>
      (ledger.lastScan runId attempt (1 - folder.side)).any (· ≤ again)

/-- Whether as many folders as the evidence counts were observed, all revalidated. -/
def validSide (runId : RunId) (attempt side expected : Nat) : Bool :=
  let observed := ledger.observedFolders runId attempt side
  observed.length = expected &&
    (observed.filter (ledger.revalidated runId attempt)).length = expected

/-- Whether the cursors behind some evidence were independently revalidated; nothing
when they had to be and were not. -/
def cursorRevalidation (row : EvidenceRow) : Option Bool :=
  match row.value.verificationMethod with
  | .metadataReconciliation | .bodyHash => do
      let attempt ← ledger.passAttempt row
      if ledger.validSide row.runId attempt 0 row.value.sourceFolders &&
          ledger.validSide row.runId attempt 1 row.value.destinationFolders then
        some true
      else none
  | .aggregateEngine | .nativeDovecot => some false

/-- Whether a row is the evidence of a completed run of the final verification that
nothing has superseded or withdrawn. -/
def isFinalEvidence (job : MailboxJob) (row : EvidenceRow) : Bool :=
  (ledger.runs.find row.runId).any (fun run =>
    run.phaseAtStart = .verification && run.status = .completed) &&
  (ledger.latestHistory job.id).any (·.runId = row.runId) &&
  !(ledger.runs.any fun run => run.jobId = some job.id && run.status.isActive) &&
  (ledger.latestEvent fun event =>
      isInvalidation job.projectId event && ledger.eventOfJob job.id event).all fun invalidated =>
    (ledger.latestEvent (isStart row.runId)).any (invalidated.id < ·.id)

/-- The evidence behind one mailbox of a final verification. -/
def finalVerificationEvidence (job : MailboxJob) : Option Bool := do
  let row ← ledger.evidence.find job.id
  if ledger.isFinalEvidence job row then ledger.cursorRevalidation row else none

/-- The mailboxes of a project. -/
def projectJobs (projectId : ProjectId) : List MailboxJob :=
  ledger.jobs.select (·.projectId = projectId)

/-- How many mailboxes had their cursors revalidated and how many did not. -/
def finalVerificationEvidenceSummary (projectId : ProjectId) : Option (Nat × Nat) := do
  let verdicts ← ((ledger.projectJobs projectId).filter fun job =>
    job.state = .verified || job.state = .verifiedWithExceptions).mapM
      ledger.finalVerificationEvidence
  some ((verdicts.filter id).length, (verdicts.filter (!·)).length)

/-- Whether a mailbox's exceptions were accepted against its current evidence. -/
def acceptedException (job : MailboxJob) : Bool :=
  job.state = .verifiedWithExceptions && ledger.acceptances.any fun acceptance =>
    acceptance.jobId = job.id &&
      (ledger.evidence.find job.id).any (·.runId = acceptance.runId)

def cleanVerified (projectId : ProjectId) : Nat :=
  ((ledger.projectJobs projectId).filter (·.state = .verified)).length

def acceptedExceptions (projectId : ProjectId) : Nat :=
  ((ledger.projectJobs projectId).filter ledger.acceptedException).length

/-- Whether every mailbox has evidence to advance on. -/
def everyMailboxSettled (projectId : ProjectId) : Bool :=
  let total := (ledger.projectJobs projectId).length
  total ≠ 0 &&
    total = ledger.cleanVerified projectId + ledger.acceptedExceptions projectId

/-- Whether a publication of readiness has not expired. -/
def cutoverReadyEventIsCurrent (event : LedgerEvent) : Bool :=
  match event.kind with
  | .cutoverReady readiness => ledger.now < readiness.validUntil * 1000
  | _ => false

def currentCutoverReadyEvent (projectId : ProjectId) : Bool :=
  (ledger.latestEvent (isCutoverReady projectId)).any fun ready =>
    (ledger.latestEvent (isInvalidation projectId)).all (·.id < ready.id) &&
      ledger.cutoverReadyEventIsCurrent ready

/-- Whether a project is in its final verification with a quiescent source. -/
def inFinalVerification (projectId : ProjectId) : Bool :=
  (ledger.workflows.find projectId).any fun workflow =>
    workflow.stage = .verification &&
      (ledger.sourceQuiescenceError workflow.sourceQuiescenceAt).isNone &&
      (ledger.projects.find projectId).any (·.phase = .verification)

/-- The readiness that may be published now. -/
def publishableReadiness (projectId : ProjectId) : Option CutoverReadiness := do
  guard (ledger.inFinalVerification projectId = true ∧
    ledger.everyMailboxSettled projectId = true ∧
    ledger.currentCutoverReadyEvent projectId = false)
  let (revalidated, engineOnly) ← ledger.finalVerificationEvidenceSummary projectId
  let workflow ← ledger.workflows.find projectId
  let attestedAt ← workflow.sourceQuiescenceAt
  some {
    mailboxes := (ledger.projectJobs projectId).length
    cleanVerified := ledger.cleanVerified projectId
    acceptedExceptions := ledger.acceptedExceptions projectId
    independentCursorRevalidated := revalidated
    engineOrAggregateOnly := engineOnly
    validUntil := attestedAt + quiescenceValidity / 1000 }

/-- Publish readiness when the last result of the final verification is durable. -/
def maybeEmitCutoverReady (projectId : ProjectId) : Ledger :=
  ledger.announce projectId none ((ledger.publishableReadiness projectId).map .cutoverReady)

/-- Whether readiness was withdrawn for a mailbox after an event. -/
def invalidatedAfter (projectId : ProjectId) (jobId : JobId) (ready : LedgerEvent) : Bool :=
  ledger.events.any fun event => isInvalidation projectId event &&
    ledger.eventOfJob jobId event && ready.id < event.id

/-- Withdraw readiness when a run of a mailbox is admitted. -/
def invalidateCutoverReadinessForNewRun (projectId : ProjectId) (jobId : JobId)
    (runId : RunId) : Ledger :=
  ledger.announce projectId (some runId)
    (if (ledger.workflows.find projectId).any (·.stage = .verification) &&
        (ledger.latestEvent (isCutoverReady projectId)).any fun ready =>
          !ledger.invalidatedAfter projectId jobId ready then
      some .cutoverReadinessInvalidated
    else none)

/-- Announce the final verification once its source is attested to be quiescent. -/
def maybeEmitCutoverVerificationStarted (projectId : ProjectId) : Ledger :=
  ledger.announce projectId none
    (if ledger.inFinalVerification projectId && !ledger.events.any fun event =>
        event.projectId = projectId && event.kind = .cutoverVerificationStarted then
      some .cutoverVerificationStarted
    else none)

/-! ## Workflow operations -/

/-- Change the workflow of a project. -/
def setWorkflow (projectId : ProjectId) (change : CutoverWorkflow → CutoverWorkflow)
    (keepsKey : ∀ workflow, (change workflow).projectId = workflow.projectId) : Ledger :=
  { ledger with
    workflows := ledger.workflows.update (·.projectId = projectId) change keepsKey }

/-- Plan a cutover; nothing is scheduled until an operator approves it. -/
def createCutoverWorkflow (projectId : ProjectId) (scheduledAt : String)
    (maintenanceWindow : Option String) : Except LedgerError Ledger := do
  let _ ← demand (singleLineAuditText scheduledAt 256) .invalidQuery
  require (maintenanceWindow.all fun window => (singleLineAuditText window 1024).isSome)
    .invalidQuery
  let project ← demand (ledger.projects.find projectId)
  require (project.phase = .preflight || project.phase = .pilot) .invalidQuery
  let workflows ← demand (ledger.workflows.insert { projectId })
    (.constraint "cutover_workflows.project_id")
  return { ledger with workflows }.emit projectId none .cutoverPlanned

def approveCutover (projectId : ProjectId) (operator : String) :
    Except LedgerError Ledger := do
  let operator ← demand (singleLineAuditText operator 256) .invalidQuery
  let project ← demand (ledger.projects.find projectId)
  require (project.phase = .preflight || project.phase = .pilot) .invalidQuery
  let workflow ← demand (ledger.workflows.find projectId) .invalidQuery
  require workflow.approvedBy.isNone .invalidQuery
  return (((ledger.setWorkflow projectId ({ · with approvedBy := some operator })
    fun _ => rfl).setPhase projectId .seed).emit projectId none (.phaseChanged .seed)).emit
      projectId none .cutoverApproved

/-- Record that an operator attests the source to be quiescent. -/
def attestCutoverSourceQuiescence (projectId : ProjectId) (operator evidence : String) :
    Except LedgerError Ledger := do
  let _ ← demand (singleLineAuditText operator 256) .invalidQuery
  let _ ← demand (singleLineAuditText evidence 4096) .invalidQuery
  let workflow ← demand (ledger.workflows.find projectId) .invalidQuery
  require (workflow.stage ∈ [.catchUp, .finalDelta, .verification] &&
    workflow.approvedBy.isSome) .invalidQuery
  return ((((ledger.setWorkflow projectId
    ({ · with sourceQuiescenceAt := some ledger.currentTimestamp }) fun _ => rfl).emit
      projectId none .cutoverSourceQuiescenceAttested).maybeEmitCutoverVerificationStarted
        projectId).maybeEmitCutoverReady projectId)

/-- Requeue the verified mailboxes of a project for the next pass. -/
def requeueVerified (projectId : ProjectId) (next : CutoverStage) : Ledger :=
  ledger.setJobs (fun job => next ≠ .completed && job.projectId = projectId &&
      (job.state = .verified || job.state = .verifiedWithExceptions))
    ({ · with state := .ready, attentionReason := none })

/-- The workflow after an advance. -/
def advancedWorkflow (next : CutoverStage) (confirmation : Option String)
    (workflow : CutoverWorkflow) : CutoverWorkflow :=
  { workflow with
    stage := next
    externalConfirmation := confirmation.or workflow.externalConfirmation
    sourceQuiescenceAt :=
      if next = .verification then none else workflow.sourceQuiescenceAt }

/-- Move a workflow and its project to the next stage. -/
def enterStage (projectId : ProjectId) (phase : Phase) (next : CutoverStage)
    (confirmation : Option String) : Ledger :=
  ((((ledger.requeueVerified projectId next).setWorkflow projectId
    (advancedWorkflow next confirmation) fun _ => rfl).setPhase projectId next.phase).announce
      projectId none (if phase = next.phase then none else some (.phaseChanged next.phase))
    |>.announce projectId none
      (if next = .finalDelta then some .cutoverFinalDeltaStarted else none)).emit projectId
        none (.cutoverAdvanced next)

/-- Final steps need a fresh attestation that the source is quiescent. -/
def ensureQuiescentToAdvance (workflow : CutoverWorkflow) (next : CutoverStage) :
    Except LedgerError Unit :=
  if next = .finalDelta ∨ workflow.stage = .finalDelta ∨ next = .completed then
    (ledger.sourceQuiescenceError workflow.sourceQuiescenceAt).elim (.ok ()) fun error =>
      .error (.rejection ("cannot advance cutover: " ++ error ++
        "; reconfirm source delivery is paused and refresh the attestation"))
  else .ok ()

/-- Advance a cutover once every mailbox has evidence for its current stage. -/
def advanceCutover (projectId : ProjectId) (externalConfirmation : Option String) :
    Except LedgerError (Ledger × CutoverStage) := do
  let workflow ← demand (ledger.workflows.find projectId)
  require workflow.approvedBy.isSome
    (.rejection "cutover advancement requires explicit approval")
  let project ← demand (ledger.projects.find projectId)
  require (project.phase ≠ .complete)
    (.rejection "completed cutover workflows cannot be advanced again")
  require (ledger.everyMailboxSettled projectId)
    (.rejection ("every mailbox must have durable verification evidence or an accepted " ++
      "exception before advancing"))
  let next ← demand workflow.stage.next
    (.rejection "cutover workflow is already at its terminal stage")
  require (next ≠ .completed ||
      (ledger.finalVerificationEvidenceSummary projectId).isSome)
    (.rejection ("final cutover requires completed Verification-stage evidence with current " ++
      "folder observations"))
  require (next ≠ .completed || ledger.currentCutoverReadyEvent projectId)
    (.rejection ("final cutover readiness is missing, expired, or was withdrawn by a newer " ++
      "verification run"))
  ledger.ensureQuiescentToAdvance workflow next
  require (externalConfirmation.all fun value => (singleLineAuditText value 4096).isSome)
    (.rejection "external confirmation must be nonempty, single-line audit text")
  let confirmation := externalConfirmation.bind (singleLineAuditText · 4096)
  require (next ≠ .completed || confirmation.isSome)
    (.rejection "external cutover confirmation is required before completing the workflow")
  return (ledger.enterStage projectId project.phase next confirmation, next)

/-! ## Accepted cutover operations -/

section Accepted

variable {ledger next : Ledger} {projectId : ProjectId}

theorem createCutoverWorkflow_ok {scheduledAt : String} {maintenanceWindow : Option String}
    (accepted : ledger.createCutoverWorkflow projectId scheduledAt maintenanceWindow = .ok next) :
    ∃ project workflows, ledger.projects.find projectId = some project ∧
      (project.phase = .preflight ∨ project.phase = .pilot) ∧
      ledger.workflows.insert { projectId } = some workflows ∧
      next = { ledger with workflows }.emit projectId none .cutoverPlanned := by
  simp only [createCutoverWorkflow, bind_eq_ok, require_eq_ok, demand_eq_ok, pure_eq_ok,
    exists_const, Bool.or_eq_true, decide_eq_true_eq] at accepted
  obtain ⟨_, _, _, project, isProject, phase, workflows, inserted, rfl⟩ := accepted
  exact ⟨project, workflows, isProject, phase, inserted, rfl⟩

theorem approveCutover_ok {operator : String}
    (accepted : ledger.approveCutover projectId operator = .ok next) :
    ∃ approver project workflow, ledger.projects.find projectId = some project ∧
      (project.phase = .preflight ∨ project.phase = .pilot) ∧
      ledger.workflows.find projectId = some workflow ∧ workflow.approvedBy = none ∧
      next = (((ledger.setWorkflow projectId ({ · with approvedBy := some approver })
        fun _ => rfl).setPhase projectId .seed).emit projectId none (.phaseChanged .seed)).emit
          projectId none .cutoverApproved := by
  simp only [approveCutover, bind_eq_ok, require_eq_ok, demand_eq_ok, pure_eq_ok,
    exists_const, Bool.or_eq_true, decide_eq_true_eq, Option.isNone_iff_eq_none] at accepted
  obtain ⟨approver, _, project, isProject, phase, workflow, isWorkflow, unapproved, rfl⟩ :=
    accepted
  exact ⟨approver, project, workflow, isProject, phase, isWorkflow, unapproved, rfl⟩

theorem attestCutoverSourceQuiescence_ok {operator evidence : String}
    (accepted : ledger.attestCutoverSourceQuiescence projectId operator evidence = .ok next) :
    ∃ workflow, ledger.workflows.find projectId = some workflow ∧
      workflow.approvedBy.isSome = true ∧
      next = (((ledger.setWorkflow projectId
        ({ · with sourceQuiescenceAt := some ledger.currentTimestamp }) fun _ => rfl).emit
          projectId none .cutoverSourceQuiescenceAttested).maybeEmitCutoverVerificationStarted
            projectId).maybeEmitCutoverReady projectId := by
  simp only [attestCutoverSourceQuiescence, bind_eq_ok, require_eq_ok, demand_eq_ok,
    pure_eq_ok, exists_const, Bool.and_eq_true, decide_eq_true_eq] at accepted
  obtain ⟨_, _, _, _, workflow, isWorkflow, ⟨_, approved⟩, rfl⟩ := accepted
  exact ⟨workflow, isWorkflow, approved, rfl⟩

theorem advanceCutover_ok {externalConfirmation : Option String} {stage : CutoverStage}
    (accepted : ledger.advanceCutover projectId externalConfirmation = .ok (next, stage)) :
    ∃ workflow project confirmation, ledger.workflows.find projectId = some workflow ∧
      workflow.approvedBy.isSome = true ∧ ledger.projects.find projectId = some project ∧
      project.phase ≠ .complete ∧ ledger.everyMailboxSettled projectId = true ∧
      workflow.stage.next = some stage ∧
      (stage = .completed →
        (ledger.finalVerificationEvidenceSummary projectId).isSome = true ∧
          ledger.currentCutoverReadyEvent projectId = true) ∧
      next = ledger.enterStage projectId project.phase stage confirmation := by
  simp only [advanceCutover, bind_eq_ok, require_eq_ok, demand_eq_ok, pure_eq_ok,
    exists_const, Bool.or_eq_true, decide_eq_true_eq, Prod.mk.injEq] at accepted
  obtain ⟨workflow, isWorkflow, approved, project, isProject, isOpen, everyMailbox, _, isNext,
    summary, ready, _, _, _, _, rfl, rfl⟩ := accepted
  refine ⟨workflow, project, _, isWorkflow, approved, isProject, isOpen, everyMailbox, isNext,
    ?_, rfl⟩
  intro final
  exact ⟨summary.resolve_left (not_not_intro final), ready.resolve_left (not_not_intro final)⟩

end Accepted

end MailSwiftSync.Ledger
