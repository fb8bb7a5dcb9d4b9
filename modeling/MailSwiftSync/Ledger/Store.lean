import MailSwiftSync.Foundation.Metered
import MailSwiftSync.Foundation.Table
import MailSwiftSync.Ledger.State
import MailSwiftSync.Verification.Evidence

/-!
# The ledger

The durable state of all projects, as tables.  Columns that may change after a row
was inserted form a structure of their own, so that an update cannot touch the
others.  Identifiers are opaque texts, timestamps are milliseconds on one clock, and
`CURRENT_TIMESTAMP` drops the fraction of a second.  Names, hosts and other texts
that no operation reads are left out, as are the rows of message mismatches.
-/

namespace MailSwiftSync

open Foundation

abbrev ProjectId : Type := String
abbrev JobId : Type := String
abbrev RunId : Type := String

/-! ## Rows -/

/-- A row of `projects`. -/
structure Project where
  id : ProjectId
  phase : Phase
deriving DecidableEq, Repr

/-- The columns of a mailbox row that operations update. -/
structure MailboxProgress where
  state : MailboxState := .queued
  attentionReason : Option AttentionReason := none
  attempt : Nat := 0
  preflightPlan : Option String := none
  checkpoint : Option String := none
  rowOverrides : Option String := none
deriving DecidableEq, Repr

/-- A row of `mailbox_jobs`. -/
structure MailboxJob extends MailboxProgress where
  id : JobId
  projectId : ProjectId
  destinationMailbox : String
  destinationIdentity : String
  config : Option String := none
  batchPlanId : Option String := none
deriving DecidableEq, Repr

/-- The columns of a run that operations update. -/
structure RunProgress where
  status : RunStatus
  detail : String := ""
deriving DecidableEq, Repr

/-- A row of `runs`. -/
structure Run extends RunProgress where
  id : RunId
  projectId : ProjectId
  jobId : Option JobId
  parentRunId : Option RunId := none
  engine : String
  phaseAtStart : Phase
  planSnapshot : String := ""
deriving DecidableEq, Repr

/-- Whether a run transfers mail, as opposed to an audit. -/
def Run.isTransfer (run : Run) : Bool :=
  run.engine ≠ imapVerification

/-- The text of a readiness event. -/
structure CutoverReadiness where
  mailboxes : Nat
  cleanVerified : Nat
  acceptedExceptions : Nat
  independentCursorRevalidated : Nat
  engineOrAggregateOnly : Nat
  validUntil : Nat
deriving DecidableEq, Repr

inductive EventKind where
  | projectCreated
  | phaseChanged (phase : Phase)
  | projectReopened
  | projectHeld
  | projectResumed
  | runStarted
  | runHeld
  | runFinished
  | runRecovered
  | mailboxClaimed
  | verificationStarted
  | verificationFinished
  | verificationExceptionAccepted
  | cutoverPlanned
  | cutoverApproved
  | cutoverSourceQuiescenceAttested
  | cutoverVerificationStarted
  | cutoverFinalDeltaStarted
  | cutoverReady (readiness : CutoverReadiness)
  | cutoverReadinessInvalidated
  | cutoverAdvanced (stage : CutoverStage)
deriving DecidableEq, Repr

/-- A row of `events`. -/
structure LedgerEvent where
  id : Nat
  projectId : ProjectId
  runId : Option RunId
  kind : EventKind
deriving DecidableEq, Repr

/-- A row of `evidence` or `evidence_history`, joined with its flag verification. -/
structure EvidenceRow where
  jobId : JobId
  runId : RunId
  value : MailboxEvidence
  capturedAt : Nat
deriving DecidableEq, Repr

/-- A row of `verification_acceptances`. -/
structure VerificationAcceptance where
  jobId : JobId
  runId : RunId
  operator : String
  reason : String
deriving DecidableEq, Repr

/-- An operating-system process that belongs to a run. -/
structure ActiveProcess where
  runId : RunId
  jobId : JobId
  pid : Nat
  startTicks : Option Nat := none
  processGroup : Option Nat := none
  sessionId : Option Nat := none
  executable : String := ""
deriving DecidableEq, Repr

/-- A row of `active_processes`. -/
structure ActiveProcessRow extends ActiveProcess where
  startedAt : Nat
deriving DecidableEq, Repr

def ActiveProcessRow.key (row : ActiveProcessRow) : RunId × JobId :=
  (row.runId, row.jobId)

/-- A row of `cutover_workflows`. -/
structure CutoverWorkflow where
  projectId : ProjectId
  stage : CutoverStage := .seed
  approvedBy : Option String := none
  externalConfirmation : Option String := none
  sourceQuiescenceAt : Option Nat := none
deriving DecidableEq, Repr

/-- A row of `project_holds`. -/
structure ProjectHold where
  projectId : ProjectId
  heldBy : String
  reason : String
deriving DecidableEq, Repr

/-- A row of `batch_plans`. -/
structure BatchPlan where
  id : String
  projectId : ProjectId
  config : String
deriving DecidableEq, Repr

/-- A row of `mailbox_queue_facts`: the columns that triggers maintain. -/
structure QueueFacts where
  jobId : JobId
  projectId : ProjectId
  state : MailboxState
  runsTotal : Int := 0
  runsQueued : Int := 0
  acceptances : Int := 0
deriving DecidableEq, Repr

/-- A row of `transfer_passes`. -/
structure TransferPass where
  runId : RunId
  attempt : Nat
  passSequence : Nat
  verificationMethod : Option VerificationMethod
  verificationOutcome : Option VerificationOutcome
  verifiedAt : Option Nat
deriving DecidableEq, Repr

/-- A row of `transfer_pass_folders`; side 0 is the source. -/
structure TransferPassFolder where
  runId : RunId
  attempt : Nat
  side : Nat
  complete : Bool
  scanCompletedAt : Option Nat
  sourceRevalidatedAt : Option Nat
  destinationRevalidatedAt : Option Nat
deriving DecidableEq, Repr

/-! ## Tables -/

/-- The tables of the ledger, and the clock. -/
structure Ledger where
  now : Nat := 0
  projects : Table Project.id := .empty
  jobs : Table MailboxJob.id := .empty
  runs : Table Run.id := .empty
  events : List LedgerEvent := []
  evidence : Table EvidenceRow.jobId := .empty
  history : List EvidenceRow := []
  acceptances : List VerificationAcceptance := []
  processes : Table ActiveProcessRow.key := .empty
  workflows : Table CutoverWorkflow.projectId := .empty
  holds : Table ProjectHold.projectId := .empty
  plans : Table BatchPlan.id := .empty
  facts : Table QueueFacts.jobId := .empty
  passes : List TransferPass := []
  passFolders : List TransferPassFolder := []

/-- Why an operation was refused; nothing is written then. -/
inductive LedgerError where
  | rejection (reason : String)
  | projectHeld (reason : String)
  | queryReturnedNoRows
  | invalidQuery
  | constraint (name : String)
deriving DecidableEq, Repr

/-- `CURRENT_TIMESTAMP`, in whole seconds. -/
def Ledger.currentTimestamp (ledger : Ledger) : Nat :=
  ledger.now / 1000

namespace Ledger

/-- Refuse unless a condition holds. -/
def require (condition : Bool) (error : LedgerError) : Except LedgerError Unit :=
  if condition then .ok () else .error error

/-- The row a query must return. -/
def demand {ρ : Type} (row : Option ρ) (error : LedgerError := .queryReturnedNoRows) :
    Except LedgerError ρ :=
  row.elim (.error error) .ok

theorem require_eq_ok {condition : Bool} {error : LedgerError} {u : Unit} :
    require condition error = .ok u ↔ condition = true := by
  cases condition with
  | true => simp [require]
  | false => simp [require]

theorem demand_eq_ok {ρ : Type} {row : Option ρ} {error : LedgerError} {value : ρ} :
    demand row error = .ok value ↔ row = some value := by
  cases row with
  | none => simp [demand]
  | some found => simp [demand]

/-! ## Writes -/

variable (ledger : Ledger)

/-- `INSERT INTO events`. -/
def emit (projectId : ProjectId) (runId : Option RunId) (kind : EventKind) : Ledger :=
  { ledger with
    events := ledger.events ++ [⟨ledger.events.length + 1, projectId, runId, kind⟩] }

/-- `INSERT INTO events`, when there is something to announce. -/
def announce (projectId : ProjectId) (runId : Option RunId) (kind : Option EventKind) :
    Ledger :=
  { ledger with
    events := ledger.events ++
      kind.toList.map (⟨ledger.events.length + 1, projectId, runId, ·⟩) }

/-- One run more or less among the queue facts of its mailbox. -/
def countRun (sign : Int) (run : Run) (facts : Table QueueFacts.jobId) :
    Table QueueFacts.jobId :=
  facts.update (fun row => run.jobId = some row.jobId) fun row =>
    { row with
      runsTotal := row.runsTotal + sign
      runsQueued := row.runsQueued + sign * if run.status = .queued then 1 else 0 }

/-- `INSERT INTO runs`, with the trigger on the queue facts. -/
def insertRun (run : Run) : Except LedgerError Ledger := do
  let runs ← demand (ledger.runs.insert run) (.constraint "runs.id")
  return { ledger with runs, facts := countRun 1 run ledger.facts }

/-- The run after an update of its status columns. -/
def changedRun (change : RunProgress → RunProgress) (run : Run) : Run :=
  { run with toRunProgress := change run.toRunProgress }

theorem changedRun_id (change : RunProgress → RunProgress) (run : Run) :
    (changedRun change run).id = run.id := rfl

/-- `UPDATE runs SET status=…`, with the trigger on the queue facts. -/
def setRuns (condition : Run → Bool) (change : RunProgress → RunProgress) : Ledger :=
  { ledger with
    runs := ledger.runs.update condition (changedRun change) (changedRun_id change)
    facts := (ledger.runs.select condition).foldl (fun facts run =>
      countRun 1 (changedRun change run) (countRun (-1) run facts)) ledger.facts }

variable {ledger : Ledger}

/-- Updating no run changes nothing. -/
theorem setRuns_of_none {condition : Run → Bool}
    {change : RunProgress → RunProgress} (none : ∀ run ∈ ledger.runs, condition run = false) :
    ledger.setRuns condition change = ledger := by
  have selected : ledger.runs.select condition = [] :=
    List.filter_eq_nil_iff.mpr fun run isRun => by simp [none run isRun]
  rw [setRuns, Table.update_of_none none, selected]
  rfl

theorem mem_setRuns {condition : Run → Bool} {change : RunProgress → RunProgress} {run : Run} :
    run ∈ (ledger.setRuns condition change).runs ↔
      ∃ old ∈ ledger.runs, run = if condition old then changedRun change old else old := by
  rw [setRuns, Table.mem_update]

/-- The mailbox after an update of its progress columns. -/
def changedJob (change : MailboxProgress → MailboxProgress) (job : MailboxJob) : MailboxJob :=
  { job with toMailboxProgress := change job.toMailboxProgress }

theorem changedJob_id (change : MailboxProgress → MailboxProgress) (job : MailboxJob) :
    (changedJob change job).id = job.id := rfl

/-- `UPDATE mailbox_jobs SET state=…`, with the trigger on the queue facts. -/
def setJobs (condition : MailboxJob → Bool) (change : MailboxProgress → MailboxProgress) :
    Ledger :=
  { ledger with
    jobs := ledger.jobs.update condition (changedJob change) (changedJob_id change)
    facts := (ledger.jobs.select condition).foldl (fun facts job =>
      facts.update (·.jobId = job.id) fun row =>
        { row with state := (changedJob change job).state }) ledger.facts }

/-- Updating no mailbox changes nothing. -/
theorem setJobs_of_none {condition : MailboxJob → Bool} {change : MailboxProgress → MailboxProgress}
    (none : ∀ job ∈ ledger.jobs, condition job = false) :
    ledger.setJobs condition change = ledger := by
  have selected : ledger.jobs.select condition = [] :=
    List.filter_eq_nil_iff.mpr fun job isJob => by simp [none job isJob]
  rw [setJobs, Table.update_of_none none, selected]
  rfl

theorem mem_setJobs {condition : MailboxJob → Bool}
    {change : MailboxProgress → MailboxProgress} {job : MailboxJob} :
    job ∈ (ledger.setJobs condition change).jobs ↔
      ∃ old ∈ ledger.jobs, job = if condition old then changedJob change old else old := by
  rw [setJobs, Table.mem_update]

/-- `INSERT INTO verification_acceptances`, with the trigger on the queue facts. -/
def insertAcceptance (acceptance : VerificationAcceptance) : Ledger :=
  { ledger with
    acceptances := ledger.acceptances ++ [acceptance]
    facts := ledger.facts.update (·.jobId = acceptance.jobId) fun row =>
      { row with acceptances := row.acceptances + 1 } }

/-- `UPDATE projects SET phase=…`. -/
def setPhase (projectId : ProjectId) (phase : Phase) : Ledger :=
  { ledger with
    projects := ledger.projects.update (·.id = projectId) fun project =>
      { project with phase } }

theorem mem_setPhase {projectId : ProjectId} {phase : Phase}
    {project : Project} : project ∈ (ledger.setPhase projectId phase).projects ↔
      ∃ old ∈ ledger.projects,
        project = if old.id = projectId then { old with phase } else old := by
  rw [setPhase, Table.mem_update]
  simp only [decide_eq_true_eq]

/-- `DELETE FROM active_processes WHERE run_id=…`. -/
def clearProcesses (runId : RunId) : Ledger :=
  { ledger with processes := ledger.processes.delete (·.runId = runId) }

/-- A mailbox row, when it belongs to a project. -/
def jobIn (projectId : ProjectId) (jobId : JobId) : Option MailboxJob :=
  (ledger.jobs.find jobId).filter (·.projectId = projectId)

theorem jobIn_eq_some {projectId : ProjectId} {jobId : JobId}
    {job : MailboxJob} : ledger.jobIn projectId jobId = some job ↔
      job ∈ ledger.jobs ∧ job.id = jobId ∧ job.projectId = projectId := by
  rw [jobIn, Option.filter_eq_some_iff, Table.find_eq_some, decide_eq_true_eq, and_assoc]

/-- Whether a mailbox of a project has an active run. -/
def hasActiveRun (projectId : ProjectId) (jobId : JobId) : Bool :=
  ledger.runs.any fun run =>
    run.projectId = projectId && run.jobId = some jobId && run.status.isActive

/-- `state='verified' OR (state='verified_with_exceptions' AND EXISTS(acceptance))`. -/
def certified (job : MailboxJob) : Bool :=
  job.state = .verified ||
    (job.state = .verifiedWithExceptions && ledger.acceptances.any (·.jobId = job.id))

end Ledger

end MailSwiftSync
