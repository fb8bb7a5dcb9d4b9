import MailSwiftSync.Foundation.Transition
import MailSwiftSync.Ledger.Lifecycle

/-!
# Operations of the ledger

Every transaction of the store as one step of a transition system.  A refused
transaction is no step.  The clock and the observations of transfer passes come from
outside and may take any values.
-/

namespace MailSwiftSync

open Foundation

/-- A call of the store, or something that happens around it. -/
inductive Operation where
  | createProjectWithMailbox (projectId : ProjectId) (jobId : JobId)
      (destinationMailbox : String)
  | createBatchQueue (projectId : ProjectId) (rows : List Ledger.QueueInsert)
      (newJobId : Nat → JobId) (newPlanId : Nat → String)
  | setQueueFacts (jobIds : List JobId)
  | updateQueuePlans (projectId : ProjectId) (updates : List (JobId × String))
  | beginRunWithSnapshot (projectId : ProjectId) (jobId : JobId) (runId : RunId)
      (engine : TransferEngine) (planSnapshot : String)
  | beginVerificationRunFromTransfer (projectId : ProjectId) (jobId : JobId)
      (runId transferRunId : RunId) (planSnapshot : String)
  | beginBatchRunWithChildren (projectId : ProjectId) (jobIds : List JobId) (runId : RunId)
      (engine : TransferEngine) (expectedPlans : List String) (planSnapshot : String)
      (childPlans : List Ledger.BatchChildPlan) (newRunId : Nat → RunId)
  | claimBatchMailboxForChild (projectId : ProjectId) (jobId : JobId)
      (parentRunId childRunId : RunId)
  | finishRun (runId : RunId) (status : RunStatus) (detail : String)
  | cancelHeldChildRun (projectId : ProjectId) (jobId : JobId) (runId : RunId)
      (detail : String)
  | finishRunForMailbox (projectId : ProjectId) (jobId : JobId) (runId : RunId)
      (runStatus : RunStatus) (mailboxState : MailboxState) (detail : String)
      (preflightPlan checkpoint : Option String)
  | finishRunForMailboxWithEvidence (projectId : ProjectId) (jobId : JobId) (runId : RunId)
      (runStatus : RunStatus) (mailboxState : MailboxState) (detail : String)
      (value : MailboxEvidence) (mismatches : List MessageMismatch)
      (preflightPlan checkpoint : Option String)
  | finishVerificationOnlyRun (projectId : ProjectId) (jobId : JobId) (runId : RunId)
      (value : MailboxEvidence) (mismatches : List MessageMismatch) (detail : String)
  | acceptVerificationDifference (projectId : ProjectId) (jobId : JobId)
      (operator reason : String)
  | transition (projectId : ProjectId) (phase : Phase)
  | reopenProject (projectId : ProjectId) (reason : String)
  | createCutoverWorkflow (projectId : ProjectId) (scheduledAt : String)
      (maintenanceWindow : Option String)
  | approveCutover (projectId : ProjectId) (operator : String)
  | attestCutoverSourceQuiescence (projectId : ProjectId) (operator evidence : String)
  | advanceCutover (projectId : ProjectId) (externalConfirmation : Option String)
  | holdProject (projectId : ProjectId) (operator reason : String)
  | releaseProjectHold (projectId : ProjectId) (operator : String)
  | registerProcess (process : ActiveProcess)
  | clearProcesses (runId : RunId)
  | clearActiveProcessesAfterReview
  | recoverAbandonedJobsPreserving (preserved : List ActiveProcess)
  | recordPasses (passes : List TransferPass) (passFolders : List TransferPassFolder)
  | setClock (now : Nat)

namespace Operation

variable (platform : LedgerPlatform)

/-- The ledger after an operation, or why it was refused. -/
def apply (ledger : Ledger) : Operation → Except LedgerError Ledger
  | createProjectWithMailbox projectId jobId destinationMailbox =>
    ledger.createProjectWithMailbox platform projectId jobId destinationMailbox
  | createBatchQueue projectId rows newJobId newPlanId =>
    ledger.createBatchQueue platform projectId rows newJobId newPlanId
  | setQueueFacts jobIds => ledger.setQueueFacts jobIds
  | updateQueuePlans projectId updates => ledger.updateQueuePlans projectId updates
  | beginRunWithSnapshot projectId jobId runId engine planSnapshot =>
    ledger.beginRunWithSnapshot platform projectId jobId runId engine planSnapshot
  | beginVerificationRunFromTransfer projectId jobId runId transferRunId planSnapshot =>
    ledger.beginVerificationRunFromTransfer platform projectId jobId runId transferRunId
      planSnapshot
  | beginBatchRunWithChildren projectId jobIds runId engine expectedPlans planSnapshot
      childPlans newRunId =>
    ledger.beginBatchRunWithChildren platform projectId jobIds runId engine expectedPlans
      planSnapshot childPlans newRunId
  | claimBatchMailboxForChild projectId jobId parentRunId childRunId =>
    ledger.claimBatchMailboxForChild projectId jobId parentRunId childRunId
  | finishRun runId status detail => ledger.finishRun runId status detail
  | cancelHeldChildRun projectId jobId runId detail =>
    ledger.cancelHeldChildRun projectId jobId runId detail
  | finishRunForMailbox projectId jobId runId runStatus mailboxState detail preflightPlan
      checkpoint =>
    ledger.finishRunForMailboxWithPreflightPlanAndCheckpoint platform projectId jobId runId
      runStatus mailboxState detail preflightPlan checkpoint
  | finishRunForMailboxWithEvidence projectId jobId runId runStatus mailboxState detail value
      mismatches preflightPlan checkpoint =>
    ledger.finishRunForMailboxWithEvidence platform projectId jobId runId runStatus
      mailboxState detail value mismatches preflightPlan checkpoint
  | finishVerificationOnlyRun projectId jobId runId value mismatches detail =>
    ledger.finishVerificationOnlyRun projectId jobId runId value mismatches detail
  | acceptVerificationDifference projectId jobId operator reason =>
    ledger.acceptVerificationDifference projectId jobId operator reason
  | transition projectId phase => ledger.transition projectId phase
  | reopenProject projectId reason => ledger.reopenProject projectId reason
  | createCutoverWorkflow projectId scheduledAt maintenanceWindow =>
    ledger.createCutoverWorkflow projectId scheduledAt maintenanceWindow
  | approveCutover projectId operator => ledger.approveCutover projectId operator
  | attestCutoverSourceQuiescence projectId operator evidence =>
    ledger.attestCutoverSourceQuiescence projectId operator evidence
  | advanceCutover projectId externalConfirmation => do
      return (← ledger.advanceCutover projectId externalConfirmation).1
  | holdProject projectId operator reason => ledger.holdProject projectId operator reason
  | releaseProjectHold projectId operator => ledger.releaseProjectHold projectId operator
  | registerProcess process => ledger.registerProcess process
  | clearProcesses runId => .ok (ledger.clearProcesses runId)
  | clearActiveProcessesAfterReview => .ok ledger.clearActiveProcessesAfterReview
  | recoverAbandonedJobsPreserving preserved =>
    ledger.recoverAbandonedJobsPreserving preserved
  | recordPasses passes passFolders => .ok { ledger with passes, passFolders }
  | setClock now => .ok { ledger with now }

/-- The store's callers close with `finish_run` only batches and audits, and with
`finish_verification_only_run` only audits. -/
def Disciplined (ledger : Ledger) : Operation → Prop
  | finishRun runId _ _ =>
    ∀ run ∈ ledger.runs, run.id = runId → run.jobId = none ∨ run.isTransfer = false
  | finishVerificationOnlyRun _ _ runId _ _ _ =>
    ∀ run ∈ ledger.runs, run.id = runId → run.isTransfer = false
  | _ => True

instance (ledger : Ledger) (operation : Operation) :
    Decidable (operation.Disciplined ledger) := by
  cases operation with
  | finishRun runId _ _ =>
    exact inferInstanceAs (Decidable (∀ run ∈ ledger.runs.rows, run.id = runId →
      run.jobId = none ∨ run.isTransfer = false))
  | finishVerificationOnlyRun _ _ runId _ _ _ =>
    exact inferInstanceAs (Decidable (∀ run ∈ ledger.runs.rows, run.id = runId →
      run.isTransfer = false))
  | _ => exact .isTrue trivial

end Operation

namespace Ledger

variable (platform : LedgerPlatform)

/-- One accepted operation. -/
def Step (before : Ledger) (operation : Operation) (after : Ledger) : Prop :=
  operation.apply platform before = .ok after

/-- One accepted operation, called as the program calls it. -/
def DisciplinedStep (before : Ledger) (operation : Operation) (after : Ledger) : Prop :=
  operation.Disciplined before ∧ Step platform before operation after

/-! ## Frames -/

end Ledger

/-- The tables whose rows operations rewrite. -/
inductive LedgerTable where
  | clock
  | projects
  | jobs
  | runs
  | evidence
  | history
  | acceptances
  | processes
  | workflows
  | holds
  | plans
deriving DecidableEq

/-- The tables an operation may write, apart from events and facts. -/
def Operation.writes : Operation → List LedgerTable
  | createProjectWithMailbox .. => [.projects, .jobs]
  | createBatchQueue .. => [.projects, .jobs, .plans]
  | setQueueFacts .. | recordPasses .. => []
  | updateQueuePlans .. => [.jobs]
  | beginRunWithSnapshot .. | claimBatchMailboxForChild .. => [.jobs, .runs]
  | beginVerificationRunFromTransfer .. | beginBatchRunWithChildren .. |
      cancelHeldChildRun .. => [.runs]
  | finishRun .. => [.runs, .processes]
  | finishRunForMailbox .. => [.jobs, .runs, .processes]
  | finishRunForMailboxWithEvidence .. => [.jobs, .runs, .processes, .evidence, .history]
  | finishVerificationOnlyRun .. => [.runs, .history]
  | acceptVerificationDifference .. => [.projects, .jobs, .acceptances]
  | transition .. => [.projects]
  | reopenProject .. => [.projects, .jobs]
  | createCutoverWorkflow .. | attestCutoverSourceQuiescence .. => [.workflows]
  | approveCutover .. => [.projects, .workflows]
  | advanceCutover .. => [.projects, .jobs, .workflows]
  | registerProcess .. | clearProcesses .. | clearActiveProcessesAfterReview => [.processes]
  | recoverAbandonedJobsPreserving .. => [.jobs, .runs, .processes]
  | holdProject .. | releaseProjectHold .. => [.holds]
  | setClock .. => [.clock]

namespace Ledger

variable {platform : LedgerPlatform}

/-- What an operation does not write, it keeps. -/
structure Kept (operation : Operation) (before after : Ledger) : Prop where
  clock : .clock ∉ operation.writes → after.now = before.now
  projects : .projects ∉ operation.writes → after.projects = before.projects
  jobs : .jobs ∉ operation.writes → after.jobs = before.jobs
  runs : .runs ∉ operation.writes → after.runs = before.runs
  evidence : .evidence ∉ operation.writes → after.evidence = before.evidence
  history : .history ∉ operation.writes → after.history = before.history
  acceptances : .acceptances ∉ operation.writes → after.acceptances = before.acceptances
  processes : .processes ∉ operation.writes → after.processes = before.processes
  workflows : .workflows ∉ operation.writes → after.workflows = before.workflows
  holds : .holds ∉ operation.writes → after.holds = before.holds
  plans : .plans ∉ operation.writes → after.plans = before.plans

theorem Step.kept {before after : Ledger} {operation : Operation}
    (step : Step platform before operation after) : Kept operation before after := by
  cases operation with
  | createProjectWithMailbox =>
    obtain ⟨_, _, _, _, rfl⟩ := createProjectWithMailbox_ok step
    constructor <;> simp [Operation.writes] <;> rfl
  | createBatchQueue =>
    obtain ⟨_, _, _, _, _, _, rfl⟩ := createBatchQueue_enrolls step
    constructor <;> simp [Operation.writes] <;> rfl
  | setQueueFacts =>
    obtain ⟨_, rfl⟩ := setQueueFacts_ok step
    constructor <;> intro <;> rfl
  | updateQueuePlans =>
    obtain ⟨_, _, _, _, rfl⟩ := updateQueuePlans_ok step
    constructor <;> simp [Operation.writes]
  | beginRunWithSnapshot =>
    obtain ⟨_, _, _, _, _, _, _, _, _, _, inserted, rfl⟩ := beginRunWithSnapshot_ok step
    obtain ⟨_, _, rfl⟩ := insertRun_ok inserted
    constructor <;> simp [Operation.writes] <;> rfl
  | beginVerificationRunFromTransfer =>
    obtain ⟨_, _, _, _, _, _, _, _, _, inserted, rfl⟩ :=
      beginVerificationRunFromTransfer_ok step
    obtain ⟨_, _, rfl⟩ := insertRun_ok inserted
    constructor <;> simp [Operation.writes] <;> rfl
  | beginBatchRunWithChildren =>
    obtain ⟨_, _, _, _, _, _, _, _, _, _, inserted, added, rfl⟩ :=
      beginBatchRunWithChildren_ok step
    obtain ⟨_, _, rfl⟩ := insertRun_ok inserted
    obtain ⟨_, _, _, rfl, _⟩ := insertChildren_ok added
    constructor <;> simp [Operation.writes] <;> rfl
  | claimBatchMailboxForChild =>
    obtain ⟨_, _, _, _, _, _, _, _, _, _, _, _, _, _, _, _, _, _, _, rfl⟩ :=
      claimBatchMailboxForChild_ok step
    constructor <;> simp [Operation.writes] <;> rfl
  | finishRun =>
    obtain ⟨_, _, _, _, _, _, _, rfl⟩ := finishRun_ok step
    constructor <;> simp [Operation.writes] <;> rfl
  | cancelHeldChildRun =>
    obtain ⟨_, _, _, _, _, rfl⟩ := cancelHeldChildRun_ok step
    constructor <;> simp [Operation.writes] <;> rfl
  | finishRunForMailbox =>
    obtain ⟨_, _, _, _, _, _, _, _, _, _, _, _, _, rfl⟩ := finishRunForMailbox_ok step
    constructor <;> simp [Operation.writes] <;> rfl
  | finishRunForMailboxWithEvidence =>
    obtain ⟨_, _, _, _, _, _, _, _, _, _, _, rfl⟩ := finishRunForMailboxWithEvidence_ok step
    constructor <;> simp [Operation.writes] <;> rfl
  | finishVerificationOnlyRun =>
    obtain ⟨_, _, _, _, _, _, rfl⟩ := finishVerificationOnlyRun_ok step
    constructor <;> simp [Operation.writes] <;> rfl
  | acceptVerificationDifference =>
    obtain ⟨_, _, _, _, _, _, _, _, rfl⟩ := acceptVerificationDifference_ok step
    rw [recordAcceptance]
    split <;> constructor <;> intro unwritten <;>
      first | rfl | simp [Operation.writes] at unwritten
  | transition =>
    obtain ⟨_, _, _, _, _, rfl⟩ := transition_ok step
    constructor <;> simp [Operation.writes] <;> rfl
  | reopenProject =>
    obtain ⟨_, _, _, _, rfl⟩ := reopenProject_ok step
    constructor <;> simp [Operation.writes] <;> rfl
  | createCutoverWorkflow =>
    obtain ⟨_, _, _, _, _, rfl⟩ := createCutoverWorkflow_ok step
    constructor <;> simp [Operation.writes] <;> rfl
  | approveCutover =>
    obtain ⟨_, _, _, _, _, _, _, rfl⟩ := approveCutover_ok step
    constructor <;> simp [Operation.writes] <;> rfl
  | attestCutoverSourceQuiescence =>
    obtain ⟨_, _, _, rfl⟩ := attestCutoverSourceQuiescence_ok step
    constructor <;> simp [Operation.writes] <;> rfl
  | advanceCutover =>
    simp only [Step, Operation.apply, bind_eq_ok, pure_eq_ok] at step
    obtain ⟨⟨_, _⟩, advanced, rfl⟩ := step
    obtain ⟨_, _, _, _, _, _, _, _, _, _, rfl⟩ := advanceCutover_ok advanced
    constructor <;> simp [Operation.writes] <;> rfl
  | holdProject =>
    obtain ⟨_, rfl⟩ := holdProject_ok step
    constructor <;> simp [Operation.writes] <;> rfl
  | releaseProjectHold =>
    obtain ⟨_, rfl⟩ := releaseProjectHold_ok step
    constructor <;> simp [Operation.writes] <;> rfl
  | registerProcess =>
    obtain ⟨_, _, rfl⟩ := registerProcess_ok step
    constructor <;> simp [Operation.writes]
  | clearProcesses =>
    cases step
    constructor <;> simp [Operation.writes] <;> rfl
  | clearActiveProcessesAfterReview =>
    cases step
    constructor <;> simp [Operation.writes] <;> rfl
  | recoverAbandonedJobsPreserving =>
    obtain ⟨_, _, rfl, _⟩ := recoverAbandonedJobsPreserving_ok step
    constructor <;> simp [Operation.writes] <;> rfl
  | recordPasses =>
    cases step
    constructor <;> intro <;> rfl
  | setClock =>
    cases step
    constructor <;> simp [Operation.writes]

/-! ## Replaying -/

variable (platform)

/-- Apply operations one after another, from some ledger, as long as each is allowed. -/
def replay (allowed : Ledger → Operation → Bool) (start : Ledger)
    (operations : List Operation) : Except LedgerError Ledger :=
  operations.foldlM (fun ledger operation => do
    require (allowed ledger operation) .invalidQuery
    operation.apply platform ledger) start

/-- What can be replayed is a run. -/
theorem trace_of_replay {allowed : Ledger → Operation → Bool} {start ledger : Ledger}
    {operations : List Operation}
    (replayed : replay platform allowed start operations = .ok ledger) :
    Trace (fun before operation after => allowed before operation = true ∧
      Step platform before operation after) start operations ledger := by
  refine foldlM_invariant (motive := fun done current => Trace _ start done current) .nil ?_
    replayed
  intro done operation before after earlier stepped
  simp only [bind_eq_ok, require_eq_ok, exists_const] at stepped
  exact .snoc earlier stepped

/-- Why a result was refused, if it was. -/
def refusal {α : Type} : Except LedgerError α → Option LedgerError
  | .ok _ => none
  | .error error => some error

theorem refusal_eq_some {α : Type} {result : Except LedgerError α} {error : LedgerError} :
    refusal result = some error ↔ result = .error error := by
  cases result with
  | ok value => simp [refusal]
  | error other => simp [refusal]

/-- A replay that ends in a ledger of some kind is a run to such a ledger. -/
theorem exists_run_under (allowed : Ledger → Operation → Bool) (start : Ledger)
    (operations : List Operation) (check : Ledger → Bool)
    (replayed : (replay platform allowed start operations).toOption.any check = true) :
    ∃ ledger, Trace (fun before operation after => allowed before operation = true ∧
      Step platform before operation after) start operations ledger ∧ check ledger = true := by
  obtain ⟨ledger, result, checked⟩ := accepted_of_any replayed
  exact ⟨ledger, trace_of_replay platform result, checked⟩

theorem exists_run_of_replay (start : Ledger) (operations : List Operation)
    (check : Ledger → Bool)
    (replayed : (replay platform (fun ledger operation => operation.Disciplined ledger) start
      operations).toOption.any check = true) :
    ∃ ledger, Trace (DisciplinedStep platform) start operations ledger ∧
      check ledger = true := by
  obtain ⟨ledger, run, checked⟩ := exists_run_under platform _ start operations check replayed
  refine ⟨ledger, run.weaken fun step => ?_, checked⟩
  exact ⟨of_decide_eq_true step.1, step.2⟩

variable {platform}

theorem DisciplinedStep.step {before after : Ledger} {operation : Operation}
    (step : DisciplinedStep platform before operation after) :
    Step platform before operation after :=
  step.2

/-- A run of the program is a run of the store. -/
theorem steps_of_disciplined {start ledger : Ledger} {operations : List Operation}
    (run : Trace (DisciplinedStep platform) start operations ledger) :
    Trace (Step platform) start operations ledger :=
  run.weaken DisciplinedStep.step

end Ledger

end MailSwiftSync
