import MailSwiftSync.Ledger.Phases

/-!
# The event log

Events are only ever appended, under consecutive numbers.  Readiness for the last step of a
cutover is published in its final verification only, and every admission of a run withdraws it.
-/

namespace MailSwiftSync

open Foundation

namespace Ledger

variable {platform : LedgerPlatform} {ledger before after next : Ledger}
  {projectId : ProjectId} {jobId : JobId} {runId : RunId} {operation : Operation}

/-! ## Numbers -/

/-- Events have the numbers from one on. -/
def Numbered (events : List LedgerEvent) : Prop :=
  events.map (·.id) = List.range' 1 events.length

theorem numbered_nil : Numbered [] := rfl

variable {events : List LedgerEvent}

theorem Numbered.append (numbered : Numbered events)
    (projectId : ProjectId) (runId : Option RunId) (kind : EventKind) :
    Numbered (events ++ [⟨events.length + 1, projectId, runId, kind⟩]) := by
  rw [Numbered, List.map_append, numbered, List.length_append, List.length_singleton,
    List.range'_1_concat, Nat.add_comm]
  rfl

theorem Numbered.increasing (numbered : Numbered events) : events.Pairwise (·.id < ·.id) := by
  rw [← List.pairwise_map, numbered]
  exact List.pairwise_lt_range'

/-- The number of a new event is greater than all others. -/
theorem Numbered.le_length (numbered : Numbered events)
    {event : LedgerEvent} (isEvent : event ∈ events) : event.id ≤ events.length := by
  have isId : event.id ∈ events.map (·.id) := List.mem_map_of_mem isEvent
  rw [numbered, List.mem_range'_1] at isId
  exact Nat.lt_succ_iff.mp (by simpa [Nat.add_comm] using isId.2)

/-- The latest event of a kind has the greatest number. -/
theorem latestEvent_eq_some (numbered : Numbered ledger.events) {condition : LedgerEvent → Bool}
    {event : LedgerEvent} (latest : ledger.latestEvent condition = some event) :
    event ∈ ledger.events ∧ condition event = true ∧
      ∀ other ∈ ledger.events, condition other = true → other.id ≤ event.id := by
  obtain ⟨holds, later, earlier, split, none⟩ := List.find?_eq_some_iff_append.mp latest
  have log : ledger.events = earlier.reverse ++ event :: later.reverse := by
    rw [← List.reverse_reverse ledger.events, split]
    simp
  have increasing := numbered.increasing
  rw [log] at increasing
  refine ⟨by rw [log]; simp, holds, fun other isOther otherHolds => ?_⟩
  rw [log, List.mem_append, List.mem_cons] at isOther
  rcases isOther with isEarlier | rfl | isLater
  · have before := (List.pairwise_append.mp increasing).2.2 other isEarlier event List.mem_cons_self
    exact Nat.le_of_lt before
  · exact Nat.le_refl _
  · have holdsNot := none other (List.mem_reverse.mp isLater)
    rw [otherHolds] at holdsNot
    cases holdsNot

theorem latestEvent_eq_none {condition : LedgerEvent → Bool} :
    ledger.latestEvent condition = none ↔ ∀ event ∈ ledger.events, ¬condition event = true := by
  rw [latestEvent, List.find?_eq_none]
  simp only [List.mem_reverse]

/-! ## Appending -/

/-- Events were appended, and readiness was published only where it may be. -/
structure Logs (published : ProjectId → Prop) (before after : List LedgerEvent) : Prop where
  appended : ∃ new, after = before ++ new ∧ ∀ event ∈ new, ∀ readiness,
    event.kind = .cutoverReady readiness → published event.projectId
  numbered : Numbered before → Numbered after

namespace Logs

variable {published : ProjectId → Prop} {events : List LedgerEvent}

theorem refl (published : ProjectId → Prop) (events : List LedgerEvent) :
    Logs published events events :=
  ⟨⟨[], by simp, by simp⟩, id⟩

theorem announce (logs : Logs published events ledger.events) {runId : Option RunId}
    {kind : Option EventKind}
    (allowed : ∀ readiness, kind = some (.cutoverReady readiness) → published projectId) :
    Logs published events (ledger.announce projectId runId kind).events := by
  cases kind with
  | none =>
    rw [Ledger.announce]
    simpa using logs
  | some kind =>
    obtain ⟨new, appended, fits⟩ := logs.appended
    constructor
    · refine ⟨new ++ [⟨ledger.events.length + 1, projectId, runId, kind⟩], ?_, ?_⟩
      · rw [← List.append_assoc, ← appended]
        rfl
      · intro event isEvent readiness isReady
        cases List.mem_append.mp isEvent with
        | inl isNew => exact fits event isNew readiness isReady
        | inr isLast =>
          obtain rfl := List.mem_singleton.mp isLast
          exact allowed readiness (congrArg some isReady)
    · exact fun numbered => (logs.numbered numbered).append projectId runId kind

theorem emit (logs : Logs published events ledger.events) {runId : Option RunId}
    {kind : EventKind}
    (allowed : ∀ readiness, kind = .cutoverReady readiness → published projectId) :
    Logs published events (ledger.emit projectId runId kind).events :=
  logs.announce fun readiness isReady => allowed readiness (Option.some.inj isReady)

theorem emitAll (logs : Logs published events ledger.events) {kind : EventKind}
    (projects : List ProjectId)
    (quiet : ∀ readiness, kind ≠ .cutoverReady readiness) :
    Logs published events
      (projects.foldl (fun ledger projectId => ledger.emit projectId none kind) ledger).events := by
  induction projects generalizing ledger with
  | nil => exact logs
  | cons project rest ih =>
    rw [List.foldl_cons]
    exact ih (logs.emit fun readiness isReady => absurd isReady (quiet readiness))

theorem setJobs (logs : Logs published events ledger.events) {condition : MailboxJob → Bool}
    {change : MailboxProgress → MailboxProgress} :
    Logs published events (ledger.setJobs condition change).events :=
  logs

theorem insertRun (logs : Logs published events ledger.events) {run : Run}
    (inserted : ledger.insertRun run = .ok next) : Logs published events next.events := by
  obtain ⟨_, _, rfl⟩ := insertRun_ok inserted
  exact logs

theorem mem (logs : Logs published before.events after.events) {event : LedgerEvent}
    (isEvent : event ∈ before.events) : event ∈ after.events := by
  obtain ⟨new, appended, _⟩ := logs.appended
  rw [appended]
  exact List.mem_append_left _ isEvent

end Logs

/-- A project is in the final verification of a cutover. -/
def Verifying (ledger : Ledger) (projectId : ProjectId) : Prop :=
  ∃ workflow, ledger.workflows.find projectId = some workflow ∧ workflow.stage = .verification

theorem verifying_of_publishable {readiness : CutoverReadiness}
    (publishable : ledger.publishableReadiness projectId = some readiness) :
    ledger.Verifying projectId := by
  simp only [publishableReadiness, Option.bind_eq_bind, Option.bind_eq_some_iff] at publishable
  obtain ⟨_, guarded, _⟩ := publishable
  have inFinal : ledger.inFinalVerification projectId = true := by
    by_contra notFinal
    simp [notFinal] at guarded
  rw [inFinalVerification, Option.any_eq_true] at inFinal
  obtain ⟨workflow, found, stage⟩ := inFinal
  rw [Bool.and_eq_true, Bool.and_eq_true, decide_eq_true_eq] at stage
  exact ⟨workflow, found, stage.1.1⟩

variable {published : ProjectId → Prop}

theorem Logs.maybeEmitCutoverReady (logs : Logs published events ledger.events)
    (allowed : ledger.Verifying projectId → published projectId) :
    Logs published events (ledger.maybeEmitCutoverReady projectId).events := by
  refine logs.announce fun readiness isReady => ?_
  obtain ⟨_, publishable, _⟩ := Option.map_eq_some_iff.mp isReady
  exact allowed (verifying_of_publishable publishable)

theorem Logs.recordAcceptance {acceptance : VerificationAcceptance} {phase : Phase}
    (logs : Logs published events ledger.events)
    (allowed : ledger.Verifying projectId → published projectId) :
    Logs published events (ledger.recordAcceptance acceptance projectId phase).events := by
  have ready : Logs published events (((ledger.insertAcceptance acceptance).setJobs
      (·.id = acceptance.jobId) ({ · with
        state := .verifiedWithExceptions, attentionReason := none })).maybeEmitCutoverReady
          projectId).events :=
    Logs.maybeEmitCutoverReady logs allowed
  rw [Ledger.recordAcceptance]
  split
  · exact Logs.emit (Logs.emit ready (by simp)) (by simp)
  · exact Logs.emit ready (by simp)

theorem Logs.invalidate (logs : Logs published events ledger.events) :
    Logs published events
      (ledger.invalidateCutoverReadinessForNewRun projectId jobId runId).events := by
  refine logs.announce fun readiness isReady => ?_
  split at isReady <;> cases isReady

theorem Logs.insertChildren {engine : TransferEngine} {phase : Phase} {members : List BatchMember}
    (logs : Logs published events ledger.events)
    (ran : members.foldlM (insertChild projectId runId engine phase) ledger = .ok next) :
    Logs published events next.events := by
  refine foldlM_invariant (motive := fun _ (current : Ledger) =>
    Logs published events current.events) logs ?_ ran
  intro _ member current _ earlier stepped
  simp only [insertChild, bind_eq_ok, pure_eq_ok] at stepped
  obtain ⟨_, inserted, rfl⟩ := stepped
  exact (earlier.insertRun inserted).invalidate

/-- What an operation adds to the log. -/
theorem Step.logs (step : Step platform before operation after) :
    Logs after.Verifying before.events after.events := by
  have unchanged := Logs.refl after.Verifying before.events
  cases operation with
  | createProjectWithMailbox =>
    obtain ⟨_, _, _, _, rfl⟩ := createProjectWithMailbox_ok step
    exact Logs.emit unchanged (by simp)
  | createBatchQueue =>
    obtain ⟨_, _, _, _, _, _, rfl⟩ := createBatchQueue_enrolls step
    exact Logs.emit unchanged (by simp)
  | setQueueFacts =>
    obtain ⟨_, rfl⟩ := setQueueFacts_ok step
    exact unchanged
  | updateQueuePlans =>
    obtain ⟨_, _, _, _, rfl⟩ := updateQueuePlans_ok step
    exact unchanged
  | beginRunWithSnapshot =>
    obtain ⟨_, _, _, _, _, _, _, _, _, _, inserted, rfl⟩ := beginRunWithSnapshot_ok step
    exact ((unchanged.insertRun inserted).invalidate.setJobs).emit (by simp)
  | beginVerificationRunFromTransfer =>
    obtain ⟨_, _, _, _, _, _, _, _, _, inserted, rfl⟩ :=
      beginVerificationRunFromTransfer_ok step
    exact (unchanged.insertRun inserted).invalidate.emit (by simp)
  | beginBatchRunWithChildren =>
    obtain ⟨_, _, _, _, _, _, _, _, _, _, inserted, added, rfl⟩ :=
      beginBatchRunWithChildren_ok step
    exact ((unchanged.insertRun inserted).insertChildren added).emit (by simp)
  | claimBatchMailboxForChild =>
    obtain ⟨_, _, _, _, _, _, _, _, _, _, _, _, _, _, _, _, _, _, _, rfl⟩ :=
      claimBatchMailboxForChild_ok step
    exact Logs.emit unchanged (by simp)
  | finishRun =>
    obtain ⟨_, _, _, _, _, _, _, rfl⟩ := finishRun_ok step
    exact Logs.emit unchanged (by simp)
  | cancelHeldChildRun =>
    obtain ⟨_, _, _, _, _, rfl⟩ := cancelHeldChildRun_ok step
    exact Logs.emit unchanged (by simp)
  | finishRunForMailbox =>
    obtain ⟨_, _, _, _, _, _, _, _, _, _, _, _, _, rfl⟩ := finishRunForMailbox_ok step
    exact Logs.emit unchanged (by simp)
  | finishRunForMailboxWithEvidence =>
    obtain ⟨_, _, _, _, _, _, _, _, _, _, _, rfl⟩ := finishRunForMailboxWithEvidence_ok step
    refine Logs.emit (Logs.announce unchanged fun readiness isReady => ?_) (by simp)
    split at isReady
    · obtain ⟨_, publishable, _⟩ := Option.map_eq_some_iff.mp isReady
      have verifying := verifying_of_publishable publishable
      exact verifying
    · cases isReady
  | finishVerificationOnlyRun =>
    obtain ⟨_, _, _, _, _, _, rfl⟩ := finishVerificationOnlyRun_ok step
    exact Logs.emit unchanged (by simp)
  | acceptVerificationDifference =>
    obtain ⟨_, _, _, _, _, _, _, _, rfl⟩ := acceptVerificationDifference_ok step
    refine Logs.recordAcceptance unchanged fun verifying => ?_
    rw [Verifying, step.kept.workflows (by simp [Operation.writes])]
    exact verifying
  | transition =>
    obtain ⟨_, _, _, _, _, rfl⟩ := transition_ok step
    exact Logs.emit unchanged (by simp)
  | reopenProject =>
    obtain ⟨_, _, _, _, rfl⟩ := reopenProject_ok step
    exact Logs.emit unchanged (by simp)
  | createCutoverWorkflow =>
    obtain ⟨_, _, _, _, _, rfl⟩ := createCutoverWorkflow_ok step
    exact Logs.emit unchanged (by simp)
  | approveCutover =>
    obtain ⟨_, _, _, _, _, _, _, rfl⟩ := approveCutover_ok step
    exact Logs.emit (Logs.emit unchanged (by simp)) (by simp)
  | attestCutoverSourceQuiescence =>
    obtain ⟨_, _, _, rfl⟩ := attestCutoverSourceQuiescence_ok step
    refine Logs.maybeEmitCutoverReady (Logs.announce (Logs.emit unchanged (by simp)) ?_) id
    intro readiness isReady
    split at isReady <;> cases isReady
  | advanceCutover =>
    simp only [Step, Operation.apply, bind_eq_ok, pure_eq_ok] at step
    obtain ⟨⟨_, _⟩, advanced, rfl⟩ := step
    obtain ⟨_, _, _, _, _, _, _, _, _, _, rfl⟩ := advanceCutover_ok advanced
    refine Logs.emit (Logs.announce (Logs.announce unchanged ?_) ?_) (by simp)
    · intro readiness isReady
      split at isReady <;> cases isReady
    · intro readiness isReady
      split at isReady <;> cases isReady
  | holdProject =>
    obtain ⟨_, rfl⟩ := holdProject_ok step
    exact Logs.emit unchanged (by simp)
  | releaseProjectHold =>
    obtain ⟨_, rfl⟩ := releaseProjectHold_ok step
    exact Logs.emit unchanged (by simp)
  | registerProcess =>
    obtain ⟨_, _, rfl⟩ := registerProcess_ok step
    exact unchanged
  | clearProcesses =>
    cases step
    exact unchanged
  | clearActiveProcessesAfterReview =>
    cases step
    exact unchanged
  | recoverAbandonedJobsPreserving =>
    simp only [Step, Operation.apply, recoverAbandonedJobsPreserving, bind_eq_ok,
      pure_eq_ok] at step
    obtain ⟨recovered, ran, rfl⟩ := step
    obtain ⟨processes, same⟩ := insertProcesses_ok ran
    have abandoned : ∀ published, Logs published before.events recovered.events := by
      intro published
      rw [same]
      exact Logs.refl published before.events
    exact (abandoned _).emitAll before.interruptedProjects (by simp)
  | recordPasses =>
    cases step
    exact unchanged
  | setClock =>
    cases step
    exact unchanged

end Ledger

end MailSwiftSync
