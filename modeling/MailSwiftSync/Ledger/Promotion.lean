import MailSwiftSync.Ledger.Presentation

/-!
# Verified mailboxes

A mailbox becomes verified only together with exact evidence of the run that ends in
the same transaction, and it stays verified only as long as that evidence is its
current evidence.
-/

namespace MailSwiftSync

open Foundation

namespace Ledger

/-! ## Stored evidence -/

/-- An exact metadata label is never the classification of synthetic matches. -/
theorem synthetic_of_exactMetadata (value : MailboxEvidence)
    (exact : value.outcome = .exactMetadataMatch) : value.syntheticIdentityMatches = 0 := by
  rw [MailboxEvidence.outcome] at exact
  cases labelled : value.verificationOutcome with
  | some label =>
    simp only [labelled] at exact
    split at exact
    · cases exact
    · next notDoubted =>
        subst exact
        simpa using notDoubted
  | none =>
    simp only [labelled] at exact
    repeat' split at exact
    all_goals cases exact
    next notDoubted _ _ _ notBody =>
      simp [MailboxEvidence.hasSyntheticDoubt, notBody] at notDoubted
      exact notDoubted.2

/-- Storing evidence keeps its classification. -/
theorem stored_outcome (value : MailboxEvidence) : (stored value).outcome = value.outcome := by
  have label : (stored value).verificationOutcome = some value.outcome := rfl
  rw [MailboxEvidence.outcome, label]
  by_cases exact : value.outcome = .exactMetadataMatch
  · have none : (stored value).syntheticIdentityMatches = 0 :=
      synthetic_of_exactMetadata value exact
    simp [none]
  · simp [exact]

theorem stored_isExactMatch (value : MailboxEvidence) :
    (stored value).isExactMatch = value.isExactMatch := by
  rw [MailboxEvidence.isExactMatch, stored_outcome]
  rfl

/-! ## Becoming verified -/

variable {platform : LedgerPlatform} {before after : Ledger} {operation : Operation}

/-- An evidence commit that verifies a mailbox. -/
structure Promotes (before : Ledger) (operation : Operation) (after : Ledger) (jobId : JobId)
    (row : EvidenceRow) : Prop where
  commit : ∃ projectId runStatus detail value mismatches preflightPlan checkpoint,
    operation = .finishRunForMailboxWithEvidence projectId jobId row.runId runStatus .verified
      detail value mismatches preflightPlan checkpoint ∧ value.isExactMatch = true ∧
    row = before.committedRow jobId row.runId .verified value
  promoter : ∃ run ∈ before.runs, run.id = row.runId ∧ run.jobId = some jobId ∧
    run.status = .running
  verified : ∃ job ∈ after.jobs, job.id = jobId ∧ job.state = .verified
  current : after.evidence.find jobId = some row

/-- A mailbox that was verified before, with the same current evidence. -/
def StaysVerified (before after : Ledger) (jobId : JobId) : Prop :=
  (∃ job ∈ before.jobs, job.id = jobId ∧ job.state = .verified) ∧
    after.evidence.find jobId = before.evidence.find jobId

/-- Updates that verify nothing. -/
theorem verified_of_setJobs {ledger : Ledger} {condition : MailboxJob → Bool}
    {change : MailboxProgress → MailboxProgress} {job : MailboxJob}
    (never : ∀ progress, (change progress).state ≠ .verified)
    (isJob : job ∈ (ledger.setJobs condition change).jobs) (verified : job.state = .verified) :
    ∃ old ∈ ledger.jobs, old.id = job.id ∧ old.state = .verified := by
  obtain ⟨old, isOld, rfl⟩ := mem_setJobs.mp isJob
  split at verified
  · exact absurd verified (never _)
  · next miss =>
      rw [if_neg miss]
      exact ⟨old, isOld, rfl, verified⟩

theorem finishRunForMailboxWithEvidence_verified {projectId : ProjectId} {jobId : JobId}
    {runId : RunId} {runStatus : RunStatus} {mailboxState : MailboxState} {detail : String}
    {value : MailboxEvidence} {mismatches : List MessageMismatch}
    {preflightPlan checkpoint : Option String}
    (accepted : before.finishRunForMailboxWithEvidence platform projectId jobId runId runStatus
      mailboxState detail value mismatches preflightPlan checkpoint = .ok after)
    {job : MailboxJob} (isJob : job ∈ after.jobs) (verified : job.state = .verified) :
    StaysVerified before after job.id ∨
      ∃ row, Promotes before (.finishRunForMailboxWithEvidence projectId jobId runId runStatus
        mailboxState detail value mismatches preflightPlan checkpoint) after job.id row := by
  obtain ⟨target, run, isTarget, isRun, sameRun, _, ofJob, running, _, exact, _, rfl⟩ :=
    finishRunForMailboxWithEvidence_ok accepted
  obtain ⟨old, isOld, changed⟩ := mem_setJobs.mp isJob
  have changed : job = if decide (old.id = jobId) = true then
      changedJob (settled mailboxState detail preflightPlan checkpoint) old else old := changed
  by_cases hit : old.id = jobId
  · have sameId : job.id = jobId := by
      rw [changed]
      split
      · exact hit
      · exact hit
    have isVerified : mailboxState = .verified := by
      rw [changed, if_pos (decide_eq_true hit)] at verified
      exact verified
    subst isVerified
    subst sameId
    refine .inr ⟨before.committedRow job.id runId .verified value, ?_⟩
    exact {
      commit := ⟨projectId, runStatus, detail, value, mismatches, preflightPlan, checkpoint, rfl,
        exact rfl, rfl⟩
      promoter := ⟨run, isRun, sameRun, ofJob, running⟩
      verified := ⟨job, isJob, rfl, verified⟩
      current := Table.find_upsert_self }
  · rw [if_neg (by simpa using hit)] at changed
    subst changed
    exact .inl ⟨⟨job, isOld, rfl, verified⟩,
      Table.find_upsert_of_ne fun same => hit same.symm⟩

theorem ne_verified_of_pair {runStatus : RunStatus} {mailboxState : MailboxState}
    (pair : terminalPairIsValid runStatus mailboxState = true) : mailboxState ≠ .verified := by
  rintro rfl
  cases runStatus <;> simp [terminalPairIsValid] at pair

theorem jobs_recordAcceptance (ledger : Ledger) (acceptance : VerificationAcceptance)
    (projectId : ProjectId) (phase : Phase) :
    (ledger.recordAcceptance acceptance projectId phase).jobs =
      ((ledger.insertAcceptance acceptance).setJobs (·.id = acceptance.jobId)
        ({ · with state := .verifiedWithExceptions, attentionReason := none })).jobs := by
  rw [recordAcceptance]
  split
  · rfl
  · rfl

/-- Whatever an operation leaves verified, it promoted or found verified. -/
theorem Step.verified (step : Step platform before operation after) {job : MailboxJob}
    (isJob : job ∈ after.jobs) (verified : job.state = .verified) :
    StaysVerified before after job.id ∨ ∃ row, Promotes before operation after job.id row := by
  have unwritten : .jobs ∉ operation.writes → .evidence ∉ operation.writes →
      StaysVerified before after job.id := by
    intro noJobs noEvidence
    rw [step.kept.jobs noJobs] at isJob
    exact ⟨⟨job, isJob, rfl, verified⟩, by rw [step.kept.evidence noEvidence]⟩
  have restated : (∃ old ∈ before.jobs, old.id = job.id ∧ old.state = .verified) →
      .evidence ∉ operation.writes → StaysVerified before after job.id :=
    fun found noEvidence => ⟨found, by rw [step.kept.evidence noEvidence]⟩
  cases operation with
  | createProjectWithMailbox =>
    refine .inl (restated ?_ (by simp [Operation.writes]))
    obtain ⟨_, _, _, inserted, rfl⟩ := createProjectWithMailbox_ok step
    cases (Table.mem_insert inserted).mp isJob with
    | inl isOld => exact ⟨job, isOld, rfl, verified⟩
    | inr isNew =>
      subst isNew
      cases verified
  | createBatchQueue =>
    refine .inl (restated ?_ (by simp [Operation.writes]))
    obtain ⟨_, _, _, _, _, enrolls, rfl⟩ := createBatchQueue_enrolls step
    cases enrolls.added job isJob with
    | inl isOld => exact ⟨job, isOld, rfl, verified⟩
    | inr isNew =>
      obtain ⟨_, ⟨_, fresh⟩, _⟩ := isNew
      rw [fresh] at verified
      cases verified
  | updateQueuePlans =>
    refine .inl (restated ?_ (by simp [Operation.writes]))
    obtain ⟨_, _, _, replans, rfl⟩ := updateQueuePlans_ok step
    obtain ⟨old, isOld, replanned⟩ := replans.backward job isJob
    cases replanned with
    | inl same => exact ⟨old, isOld, by rw [same], by rw [← same]; exact verified⟩
    | inr changed =>
      obtain ⟨_, rfl⟩ := changed
      exact ⟨old, isOld, rfl, verified⟩
  | beginRunWithSnapshot =>
    refine .inl (restated ?_ (by simp [Operation.writes]))
    obtain ⟨_, _, _, _, _, _, _, _, _, _, inserted, rfl⟩ := beginRunWithSnapshot_ok step
    obtain ⟨_, _, rfl⟩ := insertRun_ok inserted
    exact verified_of_setJobs (fun _ => by simp [claimed]) isJob verified
  | claimBatchMailboxForChild =>
    refine .inl (restated ?_ (by simp [Operation.writes]))
    obtain ⟨_, _, _, _, _, _, _, _, _, _, _, _, _, _, _, _, _, _, _, rfl⟩ :=
      claimBatchMailboxForChild_ok step
    exact verified_of_setJobs (fun _ => by simp [claimed]) isJob verified
  | finishRunForMailbox =>
    refine .inl (restated ?_ (by simp [Operation.writes]))
    obtain ⟨_, _, _, _, _, _, _, _, _, _, pair, _, _, rfl⟩ := finishRunForMailbox_ok step
    refine verified_of_setJobs (fun _ => ?_) isJob verified
    exact ne_verified_of_pair pair
  | finishRunForMailboxWithEvidence =>
    exact finishRunForMailboxWithEvidence_verified step isJob verified
  | acceptVerificationDifference =>
    refine .inl (restated ?_ (by simp [Operation.writes]))
    obtain ⟨acceptance, _, _, _, _, _, _, _, rfl⟩ := acceptVerificationDifference_ok step
    rw [jobs_recordAcceptance] at isJob
    exact verified_of_setJobs (fun _ => by simp) isJob verified
  | reopenProject =>
    refine .inl (restated ?_ (by simp [Operation.writes]))
    obtain ⟨_, _, _, _, rfl⟩ := reopenProject_ok step
    exact verified_of_setJobs (fun _ => by simp) isJob verified
  | advanceCutover =>
    refine .inl (restated ?_ (by simp [Operation.writes]))
    simp only [Step, Operation.apply, bind_eq_ok, pure_eq_ok] at step
    obtain ⟨⟨_, _⟩, advanced, rfl⟩ := step
    obtain ⟨_, _, _, _, _, _, _, _, _, _, rfl⟩ := advanceCutover_ok advanced
    exact verified_of_setJobs (fun _ => by simp) isJob verified
  | recoverAbandonedJobsPreserving =>
    refine .inl (restated ?_ (by simp [Operation.writes]))
    obtain ⟨_, _, rfl, _⟩ := recoverAbandonedJobsPreserving_ok step
    exact verified_of_setJobs (fun _ => by simp) isJob verified
  | _ => exact .inl (unwritten (by simp [Operation.writes]) (by simp [Operation.writes]))

/-! ## Starting transfers -/

/-- Updates that start nothing. -/
theorem running_of_setRuns {ledger : Ledger} {condition : Run → Bool}
    {change : RunProgress → RunProgress} {run : Run}
    (never : ∀ progress, (change progress).status ≠ .running)
    (isRun : run ∈ (ledger.setRuns condition change).runs) (running : run.status = .running) :
    ∃ old ∈ ledger.runs, old.id = run.id ∧ old.status = .running := by
  obtain ⟨old, isOld, rfl⟩ := mem_setRuns.mp isRun
  split at running
  · exact absurd running (never _)
  · next miss =>
      rw [if_neg miss]
      exact ⟨old, isOld, rfl, running⟩

/-- A transfer starts together with its mailbox. -/
theorem Step.started (step : Step platform before operation after) {run : Run}
    (isRun : run ∈ after.runs) (running : run.status = .running)
    (transfers : run.isTransfer = true) {jobId : JobId} (ofJob : run.jobId = some jobId) :
    (∃ old ∈ before.runs, old.id = run.id ∧ old.status = .running) ∨
      ∃ job ∈ after.jobs, job.id = jobId ∧ job.state = .running := by
  cases operation with
  | beginRunWithSnapshot projectId otherId =>
    obtain ⟨job, _, _, isJob, _, _, _, _, _, _, inserted, rfl⟩ := beginRunWithSnapshot_ok step
    obtain ⟨_, newRun, rfl⟩ := insertRun_ok inserted
    obtain ⟨isRow, sameId, _⟩ := jobIn_eq_some.mp isJob
    cases (Table.mem_insert newRun).mp isRun with
    | inl isOld => exact .inl ⟨run, isOld, rfl, running⟩
    | inr isNew =>
      subst isNew
      cases ofJob
      refine .inr ⟨_, mem_setJobs.mpr ⟨job, isRow, rfl⟩, ?_⟩
      rw [if_pos (decide_eq_true sameId)]
      exact ⟨sameId, rfl⟩
  | beginVerificationRunFromTransfer =>
    obtain ⟨_, _, _, _, _, _, _, _, _, inserted, rfl⟩ :=
      beginVerificationRunFromTransfer_ok step
    obtain ⟨_, newRun, rfl⟩ := insertRun_ok inserted
    cases (Table.mem_insert newRun).mp isRun with
    | inl isOld => exact .inl ⟨run, isOld, rfl, running⟩
    | inr isNew =>
      subst isNew
      simp [Run.isTransfer, auditRun] at transfers
  | beginBatchRunWithChildren =>
    obtain ⟨_, _, _, _, _, _, _, _, _, _, inserted, added, rfl⟩ :=
      beginBatchRunWithChildren_ok step
    obtain ⟨_, newRun, rfl⟩ := insertRun_ok inserted
    obtain ⟨_, _, _, rfl, isMember, _⟩ := insertChildren_ok added
    cases (isMember run).mp isRun with
    | inr isChild =>
      obtain ⟨_, _, rfl⟩ := isChild
      cases running
    | inl isOther =>
      cases (Table.mem_insert newRun).mp isOther with
      | inl isOld => exact .inl ⟨run, isOld, rfl, running⟩
      | inr isNew =>
        subst isNew
        cases ofJob
  | claimBatchMailboxForChild _ _ _ childRunId =>
    obtain ⟨child, _, job, _, isChild, sameRun, _, childJob, _, _, _, _, _, _, isJob, _, _, _, _,
      rfl⟩ := claimBatchMailboxForChild_ok step
    obtain ⟨isRow, sameId, _⟩ := jobIn_eq_some.mp isJob
    obtain ⟨old, isOld, changed⟩ := mem_setRuns.mp isRun
    by_cases claimed : old.id = childRunId
    · rw [if_pos (decide_eq_true claimed)] at changed
      subst changed
      have sameJob := Table.eq_of_key isOld isChild (claimed.trans sameRun.symm)
      subst sameJob
      have isClaimed : job.id = jobId := by
        rw [sameId]
        exact Option.some.inj (childJob.symm.trans ofJob)
      refine .inr ⟨_, mem_setJobs.mpr ⟨job, isRow, rfl⟩, ?_⟩
      rw [if_pos (decide_eq_true sameId)]
      exact ⟨isClaimed, rfl⟩
    · rw [if_neg (by simpa using claimed)] at changed
      subst changed
      exact .inl ⟨run, isOld, rfl, running⟩
  | finishRun =>
    obtain ⟨_, _, _, _, terminal, _, _, rfl⟩ := finishRun_ok step
    exact .inl (running_of_setRuns
      (fun _ => (RunStatus.isActive_eq_false.mp terminal).2) isRun running)
  | cancelHeldChildRun =>
    obtain ⟨_, _, _, _, _, rfl⟩ := cancelHeldChildRun_ok step
    exact .inl (running_of_setRuns (fun _ => by simp [ended]) isRun running)
  | finishRunForMailbox =>
    obtain ⟨_, _, _, _, _, _, _, _, _, _, pair, _, _, rfl⟩ := finishRunForMailbox_ok step
    exact .inl (running_of_setRuns (fun _ =>
      (RunStatus.isActive_eq_false.mp (terminal_of_pair pair).1).2) isRun running)
  | finishRunForMailboxWithEvidence =>
    obtain ⟨_, _, _, _, _, _, _, _, _, _, _, rfl⟩ := finishRunForMailboxWithEvidence_ok step
    exact .inl (running_of_setRuns (fun _ => by simp [ended]) isRun running)
  | finishVerificationOnlyRun =>
    obtain ⟨_, _, _, _, _, _, rfl⟩ := finishVerificationOnlyRun_ok step
    exact .inl (running_of_setRuns (fun _ => by simp [ended]) isRun running)
  | recoverAbandonedJobsPreserving =>
    obtain ⟨_, _, rfl, _⟩ := recoverAbandonedJobsPreserving_ok step
    obtain ⟨between, isBetween, sameId, stillRunning⟩ :=
      running_of_setRuns (fun _ => by simp [ended]) isRun running
    obtain ⟨old, isOld, sameOld, wasRunning⟩ :=
      running_of_setRuns (fun _ => by simp [ended]) isBetween stillRunning
    exact .inl ⟨old, isOld, sameOld.trans sameId, wasRunning⟩
  | _ =>
    rw [step.kept.runs (by simp [Operation.writes])] at isRun
    exact .inl ⟨run, isRun, rfl, running⟩

/-- One step during which a mailbox stays verified by the same evidence. -/
def VerifiedStep (platform : LedgerPlatform) (jobId : JobId) (before : Ledger)
    (operation : Operation) (after : Ledger) : Prop :=
  Step platform before operation after ∧ StaysVerified before after jobId

/-- The promotion that a verified mailbox rests on. -/
theorem promotion_of_verified {operations : List Operation} {ledger : Ledger}
    (run : Trace (Step platform) {} operations ledger) {job : MailboxJob}
    (isJob : job ∈ ledger.jobs) (verified : job.state = .verified) :
    ∃ done operation later before after row, operations = done ++ operation :: later ∧
      Trace (Step platform) {} done before ∧ Step platform before operation after ∧
      Promotes before operation after job.id row ∧
      Trace (VerifiedStep platform job.id) after later ledger ∧
      ledger.evidence.find job.id = some row := by
  induction run generalizing job with
  | nil => exact absurd isJob (Table.not_mem_empty _)
  | @snoc labels middle next operation earlier last ih =>
    cases Step.verified last isJob verified with
    | inr promoted =>
      obtain ⟨row, promotes⟩ := promoted
      exact ⟨labels, operation, [], middle, next, row, rfl, earlier, last, promotes, .nil,
        promotes.current⟩
    | inl stays =>
      obtain ⟨⟨old, isOld, sameId, oldVerified⟩, sameEvidence⟩ := stays
      obtain ⟨done, promotion, later, before, after, row, rfl, reached, step, promotes,
        continued, current⟩ := ih isOld oldVerified
      rw [sameId] at promotes continued current
      refine ⟨done, promotion, later ++ [operation], before, after, row, ?_, reached, step,
        promotes, continued.snoc ⟨last, ⟨old, isOld, sameId, oldVerified⟩, sameEvidence⟩,
        sameEvidence.trans current⟩
      rw [List.append_assoc, List.cons_append]

theorem Promotes.exact {jobId : JobId} {row : EvidenceRow}
    (promotes : Promotes before operation after jobId row) : row.value.isExactMatch = true := by
  obtain ⟨_, _, _, value, _, _, _, _, exact, committed⟩ := promotes.commit
  have isStored : row.value = stored value := by
    rw [committed]
    rfl
  rw [isStored, stored_isExactMatch, exact]

end Ledger

/-- A mailbox is verified only on the strength of the run that promoted it. -/
theorem Ledger.verified_by_promoting_run {platform : LedgerPlatform}
    {operations : List Operation} {ledger : Ledger}
    (run : Trace (Ledger.Step platform) {} operations ledger) {job : MailboxJob}
    (isJob : job ∈ ledger.jobs) (verified : job.state = .verified) :
    (∃ done operation later before after row, operations = done ++ operation :: later ∧
      Trace (Ledger.Step platform) {} done before ∧
      Ledger.Step platform before operation after ∧
      Ledger.Promotes before operation after job.id row ∧
      Trace (Ledger.VerifiedStep platform job.id) after later ledger ∧
      ledger.evidence.find job.id = some row ∧ row.value.isExactMatch = true) ∧
    ∀ operation next, Ledger.Step platform ledger operation next →
      (∃ same ∈ next.jobs, same.id = job.id ∧ same.state = .verified) →
      (∃ row, next.evidence.find job.id = some row ∧ row.value.isExactMatch = true) ∧
      ∀ transfer ∈ next.runs, transfer.jobId = some job.id → transfer.isTransfer = true →
        transfer.status = .running →
          ∃ old ∈ ledger.runs, old.id = transfer.id ∧ old.status = .running := by
  constructor
  · obtain ⟨done, operation, later, before, after, row, split, reached, step, promotes,
      continued, current⟩ := Ledger.promotion_of_verified run isJob verified
    exact ⟨done, operation, later, before, after, row, split, reached, step, promotes, continued,
      current, promotes.exact⟩
  · intro operation next step stays
    obtain ⟨same, isSame, sameId, stillVerified⟩ := stays
    constructor
    · obtain ⟨_, _, _, _, _, row, _, _, _, promotes, _, current⟩ :=
        Ledger.promotion_of_verified (run.snoc step) isSame stillVerified
      exact ⟨row, sameId ▸ current, promotes.exact⟩
    · intro transfer isTransfer ofJob transfers running
      cases step.started isTransfer running transfers ofJob with
      | inl wasRunning => exact wasRunning
      | inr taken =>
        obtain ⟨other, isOther, otherId, isTaken⟩ := taken
        rw [Table.eq_of_key isOther isSame (otherId.trans sameId.symm), stillVerified] at isTaken
        cases isTaken

/-- The evidence of a mailbox of three messages. -/
def MailboxEvidence.ofThree : MailboxEvidence where
  verificationMethod := .metadataReconciliation
  verificationOutcome := some .exactMetadataMatch
  sourceMessages := 3
  destinationMessages := 3
  sourceBytes := 4096
  destinationBytes := 4096
  unmatchedMessages := some 0
  failedMessages := 0
  sourceFolders := 2
  destinationFolders := 2
  authoritative := true
  missingMessages := 0
  extraMessages := 0
  modifiedMessages := 0
  probableMessages := 0
  rfcMessageIdMatches := 3
  syntheticIdentityMatches := 0
  flagVerification := some { comparedMessages := 3 }

/-- A verified mailbox whose evidence is the one its run committed. -/
theorem Ledger.verified_of_single_run : ∃ (operations : List Operation) (ledger : Ledger)
    (job : MailboxJob) (row : EvidenceRow), Trace (Ledger.Step .ascii) {} operations ledger ∧
      job ∈ ledger.jobs ∧ job.state = .verified ∧ ledger.evidence.find job.id = some row ∧
      row.value.isExactMatch = true := by
  obtain ⟨ledger, run, promoted⟩ := Ledger.exists_run_of_replay .ascii {} [
      .createProjectWithMailbox "project" "mailbox" "user@example.org",
      .beginRunWithSnapshot "project" "mailbox" "run" .imapsync "",
      .finishRunForMailboxWithEvidence "project" "mailbox" "run" .completed .verified ""
        .ofThree [] none none]
    (fun ledger => ledger.jobs.any (·.state = .verified)) (by decide)
  obtain ⟨job, isJob, verified⟩ := Table.any_eq_true.mp promoted
  have verified := of_decide_eq_true verified
  have run := Ledger.steps_of_disciplined run
  obtain ⟨_, _, _, _, _, row, _, _, _, _, _, current, exact⟩ :=
    (Ledger.verified_by_promoting_run run isJob verified).1
  exact ⟨_, ledger, job, row, run, isJob, verified, current, exact⟩

end MailSwiftSync
