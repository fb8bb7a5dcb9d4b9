import MailSwiftSync.Ledger.Checkpoints

/-!
# Reasons for attention

A mailbox that waits for an operator says why, and no other mailbox does.
-/

namespace MailSwiftSync

open Foundation

/-- States in which a mailbox waits for an operator. -/
def MailboxState.needsOperator (state : MailboxState) : Bool :=
  state ∈ [.attention, .failed, .cancelled, .verificationDifference]

/-- Stored categories are read back. -/
theorem AttentionReason.parse_asStr (reason : AttentionReason) :
    AttentionReason.parse reason.asStr = some reason := by
  cases reason <;> decide

/-- The category of a finished run is there exactly when an operator is needed. -/
theorem attentionReasonFor_isSome (state : MailboxState) (detail : String) :
    (attentionReasonFor state detail).isSome = state.needsOperator := by
  rw [attentionReasonFor]
  split
  · next difference =>
      rw [difference]
      rfl
  · next noDifference =>
      split
      · next settledState =>
          have unneeded : state.needsOperator = false := by
            cases state <;> simp_all [MailboxState.needsOperator]
          rw [unneeded]
          rfl
      · next waiting =>
          have needed : state.needsOperator = true := by
            cases state <;> simp_all [MailboxState.needsOperator]
          rw [needed]
          split
          · rfl
          · dsimp only
            repeat' split
            all_goals rfl

namespace Ledger

variable {platform : LedgerPlatform} {before after ledger : Ledger} {operation : Operation}

/-- A reason is stored exactly when an operator is needed. -/
def Explained (progress : MailboxProgress) : Prop :=
  progress.attentionReason.isSome = progress.state.needsOperator

/-- Every mailbox of a ledger is explained. -/
def AllExplained (ledger : Ledger) : Prop :=
  ∀ job ∈ ledger.jobs, Explained job.toMailboxProgress

theorem AllExplained.congr (explained : AllExplained before)
    (sameJobs : after.jobs = before.jobs) : AllExplained after := by
  rw [AllExplained, sameJobs]
  exact explained

/-- Updates that explain what they change. -/
theorem AllExplained.setJobs (explained : AllExplained before) {condition : MailboxJob → Bool}
    {change : MailboxProgress → MailboxProgress}
    (jobsAfter : after.jobs = (before.setJobs condition change).jobs)
    (explains : ∀ progress, Explained (change progress)) : AllExplained after := by
  intro job isJob
  rw [jobsAfter] at isJob
  obtain ⟨old, isOld, rfl⟩ := mem_setJobs.mp isJob
  split
  · exact explains _
  · exact explained old isOld

theorem explained_settled (state : MailboxState) (detail : String)
    (preflightPlan checkpoint : Option String) (progress : MailboxProgress) :
    Explained (settled state detail preflightPlan checkpoint progress) :=
  attentionReasonFor_isSome state detail

/-- Every operation explains the mailboxes it leaves behind. -/
theorem Step.explained (step : Step platform before operation after)
    (explained : AllExplained before) : AllExplained after := by
  cases operation with
  | createProjectWithMailbox =>
    obtain ⟨_, _, _, inserted, rfl⟩ := createProjectWithMailbox_ok step
    intro job isJob
    cases (Table.mem_insert inserted).mp isJob with
    | inl isOld => exact explained job isOld
    | inr isNew =>
      rw [isNew]
      rfl
  | createBatchQueue =>
    obtain ⟨_, _, _, _, _, enrolls, rfl⟩ := createBatchQueue_enrolls step
    intro job isJob
    cases enrolls.added job isJob with
    | inl isOld => exact explained job isOld
    | inr isNew =>
      obtain ⟨_, ⟨_, progress⟩, _⟩ := isNew
      rw [progress]
      rfl
  | updateQueuePlans =>
    obtain ⟨_, _, _, replans, rfl⟩ := updateQueuePlans_ok step
    intro job isJob
    obtain ⟨old, isOld, replanned⟩ := replans.backward job isJob
    have wasExplained := explained old isOld
    cases replanned with
    | inl same =>
      rw [same]
      exact wasExplained
    | inr changed =>
      obtain ⟨_, rfl⟩ := changed
      exact wasExplained
  | beginRunWithSnapshot =>
    obtain ⟨_, _, _, _, _, _, _, _, _, _, inserted, rfl⟩ := beginRunWithSnapshot_ok step
    obtain ⟨_, _, rfl⟩ := insertRun_ok inserted
    exact explained.setJobs rfl fun _ => rfl
  | claimBatchMailboxForChild =>
    obtain ⟨_, _, _, _, _, _, _, _, _, _, _, _, _, _, _, _, _, _, _, rfl⟩ :=
      claimBatchMailboxForChild_ok step
    exact explained.setJobs rfl fun _ => rfl
  | finishRunForMailbox =>
    obtain ⟨_, _, _, _, _, _, _, _, _, _, _, _, _, rfl⟩ := finishRunForMailbox_ok step
    exact explained.setJobs rfl fun progress => explained_settled _ _ _ _ progress
  | finishRunForMailboxWithEvidence =>
    obtain ⟨_, _, _, _, _, _, _, _, _, _, _, rfl⟩ := finishRunForMailboxWithEvidence_ok step
    exact explained.setJobs rfl fun progress => explained_settled _ _ _ _ progress
  | acceptVerificationDifference =>
    obtain ⟨_, _, _, _, _, _, _, _, rfl⟩ := acceptVerificationDifference_ok step
    exact explained.setJobs (jobs_recordAcceptance _ _ _ _) fun _ => rfl
  | reopenProject =>
    obtain ⟨_, _, _, _, rfl⟩ := reopenProject_ok step
    exact explained.setJobs rfl fun _ => rfl
  | advanceCutover =>
    simp only [Step, Operation.apply, bind_eq_ok, pure_eq_ok] at step
    obtain ⟨⟨_, _⟩, advanced, rfl⟩ := step
    obtain ⟨_, _, _, _, _, _, _, _, _, _, rfl⟩ := advanceCutover_ok advanced
    exact explained.setJobs rfl fun _ => rfl
  | recoverAbandonedJobsPreserving =>
    obtain ⟨_, _, rfl, _⟩ := recoverAbandonedJobsPreserving_ok step
    exact explained.setJobs rfl fun _ => rfl
  | _ => exact explained.congr (step.kept.jobs (by simp [Operation.writes]))

/-- In every reachable ledger a mailbox has a reason, one that is read back, exactly when
it waits for an operator. -/
theorem waiting_mailboxes_explained {operations : List Operation}
    (run : Trace (Step platform) {} operations ledger) {job : MailboxJob}
    (isJob : job ∈ ledger.jobs) :
    ((∃ reason, job.attentionReason = some reason ∧
        AttentionReason.parse reason.asStr = some reason) ↔
      job.state = .attention ∨ job.state = .failed ∨ job.state = .cancelled ∨
        job.state = .verificationDifference) ∧
    (job.attentionReason = none ↔ ¬(job.state = .attention ∨ job.state = .failed ∨
      job.state = .cancelled ∨ job.state = .verificationDifference)) := by
  have explained : AllExplained ledger :=
    run.invariant AllExplained (fun job isJob => absurd isJob (Table.not_mem_empty job))
      fun step => step.explained
  have isExplained : job.attentionReason.isSome = job.state.needsOperator := explained job isJob
  have needed : job.state.needsOperator = true ↔ job.state = .attention ∨
      job.state = .failed ∨ job.state = .cancelled ∨ job.state = .verificationDifference := by
    simp [MailboxState.needsOperator]
  rw [← needed, ← isExplained]
  cases job.attentionReason with
  | none => simp
  | some reason => simp [AttentionReason.parse_asStr]

/-- A mailbox whose run failed says why. -/
theorem failed_mailbox_explained : ∃ (operations : List Operation) (ledger : Ledger)
    (job : MailboxJob), Trace (Step .ascii) {} operations ledger ∧ job ∈ ledger.jobs ∧
      job.state = .failed ∧ ∃ reason, job.attentionReason = some reason ∧
        AttentionReason.parse reason.asStr = some reason := by
  obtain ⟨ledger, run, failed⟩ := exists_run_of_replay .ascii {} [
      .createProjectWithMailbox "project" "mailbox" "user@example.org",
      .beginRunWithSnapshot "project" "mailbox" "run" .imapsync "",
      .finishRunForMailbox "project" "mailbox" "run" .failed .failed "quota exceeded" none none]
    (fun ledger => ledger.jobs.any (·.state = .failed)) (by decide +kernel)
  obtain ⟨job, isJob, failed⟩ := Table.any_eq_true.mp failed
  have failed := of_decide_eq_true failed
  have run := steps_of_disciplined run
  exact ⟨_, ledger, job, run, isJob, failed,
    (waiting_mailboxes_explained run isJob).1.mpr (.inr (.inl failed))⟩

end Ledger

end MailSwiftSync
