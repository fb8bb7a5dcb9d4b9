import MailSwiftSync.Ledger.Phases

/-!
# Checkpoints and preflighted plans

A mailbox row holds the digest of its preflighted plan and the token a later pass
resumes from.  The ledger does not say which run a token comes from, so runs are
observed together with that history.
-/

namespace MailSwiftSync

open Foundation

/-- What the end of a mailbox run stores. -/
structure MailboxEnd where
  jobId : JobId
  runId : RunId
  preflightPlan : Option String
  checkpoint : Option String
deriving DecidableEq

namespace Operation

/-- The mailbox run an operation ends. -/
def mailboxEnd : Operation → Option MailboxEnd
  | finishRunForMailbox _ jobId runId _ _ _ preflightPlan checkpoint =>
    some { jobId, runId, preflightPlan, checkpoint }
  | finishRunForMailboxWithEvidence _ jobId runId _ _ _ _ _ preflightPlan checkpoint =>
    some { jobId, runId, preflightPlan, checkpoint }
  | _ => none

/-- The mailboxes whose plan an operation replaces. -/
def replannedJobs : Operation → List JobId
  | updateQueuePlans _ updates => updates.map (·.1)
  | _ => []

end Operation

namespace Ledger

variable {platform : LedgerPlatform} {before after : Ledger} {operation : Operation}

/-! ## Digests and tokens of a mailbox -/

/-- What an operation may do to the digest and the token of a mailbox. -/
inductive TokenChange (before : Ledger) (operation : Operation) (job : MailboxJob) : Prop where
  | new (fresh : ∀ old ∈ before.jobs, old.id ≠ job.id) (noToken : job.checkpoint = none)
      (noRuns : .runs ∉ operation.writes)
  | kept (old : MailboxJob) (isOld : old ∈ before.jobs) (sameId : old.id = job.id)
      (notEnded : ∀ ending, operation.mailboxEnd = some ending → ending.jobId ≠ job.id)
      (samePlan : job.preflightPlan = old.preflightPlan)
      (sameToken : job.checkpoint = old.checkpoint)
  | ended (old : MailboxJob) (isOld : old ∈ before.jobs) (sameId : old.id = job.id)
      (ending : MailboxEnd) (isEnd : operation.mailboxEnd = some ending)
      (ofJob : ending.jobId = job.id)
      (plan : job.preflightPlan = ending.preflightPlan.or old.preflightPlan)
      (token : job.checkpoint = ending.checkpoint.or old.checkpoint)
  | replanned (old : MailboxJob) (isOld : old ∈ before.jobs) (sameId : old.id = job.id)
      (isReplanned : job.id ∈ operation.replannedJobs)
      (sameToken : job.checkpoint = old.checkpoint) (noRuns : .runs ∉ operation.writes)

variable {job : MailboxJob}

/-- A row that was there before. -/
theorem TokenChange.same (isJob : job ∈ before.jobs)
    (noEnd : operation.mailboxEnd = none) : TokenChange before operation job := by
  refine .kept job isJob rfl ?_ rfl rfl
  simp [noEnd]

/-- Updates of other columns. -/
theorem TokenChange.setJobs {ledger : Ledger} {condition : MailboxJob → Bool}
    {change : MailboxProgress → MailboxProgress}
    (isJob : job ∈ (ledger.setJobs condition change).jobs) (noEnd : operation.mailboxEnd = none)
    (keeps : ∀ progress, (change progress).preflightPlan = progress.preflightPlan ∧
      (change progress).checkpoint = progress.checkpoint) : TokenChange ledger operation job := by
  obtain ⟨old, isOld, rfl⟩ := mem_setJobs.mp isJob
  split
  · refine .kept old isOld rfl ?_ (keeps _).1 (keeps _).2
    simp [noEnd]
  · exact .same isOld noEnd

/-- The end of a run of one mailbox. -/
theorem TokenChange.settle {ledger : Ledger} {ending : MailboxEnd}
    {state : MailboxState} {detail : String} (isEnd : operation.mailboxEnd = some ending)
    (isJob : job ∈ (ledger.setJobs (·.id = ending.jobId)
      (settled state detail ending.preflightPlan ending.checkpoint)).jobs) :
    TokenChange ledger operation job := by
  obtain ⟨old, isOld, rfl⟩ := mem_setJobs.mp isJob
  split
  · next hit =>
      exact .ended old isOld rfl ending isEnd (of_decide_eq_true hit).symm rfl rfl
  · next miss =>
      refine .kept old isOld rfl ?_ rfl rfl
      rw [isEnd]
      rintro _ ⟨⟩ ofJob
      exact miss (decide_eq_true ofJob.symm)

/-- New plans concern the rows they name, which are of the project. -/
theorem updateQueuePlans_rows {projectId : ProjectId} {updates : List (JobId × String)}
    (accepted : before.updateQueuePlans projectId updates = .ok after) :
    (∀ job ∈ after.jobs, ∃ old ∈ before.jobs, job = old ∨ (job.id ∈ updates.map Prod.fst ∧
      ∃ overrides, job = changedJob (replan overrides) old)) ∧
    ∀ update ∈ updates, ∃ old ∈ before.jobs, old.id = update.1 ∧ old.projectId = projectId := by
  simp only [updateQueuePlans, bind_eq_ok, require_eq_ok, exists_const] at accepted
  refine foldlM_invariant (motive := fun done (current : Ledger) =>
    (∀ job ∈ current.jobs, ∃ old ∈ before.jobs, job = old ∨ (job.id ∈ done.map Prod.fst ∧
      ∃ overrides, job = changedJob (replan overrides) old)) ∧
    ∀ update ∈ done, ∃ old ∈ before.jobs, old.id = update.1 ∧ old.projectId = projectId)
    ⟨fun job isJob => ⟨job, isJob, .inl rfl⟩, by simp⟩ ?_ accepted.2.2
  rintro done update current next ⟨held, members⟩ updated
  constructor
  · intro job isJob
    obtain ⟨_, rfl⟩ := updateQueuePlan_ok updated
    have isJob : job ∈ (current.setJobs (·.id = update.1) (replan update.2)).jobs := isJob
    obtain ⟨between, isBetween, rfl⟩ := mem_setJobs.mp isJob
    obtain ⟨old, isOld, earlier⟩ := held between isBetween
    refine ⟨old, isOld, ?_⟩
    rw [List.map_append]
    split
    · next hit =>
        have named : between.id ∈ done.map Prod.fst ++ [update].map Prod.fst :=
          List.mem_append_right _ (List.mem_singleton.mpr (of_decide_eq_true hit))
        refine .inr ⟨named, update.2, ?_⟩
        cases earlier with
        | inl same => rw [same]
        | inr replanned =>
          obtain ⟨_, _, rfl⟩ := replanned
          rfl
    · exact earlier.imp_right fun replanned =>
        ⟨List.mem_append_left _ replanned.1, replanned.2⟩
  · intro other isOther
    cases List.mem_append.mp isOther with
    | inl earlier => exact members other earlier
    | inr last =>
      rw [List.mem_singleton.mp last]
      simp only [updateQueuePlan, bind_eq_ok, demand_eq_ok] at updated
      obtain ⟨job, isJob, _⟩ := updated
      obtain ⟨isJob, ofUpdate, ofProject⟩ := jobIn_eq_some.mp isJob
      obtain ⟨old, isOld, change⟩ := held job isJob
      refine ⟨old, isOld, ?_⟩
      cases change with
      | inl same => exact ⟨same ▸ ofUpdate, same ▸ ofProject⟩
      | inr replanned =>
        obtain ⟨_, _, rfl⟩ := replanned
        exact ⟨ofUpdate, ofProject⟩

/-- What any operation does to digests and tokens. -/
theorem Step.tokens (step : Step platform before operation after)
    (isJob : job ∈ after.jobs) : TokenChange before operation job := by
  cases operation with
  | createProjectWithMailbox =>
    obtain ⟨_, _, _, inserted, rfl⟩ := createProjectWithMailbox_ok step
    cases (Table.mem_insert inserted).mp isJob with
    | inl isOld => exact .same isOld rfl
    | inr isNew =>
      subst isNew
      exact .new (Table.insert_eq_some inserted).1 rfl (by simp [Operation.writes])
  | createBatchQueue =>
    obtain ⟨_, _, _, _, _, enrolls, rfl⟩ := createBatchQueue_enrolls step
    cases enrolls.added job isJob with
    | inl isOld => exact .same isOld rfl
    | inr isNew =>
      obtain ⟨_, ⟨_, progress⟩, fresh⟩ := isNew
      exact .new fresh (by rw [progress]) (by simp [Operation.writes])
  | updateQueuePlans =>
    obtain ⟨old, isOld, change⟩ := (updateQueuePlans_rows step).1 job isJob
    cases change with
    | inl same =>
      rw [same]
      exact .same isOld rfl
    | inr replanned =>
      obtain ⟨isReplanned, _, rfl⟩ := replanned
      exact .replanned old isOld rfl isReplanned rfl (by simp [Operation.writes])
  | beginRunWithSnapshot =>
    obtain ⟨_, _, _, _, _, _, _, _, _, _, inserted, rfl⟩ := beginRunWithSnapshot_ok step
    obtain ⟨_, _, rfl⟩ := insertRun_ok inserted
    exact .setJobs isJob rfl fun _ => ⟨rfl, rfl⟩
  | claimBatchMailboxForChild =>
    obtain ⟨_, _, _, _, _, _, _, _, _, _, _, _, _, _, _, _, _, _, _, rfl⟩ :=
      claimBatchMailboxForChild_ok step
    exact .setJobs isJob rfl fun _ => ⟨rfl, rfl⟩
  | finishRunForMailbox =>
    obtain ⟨_, _, _, _, _, _, _, _, _, _, _, _, _, rfl⟩ := finishRunForMailbox_ok step
    exact .settle rfl isJob
  | finishRunForMailboxWithEvidence =>
    obtain ⟨_, _, _, _, _, _, _, _, _, _, _, rfl⟩ := finishRunForMailboxWithEvidence_ok step
    exact .settle rfl isJob
  | acceptVerificationDifference =>
    obtain ⟨_, _, _, _, _, _, _, _, rfl⟩ := acceptVerificationDifference_ok step
    rw [jobs_recordAcceptance] at isJob
    exact .setJobs isJob rfl fun _ => ⟨rfl, rfl⟩
  | reopenProject =>
    obtain ⟨_, _, _, _, rfl⟩ := reopenProject_ok step
    exact .setJobs isJob rfl fun _ => ⟨rfl, rfl⟩
  | advanceCutover =>
    simp only [Step, Operation.apply, bind_eq_ok, pure_eq_ok] at step
    obtain ⟨⟨_, _⟩, advanced, rfl⟩ := step
    obtain ⟨_, _, _, _, _, _, _, _, _, _, rfl⟩ := advanceCutover_ok advanced
    exact .setJobs isJob rfl fun _ => ⟨rfl, rfl⟩
  | recoverAbandonedJobsPreserving =>
    obtain ⟨_, _, rfl, _⟩ := recoverAbandonedJobsPreserving_ok step
    exact .setJobs isJob rfl fun _ => ⟨rfl, rfl⟩
  | _ =>
    rw [step.kept.jobs (by simp [Operation.writes])] at isJob
    exact .same isJob rfl

/-! ## Runs and their mailboxes -/

/-- The end of a mailbox run closes that run. -/
theorem Step.mailboxEnd_ends (step : Step platform before operation after) {ending : MailboxEnd}
    (isEnd : operation.mailboxEnd = some ending) :
    (∃ run ∈ before.runs, run.id = ending.runId ∧ run.jobId = some ending.jobId ∧
      run.status.isActive = true) ∧
    (∀ run ∈ after.runs, run.id = ending.runId → run.status.isActive = false) ∧
    ∀ run ∈ after.runs, ∃ old ∈ before.runs, old.id = run.id := by
  have closes : ∀ {runId : RunId} {status : RunStatus} {detail : String},
      status.isActive = false → ∀ run ∈ (before.setRuns (·.id = runId) (ended status detail)).runs,
        (run.id = runId → run.status.isActive = false) ∧ ∃ old ∈ before.runs, old.id = run.id := by
    intro runId status detail terminal run isRun
    obtain ⟨old, isOld, rfl⟩ := mem_setRuns.mp isRun
    split
    · exact ⟨fun _ => terminal, old, isOld, rfl⟩
    · next miss => exact ⟨fun hit => absurd (decide_eq_true hit) miss, old, isOld, rfl⟩
  cases operation with
  | finishRunForMailbox =>
    cases isEnd
    obtain ⟨_, run, _, isRun, sameId, _, ofJob, active, _, _, pair, _, _, rfl⟩ :=
      finishRunForMailbox_ok step
    refine ⟨⟨run, isRun, sameId, ofJob, active⟩, ?_, ?_⟩
    · exact fun other isOther => (closes (terminal_of_pair pair).1 other isOther).1
    · exact fun other isOther => (closes (terminal_of_pair pair).1 other isOther).2
  | finishRunForMailboxWithEvidence =>
    cases isEnd
    obtain ⟨_, run, _, isRun, sameId, _, ofJob, running, _, _, _, rfl⟩ :=
      finishRunForMailboxWithEvidence_ok step
    have completed : RunStatus.isActive .completed = false := rfl
    refine ⟨⟨run, isRun, sameId, ofJob, RunStatus.isActive_eq_true.mpr (.inr running)⟩, ?_, ?_⟩
    · exact fun other isOther => (closes completed other isOther).1
    · exact fun other isOther => (closes completed other isOther).2
  | _ => cases isEnd

/-- Plans are replaced only while no run of the mailbox is active. -/
theorem Step.replanned_idle (step : Step platform before operation after)
    (sound : before.ownership.Sound) {jobId : JobId}
    (isReplanned : jobId ∈ operation.replannedJobs) :
    ∀ run ∈ before.runs, run.jobId = some jobId → run.status.isActive = false := by
  cases operation with
  | updateQueuePlans projectId updates =>
    intro run isRun ofJob
    obtain ⟨update, isUpdate, ofUpdate⟩ := List.mem_map.mp isReplanned
    obtain ⟨old, isOld, sameId, inProject⟩ := (updateQueuePlans_rows step).2 update isUpdate
    have ofRun : (jobId, run.projectId) ∈ before.ownership.mailboxes :=
      sound.runMailbox run isRun jobId ofJob
    have ofProject : (jobId, projectId) ∈ before.ownership.mailboxes :=
      ⟨old, isOld, sameId.trans ofUpdate, inProject⟩
    exact (updateQueuePlans_ok step).1 run isRun (sound.mailboxKey _ _ _ ofRun ofProject)
  | _ => cases isReplanned

/-- A run after a step was there before, for the same mailbox, or is new. -/
theorem run_origin (sound : before.ownership.Sound)
    (step : Ownership.Step before.ownership after.ownership) {run : Run}
    (isRun : run ∈ after.runs) :
    (∃ old ∈ before.runs, old.id = run.id ∧ old.jobId = run.jobId ∧
      (run.status.isActive = true → old.status.isActive = true)) ∨
    ∀ old ∈ before.runs, old.id ≠ run.id := by
  by_cases known : ∃ old ∈ before.runs, old.id = run.id
  · obtain ⟨old, isOld, sameId⟩ := known
    obtain ⟨progress, isNext⟩ := step.run_kept isOld
    have sameRun : { old with toRunProgress := progress } = run :=
      (sound.step step).runKey _ isNext run isRun sameId
    refine .inl ⟨old, isOld, sameId, by rw [← sameRun], fun active => ?_⟩
    cases status : old.status.isActive with
    | true => rfl
    | false =>
      have stayed := sound.ended_kept step isOld status
      have same : old = run := (sound.step step).runKey old stayed run isRun sameId
      rw [same, active] at status
      cases status
  · refine .inr fun old isOld sameId => known ⟨old, isOld, sameId⟩

end Ledger

/-! ## History -/

/-- A token stored at the end of a run, and the digest of the plan it ran under. -/
structure TokenCommit where
  runId : RunId
  plan : Option String
  token : String
deriving DecidableEq

/-- What the ledger does not store: the digest that stood when each run was admitted, and
the last token stored for each mailbox. -/
structure TokenHistory where
  admittedUnder : RunId → Option String := fun _ => none
  committedBy : JobId → Option TokenCommit := fun _ => none

namespace TokenHistory

/-- The digest an admitted run finds at its mailbox. -/
def admission (before after : Ledger) (runId : RunId) : Option String :=
  ((after.runs.find runId).bind (·.jobId)).bind fun jobId =>
    (before.jobs.find jobId).bind (·.preflightPlan)

/-- The token a run stores for a mailbox.  A preflight runs under the digest it reports,
a transfer under the one it was admitted with. -/
def commit (history : TokenHistory) (operation : Operation) (jobId : JobId) :
    Option TokenCommit := do
  let ending ← operation.mailboxEnd.filter (·.jobId = jobId)
  let token ← ending.checkpoint
  return {
    runId := ending.runId
    plan := ending.preflightPlan.or (history.admittedUnder ending.runId)
    token }

/-- The history after one more operation. -/
def record (history : TokenHistory) (before : Ledger) (operation : Operation)
    (after : Ledger) : TokenHistory where
  admittedUnder := fun runId =>
    if before.runs.any (·.id = runId) then history.admittedUnder runId
    else admission before after runId
  committedBy := fun jobId => (history.commit operation jobId).or (history.committedBy jobId)

variable {history : TokenHistory} {before after : Ledger} {operation : Operation}

theorem record_known {run : Run} (isRun : run ∈ before.runs) :
    (history.record before operation after).admittedUnder run.id =
      history.admittedUnder run.id :=
  if_pos (Table.any_eq_true.mpr ⟨run, isRun, decide_eq_true rfl⟩)

theorem record_new {run : Run} {job : MailboxJob} (fresh : ∀ old ∈ before.runs, old.id ≠ run.id)
    (isRun : run ∈ after.runs) (isJob : job ∈ before.jobs) (ofJob : run.jobId = some job.id) :
    (history.record before operation after).admittedUnder run.id = job.preflightPlan := by
  have unknown : ¬before.runs.any (·.id = run.id) = true := by
    rw [Table.any_eq_true]
    rintro ⟨old, isOld, sameId⟩
    exact fresh old isOld (of_decide_eq_true sameId)
  have found : after.runs.find run.id = some run := Table.find_eq_some.mpr ⟨isRun, rfl⟩
  have foundJob : before.jobs.find job.id = some job := Table.find_eq_some.mpr ⟨isJob, rfl⟩
  calc (history.record before operation after).admittedUnder run.id
      = admission before after run.id := if_neg unknown
    _ = job.preflightPlan := by simp [admission, found, ofJob, foundJob]

theorem record_committed {ending : MailboxEnd} {token : String}
    (isEnd : operation.mailboxEnd = some ending) (commits : ending.checkpoint = some token) :
    (history.record before operation after).committedBy ending.jobId =
      some ⟨ending.runId, ending.preflightPlan.or (history.admittedUnder ending.runId), token⟩ := by
  simp [record, commit, isEnd, commits, Option.filter_some]

/-- Nothing is committed for a mailbox whose run did not end with a token. -/
theorem record_kept {jobId : JobId}
    (nothing : ∀ ending, operation.mailboxEnd = some ending → ending.jobId = jobId →
      ending.checkpoint = none) :
    (history.record before operation after).committedBy jobId = history.committedBy jobId := by
  cases isEnd : operation.mailboxEnd with
  | none => simp [record, commit, isEnd]
  | some ending =>
    by_cases ofJob : ending.jobId = jobId
    · simp [record, commit, isEnd, ofJob, nothing ending isEnd ofJob, Option.filter_some]
    · simp [record, commit, isEnd, ofJob, Option.filter_some]

end TokenHistory

namespace Ledger

variable {platform : LedgerPlatform} {before after : Ledger} {operation : Operation}
  {history : TokenHistory}

/-- An operation of the program, with what it adds to the history. -/
def TrackedStep (platform : LedgerPlatform) (before : Ledger × TokenHistory)
    (operation : Operation) (after : Ledger × TokenHistory) : Prop :=
  DisciplinedStep platform before.1 operation after.1 ∧
    after.2 = before.2.record before.1 operation after.1

/-- The stored token of a mailbox was committed by a run of that mailbox under the plan
whose digest the row holds. -/
def TokenBound (ledger : Ledger) (history : TokenHistory) (job : MailboxJob) : Prop :=
  ∀ token, job.checkpoint = some token → ∃ run ∈ ledger.runs, run.jobId = some job.id ∧
    ∃ plan, job.preflightPlan = some plan ∧
      history.committedBy job.id = some ⟨run.id, some plan, token⟩

/-- No plan changes beside a stored token: a run that ends without a token leaves the digest
of a mailbox with a token alone, a run that ends with one has a digest, and only plans of
mailboxes without a token are replaced. -/
def KeepsTokens (ledger : Ledger) (operation : Operation) : Prop :=
  (∀ ending ∈ operation.mailboxEnd, ∀ job ∈ ledger.jobs.rows, job.id = ending.jobId →
    (ending.checkpoint = none → job.checkpoint = none ∨
      ending.preflightPlan.or job.preflightPlan = job.preflightPlan) ∧
    (ending.checkpoint ≠ none → ending.preflightPlan.or job.preflightPlan ≠ none)) ∧
  ∀ job ∈ ledger.jobs.rows, job.id ∈ operation.replannedJobs → job.checkpoint = none

instance (ledger : Ledger) (operation : Operation) :
    Decidable (KeepsTokens ledger operation) := by
  unfold KeepsTokens
  infer_instance

/-- What holds of digests and tokens between operations that keep tokens. -/
structure TokensSound (ledger : Ledger) (history : TokenHistory) : Prop where
  sound : ledger.ownership.Sound
  admitted : ∀ run ∈ ledger.runs, run.status.isActive = true → ∀ job ∈ ledger.jobs,
    run.jobId = some job.id → history.admittedUnder run.id = job.preflightPlan
  bound : ∀ job ∈ ledger.jobs, TokenBound ledger history job

namespace TokensSound

/-- The digest of a mailbox stands while a run of it is active. -/
theorem admitted_step (tokens : TokensSound before history)
    (step : DisciplinedStep platform before operation after) {run : Run}
    (isRun : run ∈ after.runs) (active : run.status.isActive = true) {job : MailboxJob}
    (isJob : job ∈ after.jobs) (ofJob : run.jobId = some job.id) :
    (history.record before operation after).admittedUnder run.id = job.preflightPlan := by
  have owned := DisciplinedStep.ownership tokens.sound step
  cases run_origin tokens.sound owned isRun with
  | inl known =>
    obtain ⟨old, isOld, sameId, sameJob, wasActive⟩ := known
    have ofOld : old.jobId = some job.id := sameJob.trans ofJob
    rw [← sameId, TokenHistory.record_known isOld]
    cases step.2.tokens isJob with
    | new fresh =>
      obtain ⟨row, isRow, sameRow, _⟩ := tokens.sound.runMailbox old isOld job.id ofOld
      exact absurd sameRow (fresh row isRow)
    | kept row isRow sameRow _ samePlan =>
      rw [samePlan]
      exact tokens.admitted old isOld (wasActive active) row isRow (by rw [ofOld, sameRow])
    | ended row isRow sameRow ending isEnd ofEnd =>
      obtain ⟨⟨last, isLast, lastId, ofLast, lastActive⟩, closed, _⟩ :=
        step.2.mailboxEnd_ends isEnd
      have same : old = last := tokens.sound.oneActive old isOld last isLast job.id ofOld
        (by rw [ofLast, ofEnd]) (wasActive active) lastActive
      have inactive := closed run isRun (by rw [← sameId, same, lastId])
      rw [active] at inactive
      cases inactive
    | replanned row isRow sameRow isReplanned =>
      have idle := step.2.replanned_idle tokens.sound isReplanned old isOld ofOld
      rw [wasActive active] at idle
      cases idle
  | inr fresh =>
    cases step.2.tokens isJob with
    | new _ _ noRuns =>
      rw [step.2.kept.runs noRuns] at isRun
      exact absurd rfl (fresh run isRun)
    | kept row isRow sameRow _ samePlan =>
      rw [samePlan]
      exact TokenHistory.record_new fresh isRun isRow (by rw [ofJob, sameRow])
    | ended row isRow sameRow ending isEnd =>
      obtain ⟨old, isOld, sameId⟩ := (step.2.mailboxEnd_ends isEnd).2.2 run isRun
      exact absurd sameId (fresh old isOld)
    | replanned row isRow sameRow _ _ noRuns =>
      rw [step.2.kept.runs noRuns] at isRun
      exact absurd rfl (fresh run isRun)

/-- A token that stays, stays bound while the digest stands. -/
theorem bound_kept (tokens : TokensSound before history)
    (step : DisciplinedStep platform before operation after) {old job : MailboxJob}
    (isOld : old ∈ before.jobs) (sameId : old.id = job.id)
    (samePlan : job.preflightPlan = old.preflightPlan)
    (sameToken : job.checkpoint = old.checkpoint)
    (nothing : ∀ ending, operation.mailboxEnd = some ending → ending.jobId = job.id →
      ending.checkpoint = none) :
    TokenBound after (history.record before operation after) job := by
  intro token stored
  obtain ⟨run, isRun, ofJob, plan, planned, committed⟩ :=
    tokens.bound old isOld token (sameToken.symm.trans stored)
  obtain ⟨progress, isNext⟩ := (DisciplinedStep.ownership tokens.sound step).run_kept isRun
  refine ⟨_, isNext, by rw [← sameId]; exact ofJob, plan, samePlan.trans planned, ?_⟩
  rw [TokenHistory.record_kept nothing, ← sameId]
  exact committed

theorem bound_step (tokens : TokensSound before history)
    (step : DisciplinedStep platform before operation after)
    (keeps : KeepsTokens before operation) {job : MailboxJob} (isJob : job ∈ after.jobs) :
    TokenBound after (history.record before operation after) job := by
  cases step.2.tokens isJob with
  | new _ noToken =>
    intro token stored
    rw [noToken] at stored
    cases stored
  | kept old isOld sameId notEnded samePlan sameToken =>
    exact tokens.bound_kept step isOld sameId samePlan sameToken
      fun ending isEnd ofEnd => absurd ofEnd (notEnded ending isEnd)
  | ended old isOld sameId ending isEnd ofEnd plan token =>
    have kept := keeps.1 ending isEnd old isOld (sameId.trans ofEnd.symm)
    cases commits : ending.checkpoint with
    | none =>
      rw [commits] at token
      have sameToken : job.checkpoint = old.checkpoint := token
      cases kept.1 commits with
      | inl noToken =>
        intro token stored
        rw [sameToken, noToken] at stored
        cases stored
      | inr samePlan =>
        refine tokens.bound_kept step isOld sameId (plan.trans samePlan) sameToken ?_
        rw [isEnd]
        rintro _ ⟨⟩ _
        exact commits
    | some committed =>
      obtain ⟨⟨run, isRun, runId, ofRun, active⟩, _⟩ := step.2.mailboxEnd_ends isEnd
      obtain ⟨progress, isNext⟩ :=
        (DisciplinedStep.ownership tokens.sound step).run_kept isRun
      have under : history.admittedUnder ending.runId = old.preflightPlan := by
        rw [← runId]
        exact tokens.admitted run isRun active old isOld (by rw [ofRun, ofEnd, sameId])
      have planned : ∃ digest, job.preflightPlan = some digest := by
        rw [plan]
        exact Option.ne_none_iff_exists'.mp (kept.2 (by rw [commits]; exact nofun))
      obtain ⟨digest, planned⟩ := planned
      intro stored isStored
      rw [token, commits] at isStored
      cases isStored
      refine ⟨_, isNext, by rw [← ofEnd]; exact ofRun, digest, planned, ?_⟩
      rw [← ofEnd, TokenHistory.record_committed isEnd commits, under, ← plan, planned, ← runId]
  | replanned old isOld sameId isReplanned sameToken =>
    intro token stored
    rw [sameToken, keeps.2 old isOld (by rw [sameId]; exact isReplanned)] at stored
    cases stored

theorem step (tokens : TokensSound before history)
    (step : DisciplinedStep platform before operation after)
    (keeps : KeepsTokens before operation) :
    TokensSound after (history.record before operation after) where
  sound := tokens.sound.step (DisciplinedStep.ownership tokens.sound step)
  admitted := fun _ isRun active _ isJob ofJob =>
    tokens.admitted_step step isRun active isJob ofJob
  bound := fun _ isJob => tokens.bound_step step keeps isJob

end TokensSound

/-- While no plan changes beside a stored token, every stored token belongs to the plan
whose digest its row holds, and a live batch resumes from tokens of its own plans only. -/
theorem checkpoints_follow_plans {operations : List Operation} {ledger : Ledger}
    (run : Trace (fun before operation after => TrackedStep platform before operation after ∧
      KeepsTokens before.1 operation) ({}, {}) operations (ledger, history)) :
    (∀ job ∈ ledger.jobs, TokenBound ledger history job) ∧
    ∀ projectId jobIds runId engine expectedPlans planSnapshot childPlans newRunId next,
      ledger.beginBatchRunWithChildren platform projectId jobIds runId engine expectedPlans
        planSnapshot childPlans newRunId = .ok next →
      ∀ member ∈ batchMembers jobIds expectedPlans childPlans newRunId,
        ∀ plan ∈ member.expectedPlan, ∀ job ∈ ledger.jobs, job.id = member.jobId →
          ∀ token, job.checkpoint = some token →
            ∃ earlier ∈ ledger.runs, earlier.jobId = some job.id ∧
              history.committedBy job.id = some ⟨earlier.id, some plan, token⟩ := by
  have tokens : TokensSound ledger history := by
    refine run.invariant (fun state => TokensSound state.1 state.2) ?_ ?_
    · exact ⟨sound_empty, fun _ isRun => (List.not_mem_nil isRun).elim,
        fun _ isJob => (List.not_mem_nil isJob).elim⟩
    · intro before operation after step held
      rw [step.1.2]
      exact held.step step.1.1 step.2
  refine ⟨tokens.bound, ?_⟩
  intro projectId jobIds runId engine expectedPlans planSnapshot childPlans newRunId next accepted
    member isMember plan expected job isJob ofMember token stored
  obtain ⟨_, _, _, _, _, _, _, _, admitted, _⟩ := beginBatchRunWithChildren_ok accepted
  obtain ⟨found, _, isFound, _, _, planned⟩ := (admitBatchMembers_ok admitted).1 member isMember
  obtain ⟨isFound, foundId, _⟩ := jobIn_eq_some.mp isFound
  obtain rfl : job = found := Table.eq_of_key isJob isFound (ofMember.trans foundId.symm)
  obtain ⟨earlier, isEarlier, ofJob, digest, stands, committed⟩ :=
    tokens.bound job isJob token stored
  obtain rfl : digest = plan := Option.some.inj (stands.symm.trans (planned plan expected))
  exact ⟨earlier, isEarlier, ofJob, committed⟩

/-- Apply an operation that is allowed, and note what it adds to the history. -/
def track (platform : LedgerPlatform) (allowed : Ledger → Operation → Bool)
    (state : Ledger × TokenHistory) (operation : Operation) :
    Except LedgerError (Ledger × TokenHistory) := do
  require (operation.Disciplined state.1 && allowed state.1 operation) .invalidQuery
  let after ← operation.apply platform state.1
  return (after, state.2.record state.1 operation after)

theorem track_ok {allowed : Ledger → Operation → Bool} {state next : Ledger × TokenHistory}
    (tracked : track platform allowed state operation = .ok next) :
    TrackedStep platform state operation next ∧ allowed state.1 operation = true := by
  simp only [track, bind_eq_ok, require_eq_ok, exists_const, pure_eq_ok, Bool.and_eq_true,
    decide_eq_true_eq] at tracked
  obtain ⟨⟨disciplined, isAllowed⟩, after, applied, rfl⟩ := tracked
  exact ⟨⟨⟨disciplined, applied⟩, rfl⟩, isAllowed⟩

/-- Tracked operations that end in a state of some kind are a run to such a state. -/
theorem exists_tracked (platform : LedgerPlatform) (allowed : Ledger → Operation → Bool)
    (operations : List Operation) (check : Ledger × TokenHistory → Bool)
    (tracked : (operations.foldlM (track platform allowed) ({}, {})).toOption.any check = true) :
    ∃ ledger history, Trace (fun before operation after =>
      TrackedStep platform before operation after ∧ allowed before.1 operation = true)
      ({}, {}) operations (ledger, history) ∧ check (ledger, history) = true := by
  obtain ⟨⟨ledger, history⟩, ran, checked⟩ := accepted_of_any tracked
  exact ⟨ledger, history, (Trace.of_foldlM ran).weaken track_ok, checked⟩

end Ledger

def TransferEngine.dovecot : TransferEngine where
  name := "dovecot"
  transfers := by decide

/-- A platform on which one text decodes to an empty dsync state. -/
def LedgerPlatform.dsync : LedgerPlatform :=
  { LedgerPlatform.ascii with
    base64Decode := fun text => if text = "AAAAAA==" then some [0, 0, 0, 0] else none }

namespace Operation

/-- A digest that repeats one digit. -/
def digest (digit : Char) : String := String.ofList (List.replicate 64 digit)

/-- A state token with its context. -/
def token : String := "AAAAAA==." ++ digest 'c'

/-- A batch over the mailbox of the examples that ends with a digest or a token. -/
def batchPass (runId : RunId) (engine : TransferEngine) (expectedPlans : List String)
    (state : MailboxState) (preflightPlan checkpoint : Option String) : List Operation :=
  [.beginBatchRunWithChildren "project" ["mailbox"] runId engine expectedPlans "" []
      fun _ => runId ++ "-child",
    .claimBatchMailboxForChild "project" "mailbox" runId (runId ++ "-child"),
    .finishRunForMailbox "project" "mailbox" (runId ++ "-child") .completed state ""
      preflightPlan checkpoint,
    .finishRun runId .completed ""]

/-- A preflight, and a live batch under its plan that stores a token. -/
def preflightAndLive : List Operation :=
  .createProjectWithMailbox "project" "mailbox" "user@example.org" ::
    batchPass "preflight" .dovecot [] .ready (some (digest 'a')) none ++
    batchPass "live" .dovecot [digest 'a'] .completed none (some token)

/-- Another preflight, of another plan. -/
def preflightAgain : List Operation :=
  preflightAndLive ++ batchPass "again" .dovecot [] .ready (some (digest 'b')) none

end Operation

/-- A live batch under the preflighted plan stores a token of that plan. -/
theorem Ledger.token_of_preflighted_plan : ∃ (operations : List Operation) (ledger : Ledger)
    (history : TokenHistory) (job : MailboxJob),
      Trace (fun before operation after =>
        Ledger.TrackedStep .dsync before operation after ∧
          Ledger.KeepsTokens before.1 operation) ({}, {}) operations (ledger, history) ∧
      job ∈ ledger.jobs ∧ job.checkpoint = some Operation.token ∧
      Ledger.TokenBound ledger history job := by
  obtain ⟨ledger, history, run, stored⟩ := Ledger.exists_tracked .dsync
    (fun ledger operation => Ledger.KeepsTokens ledger operation) Operation.preflightAndLive
    (fun state => state.1.jobs.any (·.checkpoint = some Operation.token)) (by decide +kernel)
  obtain ⟨job, isJob, stored⟩ := Table.any_eq_true.mp stored
  have run := run.weaken fun step => And.intro step.1 (of_decide_eq_true step.2)
  exact ⟨_, ledger, history, job, run, isJob, of_decide_eq_true stored,
    (Ledger.checkpoints_follow_plans run).1 job isJob⟩

/-- After a preflight of another plan the row holds its digest beside the token of the plan
before. -/
theorem Ledger.token_outlives_its_plan : ¬ ∀ (platform : LedgerPlatform)
    (operations : List Operation) (ledger : Ledger) (history : TokenHistory),
      Trace (Ledger.TrackedStep platform) ({}, {}) operations (ledger, history) →
        ∀ job ∈ ledger.jobs, Ledger.TokenBound ledger history job := by
  intro always
  obtain ⟨ledger, history, run, stale⟩ := Ledger.exists_tracked .dsync (fun _ _ => true)
    Operation.preflightAgain
    (fun state => state.1.jobs.any fun job =>
      decide (job.checkpoint = some Operation.token ∧
        job.preflightPlan = some (Operation.digest 'b') ∧
        (state.2.committedBy job.id).map (·.plan) = some (some (Operation.digest 'a'))))
    (by decide +kernel)
  obtain ⟨job, isJob, stale⟩ := Table.any_eq_true.mp stale
  obtain ⟨stored, planned, committed⟩ := of_decide_eq_true stale
  have run := run.weaken fun step => step.1
  obtain ⟨_, _, _, plan, stands, bound⟩ := always .dsync _ ledger history run job isJob _ stored
  have differ : Operation.digest 'b' ≠ Operation.digest 'a' := by decide
  rw [bound, Option.map_some, ← stands, planned] at committed
  exact differ (Option.some.inj (Option.some.inj committed))

end MailSwiftSync
