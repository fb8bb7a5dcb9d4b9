import MailSwiftSync.Ledger.Refinement

/-!
# Launches

Three operations start work: a single run, a batch, and the claim of a queued child.  Every
other operation leaves mailboxes and runs as they are, ends them, or begins an audit.
-/

namespace MailSwiftSync

open Foundation

/-- Whether an operation starts work of a project. -/
def Operation.Launches (projectId : ProjectId) : Operation → Prop
  | beginRunWithSnapshot launched .. => launched = projectId
  | beginBatchRunWithChildren launched .. => launched = projectId
  | claimBatchMailboxForChild launched .. => launched = projectId
  | _ => False

namespace Ledger

variable {platform : LedgerPlatform} {ledger before after next : Ledger}
  {projectId : ProjectId} {jobId : JobId} {operation : Operation}

/-! ## Mailboxes -/

/-- A mailbox of a project is running. -/
def Busy (ledger : Ledger) (projectId : ProjectId) (jobId : JobId) : Prop :=
  ∃ job ∈ ledger.jobs, job.id = jobId ∧ job.projectId = projectId ∧ job.state = .running

/-- A mailbox that is running was running before, or its project launched something. -/
def MailboxesFollow (operation : Operation) (before after : Ledger) : Prop :=
  ∀ projectId jobId, after.Busy projectId jobId →
    before.Busy projectId jobId ∨ operation.Launches projectId

theorem mailboxesFollow_of_same (sameJobs : after.jobs = before.jobs) :
    MailboxesFollow operation before after := by
  intro projectId jobId busy
  rw [Busy, sameJobs] at busy
  exact .inl busy

/-- Updates that start nothing. -/
theorem mailboxesFollow_of_settled (condition : MailboxJob → Bool)
    (change : MailboxProgress → MailboxProgress)
    (left : ∀ progress, (change progress).state ≠ .running)
    (jobsAfter : after.jobs = (before.setJobs condition change).jobs) :
    MailboxesFollow operation before after := by
  intro projectId jobId busy
  obtain ⟨row, isRow, sameId, sameProject, running⟩ := busy
  rw [jobsAfter] at isRow
  obtain ⟨job, isJob, rfl⟩ := mem_setJobs.mp isRow
  split at running
  · exact absurd running (left _)
  · next untouched =>
      rw [if_neg untouched] at sameId sameProject
      exact .inl ⟨job, isJob, sameId, sameProject, running⟩

/-- Updates of one mailbox of a project that launches it. -/
theorem mailboxesFollow_of_launch {job : MailboxJob}
    {change : MailboxProgress → MailboxProgress} (isJob : job ∈ before.jobs)
    (launches : operation.Launches job.projectId)
    (jobsAfter : after.jobs = (before.setJobs (·.id = job.id) change).jobs) :
    MailboxesFollow operation before after := by
  intro projectId jobId busy
  obtain ⟨row, isRow, sameId, sameProject, running⟩ := busy
  rw [jobsAfter] at isRow
  obtain ⟨old, isOld, rfl⟩ := mem_setJobs.mp isRow
  by_cases selected : old.id = job.id
  · rw [if_pos (decide_eq_true selected)] at sameProject
    cases Table.eq_of_key isOld isJob selected
    cases sameProject
    exact .inr launches
  · rw [if_neg (by simpa using selected)] at sameId sameProject running
    exact .inl ⟨old, isOld, sameId, sameProject, running⟩

theorem mailboxesFollow_of_enrolls (enrolls : Enrolls projectId before.jobs after.jobs) :
    MailboxesFollow operation before after := by
  intro project jobId busy
  obtain ⟨job, isJob, sameId, sameProject, running⟩ := busy
  cases enrolls.added job isJob with
  | inl isOld => exact .inl ⟨job, isOld, sameId, sameProject, running⟩
  | inr added =>
    obtain ⟨_, ⟨_, isNew⟩, _⟩ := added
    rw [isNew] at running
    cases running

theorem mailboxesFollow_of_replans (replans : Replans before.jobs after.jobs) :
    MailboxesFollow operation before after := by
  intro project jobId busy
  obtain ⟨job', isJob', sameId, sameProject, running⟩ := busy
  obtain ⟨job, isJob, replanned⟩ := replans.backward job' isJob'
  cases replanned with
  | inl same =>
    rw [same] at sameId sameProject running
    exact .inl ⟨job, isJob, sameId, sameProject, running⟩
  | inr changed =>
    obtain ⟨overrides, rfl⟩ := changed
    exact .inl ⟨job, isJob, sameId, sameProject, running⟩

/-- Only a launch makes a mailbox run. -/
theorem Step.mailboxesFollow (step : Step platform before operation after) :
    MailboxesFollow operation before after := by
  cases operation with
  | createProjectWithMailbox projectId jobId destinationMailbox =>
    obtain ⟨projects, jobs, _, inserted, rfl⟩ := createProjectWithMailbox_ok step
    have enrolls : Enrolls projectId before.jobs jobs :=
      Enrolls.insert ⟨fun _ isJob => isJob, fun _ => .inl⟩ rfl ⟨none, rfl⟩ inserted
    exact mailboxesFollow_of_enrolls enrolls
  | createBatchQueue =>
    obtain ⟨_, _, _, _, _, enrolls, rfl⟩ := createBatchQueue_enrolls step
    exact mailboxesFollow_of_enrolls enrolls
  | updateQueuePlans =>
    obtain ⟨_, _, _, replans, rfl⟩ := updateQueuePlans_ok step
    exact mailboxesFollow_of_replans replans
  | beginRunWithSnapshot =>
    obtain ⟨job, _, _, isJob, _, _, _, _, _, _, inserted, rfl⟩ := beginRunWithSnapshot_ok step
    obtain ⟨isRow, rfl, rfl⟩ := jobIn_eq_some.mp isJob
    obtain ⟨_, _, rfl⟩ := insertRun_ok inserted
    exact mailboxesFollow_of_launch isRow rfl rfl
  | claimBatchMailboxForChild =>
    obtain ⟨_, _, job, _, _, _, _, _, _, _, _, _, _, _, isJob, _, _, _, _, rfl⟩ :=
      claimBatchMailboxForChild_ok step
    obtain ⟨isRow, rfl, rfl⟩ := jobIn_eq_some.mp isJob
    exact mailboxesFollow_of_launch isRow rfl rfl
  | finishRunForMailbox =>
    obtain ⟨_, _, _, _, _, _, _, _, _, _, pair, _, _, rfl⟩ := finishRunForMailbox_ok step
    exact mailboxesFollow_of_settled _ _ (fun _ => (terminal_of_pair pair).2) rfl
  | finishRunForMailboxWithEvidence _ _ _ _ mailboxState =>
    obtain ⟨_, _, _, _, _, _, _, _, state, _, _, rfl⟩ := finishRunForMailboxWithEvidence_ok step
    refine mailboxesFollow_of_settled _ _ (fun progress running => ?_) rfl
    have isRunning : mailboxState = .running := running
    simp [isRunning] at state
  | acceptVerificationDifference =>
    obtain ⟨acceptance, _, _, _, _, _, _, _, rfl⟩ := acceptVerificationDifference_ok step
    refine mailboxesFollow_of_settled (·.id = acceptance.jobId)
      ({ · with state := .verifiedWithExceptions, attentionReason := none }) (by simp) ?_
    rw [recordAcceptance]
    split <;> rfl
  | reopenProject =>
    obtain ⟨_, _, _, _, rfl⟩ := reopenProject_ok step
    exact mailboxesFollow_of_settled _ _ (by simp) rfl
  | advanceCutover =>
    simp only [Step, Operation.apply, bind_eq_ok, pure_eq_ok] at step
    obtain ⟨⟨_, _⟩, advanced, rfl⟩ := step
    obtain ⟨_, _, _, _, _, _, _, _, _, _, rfl⟩ := advanceCutover_ok advanced
    exact mailboxesFollow_of_settled _ _ (by simp) rfl
  | recoverAbandonedJobsPreserving =>
    obtain ⟨_, _, rfl, _⟩ := recoverAbandonedJobsPreserving_ok step
    exact mailboxesFollow_of_settled _ _ (by simp) rfl
  | _ => exact mailboxesFollow_of_same (step.kept.jobs (by simp [Operation.writes]))

/-! ## Runs -/

/-- What an operation may make of the progress of a run: nothing, its end, or, for a queued
run of a project that launches something, its start. -/
def Moves (operation : Operation) (old : Run) (progress : RunProgress) : Prop :=
  progress = old.toRunProgress ∨ (old.status.isActive = true ∧
    (progress.status.isActive = false ∨
      old.status = .queued ∧ operation.Launches old.projectId))

/-- A later state of a run: its progress may have changed. -/
def Continues (old run : Run) : Prop :=
  ∃ progress, run = { old with toRunProgress := progress }

/-- What an operation may record: an audit of a mailbox, or the runs of a launch, of which
only the children of a batch wait. -/
def Admits (operation : Operation) (before after : Table Run.id) (run : Run) : Prop :=
  (∀ old ∈ before, old.id ≠ run.id) ∧
    ((run.isTransfer = false ∧ run.jobId ≠ none ∧ run.status = .running) ∨
      operation.Launches run.projectId ∧
        (run.status = .queued → ∃ batch ∈ after, Ownership.IsChild run batch))

/-- The runs before and after an operation. -/
structure RunsFollow (operation : Operation) (before after : Table Run.id) : Prop where
  kept : ∀ old ∈ before, ∃ progress, Moves operation old progress ∧
    { old with toRunProgress := progress } ∈ after
  origin : ∀ run ∈ after, (∃ old ∈ before, ∃ progress, Moves operation old progress ∧
    run = { old with toRunProgress := progress }) ∨ Admits operation before after run

theorem Continues.refl (run : Run) : Continues run run :=
  ⟨run.toRunProgress, rfl⟩

theorem Continues.trans {first second third : Run} (earlier : Continues first second)
    (later : Continues second third) : Continues first third := by
  obtain ⟨_, rfl⟩ := earlier
  obtain ⟨progress, rfl⟩ := later
  exact ⟨progress, rfl⟩

theorem runsFollow_of_same (sameRuns : after.runs = before.runs) :
    RunsFollow operation before.runs after.runs := by
  rw [sameRuns]
  constructor
  · intro old isOld
    exact ⟨old.toRunProgress, .inl rfl, isOld⟩
  · intro run isRun
    exact .inl ⟨run, isRun, run.toRunProgress, .inl rfl, rfl⟩

/-- Every run moved on its own. -/
theorem runsFollow_of_image {beforeRuns afterRuns : Table Run.id} (moved : Run → RunProgress)
    (image : ∀ run, run ∈ afterRuns ↔
      ∃ old ∈ beforeRuns, run = { old with toRunProgress := moved old })
    (moves : ∀ old ∈ beforeRuns, Moves operation old (moved old)) :
    RunsFollow operation beforeRuns afterRuns := by
  constructor
  · intro old isOld
    exact ⟨moved old, moves old isOld, (image _).mpr ⟨old, isOld, rfl⟩⟩
  · intro run isRun
    obtain ⟨old, isOld, rfl⟩ := (image run).mp isRun
    exact .inl ⟨old, isOld, moved old, moves old isOld, rfl⟩

theorem runsFollow_of_setRuns (condition : Run → Bool) (change : RunProgress → RunProgress)
    (moves : ∀ run ∈ before.runs, condition run = true →
      Moves operation run (change run.toRunProgress))
    (runsAfter : after.runs = (before.setRuns condition change).runs) :
    RunsFollow operation before.runs after.runs := by
  refine runsFollow_of_image (fun run =>
    if condition run = true then change run.toRunProgress else run.toRunProgress) ?_ ?_
  · intro run
    rw [runsAfter, mem_setRuns]
    constructor
    · rintro ⟨old, isOld, rfl⟩
      refine ⟨old, isOld, ?_⟩
      split <;> rfl
    · rintro ⟨old, isOld, rfl⟩
      refine ⟨old, isOld, ?_⟩
      split <;> rfl
  · intro run isRun
    by_cases selected : condition run = true
    · rw [if_pos selected]
      exact moves run isRun selected
    · rw [if_neg selected]
      exact .inl rfl

/-- One active run ends. -/
theorem runsFollow_of_end {run : Run} {status : RunStatus} {detail : String}
    (isRun : run ∈ before.runs) (active : run.status.isActive = true)
    (terminal : status.isActive = false)
    (runsAfter : after.runs = (before.setRuns (·.id = run.id) (ended status detail)).runs) :
    RunsFollow operation before.runs after.runs := by
  refine runsFollow_of_setRuns _ _ (fun other isOther selected => ?_) runsAfter
  cases Table.eq_of_key isOther isRun (of_decide_eq_true selected)
  exact .inr ⟨active, .inl terminal⟩

/-- Runs were added. -/
theorem runsFollow_of_admits {beforeRuns afterRuns : Table Run.id} (new : Run → Prop)
    (isRun : ∀ run, run ∈ afterRuns ↔ run ∈ beforeRuns ∨ new run)
    (admits : ∀ run, new run → Admits operation beforeRuns afterRuns run) :
    RunsFollow operation beforeRuns afterRuns := by
  constructor
  · intro old isOld
    exact ⟨old.toRunProgress, .inl rfl, (isRun old).mpr (.inl isOld)⟩
  · intro run isAfter
    cases (isRun run).mp isAfter with
    | inl isOld => exact .inl ⟨run, isOld, run.toRunProgress, .inl rfl, rfl⟩
    | inr isNew => exact .inr (admits run isNew)

theorem runsFollow_of_insert {run : Run} {admitted : Ledger}
    (inserted : before.insertRun run = .ok admitted)
    (starts : (run.isTransfer = false ∧ run.jobId ≠ none ∧ run.status = .running) ∨
      operation.Launches run.projectId ∧ run.status = .running)
    (runsAfter : after.runs = admitted.runs) :
    RunsFollow operation before.runs after.runs := by
  have fresh := fresh_of_insertRun inserted
  obtain ⟨runs, isInserted, rfl⟩ := insertRun_ok inserted
  refine runsFollow_of_admits (· = run) ?_ ?_
  · intro other
    rw [runsAfter]
    exact Table.mem_insert isInserted
  · rintro _ rfl
    refine ⟨fresh, starts.imp_right fun launch => ⟨launch.1, fun queued => ?_⟩⟩
    rw [queued] at launch
    cases launch.2

theorem runsFollow_of_batch {runId : RunId} {engine : TransferEngine} {phase : Phase}
    {planSnapshot : String} {members : List BatchMember} {parent children : Ledger}
    (inserted : before.insertRun (parentRun projectId runId engine planSnapshot phase) =
      .ok parent)
    (added : members.foldlM (insertChild projectId runId engine phase) parent = .ok children)
    (launches : operation.Launches projectId) (runsAfter : after.runs = children.runs) :
    RunsFollow operation before.runs after.runs := by
  have freshParent := fresh_of_insertRun inserted
  obtain ⟨runs, isInserted, rfl⟩ := insertRun_ok inserted
  obtain ⟨allRuns, _, _, rfl, isRun, fresh⟩ := insertChildren_ok added
  refine runsFollow_of_admits (fun run =>
    run = parentRun projectId runId engine planSnapshot phase ∨
      ∃ member ∈ members, run = childRun projectId runId engine phase member) ?_ ?_
  · intro run
    rw [runsAfter, ← or_assoc]
    exact (isRun run).trans (or_congr_left (Table.mem_insert isInserted))
  · intro run isNew
    have isParent : parentRun projectId runId engine planSnapshot phase ∈ allRuns :=
      (isRun _).mpr (.inl ((Table.mem_insert isInserted).mpr (.inr rfl)))
    rw [runsAfter]
    cases isNew with
    | inl isBatch =>
      cases isBatch
      exact ⟨freshParent, .inr ⟨launches, fun queued => by cases queued⟩⟩
    | inr isChild =>
      obtain ⟨member, isMember, rfl⟩ := isChild
      refine ⟨fun old isOld => ?_, .inr ⟨launches, fun _ => ⟨_, isParent, rfl, rfl⟩⟩⟩
      exact fresh member isMember old ((Table.mem_insert isInserted).mpr (.inl isOld))

/-- A recovery ends the runs it touches. -/
theorem runsFollow_of_recovery (runsAfter : after.runs = before.abandonRuns.runs) :
    RunsFollow operation before.runs after.runs := by
  refine runsFollow_of_image (fun run =>
    if run.status = .running then ⟨.abandoned, restartDetail⟩
    else if run.status = .queued ∧ before.closeRunning.hasAbandonedBatch run = true then
      ⟨.abandoned, unclaimedDetail⟩
    else run.toRunProgress) ?_ ?_
  · intro run
    have closes : ∀ old : Run, ∀ closed,
        closed = (if old.status = .running then changedRun (ended .abandoned restartDetail) old
          else old) →
        (if (decide (closed.status = .queued) &&
            before.closeRunning.hasAbandonedBatch closed) = true then
          changedRun (ended .abandoned unclaimedDetail) closed else closed) =
          { old with toRunProgress :=
            if old.status = .running then ⟨.abandoned, restartDetail⟩
            else if old.status = .queued ∧ before.closeRunning.hasAbandonedBatch old = true then
              ⟨.abandoned, unclaimedDetail⟩
            else old.toRunProgress } := by
      rintro old _ rfl
      by_cases running : old.status = .running
      · simp [running, changedRun, ended]
      · by_cases orphan : old.status = .queued ∧
            before.closeRunning.hasAbandonedBatch old = true
        · simp [orphan, changedRun, ended]
        · have kept : ¬(decide (old.status = .queued) &&
              before.closeRunning.hasAbandonedBatch old) = true := by
            simpa using orphan
          rw [if_neg running, if_neg kept, if_neg running, if_neg orphan]
    rw [runsAfter, abandonRuns, mem_setRuns]
    constructor
    · rintro ⟨closed, isClosed, rfl⟩
      obtain ⟨old, isOld, isClosure⟩ := mem_closeRunning_runs.mp isClosed
      exact ⟨old, isOld, closes old closed isClosure⟩
    · rintro ⟨old, isOld, rfl⟩
      exact ⟨_, mem_closeRunning_runs.mpr ⟨old, isOld, rfl⟩, (closes old _ rfl).symm⟩
  · intro run _
    split
    · next running => exact .inr ⟨RunStatus.isActive_eq_true.mpr (.inr running), .inl rfl⟩
    · split
      · next orphan => exact .inr ⟨RunStatus.isActive_eq_true.mpr (.inl orphan.1), .inl rfl⟩
      · exact .inl rfl

/-- What an operation does to the runs. -/
theorem Step.runsFollow (step : Step platform before operation after) :
    RunsFollow operation before.runs after.runs := by
  cases operation with
  | beginRunWithSnapshot =>
    obtain ⟨_, _, _, _, _, _, _, _, _, _, inserted, rfl⟩ := beginRunWithSnapshot_ok step
    exact runsFollow_of_insert inserted (.inr ⟨rfl, rfl⟩) rfl
  | beginVerificationRunFromTransfer =>
    obtain ⟨_, _, _, _, _, _, _, _, _, inserted, rfl⟩ :=
      beginVerificationRunFromTransfer_ok step
    refine runsFollow_of_insert inserted (.inl ⟨?_, ?_, rfl⟩) rfl
    · simp [Run.isTransfer, auditRun]
    · simp [auditRun]
  | beginBatchRunWithChildren =>
    obtain ⟨_, _, _, _, _, _, _, _, _, _, inserted, added, rfl⟩ :=
      beginBatchRunWithChildren_ok step
    exact runsFollow_of_batch inserted added rfl rfl
  | claimBatchMailboxForChild =>
    obtain ⟨child, _, _, _, isChild, rfl, ofProject, _, _, queued, _, _, _, _, _, _, _, _, _,
      rfl⟩ := claimBatchMailboxForChild_ok step
    refine runsFollow_of_setRuns (·.id = child.id) ({ · with status := .running })
      (fun run isRun selected => ?_) rfl
    cases Table.eq_of_key isRun isChild (of_decide_eq_true selected)
    exact .inr ⟨RunStatus.isActive_eq_true.mpr (.inl queued), .inr ⟨queued, ofProject.symm⟩⟩
  | finishRun runId status detail =>
    obtain ⟨run, isRun, rfl, running, terminal, _, _, rfl⟩ := finishRun_ok step
    refine runsFollow_of_setRuns (fun other => other.id = run.id && other.status = .running)
      (ended status (boundedEventDetail detail)) (fun other _ selected => ?_) rfl
    rw [Bool.and_eq_true, decide_eq_true_eq, decide_eq_true_eq] at selected
    exact .inr ⟨RunStatus.isActive_eq_true.mpr (.inr selected.2), .inl terminal⟩
  | cancelHeldChildRun =>
    obtain ⟨_, isRun, rfl, _, queued, rfl⟩ := cancelHeldChildRun_ok step
    exact runsFollow_of_end isRun (RunStatus.isActive_eq_true.mpr (.inl queued)) rfl rfl
  | finishRunForMailbox =>
    obtain ⟨_, _, _, isRun, rfl, _, _, active, _, _, pair, _, _, rfl⟩ :=
      finishRunForMailbox_ok step
    exact runsFollow_of_end isRun active (terminal_of_pair pair).1 rfl
  | finishRunForMailboxWithEvidence =>
    obtain ⟨_, _, _, isRun, rfl, _, _, running, _, _, _, rfl⟩ :=
      finishRunForMailboxWithEvidence_ok step
    exact runsFollow_of_end isRun (RunStatus.isActive_eq_true.mpr (.inr running)) rfl rfl
  | finishVerificationOnlyRun =>
    obtain ⟨_, isRun, rfl, _, _, running, rfl⟩ := finishVerificationOnlyRun_ok step
    exact runsFollow_of_end isRun (RunStatus.isActive_eq_true.mpr (.inr running)) rfl rfl
  | recoverAbandonedJobsPreserving =>
    obtain ⟨_, _, rfl, _⟩ := recoverAbandonedJobsPreserving_ok step
    exact runsFollow_of_recovery rfl
  | _ => exact runsFollow_of_same (step.kept.runs (by simp [Operation.writes]))

end Ledger

end MailSwiftSync
