import MailSwiftSync.Ledger.Ownership

/-!
# The ledger refines ownership

The tables of a ledger, seen as ownership of mailboxes, and the step of the abstract
model that each operation takes.
-/

namespace MailSwiftSync

open Foundation

/-- The mailboxes and runs of a ledger. -/
def Ledger.ownership (ledger : Ledger) : Ownership where
  mailboxes := {known | ∃ job ∈ ledger.jobs, job.id = known.1 ∧ job.projectId = known.2}
  busy := {jobId | ∃ job ∈ ledger.jobs, job.id = jobId ∧ job.state = .running}
  runs := {run | run ∈ ledger.runs}

namespace Ledger

variable {platform : LedgerPlatform} {ledger before after next : Ledger}
  {projectId : ProjectId} {jobId : JobId}

variable {run : Run}

@[simp] theorem mem_ownership_runs : run ∈ ledger.ownership.runs ↔ run ∈ ledger.runs := Iff.rfl

theorem ownership_congr (sameJobs : after.jobs = before.jobs)
    (sameRuns : after.runs = before.runs) : after.ownership = before.ownership := by
  simp only [ownership, sameJobs, sameRuns]

/-- Doing nothing is a step. -/
theorem ownership_stay (sameJobs : after.jobs = before.jobs)
    (sameRuns : after.runs = before.runs) :
    Ownership.Step before.ownership after.ownership := by
  have stay : Ownership.Step before.ownership
      { before.ownership with mailboxes := before.ownership.mailboxes ∪ ∅ } :=
    .enroll ∅ (fun _ _ _ isNew => isNew.elim) (fun _ _ _ isNew => isNew.elim)
  rw [Set.union_empty] at stay
  rwa [ownership_congr sameJobs sameRuns]

theorem known_of_jobIn {job : MailboxJob} (isJob : ledger.jobIn projectId jobId = some job) :
    (jobId, projectId) ∈ ledger.ownership.mailboxes := by
  obtain ⟨isRow, sameId, sameProject⟩ := jobIn_eq_some.mp isJob
  exact ⟨job, isRow, sameId, sameProject⟩

theorem idle_of_hasActiveRun (idle : ledger.hasActiveRun projectId jobId = false) :
    ledger.ownership.Idle jobId projectId := by
  intro run isRun sameProject sameJob
  have inactive := Table.any_eq_false.mp idle run isRun
  simpa [sameProject, sameJob] using inactive

/-! ## Writes -/

theorem fresh_of_insertRun (accepted : ledger.insertRun run = .ok next) :
    ∀ other ∈ ledger.ownership.runs, other.id ≠ run.id := by
  obtain ⟨runs, inserted, _⟩ := insertRun_ok accepted
  exact (Table.insert_eq_some inserted).1

theorem runs_insertRun (accepted : ledger.insertRun run = .ok next) :
    next.ownership.runs = insert run ledger.ownership.runs := by
  obtain ⟨runs, inserted, rfl⟩ := insertRun_ok accepted
  ext other
  rw [Set.mem_insert_iff, or_comm]
  exact Table.mem_insert inserted

theorem jobs_insertRun (accepted : ledger.insertRun run = .ok next) : next.jobs = ledger.jobs := by
  obtain ⟨runs, _, rfl⟩ := insertRun_ok accepted
  rfl

/-- Updating the progress of one run. -/
theorem runs_setRuns {condition : Run → Bool}
    {change : RunProgress → RunProgress} (isRun : run ∈ ledger.runs)
    (only : ∀ other ∈ ledger.runs, condition other = true ↔ other.id = run.id) :
    (ledger.setRuns condition change).ownership.runs =
      Ownership.withProgress (Ownership.advance run (change run.toRunProgress)) ''
        ledger.ownership.runs := by
  ext other
  have changed : ∀ old ∈ ledger.runs,
      (if condition old = true then changedRun change old else old) =
        Ownership.withProgress (Ownership.advance run (change run.toRunProgress)) old := by
    intro old isOld
    by_cases hit : old.id = run.id
    · obtain rfl := Table.eq_of_key isOld isRun hit
      rw [if_pos ((only old isOld).mpr hit), Ownership.withProgress, Ownership.advance_self]
      rfl
    · rw [if_neg fun selected => hit ((only old isOld).mp selected), Ownership.withProgress,
        Ownership.advance, if_neg hit]
  rw [mem_ownership_runs, mem_setRuns]
  constructor
  · rintro ⟨old, isOld, rfl⟩
    exact ⟨old, isOld, (changed old isOld).symm⟩
  · rintro ⟨old, isOld, rfl⟩
    exact ⟨old, isOld, (changed old isOld).symm⟩

/-- Updates keep the identity of mailboxes. -/
theorem mailboxes_setJobs (ledger : Ledger) (condition : MailboxJob → Bool)
    (change : MailboxProgress → MailboxProgress) :
    (ledger.setJobs condition change).ownership.mailboxes = ledger.ownership.mailboxes := by
  ext known
  constructor
  · rintro ⟨_, isRow, sameId, sameProject⟩
    obtain ⟨job, isJob, rfl⟩ := mem_setJobs.mp isRow
    refine ⟨job, isJob, ?_, ?_⟩
    · rw [← sameId]
      split <;> rfl
    · rw [← sameProject]
      split <;> rfl
  · rintro ⟨job, isJob, sameId, sameProject⟩
    refine ⟨_, mem_setJobs.mpr ⟨job, isJob, rfl⟩, ?_, ?_⟩
    · rw [← sameId]
      split <;> rfl
    · rw [← sameProject]
      split <;> rfl

variable {change : MailboxProgress → MailboxProgress}

/-- The mailboxes taken after an update. -/
theorem mem_busy_setJobs (ledger : Ledger) {condition : MailboxJob → Bool} {other : JobId} :
    other ∈ (ledger.setJobs condition change).ownership.busy ↔
      ∃ job ∈ ledger.jobs, job.id = other ∧
        (if condition job = true then (change job.toMailboxProgress).state else job.state) =
          .running := by
  constructor
  · rintro ⟨_, isRow, sameId, running⟩
    obtain ⟨job, isJob, rfl⟩ := mem_setJobs.mp isRow
    refine ⟨job, isJob, ?_, ?_⟩
    · rw [← sameId]
      split <;> rfl
    · rw [← running]
      split <;> rfl
  · rintro ⟨job, isJob, sameId, running⟩
    refine ⟨_, mem_setJobs.mpr ⟨job, isJob, rfl⟩, ?_, ?_⟩
    · rw [← sameId]
      split <;> rfl
    · rw [← running]
      split <;> rfl

/-- Taking a mailbox. -/
theorem busy_take (ledger : Ledger) {job : MailboxJob} (isJob : job ∈ ledger.jobs)
    (running : ∀ progress, (change progress).state = .running) :
    (ledger.setJobs (·.id = job.id) change).ownership.busy =
      insert job.id ledger.ownership.busy := by
  ext other
  rw [mem_busy_setJobs, Set.mem_insert_iff]
  constructor
  · rintro ⟨row, isRow, rfl, isRunning⟩
    by_cases hit : row.id = job.id
    · exact .inl hit
    · rw [if_neg (by simpa using hit)] at isRunning
      exact .inr ⟨row, isRow, rfl, isRunning⟩
  · rintro (rfl | ⟨row, isRow, rfl, isRunning⟩)
    · exact ⟨job, isJob, rfl, by rw [if_pos (by simp), running]⟩
    · refine ⟨row, isRow, rfl, ?_⟩
      split
      · exact running _
      · exact isRunning

/-- Leaving a mailbox. -/
theorem busy_leave (ledger : Ledger) (left : ∀ progress, (change progress).state ≠ .running) :
    (ledger.setJobs (·.id = jobId) change).ownership.busy =
      ledger.ownership.busy \ {jobId} := by
  ext other
  rw [mem_busy_setJobs, Set.mem_sdiff, Set.mem_singleton_iff]
  constructor
  · rintro ⟨row, isRow, rfl, isRunning⟩
    by_cases hit : row.id = jobId
    · rw [if_pos (by simpa using hit)] at isRunning
      exact absurd isRunning (left _)
    · rw [if_neg (by simpa using hit)] at isRunning
      exact ⟨⟨row, isRow, rfl, isRunning⟩, hit⟩
  · rintro ⟨⟨row, isRow, rfl, isRunning⟩, differs⟩
    exact ⟨row, isRow, rfl, by rw [if_neg (by simpa using differs)]; exact isRunning⟩

/-- Restating mailboxes that no transfer has taken. -/
theorem busy_restate {condition : MailboxJob → Bool}
    (free : ∀ job ∈ ledger.jobs, condition job = true → job.state ≠ .running)
    (left : ∀ progress, (change progress).state ≠ .running) :
    (ledger.setJobs condition change).ownership.busy = ledger.ownership.busy := by
  ext other
  rw [mem_busy_setJobs]
  constructor
  · rintro ⟨row, isRow, rfl, isRunning⟩
    split at isRunning
    · exact absurd isRunning (left _)
    · exact ⟨row, isRow, rfl, isRunning⟩
  · rintro ⟨row, isRow, rfl, isRunning⟩
    refine ⟨row, isRow, rfl, ?_⟩
    rw [if_neg fun hit => free row isRow hit isRunning]
    exact isRunning

/-- Restating mailboxes that no transfer has taken, with the same runs, is no step. -/
theorem ownership_restate (condition : MailboxJob → Bool)
    (change : MailboxProgress → MailboxProgress)
    (free : ∀ job ∈ before.jobs, condition job = true → job.state ≠ .running)
    (left : ∀ progress, (change progress).state ≠ .running)
    (jobsAfter : after.jobs = (before.setJobs condition change).jobs)
    (sameRuns : after.runs = before.runs) :
    Ownership.Step before.ownership after.ownership := by
  have same : after.ownership = before.ownership := by
    rw [ownership_congr jobsAfter (sameRuns.trans rfl : after.runs = (before.setJobs
      condition change).runs)]
    have mailboxes := mailboxes_setJobs before condition change
    have busy := busy_restate free left
    simp only [ownership] at mailboxes busy ⊢
    rw [mailboxes, busy]
    rfl
  rw [same]
  exact ownership_stay rfl rfl

/-! ## Operations -/

section Operations

variable {runId : RunId} {engine : TransferEngine} {planSnapshot : String}

theorem mailboxes_congr (sameJobs : after.jobs = before.jobs) :
    after.ownership.mailboxes = before.ownership.mailboxes := by
  simp only [ownership, sameJobs]

theorem busy_congr (sameJobs : after.jobs = before.jobs) :
    after.ownership.busy = before.ownership.busy := by
  simp only [ownership, sameJobs]

/-- A step to an abstract state with the same parts. -/
theorem ownership_step {target : Ownership}
    (step : Ownership.Step before.ownership target)
    (mailboxes : after.ownership.mailboxes = target.mailboxes)
    (busy : after.ownership.busy = target.busy) (runs : after.ownership.runs = target.runs) :
    Ownership.Step before.ownership after.ownership := by
  cases target with
  | mk targetMailboxes targetBusy targetRuns =>
    simp only at mailboxes busy runs
    rw [← mailboxes, ← busy, ← runs] at step
    exact step

theorem beginRunWithSnapshot_ownership
    (accepted : ledger.beginRunWithSnapshot platform projectId jobId runId engine planSnapshot =
      .ok next) : Ownership.Step ledger.ownership next.ownership := by
  obtain ⟨job, project, admitted, isJob, _, _, _, _, idle, _, inserted, rfl⟩ :=
    beginRunWithSnapshot_ok accepted
  obtain ⟨isRow, rfl, rfl⟩ := jobIn_eq_some.mp isJob
  have sameJobs := jobs_insertRun inserted
  have runsAfter := runs_insertRun inserted
  refine ownership_step (.take _ job.id rfl (known_of_jobIn isJob) (fresh_of_insertRun inserted)
    (idle_of_hasActiveRun idle) rfl rfl (decide_eq_true engine.transfers)) ?_ ?_ ?_
  · exact (mailboxes_setJobs _ _ _).trans (mailboxes_congr sameJobs)
  · refine (busy_take (admitted.invalidateCutoverReadinessForNewRun _ _ _)
      (sameJobs.symm ▸ isRow : job ∈ admitted.jobs) fun _ => rfl).trans ?_
    rw [← busy_congr sameJobs]
    rfl
  · exact runsAfter

theorem beginVerificationRunFromTransfer_ownership {transferRunId : RunId}
    (accepted : ledger.beginVerificationRunFromTransfer platform projectId jobId runId
      transferRunId planSnapshot = .ok next) :
    Ownership.Step ledger.ownership next.ownership := by
  obtain ⟨job, project, admitted, isJob, _, _, idle, ⟨transfer, isRun, rfl, ofJob, _⟩, _,
    inserted, rfl⟩ := beginVerificationRunFromTransfer_ok accepted
  have sameJobs := jobs_insertRun inserted
  have runsAfter := runs_insertRun inserted
  refine ownership_step (.audit _ jobId rfl (known_of_jobIn isJob) (fresh_of_insertRun inserted)
    (idle_of_hasActiveRun idle) rfl ⟨transfer, isRun, rfl, ofJob⟩ ?_)
      (mailboxes_congr sameJobs) (busy_congr sameJobs) ?_
  · simp [Run.isTransfer, auditRun]
  · exact runsAfter

theorem childRun_isTransfer {phase : Phase} {member : BatchMember} :
    (childRun projectId runId engine phase member).isTransfer = true :=
  decide_eq_true (TransferEngine.transfers _)

theorem beginBatchRunWithChildren_ownership {jobIds : List JobId} {expectedPlans : List String}
    {childPlans : List BatchChildPlan} {newRunId : Nat → RunId}
    (accepted : ledger.beginBatchRunWithChildren platform projectId jobIds runId engine
      expectedPlans planSnapshot childPlans newRunId = .ok next) :
    Ownership.Step ledger.ownership next.ownership := by
  obtain ⟨project, jobs, parent, children, _, _, _, distinct, admitted, _, inserted, added, rfl⟩ :=
    beginBatchRunWithChildren_ok accepted
  obtain ⟨checked, _⟩ := admitBatchMembers_ok admitted
  obtain ⟨runs, facts, events, rfl, isRun, fresh⟩ := insertChildren_ok added
  have sameJobs := jobs_insertRun inserted
  have parentRuns := runs_insertRun inserted
  have isParentRun : ∀ run, run ∈ parent.runs ↔
      run = parentRun projectId runId engine planSnapshot project.phase ∨ run ∈ ledger.runs := by
    intro run
    exact Set.ext_iff.mp parentRuns run
  refine ownership_step (.batch (parentRun projectId runId engine planSnapshot project.phase)
    {run | ∃ member ∈ batchMembers jobIds expectedPlans childPlans newRunId,
      run = childRun projectId runId engine project.phase member} rfl rfl rfl
    (fresh_of_insertRun inserted) ?_ ?_ ?_ ?_ ?_) (mailboxes_congr sameJobs)
      (busy_congr sameJobs) ?_
  · rintro _ ⟨member, isMember, rfl⟩
    refine ⟨fun sameId => ?_, fun other isOther => ?_⟩
    · exact fresh member isMember _ ((isParentRun _).mpr (.inl rfl)) sameId.symm
    · exact fresh member isMember other ((isParentRun other).mpr (.inr isOther))
  · rintro _ ⟨member, isMember, rfl⟩ _ ⟨other, isOther, rfl⟩ sameId
    exact Table.eq_of_key ((isRun _).mpr (.inr ⟨member, isMember, rfl⟩))
      ((isRun _).mpr (.inr ⟨other, isOther, rfl⟩)) sameId
  · rintro _ ⟨member, isMember, rfl⟩ _ ⟨other, isOther, rfl⟩ sameJob
    rw [← batchMembers_jobIds jobIds expectedPlans childPlans newRunId] at distinct
    rw [List.inj_on_of_nodup_map distinct isMember isOther (Option.some.inj sameJob)]
  · rintro _ ⟨member, _, rfl⟩
    exact ⟨rfl, childRun_isTransfer, rfl, rfl⟩
  · rintro _ ⟨member, isMember, rfl⟩
    obtain ⟨job, _, isJob, _, idle, _⟩ := checked member isMember
    exact ⟨member.jobId, rfl, known_of_jobIn isJob, idle_of_hasActiveRun idle⟩
  · ext run
    refine (isRun run).trans ?_
    rw [isParentRun, Set.mem_insert_iff, Set.mem_union, or_assoc, or_comm (a := run ∈ ledger.runs)]
    rfl

theorem claimBatchMailboxForChild_ownership {parentRunId childRunId : RunId}
    (accepted : ledger.claimBatchMailboxForChild projectId jobId parentRunId childRunId =
      .ok next) : Ownership.Step ledger.ownership next.ownership := by
  obtain ⟨child, parent, job, project, isChild, rfl, _, ofJob, ofParent, queued, isParent, rfl,
    noJob, parentRunning, isJob, _, _, _, _, rfl⟩ := claimBatchMailboxForChild_ok accepted
  obtain ⟨isRow, rfl, _⟩ := jobIn_eq_some.mp isJob
  refine ownership_step (.claim child parent job.id
    { child.toRunProgress with status := .running } isChild isParent ofJob ⟨ofParent, noJob⟩
    queued parentRunning rfl) (mailboxes_setJobs _ _ _) (busy_take ledger isRow fun _ => rfl) ?_
  exact runs_setRuns isChild fun other _ => decide_eq_true_iff

variable {detail : String}

theorem finishRun_ownership {status : RunStatus}
    (disciplined : ∀ run ∈ ledger.runs, run.id = runId →
      run.jobId = none ∨ run.isTransfer = false)
    (accepted : ledger.finishRun runId status detail = .ok next) :
    Ownership.Step ledger.ownership next.ownership := by
  obtain ⟨run, isRun, rfl, running, terminal, childrenEnded, childrenSucceeded, rfl⟩ :=
    finishRun_ok accepted
  refine ownership_step (.close run (ended status (boundedEventDetail detail) run.toRunProgress)
    isRun terminal ((disciplined run isRun rfl).imp_right .inl)
    (RunStatus.isActive_eq_true.mpr (.inr running))
    (fun child isChild ofRun => childrenEnded child isChild ofRun.1)
    (fun completed child isChild ofRun => childrenSucceeded completed child isChild ofRun.1))
      rfl rfl ?_
  refine runs_setRuns isRun fun other isOther => ?_
  rw [Bool.and_eq_true, decide_eq_true_eq, decide_eq_true_eq]
  refine ⟨And.left, fun sameId => ⟨sameId, ?_⟩⟩
  rwa [Table.eq_of_key isOther isRun sameId]

theorem cancelHeldChildRun_ownership
    (accepted : ledger.cancelHeldChildRun projectId jobId runId detail = .ok next) :
    Ownership.Step ledger.ownership next.ownership := by
  obtain ⟨run, isRun, rfl, ofJob, queued, rfl⟩ := cancelHeldChildRun_ok accepted
  have childless : ∀ child : Run, ¬Ownership.IsChild child run := by
    intro child ofRun
    exact absurd (ofRun.2.symm.trans ofJob) (by simp)
  refine ownership_step (.close run
    (ended .cancelled (boundedEventDetail detail) run.toRunProgress) isRun rfl (.inr (.inr queued))
    (RunStatus.isActive_eq_true.mpr (.inl queued))
    (fun child _ ofRun => absurd ofRun (childless child))
    (fun _ child _ ofRun => absurd ofRun (childless child))) rfl rfl ?_
  exact runs_setRuns isRun fun other _ => decide_eq_true_iff

theorem terminal_of_pair {runStatus : RunStatus} {mailboxState : MailboxState}
    (pair : terminalPairIsValid runStatus mailboxState = true) :
    runStatus.isActive = false ∧ mailboxState ≠ .running := by
  constructor
  · cases runStatus with
    | queued => cases pair
    | running => cases pair
    | completed => rfl
    | failed => rfl
    | cancelled => rfl
    | abandoned => rfl
    | verificationFailed => rfl
  · rintro rfl
    cases runStatus <;> simp [terminalPairIsValid] at pair

theorem finishRunForMailbox_ownership {runStatus : RunStatus} {mailboxState : MailboxState}
    {preflightPlan checkpoint : Option String}
    (accepted : ledger.finishRunForMailboxWithPreflightPlanAndCheckpoint platform projectId jobId
      runId runStatus mailboxState detail preflightPlan checkpoint = .ok next) :
    Ownership.Step ledger.ownership next.ownership := by
  obtain ⟨job, run, isJob, isRun, rfl, _, ofJob, active, _, _, pair, _, _, rfl⟩ :=
    finishRunForMailbox_ok accepted
  obtain ⟨terminal, left⟩ := terminal_of_pair pair
  refine ownership_step (.finish run jobId
    (ended runStatus (boundedEventDetail detail) run.toRunProgress) isRun ofJob active terminal)
      (mailboxes_setJobs _ _ _) (busy_leave _ fun _ => left) ?_
  exact runs_setRuns isRun fun other _ => decide_eq_true_iff

theorem finishRunForMailboxWithEvidence_ownership {runStatus : RunStatus}
    {mailboxState : MailboxState} {value : MailboxEvidence}
    {mismatches : List MessageMismatch} {preflightPlan checkpoint : Option String}
    (accepted : ledger.finishRunForMailboxWithEvidence platform projectId jobId runId runStatus
      mailboxState detail value mismatches preflightPlan checkpoint = .ok next) :
    Ownership.Step ledger.ownership next.ownership := by
  obtain ⟨job, run, isJob, isRun, rfl, _, ofJob, running, state, _, _, rfl⟩ :=
    finishRunForMailboxWithEvidence_ok accepted
  have left : mailboxState ≠ .running := by
    rintro rfl
    simp at state
  refine ownership_step (.finish run jobId
    (ended .completed (boundedEventDetail detail) run.toRunProgress) isRun ofJob
      (RunStatus.isActive_eq_true.mpr (.inr running)) rfl)
      (mailboxes_setJobs _ _ _) (busy_leave _ fun _ => left) ?_
  exact runs_setRuns isRun fun other _ => decide_eq_true_iff

theorem finishVerificationOnlyRun_ownership {value : MailboxEvidence}
    {mismatches : List MessageMismatch}
    (disciplined : ∀ run ∈ ledger.runs, run.id = runId → run.isTransfer = false)
    (accepted : ledger.finishVerificationOnlyRun projectId jobId runId value mismatches detail =
      .ok next) : Ownership.Step ledger.ownership next.ownership := by
  obtain ⟨run, isRun, rfl, _, ofJob, running, rfl⟩ := finishVerificationOnlyRun_ok accepted
  have childless : ∀ child : Run, ¬Ownership.IsChild child run := by
    intro child ofRun
    exact absurd (ofRun.2.symm.trans ofJob) (by simp)
  refine ownership_step (.close run
    (ended .completed (boundedEventDetail detail) run.toRunProgress) isRun rfl
    (.inr (.inl (disciplined run isRun rfl))) (RunStatus.isActive_eq_true.mpr (.inr running))
    (fun child _ ofRun => absurd ofRun (childless child))
    (fun _ child _ ofRun => absurd ofRun (childless child))) rfl rfl ?_
  exact runs_setRuns isRun fun other _ => decide_eq_true_iff

/-- A new project with its mailboxes. -/
theorem enrolls_ownership (enrolls : Enrolls projectId before.jobs after.jobs)
    (sameRuns : after.runs = before.runs) :
    Ownership.Step before.ownership after.ownership := by
  refine ownership_step (.enroll {known | known ∈ after.ownership.mailboxes ∧
    known ∉ before.ownership.mailboxes} ?_ ?_) ?_ ?_ (by simp only [ownership, sameRuns])
  · rintro jobId project other ⟨⟨job, isJob, rfl, rfl⟩, isNew⟩ ⟨old, isOld, sameId, _⟩
    rcases enrolls.added job isJob with isOldJob | ⟨_, _, fresh⟩
    · exact isNew ⟨job, isOldJob, rfl, rfl⟩
    · exact fresh old isOld sameId
  · rintro jobId project other ⟨⟨job, isJob, rfl, rfl⟩, _⟩ ⟨⟨row, isRow, sameId, rfl⟩, _⟩
    rw [Table.eq_of_key isJob isRow sameId.symm]
  · ext known
    by_cases isOld : known ∈ before.ownership.mailboxes
    · obtain ⟨job, isJob, facts⟩ := isOld
      exact ⟨fun _ => .inl ⟨job, isJob, facts⟩, fun _ => ⟨job, enrolls.kept job isJob, facts⟩⟩
    · exact ⟨fun isKnown => .inr ⟨isKnown, isOld⟩,
        fun isKnown => isKnown.elim (absurd · isOld) And.left⟩
  · ext job
    constructor
    · rintro ⟨row, isRow, rfl, running⟩
      rcases enrolls.added row isRow with isOld | ⟨_, ⟨_, isNew⟩, _⟩
      · exact ⟨row, isOld, rfl, running⟩
      · rw [isNew] at running
        cases running
    · rintro ⟨row, isRow, facts⟩
      exact ⟨row, enrolls.kept row isRow, facts⟩

/-- New plan deltas leave identities and states alone. -/
theorem replans_ownership (replans : Replans before.jobs after.jobs)
    (sameRuns : after.runs = before.runs) :
    Ownership.Step before.ownership after.ownership := by
  have kept : ∀ {job job' : MailboxJob}, Replanned job job' →
      job'.id = job.id ∧ job'.projectId = job.projectId ∧ job'.state = job.state := by
    rintro job job' (rfl | ⟨overrides, rfl⟩)
    · exact ⟨rfl, rfl, rfl⟩
    · exact ⟨rfl, rfl, rfl⟩
  have stay : Ownership.Step before.ownership before.ownership := ownership_stay rfl rfl
  refine ownership_step stay ?_ ?_ (by simp only [ownership, sameRuns])
  · ext known
    constructor
    · rintro ⟨job', isJob', sameId, sameProject⟩
      obtain ⟨job, isJob, replanned⟩ := replans.backward job' isJob'
      exact ⟨job, isJob, (kept replanned).1.symm.trans sameId,
        (kept replanned).2.1.symm.trans sameProject⟩
    · rintro ⟨job, isJob, sameId, sameProject⟩
      obtain ⟨job', isJob', replanned⟩ := replans.forward job isJob
      exact ⟨job', isJob', (kept replanned).1.trans sameId, (kept replanned).2.1.trans sameProject⟩
  · ext jobId
    constructor
    · rintro ⟨job', isJob', sameId, running⟩
      obtain ⟨job, isJob, replanned⟩ := replans.backward job' isJob'
      exact ⟨job, isJob, (kept replanned).1.symm.trans sameId,
        (kept replanned).2.2.symm.trans running⟩
    · rintro ⟨job, isJob, sameId, running⟩
      obtain ⟨job', isJob', replanned⟩ := replans.forward job isJob
      exact ⟨job', isJob', (kept replanned).1.trans sameId, (kept replanned).2.2.trans running⟩

/-- What a recovery makes of a run. -/
def abandonedProgress (run : Run) : RunProgress :=
  if run.status = .running then ⟨.abandoned, restartDetail⟩
  else if run.status = .queued then ⟨.abandoned, unclaimedDetail⟩
  else run.toRunProgress

theorem mem_closeRunning_runs :
    run ∈ ledger.closeRunning.runs ↔ ∃ old ∈ ledger.runs,
      run = if old.status = .running then changedRun (ended .abandoned restartDetail) old
        else old := by
  rw [closeRunning, mem_setRuns]
  simp only [decide_eq_true_eq]
  rfl

/-- The batch of a queued run is running, so a recovery closes it first. -/
theorem hasAbandonedBatch_of_queued (sound : ledger.ownership.Sound)
    (isRun : run ∈ ledger.runs) (queued : run.status = .queued) :
    ledger.closeRunning.hasAbandonedBatch run = true := by
  obtain ⟨_, batch, isBatch, ofBatch⟩ := sound.queuedChild run isRun queued
  have batchRunning := sound.activeChild run isRun batch isBatch ofBatch
    (RunStatus.isActive_eq_true.mpr (.inl queued))
  rw [hasAbandonedBatch, Table.any_eq_true]
  refine ⟨changedRun (ended .abandoned restartDetail) batch,
    mem_closeRunning_runs.mpr ⟨batch, isBatch, by rw [if_pos batchRunning]⟩, ?_⟩
  simp [changedRun, ended, ofBatch.1, ofBatch.2]

/-- A recovery abandons every active run. -/
theorem runs_abandonRuns (sound : ledger.ownership.Sound) :
    ledger.abandonRuns.ownership.runs =
      Ownership.withProgress abandonedProgress '' ledger.ownership.runs := by
  have abandoned : ∀ run ∈ ledger.runs, ∀ closed,
      closed = (if run.status = .running then changedRun (ended .abandoned restartDetail) run
        else run) →
      (if (decide (closed.status = .queued) &&
          ledger.closeRunning.hasAbandonedBatch closed) = true then
        changedRun (ended .abandoned unclaimedDetail) closed else closed) =
        Ownership.withProgress abandonedProgress run := by
    rintro run isRun _ rfl
    by_cases running : run.status = .running
    · simp [running, changedRun, ended, Ownership.withProgress, abandonedProgress]
    · by_cases queued : run.status = .queued
      · have batch := hasAbandonedBatch_of_queued sound isRun queued
        rw [if_neg running, if_pos (by simp [queued, batch])]
        simp [changedRun, ended, Ownership.withProgress, abandonedProgress, queued]
      · simp [running, queued, Ownership.withProgress, abandonedProgress]
  ext other
  rw [mem_ownership_runs, abandonRuns, mem_setRuns]
  constructor
  · rintro ⟨closed, isClosed, rfl⟩
    obtain ⟨run, isRun, isClosure⟩ := mem_closeRunning_runs.mp isClosed
    exact ⟨run, isRun, (abandoned run isRun closed isClosure).symm⟩
  · rintro ⟨run, isRun, rfl⟩
    exact ⟨_, mem_closeRunning_runs.mpr ⟨run, isRun, rfl⟩, (abandoned run isRun _ rfl).symm⟩

theorem recoverAbandonedJobsPreserving_ownership {preserved : List ActiveProcess}
    (sound : ledger.ownership.Sound)
    (accepted : ledger.recoverAbandonedJobsPreserving preserved = .ok next) :
    Ownership.Step ledger.ownership next.ownership := by
  obtain ⟨processes, events, rfl, _⟩ := recoverAbandonedJobsPreserving_ok accepted
  refine ownership_step (.recover abandonedProgress ?_ ?_) (mailboxes_setJobs ledger _ _) ?_
    (runs_abandonRuns sound)
  · intro run _ active
    rcases RunStatus.isActive_eq_true.mp active with queued | running
    · simp [abandonedProgress, queued]
    · simp [abandonedProgress, running]
  · intro run _ ended
    obtain ⟨notQueued, notRunning⟩ := RunStatus.isActive_eq_false.mp ended
    simp [abandonedProgress, notQueued, notRunning]
  · ext job
    rw [Set.mem_empty_iff_false, iff_false]
    intro isBusy
    obtain ⟨row, _, _, running⟩ := (mem_busy_setJobs ledger).mp isBusy
    split at running
    · cases running
    · next free => exact free (decide_eq_true running)

theorem recordAcceptance_ownership {acceptance : VerificationAcceptance} {job : MailboxJob}
    {phase : Phase} (isJob : ledger.jobIn projectId acceptance.jobId = some job)
    (differs : job.state = .verificationDifference) :
    Ownership.Step ledger.ownership
      (ledger.recordAcceptance acceptance projectId phase).ownership := by
  have free : ∀ row ∈ ledger.jobs, decide (row.id = acceptance.jobId) = true →
      row.state ≠ .running := by
    intro row isRow sameId
    obtain ⟨isJobRow, jobId, _⟩ := jobIn_eq_some.mp isJob
    rw [Table.eq_of_key isRow isJobRow ((of_decide_eq_true sameId).trans jobId.symm), differs]
    simp
  refine ownership_restate (fun row => decide (row.id = acceptance.jobId))
    ({ · with state := .verifiedWithExceptions, attentionReason := none }) free (by simp) ?_ ?_
  · simp only [recordAcceptance]
    split <;> rfl
  · simp only [recordAcceptance]
    split <;> rfl

/-- Every operation, called as the program calls it, is a step of ownership. -/
theorem DisciplinedStep.ownership {operation : Operation} (sound : before.ownership.Sound)
    (step : DisciplinedStep platform before operation after) :
    Ownership.Step before.ownership after.ownership := by
  obtain ⟨disciplined, accepted⟩ := step
  cases operation with
  | createProjectWithMailbox projectId jobId destinationMailbox =>
    obtain ⟨projects, jobs, _, inserted, rfl⟩ := createProjectWithMailbox_ok accepted
    have enrolls : Enrolls projectId before.jobs jobs :=
      Enrolls.insert ⟨fun _ isJob => isJob, fun _ => .inl⟩ rfl ⟨none, rfl⟩ inserted
    exact enrolls_ownership enrolls rfl
  | createBatchQueue =>
    obtain ⟨projects, plans, jobs, facts, _, enrolls, rfl⟩ := createBatchQueue_enrolls accepted
    exact enrolls_ownership enrolls rfl
  | updateQueuePlans =>
    obtain ⟨_, jobs, facts, replans, rfl⟩ := updateQueuePlans_ok accepted
    exact replans_ownership replans rfl
  | beginRunWithSnapshot => exact beginRunWithSnapshot_ownership accepted
  | beginVerificationRunFromTransfer => exact beginVerificationRunFromTransfer_ownership accepted
  | beginBatchRunWithChildren => exact beginBatchRunWithChildren_ownership accepted
  | claimBatchMailboxForChild => exact claimBatchMailboxForChild_ownership accepted
  | finishRun => exact finishRun_ownership disciplined accepted
  | cancelHeldChildRun => exact cancelHeldChildRun_ownership accepted
  | finishRunForMailbox => exact finishRunForMailbox_ownership accepted
  | finishRunForMailboxWithEvidence => exact finishRunForMailboxWithEvidence_ownership accepted
  | finishVerificationOnlyRun => exact finishVerificationOnlyRun_ownership disciplined accepted
  | acceptVerificationDifference =>
    obtain ⟨acceptance, job, project, isJob, _, differs, _, rfl, rfl⟩ :=
      acceptVerificationDifference_ok accepted
    exact recordAcceptance_ownership isJob differs
  | reopenProject =>
    obtain ⟨project, _, _, _, rfl⟩ := reopenProject_ok accepted
    refine ownership_restate _ _ (fun job _ selected => ?_) (by simp) rfl rfl
    intro running
    simp [running] at selected
  | advanceCutover =>
    simp only [Step, Operation.apply, bind_eq_ok, pure_eq_ok] at accepted
    obtain ⟨⟨next, stage⟩, advanced, rfl⟩ := accepted
    obtain ⟨workflow, project, confirmation, _, _, _, _, _, _, _, rfl⟩ :=
      advanceCutover_ok advanced
    refine ownership_restate _ _ (fun job _ selected => ?_) (by simp) rfl rfl
    intro running
    simp [running] at selected
  | recoverAbandonedJobsPreserving =>
    exact recoverAbandonedJobsPreserving_ownership sound accepted
  | _ =>
    exact ownership_stay (accepted.kept.jobs (by simp [Operation.writes]))
      (accepted.kept.runs (by simp [Operation.writes]))

end Operations

end Ledger

end MailSwiftSync
