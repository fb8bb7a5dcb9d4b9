import MailSwiftSync.Ledger.Operations

/-!
# Ownership of mailboxes

What the runs of a ledger are for, without its tables: a mailbox is taken by at most one
run at a time, a batch outlives its children, and a restart closes everything that was
open.  The steps below are all that an operation may do to mailboxes and runs.
-/

namespace MailSwiftSync

/-- The known mailboxes, those taken by a transfer, and all runs. -/
structure Ownership where
  mailboxes : Set (JobId × ProjectId)
  busy : Set JobId
  runs : Set Run

namespace Ownership

variable {before after : Ownership}

/-- No run of a mailbox is queued or running. -/
def Idle (ownership : Ownership) (jobId : JobId) (projectId : ProjectId) : Prop :=
  ∀ run ∈ ownership.runs, run.projectId = projectId → run.jobId = some jobId →
    run.status.isActive = false

/-- A run is a child of a batch. -/
def IsChild (child batch : Run) : Prop :=
  child.parentRunId = some batch.id ∧ batch.jobId = none

/-- A run whose progress changed. -/
def withProgress (change : Run → RunProgress) (run : Run) : Run :=
  { run with toRunProgress := change run }

/-- Change the progress of one run. -/
def advance (target : Run) (progress : RunProgress) (run : Run) : RunProgress :=
  if run.id = target.id then progress else run.toRunProgress

/-- What an operation may do. -/
inductive Step (before : Ownership) : Ownership → Prop where
  /-- New mailboxes become known. -/
  | enroll (new : Set (JobId × ProjectId))
      (fresh : ∀ job project other, (job, project) ∈ new → (job, other) ∉ before.mailboxes)
      (functional : ∀ job project other, (job, project) ∈ new → (job, other) ∈ new →
        project = other) :
      Step before { before with mailboxes := before.mailboxes ∪ new }
  /-- A transfer takes an idle mailbox. -/
  | take (run : Run) (job : JobId) (ofJob : run.jobId = some job)
      (known : (job, run.projectId) ∈ before.mailboxes)
      (fresh : ∀ other ∈ before.runs, other.id ≠ run.id)
      (idle : before.Idle job run.projectId) (running : run.status = .running)
      (single : run.parentRunId = none) (transfers : run.isTransfer = true) :
      Step before { before with
        busy := insert job before.busy
        runs := insert run before.runs }
  /-- An audit of an earlier transfer looks at an idle mailbox. -/
  | audit (run : Run) (job : JobId) (ofJob : run.jobId = some job)
      (known : (job, run.projectId) ∈ before.mailboxes)
      (fresh : ∀ other ∈ before.runs, other.id ≠ run.id)
      (idle : before.Idle job run.projectId) (running : run.status = .running)
      (baseline : ∃ transfer ∈ before.runs,
        run.parentRunId = some transfer.id ∧ transfer.jobId = some job)
      (audits : run.isTransfer = false) :
      Step before { before with runs := insert run before.runs }
  /-- A batch queues one run for each of several idle mailboxes. -/
  | batch (parent : Run) (children : Set Run) (noJob : parent.jobId = none)
      (noParent : parent.parentRunId = none) (running : parent.status = .running)
      (fresh : ∀ other ∈ before.runs, other.id ≠ parent.id)
      (freshChildren : ∀ child ∈ children, child.id ≠ parent.id ∧
        ∀ other ∈ before.runs, other.id ≠ child.id)
      (keys : ∀ child ∈ children, ∀ other ∈ children, child.id = other.id → child = other)
      (apart : ∀ child ∈ children, ∀ other ∈ children, child.jobId = other.jobId →
        child = other)
      (queued : ∀ child ∈ children, child.status = .queued ∧ child.isTransfer = true ∧
        IsChild child parent)
      (idle : ∀ child ∈ children, ∃ job, child.jobId = some job ∧
        (job, child.projectId) ∈ before.mailboxes ∧ before.Idle job child.projectId) :
      Step before { before with runs := insert parent (children ∪ before.runs) }
  /-- A queued child of a running batch takes its mailbox. -/
  | claim (child parent : Run) (job : JobId) (progress : RunProgress)
      (isChild : child ∈ before.runs) (isParent : parent ∈ before.runs)
      (ofJob : child.jobId = some job) (ofParent : IsChild child parent)
      (queued : child.status = .queued) (parentRunning : parent.status = .running)
      (running : progress.status = .running) :
      Step before { before with
        busy := insert job before.busy
        runs := withProgress (advance child progress) '' before.runs }
  /-- A run of a mailbox ends and leaves it. -/
  | finish (run : Run) (job : JobId) (progress : RunProgress) (isRun : run ∈ before.runs)
      (ofJob : run.jobId = some job) (active : run.status.isActive = true)
      (terminal : progress.status.isActive = false) :
      Step before { before with
        busy := before.busy \ {job}
        runs := withProgress (advance run progress) '' before.runs }
  /-- A run ends that does not own a mailbox. -/
  | close (run : Run) (progress : RunProgress) (isRun : run ∈ before.runs)
      (terminal : progress.status.isActive = false)
      (ownsNothing : run.jobId = none ∨ run.isTransfer = false ∨ run.status = .queued)
      (active : run.status.isActive = true)
      (childrenEnded : ∀ child ∈ before.runs, IsChild child run →
        child.status.isActive = false)
      (childrenSucceeded : progress.status = .completed → ∀ child ∈ before.runs,
        IsChild child run → child.status = .completed) :
      Step before { before with
        runs := withProgress (advance run progress) '' before.runs }
  /-- A restart closes every active run and frees every mailbox. -/
  | recover (closing : Run → RunProgress)
      (closes : ∀ run ∈ before.runs, run.status.isActive = true →
        (closing run).status = .abandoned)
      (keeps : ∀ run ∈ before.runs, run.status.isActive = false →
        closing run = run.toRunProgress) :
      Step before { before with busy := ∅, runs := withProgress closing '' before.runs }

/-- One owner per mailbox, and batches that outlive their children. -/
structure Sound (ownership : Ownership) : Prop where
  mailboxKey : ∀ job project other, (job, project) ∈ ownership.mailboxes →
    (job, other) ∈ ownership.mailboxes → project = other
  runKey : ∀ run ∈ ownership.runs, ∀ other ∈ ownership.runs, run.id = other.id → run = other
  runMailbox : ∀ run ∈ ownership.runs, ∀ job, run.jobId = some job →
    (job, run.projectId) ∈ ownership.mailboxes
  parentKnown : ∀ run ∈ ownership.runs, ∀ parentId, run.parentRunId = some parentId →
    ∃ parent ∈ ownership.runs, parent.id = parentId
  oneActive : ∀ run ∈ ownership.runs, ∀ other ∈ ownership.runs, ∀ job,
    run.jobId = some job → other.jobId = some job → run.status.isActive = true →
      other.status.isActive = true → run = other
  busyIff : ∀ job, job ∈ ownership.busy ↔ ∃ run ∈ ownership.runs, run.jobId = some job ∧
    run.isTransfer = true ∧ run.status = .running
  queuedChild : ∀ run ∈ ownership.runs, run.status = .queued → run.isTransfer = true ∧
    ∃ batch ∈ ownership.runs, IsChild run batch
  activeChild : ∀ child ∈ ownership.runs, ∀ batch ∈ ownership.runs, IsChild child batch →
    child.status.isActive = true → batch.status = .running
  completedBatch : ∀ child ∈ ownership.runs, ∀ batch ∈ ownership.runs, IsChild child batch →
    batch.status = .completed → child.status = .completed

/-- Only the progress of runs changed. -/
theorem Sound.withProgress (sound : Sound before) {change : Run → RunProgress}
    {busy : Set JobId}
    (noRevival : ∀ run ∈ before.runs, (change run).status.isActive = true →
      run.status.isActive = true)
    (noRequeue : ∀ run ∈ before.runs, (change run).status = .queued → run.status = .queued)
    (busyIff : ∀ job, job ∈ busy ↔ ∃ run ∈ before.runs, run.jobId = some job ∧
      run.isTransfer = true ∧ (change run).status = .running)
    (activeChild : ∀ child ∈ before.runs, ∀ batch ∈ before.runs, IsChild child batch →
      (change child).status.isActive = true → (change batch).status = .running)
    (completedBatch : ∀ child ∈ before.runs, ∀ batch ∈ before.runs, IsChild child batch →
      (change batch).status = .completed → (change child).status = .completed) :
    Sound { before with
      busy := busy
      runs := Ownership.withProgress change '' before.runs } where
  mailboxKey := sound.mailboxKey
  runKey := by
    rintro _ ⟨run, isRun, rfl⟩ _ ⟨other, isOther, rfl⟩ sameId
    rw [sound.runKey run isRun other isOther sameId]
  runMailbox := by
    rintro _ ⟨run, isRun, rfl⟩ job ofJob
    exact sound.runMailbox run isRun job ofJob
  parentKnown := by
    rintro _ ⟨run, isRun, rfl⟩ parentId hasParent
    obtain ⟨parent, isParent, sameId⟩ := sound.parentKnown run isRun parentId hasParent
    exact ⟨_, ⟨parent, isParent, rfl⟩, sameId⟩
  oneActive := by
    rintro _ ⟨run, isRun, rfl⟩ _ ⟨other, isOther, rfl⟩ job ofJob otherJob active otherActive
    rw [sound.oneActive run isRun other isOther job ofJob otherJob
      (noRevival run isRun active) (noRevival other isOther otherActive)]
  busyIff := by
    intro job
    rw [busyIff]
    constructor
    · rintro ⟨run, isRun, ofJob, transfers, running⟩
      exact ⟨_, ⟨run, isRun, rfl⟩, ofJob, transfers, running⟩
    · rintro ⟨_, ⟨run, isRun, rfl⟩, ofJob, transfers, running⟩
      exact ⟨run, isRun, ofJob, transfers, running⟩
  queuedChild := by
    rintro _ ⟨run, isRun, rfl⟩ queued
    obtain ⟨transfers, batch, isBatch, ofBatch⟩ :=
      sound.queuedChild run isRun (noRequeue run isRun queued)
    exact ⟨transfers, _, ⟨batch, isBatch, rfl⟩, ofBatch⟩
  activeChild := by
    rintro _ ⟨child, isChild, rfl⟩ _ ⟨batch, isBatch, rfl⟩ ofBatch active
    exact activeChild child isChild batch isBatch ofBatch active
  completedBatch := by
    rintro _ ⟨child, isChild, rfl⟩ _ ⟨batch, isBatch, rfl⟩ ofBatch completed
    exact completedBatch child isChild batch isBatch ofBatch completed

/-- Only runs of idle mailboxes were added. -/
theorem Sound.insertRuns (sound : Sound before) {new : Set Run} {busy : Set JobId}
    (fresh : ∀ run ∈ new, ∀ other ∈ before.runs, other.id ≠ run.id)
    (keys : ∀ run ∈ new, ∀ other ∈ new, run.id = other.id → run = other)
    (known : ∀ run ∈ new, ∀ job, run.jobId = some job →
      (job, run.projectId) ∈ before.mailboxes)
    (idle : ∀ run ∈ new, ∀ job, run.jobId = some job → before.Idle job run.projectId)
    (apart : ∀ run ∈ new, ∀ other ∈ new, ∀ job, run.jobId = some job →
      other.jobId = some job → run = other)
    (parentKnown : ∀ run ∈ new, ∀ parentId, run.parentRunId = some parentId →
      ∃ parent ∈ new ∪ before.runs, parent.id = parentId)
    (busyIff : ∀ job, job ∈ busy ↔ job ∈ before.busy ∨ ∃ run ∈ new, run.jobId = some job ∧
      run.isTransfer = true ∧ run.status = .running)
    (queuedChild : ∀ run ∈ new, run.status = .queued → run.isTransfer = true ∧
      ∃ batch ∈ new, IsChild run batch)
    (runningBatch : ∀ child ∈ new, ∀ batch ∈ new ∪ before.runs, IsChild child batch →
      batch.status = .running) :
    Sound { before with busy := busy, runs := new ∪ before.runs } := by
  have noOldChild : ∀ child ∈ before.runs, ∀ batch ∈ new, ¬IsChild child batch := by
    intro child isChild batch isBatch ofBatch
    obtain ⟨parent, isParent, sameId⟩ := sound.parentKnown child isChild _ ofBatch.1
    exact fresh batch isBatch parent isParent sameId
  have idleMailbox : ∀ run ∈ new, ∀ other ∈ before.runs, ∀ job, run.jobId = some job →
      other.jobId = some job → other.status.isActive = false := by
    intro run isNew other isOld job ofJob otherJob
    have sameProject := sound.mailboxKey job _ _ (sound.runMailbox other isOld job otherJob)
      (known run isNew job ofJob)
    exact idle run isNew job ofJob other isOld sameProject otherJob
  refine ⟨sound.mailboxKey, ?_, ?_, ?_, ?_, ?_, ?_, ?_, ?_⟩
  · rintro run (isNew | isOld) other (otherNew | otherOld) sameId
    · exact keys run isNew other otherNew sameId
    · exact absurd sameId.symm (fresh run isNew other otherOld)
    · exact absurd sameId (fresh other otherNew run isOld)
    · exact sound.runKey run isOld other otherOld sameId
  · rintro run (isNew | isOld) job ofJob
    · exact known run isNew job ofJob
    · exact sound.runMailbox run isOld job ofJob
  · rintro run (isNew | isOld) parentId hasParent
    · exact parentKnown run isNew parentId hasParent
    · obtain ⟨parent, isParent, sameId⟩ := sound.parentKnown run isOld parentId hasParent
      exact ⟨parent, .inr isParent, sameId⟩
  · rintro run (isNew | isOld) other (otherNew | otherOld) job ofJob otherJob active otherActive
    · exact apart run isNew other otherNew job ofJob otherJob
    · have ended := idleMailbox run isNew other otherOld job ofJob otherJob
      exact absurd otherActive (by simp [ended])
    · have ended := idleMailbox other otherNew run isOld job otherJob ofJob
      exact absurd active (by simp [ended])
    · exact sound.oneActive run isOld other otherOld job ofJob otherJob active otherActive
  · intro job
    rw [busyIff, sound.busyIff]
    constructor
    · rintro (⟨run, isOld, rest⟩ | ⟨run, isNew, rest⟩)
      · exact ⟨run, .inr isOld, rest⟩
      · exact ⟨run, .inl isNew, rest⟩
    · rintro ⟨run, isNew | isOld, rest⟩
      · exact .inr ⟨run, isNew, rest⟩
      · exact .inl ⟨run, isOld, rest⟩
  · rintro run (isNew | isOld) queued
    · obtain ⟨transfers, batch, isBatch, ofBatch⟩ := queuedChild run isNew queued
      exact ⟨transfers, batch, .inl isBatch, ofBatch⟩
    · obtain ⟨transfers, batch, isBatch, ofBatch⟩ := sound.queuedChild run isOld queued
      exact ⟨transfers, batch, .inr isBatch, ofBatch⟩
  · rintro child (isNew | isOld) batch isBatch ofBatch active
    · exact runningBatch child isNew batch isBatch ofBatch
    · rcases isBatch with batchNew | batchOld
      · exact absurd ofBatch (noOldChild child isOld batch batchNew)
      · exact sound.activeChild child isOld batch batchOld ofBatch active
  · rintro child (isNew | isOld) batch isBatch ofBatch completed
    · have running := runningBatch child isNew batch isBatch ofBatch
      exact absurd (completed.symm.trans running) (by decide)
    · rcases isBatch with batchNew | batchOld
      · exact absurd ofBatch (noOldChild child isOld batch batchNew)
      · exact sound.completedBatch child isOld batch batchOld ofBatch completed

/-! ## Each step keeps ownership sound -/

section Steps

variable (sound : Sound before)
include sound

theorem Sound.enroll {new : Set (JobId × ProjectId)}
    (fresh : ∀ job project other, (job, project) ∈ new → (job, other) ∉ before.mailboxes)
    (functional : ∀ job project other, (job, project) ∈ new → (job, other) ∈ new →
      project = other) :
    Sound { before with mailboxes := before.mailboxes ∪ new } where
  mailboxKey := by
    rintro job project other (isOld | isNew) (otherOld | otherNew)
    · exact sound.mailboxKey job project other isOld otherOld
    · exact absurd isOld (fresh job other project otherNew)
    · exact absurd otherOld (fresh job project other isNew)
    · exact functional job project other isNew otherNew
  runKey := sound.runKey
  runMailbox := fun run isRun job ofJob => .inl (sound.runMailbox run isRun job ofJob)
  parentKnown := sound.parentKnown
  oneActive := sound.oneActive
  busyIff := sound.busyIff
  queuedChild := sound.queuedChild
  activeChild := sound.activeChild
  completedBatch := sound.completedBatch

/-- Adding one running run of an idle mailbox. -/
theorem Sound.insertRun {run : Run} {job : JobId} {busy : Set JobId}
    (ofJob : run.jobId = some job) (known : (job, run.projectId) ∈ before.mailboxes)
    (fresh : ∀ other ∈ before.runs, other.id ≠ run.id)
    (idle : before.Idle job run.projectId) (running : run.status = .running)
    (parent : ∀ parentId, run.parentRunId = some parentId →
      ∃ parent ∈ before.runs, parent.id = parentId ∧ parent.jobId ≠ none)
    (busyIff : ∀ other, other ∈ busy ↔ other ∈ before.busy ∨
      other = job ∧ run.isTransfer = true) :
    Sound { before with busy := busy, runs := insert run before.runs } := by
  rw [Set.insert_eq]
  refine sound.insertRuns (by simpa using fresh) (by simp) ?_ ?_ (by simp) ?_ ?_ ?_ ?_
  · rintro _ rfl other otherJob
    obtain rfl := Option.some.inj (ofJob.symm.trans otherJob)
    exact known
  · rintro _ rfl other otherJob
    obtain rfl := Option.some.inj (ofJob.symm.trans otherJob)
    exact idle
  · rintro _ rfl parentId hasParent
    obtain ⟨found, isRun, sameId, _⟩ := parent parentId hasParent
    exact ⟨found, .inr isRun, sameId⟩
  · intro other
    rw [busyIff]
    simp only [Set.mem_singleton_iff, exists_eq_left, ofJob, running, and_true,
      Option.some.injEq, eq_comm (a := job)]
  · rintro _ rfl queued
    exact absurd (running.symm.trans queued) (by decide)
  · rintro _ rfl batch isBatch ⟨hasParent, noJob⟩
    rcases isBatch with rfl | isOld
    · exact running
    · obtain ⟨found, isRun, sameId, hasJob⟩ := parent _ hasParent
      rw [sound.runKey found isRun batch isOld sameId] at hasJob
      exact absurd noJob hasJob

theorem Sound.batch {parent : Run} {children : Set Run} (noJob : parent.jobId = none)
    (noParent : parent.parentRunId = none) (running : parent.status = .running)
    (fresh : ∀ other ∈ before.runs, other.id ≠ parent.id)
    (freshChildren : ∀ child ∈ children, child.id ≠ parent.id ∧
      ∀ other ∈ before.runs, other.id ≠ child.id)
    (keys : ∀ child ∈ children, ∀ other ∈ children, child.id = other.id → child = other)
    (apart : ∀ child ∈ children, ∀ other ∈ children, child.jobId = other.jobId →
      child = other)
    (queued : ∀ child ∈ children, child.status = .queued ∧ child.isTransfer = true ∧
      IsChild child parent)
    (idle : ∀ child ∈ children, ∃ job, child.jobId = some job ∧
      (job, child.projectId) ∈ before.mailboxes ∧ before.Idle job child.projectId) :
    Sound { before with runs := insert parent (children ∪ before.runs) } := by
  have parentId : ∀ child ∈ children, child.parentRunId = some parent.id :=
    fun child isChild => (queued child isChild).2.2.1
  have ofMailbox : ∀ run ∈ insert parent children, ∀ job, run.jobId = some job →
      (job, run.projectId) ∈ before.mailboxes ∧ before.Idle job run.projectId := by
    rintro run (rfl | isChild) job ofJob
    · exact absurd (noJob.symm.trans ofJob) (by simp)
    · obtain ⟨other, otherJob, facts⟩ := idle run isChild
      obtain rfl := Option.some.inj (otherJob.symm.trans ofJob)
      exact facts
  rw [← Set.insert_union]
  refine sound.insertRuns ?_ ?_ (fun run isNew job ofJob => (ofMailbox run isNew job ofJob).1)
    (fun run isNew job ofJob => (ofMailbox run isNew job ofJob).2) ?_ ?_ ?_ ?_ ?_
  · rintro run (rfl | isChild)
    · exact fresh
    · exact (freshChildren run isChild).2
  · rintro run (rfl | isChild) other (rfl | otherChild) sameId
    · rfl
    · exact absurd sameId.symm (freshChildren other otherChild).1
    · exact absurd sameId (freshChildren run isChild).1
    · exact keys run isChild other otherChild sameId
  · rintro run (rfl | isChild) other (rfl | otherChild) job ofJob otherJob
    · rfl
    · exact absurd (noJob.symm.trans ofJob) (by simp)
    · exact absurd (noJob.symm.trans otherJob) (by simp)
    · exact apart run isChild other otherChild (ofJob.trans otherJob.symm)
  · rintro run (rfl | isChild) id hasParent
    · exact absurd (noParent.symm.trans hasParent) (by simp)
    · obtain rfl := Option.some.inj ((parentId run isChild).symm.trans hasParent)
      exact ⟨parent, .inl (.inl rfl), rfl⟩
  · intro job
    constructor
    · exact .inl
    · rintro (isBusy | ⟨run, rfl | isChild, ofJob, _, isRunning⟩)
      · exact isBusy
      · exact absurd (noJob.symm.trans ofJob) (by simp)
      · exact absurd ((queued run isChild).1.symm.trans isRunning) (by decide)
  · rintro run (rfl | isChild) isQueued
    · exact absurd (running.symm.trans isQueued) (by decide)
    · exact ⟨(queued run isChild).2.1, parent, .inl rfl, (queued run isChild).2.2⟩
  · rintro child (rfl | isChild) batch isBatch ⟨hasParent, _⟩
    · exact absurd (noParent.symm.trans hasParent) (by simp)
    · have sameId := Option.some.inj ((parentId child isChild).symm.trans hasParent)
      rcases isBatch with (rfl | otherChild) | isOld
      · exact running
      · exact absurd sameId.symm (freshChildren batch otherChild).1
      · exact absurd sameId.symm (fresh batch isOld)

omit sound in
theorem advance_self {run : Run} {progress : RunProgress} : advance run progress run = progress :=
  if_pos rfl

/-- A run other than the target keeps its progress. -/
theorem Sound.advance_other {target run : Run} {progress : RunProgress}
    (isTarget : target ∈ before.runs) (isRun : run ∈ before.runs) (differs : run ≠ target) :
    advance target progress run = run.toRunProgress := by
  apply if_neg
  intro sameId
  exact differs (sound.runKey run isRun target isTarget sameId)

theorem Sound.claim {child parent : Run} {job : JobId} {progress : RunProgress}
    (isChild : child ∈ before.runs) (isParent : parent ∈ before.runs)
    (ofJob : child.jobId = some job) (ofParent : IsChild child parent)
    (queued : child.status = .queued) (parentRunning : parent.status = .running)
    (running : progress.status = .running) :
    Sound { before with
      busy := insert job before.busy
      runs := Ownership.withProgress (advance child progress) '' before.runs } := by
  have elsewhere : ∀ run ∈ before.runs, run ≠ child →
      advance child progress run = run.toRunProgress :=
    fun run isRun => sound.advance_other isChild isRun
  have batchKept : ∀ batch ∈ before.runs, batch.jobId = none →
      advance child progress batch = batch.toRunProgress := by
    intro batch isBatch noJob
    apply elsewhere batch isBatch
    rintro rfl
    exact absurd (noJob.symm.trans ofJob) (by simp)
  refine sound.withProgress ?_ ?_ ?_ ?_ ?_
  · intro run isRun active
    by_cases isTarget : run = child
    · rw [isTarget, RunStatus.isActive_eq_true]
      exact .inl queued
    · rwa [elsewhere run isRun isTarget] at active
  · intro run isRun isQueued
    by_cases isTarget : run = child
    · rw [isTarget, queued]
    · rwa [elsewhere run isRun isTarget] at isQueued
  · intro other
    rw [Set.mem_insert_iff, sound.busyIff]
    constructor
    · rintro (rfl | ⟨run, isRun, ofOther, transfers, isRunning⟩)
      · exact ⟨child, isChild, ofJob, (sound.queuedChild child isChild queued).1,
          advance_self ▸ running⟩
      · refine ⟨run, isRun, ofOther, transfers, ?_⟩
        rw [elsewhere run isRun]
        · exact isRunning
        · rintro rfl
          exact absurd (queued.symm.trans isRunning) (by decide)
    · rintro ⟨run, isRun, ofOther, transfers, isRunning⟩
      by_cases isTarget : run = child
      · rw [isTarget] at ofOther
        exact .inl (Option.some.inj (ofOther.symm.trans ofJob))
      · rw [elsewhere run isRun isTarget] at isRunning
        exact .inr ⟨run, isRun, ofOther, transfers, isRunning⟩
  · intro other isOther batch isBatch ofBatch active
    rw [batchKept batch isBatch ofBatch.2]
    by_cases isTarget : other = child
    · have sameId := Option.some.inj (ofParent.1.symm.trans (isTarget ▸ ofBatch.1))
      rw [← sound.runKey parent isParent batch isBatch sameId]
      exact parentRunning
    · rw [elsewhere other isOther isTarget] at active
      exact sound.activeChild other isOther batch isBatch ofBatch active
  · intro other isOther batch isBatch ofBatch completed
    rw [batchKept batch isBatch ofBatch.2] at completed
    by_cases isTarget : other = child
    · have finished := sound.completedBatch other isOther batch isBatch ofBatch completed
      rw [isTarget, queued] at finished
      cases finished
    · rw [elsewhere other isOther isTarget]
      exact sound.completedBatch other isOther batch isBatch ofBatch completed

/-- One active run ends.  A batch ends after its children; the mailbox of the run is no
longer taken. -/
theorem Sound.endRun {run : Run} {progress : RunProgress} {busy : Set JobId}
    (isRun : run ∈ before.runs) (active : run.status.isActive = true)
    (terminal : progress.status.isActive = false)
    (childrenEnded : ∀ child ∈ before.runs, IsChild child run →
      child.status.isActive = false)
    (childrenSucceeded : progress.status = .completed → ∀ child ∈ before.runs,
      IsChild child run → child.status = .completed)
    (busyIff : ∀ job, job ∈ busy ↔ job ∈ before.busy ∧
      ¬(run.jobId = some job ∧ run.isTransfer = true ∧ run.status = .running)) :
    Sound { before with
      busy := busy
      runs := Ownership.withProgress (advance run progress) '' before.runs } := by
  have elsewhere : ∀ other ∈ before.runs, other ≠ run →
      advance run progress other = other.toRunProgress :=
    fun other isOther => sound.advance_other isRun isOther
  have notRunning : progress.status ≠ .running := (RunStatus.isActive_eq_false.mp terminal).2
  refine sound.withProgress ?_ ?_ ?_ ?_ ?_
  · intro other isOther isActive
    by_cases isTarget : other = run
    · rwa [isTarget]
    · rwa [elsewhere other isOther isTarget] at isActive
  · intro other isOther isQueued
    by_cases isTarget : other = run
    · rw [isTarget, advance_self] at isQueued
      exact absurd isQueued (RunStatus.isActive_eq_false.mp terminal).1
    · rwa [elsewhere other isOther isTarget] at isQueued
  · intro job
    rw [busyIff, sound.busyIff]
    constructor
    · rintro ⟨⟨other, isOther, ofJob, transfers, isRunning⟩, released⟩
      refine ⟨other, isOther, ofJob, transfers, ?_⟩
      rw [elsewhere other isOther]
      · exact isRunning
      · rintro rfl
        exact released ⟨ofJob, transfers, isRunning⟩
    · rintro ⟨other, isOther, ofJob, transfers, isRunning⟩
      have differs : other ≠ run := by
        rintro rfl
        rw [advance_self] at isRunning
        exact notRunning isRunning
      rw [elsewhere other isOther differs] at isRunning
      refine ⟨⟨other, isOther, ofJob, transfers, isRunning⟩, ?_⟩
      rintro ⟨sameJob, _⟩
      exact differs (sound.oneActive other isOther run isRun job ofJob sameJob
        (RunStatus.isActive_eq_true.mpr (.inr isRunning)) active)
  · intro child isChild batch isBatch ofBatch isActive
    have differs : child ≠ run := by
      rintro rfl
      rw [advance_self, terminal] at isActive
      cases isActive
    rw [elsewhere child isChild differs] at isActive
    have batchRunning := sound.activeChild child isChild batch isBatch ofBatch isActive
    rw [elsewhere batch isBatch]
    · exact batchRunning
    · rintro rfl
      rw [childrenEnded child isChild ofBatch] at isActive
      cases isActive
  · intro child isChild batch isBatch ofBatch completed
    by_cases isTarget : batch = run
    · rw [isTarget, advance_self] at completed
      have done := childrenSucceeded completed child isChild (isTarget ▸ ofBatch)
      rw [elsewhere child isChild]
      · exact done
      · rintro rfl
        rw [done] at active
        cases active
    · rw [elsewhere batch isBatch isTarget] at completed
      have done := sound.completedBatch child isChild batch isBatch ofBatch completed
      rw [elsewhere child isChild]
      · exact done
      · rintro rfl
        rw [done] at active
        cases active

theorem Sound.recover {closing : Run → RunProgress}
    (closes : ∀ run ∈ before.runs, run.status.isActive = true →
      (closing run).status = .abandoned)
    (keeps : ∀ run ∈ before.runs, run.status.isActive = false →
      closing run = run.toRunProgress) :
    Sound { before with
      busy := ∅
      runs := Ownership.withProgress closing '' before.runs } := by
  have ended : ∀ run ∈ before.runs, (closing run).status.isActive = false := by
    intro run isRun
    cases active : run.status.isActive with
    | true =>
      rw [closes run isRun active]
      rfl
    | false => rwa [keeps run isRun active]
  refine sound.withProgress ?_ ?_ ?_ ?_ ?_
  · intro run isRun active
    exact absurd active (by simp [ended run isRun])
  · intro run isRun queued
    exact absurd queued (RunStatus.isActive_eq_false.mp (ended run isRun)).1
  · intro job
    refine ⟨False.elim, ?_⟩
    rintro ⟨run, isRun, _, _, running⟩
    exact absurd running (RunStatus.isActive_eq_false.mp (ended run isRun)).2
  · intro child isChild batch isBatch ofBatch active
    exact absurd active (by simp [ended child isChild])
  · intro child isChild batch isBatch ofBatch completed
    have batchEnded : batch.status.isActive = false := by
      cases active : batch.status.isActive with
      | true =>
        rw [closes batch isBatch active] at completed
        cases completed
      | false => rfl
    rw [keeps batch isBatch batchEnded] at completed
    have done := sound.completedBatch child isChild batch isBatch ofBatch completed
    rw [keeps child isChild (by rw [done]; rfl)]
    exact done

/-- Ownership stays sound. -/
theorem Sound.step (step : Step before after) : Sound after := by
  cases step with
  | enroll new fresh functional => exact sound.enroll fresh functional
  | take run job ofJob known fresh idle running single transfers =>
    refine sound.insertRun ofJob known fresh idle running ?_ ?_
    · intro parentId hasParent
      exact absurd (single.symm.trans hasParent) (by simp)
    · intro other
      rw [Set.mem_insert_iff, or_comm]
      simp [transfers]
  | audit run job ofJob known fresh idle running baseline audits =>
    refine sound.insertRun ofJob known fresh idle running ?_ ?_
    · intro parentId hasParent
      obtain ⟨transfer, isRun, isParent, hasJob⟩ := baseline
      exact ⟨transfer, isRun, Option.some.inj (isParent.symm.trans hasParent), by simp [hasJob]⟩
    · intro other
      simp [audits]
  | batch parent children noJob noParent running fresh freshChildren keys apart queued idle =>
    exact sound.batch noJob noParent running fresh freshChildren keys apart queued idle
  | claim child parent job progress isChild isParent ofJob ofParent queued parentRunning running =>
    exact sound.claim isChild isParent ofJob ofParent queued parentRunning running
  | finish run job progress isRun ofJob active terminal =>
    have childless : ∀ child ∈ before.runs, ¬IsChild child run := by
      intro child isChild ofRun
      exact absurd (ofRun.2.symm.trans ofJob) (by simp)
    refine sound.endRun isRun active terminal
      (fun child isChild ofRun => absurd ofRun (childless child isChild))
      (fun _ child isChild ofRun => absurd ofRun (childless child isChild)) ?_
    intro other
    rw [Set.mem_sdiff, Set.mem_singleton_iff]
    refine and_congr_right fun isBusy => not_congr ?_
    constructor
    · rintro rfl
      -- the mailbox is taken by some run, and this one is its only active run
      obtain ⟨owner, isOwner, ofOther, transfers, isRunning⟩ := (sound.busyIff other).mp isBusy
      obtain rfl := sound.oneActive owner isOwner run isRun other ofOther ofJob
        (RunStatus.isActive_eq_true.mpr (.inr isRunning)) active
      exact ⟨ofJob, transfers, isRunning⟩
    · rintro ⟨ofOther, _⟩
      exact Option.some.inj (ofOther.symm.trans ofJob)
  | close run progress isRun terminal ownsNothing active childrenEnded childrenSucceeded =>
    refine sound.endRun isRun active terminal childrenEnded childrenSucceeded ?_
    intro job
    refine ⟨fun isBusy => ⟨isBusy, ?_⟩, And.left⟩
    rintro ⟨ofJob, transfers, isRunning⟩
    rcases ownsNothing with noJob | audits | queued
    · exact absurd (noJob.symm.trans ofJob) (by simp)
    · rw [audits] at transfers
      cases transfers
    · exact absurd (queued.symm.trans isRunning) (by decide)
  | recover closing closes keeps => exact sound.recover closes keeps

/-! ## What a step keeps -/

/-- A run that ended stays as it is. -/
theorem Sound.ended_kept (step : Step before after) {run : Run} (isRun : run ∈ before.runs)
    (ended : run.status.isActive = false) : run ∈ after.runs := by
  have untouched : ∀ {target : Run} {progress : RunProgress}, target ∈ before.runs →
      target.status.isActive = true →
      run ∈ Ownership.withProgress (advance target progress) '' before.runs := by
    intro target progress isTarget active
    refine ⟨run, isRun, ?_⟩
    rw [Ownership.withProgress, sound.advance_other isTarget isRun]
    rintro rfl
    rw [ended] at active
    cases active
  cases step with
  | enroll => exact isRun
  | take => exact .inr isRun
  | audit => exact .inr isRun
  | batch => exact .inr (.inr isRun)
  | claim child _ _ _ isChild _ _ _ queued =>
    exact untouched isChild (RunStatus.isActive_eq_true.mpr (.inl queued))
  | finish target _ _ isTarget _ active => exact untouched isTarget active
  | close target _ isTarget _ _ active => exact untouched isTarget active
  | recover closing _ keeps =>
    refine ⟨run, isRun, ?_⟩
    rw [Ownership.withProgress, keeps run isRun ended]

end Steps

/-- Runs keep their identity; only their progress changes. -/
theorem Step.run_kept (step : Step before after) {run : Run} (isRun : run ∈ before.runs) :
    ∃ progress, { run with toRunProgress := progress } ∈ after.runs := by
  cases step with
  | enroll => exact ⟨run.toRunProgress, isRun⟩
  | take => exact ⟨run.toRunProgress, .inr isRun⟩
  | audit => exact ⟨run.toRunProgress, .inr isRun⟩
  | batch => exact ⟨run.toRunProgress, .inr (.inr isRun)⟩
  | claim => exact ⟨_, ⟨run, isRun, rfl⟩⟩
  | finish => exact ⟨_, ⟨run, isRun, rfl⟩⟩
  | close => exact ⟨_, ⟨run, isRun, rfl⟩⟩
  | recover => exact ⟨_, ⟨run, isRun, rfl⟩⟩

theorem Step.mailbox_kept (step : Step before after) : before.mailboxes ⊆ after.mailboxes := by
  cases step with
  | enroll => exact Set.subset_union_left
  | take => exact subset_rfl
  | audit => exact subset_rfl
  | batch => exact subset_rfl
  | claim => exact subset_rfl
  | finish => exact subset_rfl
  | close => exact subset_rfl
  | recover => exact subset_rfl

end Ownership

end MailSwiftSync
