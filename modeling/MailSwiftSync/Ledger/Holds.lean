import Mathlib.Data.Set.Finite.Basic
import MailSwiftSync.Ledger.Launches
import MailSwiftSync.Ledger.Runs

/-!
# Holds

A hold is looked up in the transaction of every launch, so that nothing of a held project starts
until the hold is released.  The children of a batch that wait meanwhile are closed without
touching their mailboxes, and then a batch is admitted as if they had never been.
-/

namespace MailSwiftSync

open Foundation

namespace Ledger

variable {platform : LedgerPlatform} {ledger before after next : Ledger}
  {projectId : ProjectId} {operation : Operation} {operations : List Operation}

/-! ## Held projects -/

/-- A project is on hold. -/
def Held (ledger : Ledger) (projectId : ProjectId) : Prop :=
  ∃ hold, ledger.holds.find projectId = some hold

theorem ensureNotHeld_eq_ok {u : Unit} :
    ledger.ensureNotHeld projectId = .ok u ↔ ¬ledger.Held projectId := by
  rw [ensureNotHeld, Held]
  cases ledger.holds.find projectId with
  | none => simp
  | some hold => simp

theorem holdProject_held {operator reason : String}
    (accepted : ledger.holdProject projectId operator reason = .ok next) :
    next.Held projectId := by
  simp only [holdProject, bind_eq_ok, demand_eq_ok, pure_eq_ok] at accepted
  obtain ⟨_, _, _, _, _, _, _, _, holds, inserted, rfl⟩ := accepted
  exact ⟨_, (Table.find_insert inserted).trans (if_pos rfl)⟩

/-- Every launch looks for a hold of its project. -/
theorem Step.not_launches (step : Step platform before operation after)
    (held : before.Held projectId) : ¬operation.Launches projectId := by
  intro launches
  cases operation with
  | beginRunWithSnapshot =>
    cases launches
    simp only [Step, Operation.apply, beginRunWithSnapshot, bind_eq_ok,
      ensureNotHeld_eq_ok] at step
    obtain ⟨_, _, _, _, _, _, _, _, _, _, _, free, _⟩ := step
    exact free held
  | beginBatchRunWithChildren =>
    cases launches
    simp only [Step, Operation.apply, beginBatchRunWithChildren, bind_eq_ok,
      ensureNotHeld_eq_ok] at step
    obtain ⟨_, _, _, _, _, _, _, _, _, _, _, free, _⟩ := step
    exact free held
  | claimBatchMailboxForChild =>
    cases launches
    simp only [Step, Operation.apply, claimBatchMailboxForChild, bind_eq_ok,
      ensureNotHeld_eq_ok] at step
    obtain ⟨_, _, _, _, _, _, _, _, _, _, _, _, _, _, _, free, _⟩ := step
    exact free held
  | _ => exact launches

/-- A hold stays until it is released. -/
theorem Step.held (step : Step platform before operation after)
    (held : before.Held projectId)
    (notReleased : ∀ operator, operation ≠ .releaseProjectHold projectId operator) :
    after.Held projectId := by
  cases operation with
  | holdProject other =>
    simp only [Step, Operation.apply, holdProject, bind_eq_ok, demand_eq_ok,
      pure_eq_ok] at step
    obtain ⟨_, _, _, _, _, _, _, _, holds, inserted, rfl⟩ := step
    obtain ⟨hold, found⟩ := held
    have foundAfter : holds.find projectId = _ := Table.find_insert inserted
    split at foundAfter
    · exact ⟨_, foundAfter⟩
    · exact ⟨hold, foundAfter.trans found⟩
  | releaseProjectHold released operator =>
    simp only [Step, Operation.apply, releaseProjectHold, bind_eq_ok, demand_eq_ok,
      pure_eq_ok] at step
    obtain ⟨_, _, _, _, rfl⟩ := step
    obtain ⟨hold, found⟩ := held
    have isOther : hold.projectId ≠ released := by
      rw [(Table.find_eq_some.mp found).2]
      rintro rfl
      exact notReleased operator rfl
    refine ⟨hold, Table.find_delete.trans ?_⟩
    rw [found, Option.filter_eq_some_iff]
    exact ⟨rfl, by simpa using isOther⟩
  | _ =>
    have sameHolds := step.kept.holds (by simp [Operation.writes])
    rw [Held, sameHolds]
    exact held

/-! ## What a hold stops -/

/-- Nothing of a project starts from one ledger to a later one: no mailbox begins to run, no run
is recorded but audits of a mailbox, and no run that waited is claimed. -/
structure Paused (projectId : ProjectId) (before after : Ledger) : Prop where
  mailboxes : ∀ jobId, after.Busy projectId jobId → before.Busy projectId jobId
  admissions : ∀ run ∈ after.runs, run.projectId = projectId →
    (∃ old ∈ before.runs, Continues old run) ∨
      (∀ old ∈ before.runs, old.id ≠ run.id) ∧ run.isTransfer = false ∧ run.jobId ≠ none
  claims : ∀ run ∈ after.runs, run.projectId = projectId → run.status = .running →
    ∀ old ∈ before.runs, Continues old run → old.status = .running
  kept : ∀ old ∈ before.runs, ∃ run ∈ after.runs, Continues old run

theorem Continues.sameId {old run : Run} (continues : Continues old run) : run.id = old.id := by
  obtain ⟨_, rfl⟩ := continues
  rfl

theorem Continues.sameProject {old run : Run} (continues : Continues old run) :
    run.projectId = old.projectId := by
  obtain ⟨_, rfl⟩ := continues
  rfl

namespace Paused

theorem refl (projectId : ProjectId) (ledger : Ledger) : Paused projectId ledger ledger where
  mailboxes := fun _ busy => busy
  admissions := fun run isRun _ => .inl ⟨run, isRun, .refl run⟩
  claims := by
    intro run isRun _ running old isOld continues
    rwa [← Table.eq_of_key isRun isOld continues.sameId]
  kept := fun run isRun => ⟨run, isRun, .refl run⟩

theorem trans {middle : Ledger} (earlier : Paused projectId before middle)
    (later : Paused projectId middle after) : Paused projectId before after where
  mailboxes := fun jobId busy => earlier.mailboxes jobId (later.mailboxes jobId busy)
  admissions := by
    intro run isRun ofProject
    cases later.admissions run isRun ofProject with
    | inl isOld =>
      obtain ⟨between, isBetween, continues⟩ := isOld
      have betweenProject := continues.sameProject.symm.trans ofProject
      cases earlier.admissions between isBetween betweenProject with
      | inl isOldest =>
        obtain ⟨old, isOld, continued⟩ := isOldest
        exact .inl ⟨old, isOld, continued.trans continues⟩
      | inr audits =>
        obtain ⟨progress, rfl⟩ := continues
        exact .inr audits
    | inr audits =>
      refine .inr ⟨fun old isOld sameId => ?_, audits.2⟩
      obtain ⟨between, isBetween, continues⟩ := earlier.kept old isOld
      exact audits.1 between isBetween (continues.sameId.trans sameId)
  claims := by
    intro run isRun ofProject running old isOld continues
    obtain ⟨between, isBetween, continued⟩ := earlier.kept old isOld
    have sameRun : Continues between run := by
      obtain ⟨_, rfl⟩ := continued
      obtain ⟨progress, rfl⟩ := continues
      exact ⟨progress, rfl⟩
    have betweenRunning := later.claims run isRun ofProject running between isBetween sameRun
    have betweenProject := sameRun.sameProject.symm.trans ofProject
    exact earlier.claims between isBetween betweenProject betweenRunning old isOld continued
  kept := by
    intro old isOld
    obtain ⟨between, isBetween, continued⟩ := earlier.kept old isOld
    obtain ⟨run, isRun, continues⟩ := later.kept between isBetween
    exact ⟨run, isRun, continued.trans continues⟩

end Paused

/-- A run that is running after a step was running before, if its project launched nothing. -/
theorem Moves.running {old : Run} {progress : RunProgress} (moves : Moves operation old progress)
    (quiet : ¬operation.Launches old.projectId) (running : progress.status = .running) :
    old.status = .running := by
  cases moves with
  | inl same =>
    rw [same] at running
    exact running
  | inr moved =>
    cases moved.2 with
    | inl terminal => exact absurd running (RunStatus.isActive_eq_false.mp terminal).2
    | inr claimed => exact absurd claimed.2 quiet

theorem Moves.queued {old : Run} {progress : RunProgress} (moves : Moves operation old progress)
    (queued : progress.status = .queued) : old.status = .queued := by
  cases moves with
  | inl same =>
    rw [same] at queued
    exact queued
  | inr moved =>
    cases moved.2 with
    | inl terminal => exact absurd queued (RunStatus.isActive_eq_false.mp terminal).1
    | inr claimed => exact claimed.1

/-- A step that launches nothing of a project starts nothing of it. -/
theorem Step.paused (step : Step platform before operation after)
    (quiet : ¬operation.Launches projectId) : Paused projectId before after where
  mailboxes := fun jobId busy =>
    (step.mailboxesFollow projectId jobId busy).resolve_right quiet
  admissions := by
    intro run isRun ofProject
    cases step.runsFollow.origin run isRun with
    | inl isOld =>
      obtain ⟨old, isOld, progress, _, continues⟩ := isOld
      exact .inl ⟨old, isOld, progress, continues⟩
    | inr admitted =>
      cases admitted.2 with
      | inl audits => exact .inr ⟨admitted.1, audits.1, audits.2.1⟩
      | inr launched => exact absurd (ofProject ▸ launched.1) quiet
  claims := by
    intro run isRun ofProject running old isOld continues
    obtain ⟨progress, moves, isMoved⟩ := step.runsFollow.kept old isOld
    have same := Table.eq_of_key isRun isMoved continues.sameId
    rw [same] at running ofProject
    have oldQuiet : ¬operation.Launches old.projectId := by
      intro launches
      cases ofProject
      exact quiet launches
    exact moves.running oldQuiet running
  kept := by
    intro old isOld
    obtain ⟨progress, _, isMoved⟩ := step.runsFollow.kept old isOld
    exact ⟨_, isMoved, progress, rfl⟩

/-- Nothing of a held project starts, and it stays held, as long as the hold is not released. -/
theorem paused_of_run (held : before.Held projectId)
    (run : Trace (Step platform) before operations after)
    (notReleased : ∀ operator, .releaseProjectHold projectId operator ∉ operations) :
    after.Held projectId ∧ Paused projectId before after := by
  induction run with
  | nil => exact ⟨held, .refl projectId before⟩
  | @snoc labels middle last operation _ step ih =>
    obtain ⟨stillHeld, paused⟩ := ih fun operator isReleased =>
      notReleased operator (List.mem_append_left _ isReleased)
    refine ⟨step.held stillHeld fun operator isRelease => ?_,
      paused.trans (step.paused (step.not_launches stillHeld))⟩
    exact notReleased operator (List.mem_append_right _ (List.mem_singleton.mpr isRelease.symm))

/-! ## Children that wait -/

/-- A queued run is a child of a batch. -/
def QueuedChildren (ledger : Ledger) : Prop :=
  ∀ run ∈ ledger.runs, run.status = .queued → ∃ batch ∈ ledger.runs, Ownership.IsChild run batch

theorem Step.queuedChildren (step : Step platform before operation after)
    (queuedChildren : before.QueuedChildren) : after.QueuedChildren := by
  intro run isRun queued
  cases step.runsFollow.origin run isRun with
  | inl isOld =>
    obtain ⟨old, isOld, progress, moves, rfl⟩ := isOld
    obtain ⟨batch, isBatch, ofBatch⟩ := queuedChildren old isOld (moves.queued queued)
    obtain ⟨_, _, isMoved⟩ := step.runsFollow.kept batch isBatch
    exact ⟨_, isMoved, ofBatch⟩
  | inr admitted =>
    cases admitted.2 with
    | inl audits => cases audits.2.2.symm.trans queued
    | inr launched => exact launched.2 queued

/-- An operation closes one waiting run and touches nothing else of mailboxes and runs. -/
structure ClosesUnclaimed (projectId : ProjectId) (jobId : JobId) (runId : RunId)
    (before after : Ledger) : Prop where
  unclaimed : ∃ child ∈ before.runs, child.id = runId ∧ child.projectId = projectId ∧
    child.jobId = some jobId ∧ child.status = .queued ∧
      ∃ batch ∈ before.runs, Ownership.IsChild child batch
  closed : ∃ child ∈ after.runs, child.id = runId ∧ child.status = .cancelled
  others : ∀ run, run.id ≠ runId → (run ∈ after.runs ↔ run ∈ before.runs)
  mailboxes : after.jobs = before.jobs

variable {runId : RunId}

theorem cancelHeldChildRun_closes {jobId : JobId} {detail : String}
    (queuedChildren : ledger.QueuedChildren)
    (accepted : ledger.cancelHeldChildRun projectId jobId runId detail = .ok next) :
    ClosesUnclaimed projectId jobId runId ledger next := by
  simp only [cancelHeldChildRun, bind_eq_ok, demand_eq_ok, pure_eq_ok,
    Option.filter_eq_some_iff, Table.find_eq_some, Bool.and_eq_true,
    decide_eq_true_eq] at accepted
  obtain ⟨child, ⟨⟨isChild, sameId⟩, ⟨sameProject, sameJob⟩, queued⟩, rfl⟩ := accepted
  constructor
  case unclaimed =>
    exact ⟨child, isChild, sameId, sameProject, sameJob, queued,
      queuedChildren child isChild queued⟩
  case closed =>
    exact ⟨_, mem_setRuns.mpr ⟨child, isChild, (if_pos (decide_eq_true sameId)).symm⟩, sameId, rfl⟩
  case others =>
    intro run isOther
    refine mem_setRuns.trans ⟨?_, fun isRun => ⟨run, isRun, ?_⟩⟩
    · rintro ⟨old, isOld, rfl⟩
      split
      · next selected =>
          rw [if_pos selected] at isOther
          exact absurd (of_decide_eq_true selected) isOther
      · exact isOld
    · rw [if_neg (by simpa using isOther)]
  case mailboxes => rfl

/-- A run that ended stays as it is. -/
theorem closed_kept {run : Run} (ran : Trace (Step platform) before operations after)
    (isRun : run ∈ before.runs) (ended : run.status.isActive = false) : run ∈ after.runs := by
  refine ran.invariant (fun state : Ledger => run ∈ state.runs) isRun fun step isOld => ?_
  obtain ⟨progress, moves, isMoved⟩ := step.runsFollow.kept run isOld
  cases moves with
  | inl same =>
    rw [same] at isMoved
    exact isMoved
  | inr moved => exact absurd moved.1 (by simp [ended])

/-- A child that was cancelled while it waited stays cancelled. -/
theorem cancelled_of_run {jobId : JobId} {detail : String}
    (ran : Trace (Step platform) before operations after)
    (isCancelled : .cancelHeldChildRun projectId jobId runId detail ∈ operations) :
    ∃ run ∈ after.runs, run.id = runId ∧ run.status = .cancelled := by
  obtain ⟨earlier, later, rfl⟩ := List.append_of_mem isCancelled
  obtain ⟨middle, _, second⟩ := ran.of_append
  obtain ⟨closed, step, rest⟩ := second.of_cons
  obtain ⟨child, isChild, sameId, _, _, rfl⟩ := cancelHeldChildRun_ok step
  refine ⟨_, closed_kept rest (mem_setRuns.mpr ⟨child, isChild,
    (if_pos (decide_eq_true sameId)).symm⟩) rfl, sameId, rfl⟩

/-! ## What a batch is admitted on -/

/-- Whether a batch of some mailboxes is accepted, under identifiers of its own. -/
def Accepts (platform : LedgerPlatform) (ledger : Ledger) (projectId : ProjectId)
    (jobIds : List JobId) (engine : TransferEngine) (expectedPlans : List String)
    (planSnapshot : String) (childPlans : List BatchChildPlan) : Prop :=
  ∃ runId newRunId next, ledger.beginBatchRunWithChildren platform projectId jobIds runId engine
    expectedPlans planSnapshot childPlans newRunId = .ok next

/-- The checks on a batch before anything is written. -/
def batchChecks (platform : LedgerPlatform) (ledger : Ledger) (projectId : ProjectId)
    (jobIds : List JobId) (expectedPlans : List String) (planSnapshot : String)
    (childPlans : List BatchChildPlan) (newRunId : Nat → RunId) : Except LedgerError Project := do
  require (planSnapshot.utf8ByteSize ≤ maxPersistedProfileBytes &&
      childPlans.all fun plan => plan.planSnapshot.utf8ByteSize ≤ maxPersistedProfileBytes)
    (.rejection "a batch plan snapshot exceeds the persisted profile size limit")
  require (jobIds ≠ [] && jobIds.Nodup &&
      (expectedPlans = [] || expectedPlans.length = jobIds.length) &&
      (childPlans.isEmpty || childPlans.length = jobIds.length))
    (.rejection "the batch mailbox selection or plan list is inconsistent")
  let project ← demand (ledger.projects.find projectId)
  ledger.validateManagedCutoverRunAdmission projectId project.phase
  require (project.phase ≠ .complete) (.rejection "the project is complete")
  ledger.ensureNotHeld projectId
  let jobs ← (batchMembers jobIds expectedPlans childPlans newRunId).foldlM
    (ledger.admitBatchMember platform projectId) []
  ledger.ensureNoActiveDestinationLockConflict platform (jobs.map platform.lockIdentity)
    jobIds
  return project

variable {engine : TransferEngine} {childPlans : List BatchChildPlan}
variable {expectedPlans : List String}

/-- A batch is checked before it is recorded. -/
theorem beginBatchRunWithChildren_eq {jobIds : List JobId} {planSnapshot : String}
    {newRunId : Nat → RunId} :
    ledger.beginBatchRunWithChildren platform projectId jobIds runId engine expectedPlans
        planSnapshot childPlans newRunId = do
      let project ← ledger.batchChecks platform projectId jobIds expectedPlans planSnapshot
        childPlans newRunId
      let parent ← ledger.insertRun
        (parentRun projectId runId engine planSnapshot project.phase)
      let children ← (batchMembers jobIds expectedPlans childPlans newRunId).foldlM
        (insertChild projectId runId engine project.phase) parent
      return children.emit projectId (some runId) .runStarted := by
  simp only [beginBatchRunWithChildren, batchChecks, bind_assoc, pure_bind]

/-- The checks do not look at the identifiers of the new runs. -/
theorem batchChecks_newRunId (jobIds : List JobId) (expectedPlans : List String)
    (planSnapshot : String) (childPlans : List BatchChildPlan) (newRunId other : Nat → RunId) :
    ledger.batchChecks platform projectId jobIds expectedPlans planSnapshot childPlans newRunId =
      ledger.batchChecks platform projectId jobIds expectedPlans planSnapshot childPlans other := by
  have unnamed : ∀ ids : Nat → RunId,
      (batchMembers jobIds expectedPlans childPlans ids).foldlM
          (ledger.admitBatchMember platform projectId) [] =
        ((batchMembers jobIds expectedPlans childPlans ids).map
          ({ · with childRunId := "" })).foldlM
          (ledger.admitBatchMember platform projectId) [] := by
    intro ids
    rw [List.foldlM_map]
    rfl
  have sameMembers : (batchMembers jobIds expectedPlans childPlans newRunId).map
        ({ · with childRunId := "" }) =
      (batchMembers jobIds expectedPlans childPlans other).map ({ · with childRunId := "" }) := by
    apply List.ext_getElem
    · simp [batchMembers]
    · intro index _ _
      simp [batchMembers]
  simp only [batchChecks]
  rw [unnamed newRunId, unnamed other, sameMembers]

theorem batchMembers_childRunIds (jobIds : List JobId) (expectedPlans : List String)
    (childPlans : List BatchChildPlan) (newRunId : Nat → RunId) :
    (batchMembers jobIds expectedPlans childPlans newRunId).map (·.childRunId) =
      (List.range jobIds.length).map newRunId := by
  apply List.ext_getElem
  · simp [batchMembers]
  · intro index _ _
    simp [batchMembers]

/-- Runs under fresh identifiers can be recorded. -/
theorem insertRun_accepts (run : Run) (fresh : ∀ other ∈ ledger.runs, other.id ≠ run.id) :
    ∃ admitted, ledger.insertRun run = .ok admitted ∧
      ∀ other, other ∈ admitted.runs ↔ other ∈ ledger.runs ∨ other = run := by
  obtain ⟨runs, inserted⟩ := Table.insert_of_fresh fresh
  refine ⟨{ ledger with runs, facts := countRun 1 run ledger.facts }, ?_,
    fun other => Table.mem_insert inserted⟩
  rw [insertRun, inserted]
  rfl

theorem insertChildren_accepts {phase : Phase}
    {members : List BatchMember} (distinct : (members.map (·.childRunId)).Nodup)
    (fresh : ∀ member ∈ members, ∀ other ∈ ledger.runs, other.id ≠ member.childRunId) :
    ∃ children, members.foldlM (insertChild projectId runId engine phase) ledger =
      .ok children := by
  induction members generalizing ledger with
  | nil => exact ⟨ledger, rfl⟩
  | cons member rest ih =>
    rw [List.map_cons, List.nodup_cons] at distinct
    obtain ⟨admitted, inserted, isRun⟩ := insertRun_accepts
      (childRun projectId runId engine phase member) (fresh member List.mem_cons_self)
    have recorded : insertChild projectId runId engine phase ledger member =
        .ok (admitted.invalidateCutoverReadinessForNewRun projectId member.jobId
          member.childRunId) := by
      rw [insertChild, inserted]
      rfl
    rw [List.foldlM_cons, recorded, ok_bind]
    apply ih distinct.2
    intro other isOther run isAdmitted sameId
    cases (isRun run).mp isAdmitted with
    | inl isOld => exact fresh other (List.mem_cons_of_mem _ isOther) run isOld sameId
    | inr isNew =>
      rw [isNew] at sameId
      exact distinct.1 (List.mem_map.mpr ⟨other, isOther, sameId.symm⟩)

/-- There are always identifiers that no run has. -/
theorem exists_fresh (ledger : Ledger) : ∃ ids : Nat → RunId, Function.Injective ids ∧
    ∀ index, ∀ run ∈ ledger.runs, run.id ≠ ids index := by
  have strings : Infinite String :=
    Infinite.of_injective (fun count => String.ofList (List.replicate count 'a')) (by
      intro first second same
      have sameLists := congrArg String.toList same
      simp only [String.toList_ofList] at sameLists
      simpa using congrArg List.length sameLists)
  have unused : {id : String | ∀ run ∈ ledger.runs, run.id ≠ id}.Infinite := by
    have used : {id : String | ∃ run ∈ ledger.runs, run.id = id}.Finite := by
      refine (List.finite_toSet (ledger.runs.rows.map (·.id))).subset ?_
      rintro _ ⟨run, isRun, rfl⟩
      exact List.mem_map_of_mem isRun
    refine used.infinite_compl.mono ?_
    intro id isUnused run isRun sameId
    exact isUnused ⟨run, isRun, sameId⟩
  refine ⟨fun index => unused.natEmbedding _ index, ?_, fun index =>
    (unused.natEmbedding _ index).2⟩
  exact Subtype.val_injective.comp (unused.natEmbedding _).injective

/-- A batch is accepted once its checks pass. -/
theorem accepts_iff {jobIds : List JobId} {planSnapshot : String} :
    ledger.Accepts platform projectId jobIds engine expectedPlans planSnapshot childPlans ↔
      ∃ project, ledger.batchChecks platform projectId jobIds expectedPlans planSnapshot
        childPlans (fun _ => "") = .ok project := by
  constructor
  · intro accepts
    obtain ⟨runId, newRunId, next, accepted⟩ := accepts
    rw [beginBatchRunWithChildren_eq, bind_eq_ok] at accepted
    obtain ⟨project, checked, _⟩ := accepted
    exact ⟨project, (batchChecks_newRunId _ _ _ _ _ _).trans checked⟩
  · intro passes
    obtain ⟨project, checked⟩ := passes
    obtain ⟨ids, distinct, fresh⟩ := exists_fresh ledger
    obtain ⟨parent, inserted, isRun⟩ := insertRun_accepts
      (parentRun projectId (ids 0) engine planSnapshot project.phase) (fresh 0)
    obtain ⟨children, added⟩ : ∃ children,
        (batchMembers jobIds expectedPlans childPlans (ids <| · + 1)).foldlM
          (insertChild projectId (ids 0) engine project.phase) parent = .ok children := by
      apply insertChildren_accepts
      · rw [batchMembers_childRunIds]
        exact List.nodup_range.map fun first second same => Nat.succ.inj (distinct same)
      · intro member isMember run isParent sameId
        have isChildId := List.mem_map_of_mem (f := (·.childRunId)) isMember
        rw [batchMembers_childRunIds] at isChildId
        obtain ⟨index, _, isIndex⟩ := List.mem_map.mp isChildId
        cases (isRun run).mp isParent with
        | inl isOld => exact fresh (index + 1) run isOld (sameId.trans isIndex.symm)
        | inr isNew =>
          rw [isNew] at sameId
          exact Nat.succ_ne_zero index (distinct (sameId.trans isIndex.symm)).symm
    refine ⟨ids 0, (ids <| · + 1), children.emit projectId (some (ids 0)) .runStarted, ?_⟩
    rw [beginBatchRunWithChildren_eq, batchChecks_newRunId _ _ _ _ _ (fun _ => ""), checked,
      ok_bind, inserted, ok_bind, added, ok_bind]
    rfl

/-- A ledger with the mailboxes of another and all its runs of mailboxes but some. -/
structure Lacks (runIds : List RunId) (ledger other : Ledger) : Prop where
  now : other.now = ledger.now
  projects : other.projects = ledger.projects
  workflows : other.workflows = ledger.workflows
  holds : other.holds = ledger.holds
  jobs : other.jobs = ledger.jobs
  runs : ∀ run, run.jobId ≠ none →
    (run ∈ other.runs ↔ run ∈ ledger.runs ∧ run.id ∉ runIds)

/-- Without their rows. -/
theorem lacks_delete (ledger : Ledger) (runIds : List RunId) :
    Lacks runIds ledger { ledger with runs := ledger.runs.delete (·.id ∈ runIds) } where
  now := rfl
  projects := rfl
  workflows := rfl
  holds := rfl
  jobs := rfl
  runs := fun run _ => by rw [Table.mem_delete, decide_eq_false_iff_not]

/-- What an admission adds for the mailboxes of a batch are its children. -/
theorem beginBatchRunWithChildren_lacks {jobIds : List JobId} {planSnapshot : String}
    {newRunId : Nat → RunId}
    (accepted : ledger.beginBatchRunWithChildren platform projectId jobIds runId engine
      expectedPlans planSnapshot childPlans newRunId = .ok next) :
    Lacks ((List.range jobIds.length).map newRunId) next ledger := by
  obtain ⟨_, _, _, _, _, _, _, _, _, _, inserted, added, rfl⟩ :=
    beginBatchRunWithChildren_ok accepted
  obtain ⟨_, isInserted, rfl⟩ := insertRun_ok inserted
  obtain ⟨runs, _, _, rfl, isRun, fresh⟩ := insertChildren_ok added
  refine ⟨rfl, rfl, rfl, rfl, rfl, fun run ofMailbox => ?_⟩
  rw [← batchMembers_childRunIds jobIds expectedPlans childPlans newRunId]
  constructor
  · intro isOld
    have isEarlier := (Table.mem_insert isInserted).mpr (.inl isOld)
    refine ⟨(isRun run).mpr (.inl isEarlier), fun isChildId => ?_⟩
    obtain ⟨member, isMember, sameId⟩ := List.mem_map.mp isChildId
    exact fresh member isMember run isEarlier sameId.symm
  · intro lacking
    cases (isRun run).mp lacking.1 with
    | inl isEarlier =>
      cases (Table.mem_insert isInserted).mp isEarlier with
      | inl isOld => exact isOld
      | inr isParent =>
        rw [isParent] at ofMailbox
        exact absurd rfl ofMailbox
    | inr isChild =>
      obtain ⟨member, isMember, rfl⟩ := isChild
      exact absurd (List.mem_map.mpr ⟨member, isMember, rfl⟩) lacking.2

section Lacks

variable {other : Ledger} {runIds : List RunId} (lacks : Lacks runIds ledger other)
  (ended : ∀ run ∈ ledger.runs, run.id ∈ runIds → run.status.isActive = false)

include lacks ended

theorem Lacks.hasActiveRun (project : ProjectId) (jobId : JobId) :
    other.hasActiveRun project jobId = ledger.hasActiveRun project jobId := by
  rw [Bool.eq_iff_iff, Ledger.hasActiveRun, Ledger.hasActiveRun, Table.any_eq_true,
    Table.any_eq_true]
  apply exists_congr
  intro run
  rw [and_congr_left_iff]
  intro active
  rw [Bool.and_eq_true, Bool.and_eq_true, decide_eq_true_eq, decide_eq_true_eq] at active
  rw [lacks.runs run (by simp [active.1.2]), and_iff_left_iff_imp]
  intro isRun isLacking
  rw [ended run isRun isLacking] at active
  cases active.2

theorem Lacks.batchChecks (jobIds : List JobId) (expectedPlans : List String)
    (planSnapshot : String) (childPlans : List BatchChildPlan) (newRunId : Nat → RunId) :
    other.batchChecks platform projectId jobIds expectedPlans planSnapshot childPlans newRunId =
      ledger.batchChecks platform projectId jobIds expectedPlans planSnapshot childPlans
        newRunId := by
  have admission : ∀ project phase,
      other.validateManagedCutoverRunAdmission project phase =
        ledger.validateManagedCutoverRunAdmission project phase := by
    intro project phase
    simp only [validateManagedCutoverRunAdmission, validateCutoverRunStage, sourceQuiescenceError,
      lacks.workflows, lacks.now]
  have member : other.admitBatchMember platform = ledger.admitBatchMember platform := by
    funext project earlier member
    simp only [admitBatchMember, jobIn, lacks.jobs, lacks.hasActiveRun ended]
  have conflict : other.ensureNoActiveDestinationLockConflict platform =
      ledger.ensureNoActiveDestinationLockConflict platform := by
    funext candidates excluded
    simp only [ensureNoActiveDestinationLockConflict, noActiveDestinationLockConflict, lacks.jobs,
      lacks.hasActiveRun ended]
  simp only [Ledger.batchChecks, ensureNotHeld, admission, member, conflict, lacks.projects,
    lacks.holds]

/-- Runs that ended do not matter to a batch. -/
theorem Lacks.accepts_iff (jobIds : List JobId) (engine : TransferEngine)
    (expectedPlans : List String) (planSnapshot : String) (childPlans : List BatchChildPlan) :
    ledger.Accepts platform projectId jobIds engine expectedPlans planSnapshot childPlans ↔
      other.Accepts platform projectId jobIds engine expectedPlans planSnapshot childPlans := by
  rw [Ledger.accepts_iff, Ledger.accepts_iff, lacks.batchChecks ended]

end Lacks

end Ledger

/-- A hold stops launches.  Between a hold and its release nothing of the project starts.  A
child that is closed meanwhile was waiting in its batch, and its mailbox stays as it is.  For the
mailboxes of a batch an admission adds its children and nothing else, and as soon as some
children were closed in this way, batches are accepted as if those had never been added. -/
theorem Ledger.hold_stops_launches {platform : LedgerPlatform} {operations : List Operation}
    {ledger : Ledger} (run : Trace (Ledger.Step platform) {} operations ledger) :
    (∀ projectId operator reason held earlier middle later after,
      Ledger.Step platform ledger (.holdProject projectId operator reason) held →
      Trace (Ledger.Step platform) held earlier middle →
      Trace (Ledger.Step platform) middle later after →
      (∀ other, .releaseProjectHold projectId other ∉ earlier ++ later) →
      Ledger.Paused projectId middle after) ∧
    (∀ projectId jobId runId detail next,
      ledger.cancelHeldChildRun projectId jobId runId detail = .ok next →
      Ledger.ClosesUnclaimed projectId jobId runId ledger next) ∧
    (∀ projectId jobIds runId engine expectedPlans planSnapshot childPlans newRunId next,
      ledger.beginBatchRunWithChildren platform projectId jobIds runId engine expectedPlans
        planSnapshot childPlans newRunId = .ok next →
      Ledger.Lacks ((List.range jobIds.length).map newRunId) next ledger) ∧
    (∀ runIds other, Ledger.Lacks runIds ledger other →
      (∀ runId ∈ runIds, ∃ projectId jobId detail,
        .cancelHeldChildRun projectId jobId runId detail ∈ operations) →
      ∀ projectId jobIds engine expectedPlans planSnapshot childPlans,
        ledger.Accepts platform projectId jobIds engine expectedPlans planSnapshot childPlans ↔
          other.Accepts platform projectId jobIds engine expectedPlans planSnapshot
            childPlans) := by
  refine ⟨?_, ?_, ?_, ?_⟩
  · intro projectId operator reason held earlier middle later after holds first second
      notReleased
    have stillHeld := Ledger.paused_of_run (Ledger.holdProject_held holds) first
      fun other isReleased => notReleased other (List.mem_append_left _ isReleased)
    have paused := Ledger.paused_of_run stillHeld.1 second
      fun other isReleased => notReleased other (List.mem_append_right _ isReleased)
    exact paused.2
  · intro projectId jobId runId detail next accepted
    refine Ledger.cancelHeldChildRun_closes ?_ accepted
    refine run.invariant (·.QueuedChildren) ?_ fun step => step.queuedChildren
    exact fun _ isRun => absurd isRun (Table.not_mem_empty _)
  · intro projectId jobIds runId engine expectedPlans planSnapshot childPlans newRunId next
      accepted
    exact Ledger.beginBatchRunWithChildren_lacks accepted
  · intro runIds other lacks cancelled projectId
    apply lacks.accepts_iff
    intro child isChild isCancelled
    obtain ⟨_, jobId, detail, isClosing⟩ := cancelled child.id isCancelled
    obtain ⟨closed, isClosed, sameId, status⟩ := Ledger.cancelled_of_run run isClosing
    rw [← Table.eq_of_key isClosed isChild sameId, status]
    rfl

/-- The batch of the mailbox of a held project. -/
def heldBatch : Operation :=
  .beginBatchRunWithChildren "project" ["mailbox"] "batch" .imapsync [] "" [] fun _ => "child"

/-- A batch that a hold kept from starting: nothing started, its child was closed, and the mailbox
is accepted again. -/
theorem Ledger.held_batch_closed : ∃ (before held waiting closed later : Ledger),
    Trace (Ledger.Step .ascii) {} [
      .createProjectWithMailbox "project" "mailbox" "user@example.org", heldBatch] before ∧
    Ledger.Step .ascii before (.holdProject "project" "Alice" "freeze") held ∧
    Ledger.Paused "project" held waiting ∧
    Ledger.ClosesUnclaimed "project" "mailbox" "child" waiting closed ∧
    Trace (Ledger.Step .ascii) closed [
      .finishRun "batch" .cancelled "", .releaseProjectHold "project" "Bob"] later ∧
    later.Accepts .ascii "project" ["mailbox"] .imapsync [] "" [] := by
  obtain ⟨later, ran, accepted⟩ := Ledger.exists_run_under .ascii (fun _ _ => true) {} [
      .createProjectWithMailbox "project" "mailbox" "user@example.org", heldBatch,
      .holdProject "project" "Alice" "freeze", .setClock 1000,
      .cancelHeldChildRun "project" "mailbox" "child" "",
      .finishRun "batch" .cancelled "", .releaseProjectHold "project" "Bob"]
    (fun ledger => ((Ledger.beginBatchRunWithChildren .ascii
      { ledger with runs := ledger.runs.delete (·.id ∈ ["child"]) } "project" ["mailbox"] "next"
        .imapsync [] "" [] fun _ => "other").toOption.any fun _ => true)) (by decide +kernel)
  have steps : Trace (Ledger.Step .ascii) {} ([
      .createProjectWithMailbox "project" "mailbox" "user@example.org", heldBatch] ++ _) later :=
    ran.weaken And.right
  obtain ⟨before, first, rest⟩ := steps.of_append
  obtain ⟨held, holds, rest⟩ := rest.of_cons
  obtain ⟨waiting, waits, rest⟩ := rest.of_cons
  obtain ⟨closed, closes, rest⟩ := rest.of_cons
  obtain ⟨next, isAccepted, _⟩ := accepted_of_any accepted
  have middle : Trace (Ledger.Step .ascii) {} _ waiting := (first.snoc holds).snoc waits
  refine ⟨before, held, waiting, closed, later, first, holds, ?_, ?_, rest, ?_⟩
  · refine (Ledger.hold_stops_launches first).1 "project" "Alice" "freeze" held [] held
      [.setClock 1000] waiting holds .nil (.snoc .nil waits) fun other isRelease => ?_
    simp at isRelease
  · exact (Ledger.hold_stops_launches middle).2.1 "project" "mailbox" "child" "" closed closes
  · refine ((Ledger.hold_stops_launches steps).2.2.2 ["child"] _
      (Ledger.lacks_delete later ["child"]) ?_ "project" ["mailbox"] .imapsync [] "" []).mpr
        ⟨"next", fun _ => "other", next, isAccepted⟩
    intro runId isChild
    obtain rfl := List.mem_singleton.mp isChild
    exact ⟨"project", "mailbox", "", by simp⟩

end MailSwiftSync
