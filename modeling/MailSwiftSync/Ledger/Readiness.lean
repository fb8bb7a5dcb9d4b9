import MailSwiftSync.Ledger.EventLog
import MailSwiftSync.Ledger.Histories

/-!
# Readiness of a cutover

The last step of a cutover rests on an event that announces readiness.  Every admission of a run
withdraws it in the same transaction, so that whoever completes the cutover finds the evidence of
every mailbox as it was when readiness was announced.
-/

namespace MailSwiftSync

open Foundation

/-- Whether an operation admits a run of a project. -/
def Operation.AdmitsRun (projectId : ProjectId) : Operation → Prop
  | beginRunWithSnapshot admitted .. => admitted = projectId
  | beginBatchRunWithChildren admitted .. => admitted = projectId
  | beginVerificationRunFromTransfer admitted .. => admitted = projectId
  | _ => False

namespace Ledger

variable {platform : LedgerPlatform} {ledger before after next : Ledger}
  {projectId : ProjectId} {jobId : JobId} {runId : RunId} {operation : Operation}
  {ready : LedgerEvent}

/-! ## Stages -/

theorem find_setWorkflow {other : ProjectId} {change : CutoverWorkflow → CutoverWorkflow}
    (keepsKey : ∀ workflow, (change workflow).projectId = workflow.projectId)
    {workflow : CutoverWorkflow} (found : ledger.workflows.find projectId = some workflow) :
    (ledger.setWorkflow other change keepsKey).workflows.find projectId =
      some (if workflow.projectId = other then change workflow else workflow) := by
  rw [setWorkflow, Table.find_update, found, Option.map_some]
  simp only [decide_eq_true_eq]

/-- A stage stays or is followed by the next one. -/
theorem Step.stage (step : Step platform before operation after) {workflow : CutoverWorkflow}
    (found : before.workflows.find projectId = some workflow) :
    ∃ later, after.workflows.find projectId = some later ∧
      (later.stage = workflow.stage ∨ workflow.stage.next = some later.stage) := by
  cases operation with
  | createCutoverWorkflow =>
    obtain ⟨_, workflows, _, _, inserted, rfl⟩ := createCutoverWorkflow_ok step
    refine ⟨workflow, ?_, .inl rfl⟩
    obtain ⟨isRow, isKey⟩ := Table.find_eq_some.mp found
    exact Table.find_eq_some.mpr ⟨(Table.mem_insert inserted).mpr (.inl isRow), isKey⟩
  | approveCutover =>
    obtain ⟨_, _, _, _, _, _, _, rfl⟩ := approveCutover_ok step
    refine ⟨_, find_setWorkflow (by exact fun _ => rfl) found, .inl ?_⟩
    split <;> rfl
  | attestCutoverSourceQuiescence =>
    obtain ⟨_, _, _, rfl⟩ := attestCutoverSourceQuiescence_ok step
    refine ⟨_, find_setWorkflow (by exact fun _ => rfl) found, .inl ?_⟩
    split <;> rfl
  | advanceCutover advancedId =>
    simp only [Step, Operation.apply, bind_eq_ok, pure_eq_ok] at step
    obtain ⟨⟨_, _⟩, advanced, rfl⟩ := step
    obtain ⟨current, _, confirmation, isCurrent, _, _, _, _, isNext, _, rfl⟩ :=
      advanceCutover_ok advanced
    refine ⟨_, find_setWorkflow (by exact fun _ => rfl) found, ?_⟩
    split
    · next same =>
        obtain ⟨isRow, isKey⟩ := Table.find_eq_some.mp found
        obtain ⟨isCurrentRow, currentKey⟩ := Table.find_eq_some.mp isCurrent
        rw [Table.eq_of_key isRow isCurrentRow (same.trans currentKey.symm)]
        exact .inr isNext
    · exact .inl rfl
  | _ =>
    rw [step.kept.workflows (by simp [Operation.writes])]
    exact ⟨workflow, found, .inl rfl⟩

/-- A cutover has come to its final verification. -/
def Final (ledger : Ledger) (projectId : ProjectId) : Prop :=
  ∃ workflow, ledger.workflows.find projectId = some workflow ∧
    (workflow.stage = .verification ∨ workflow.stage = .completed)

/-- A cutover is completed. -/
def Completed (ledger : Ledger) (projectId : ProjectId) : Prop :=
  ∃ workflow, ledger.workflows.find projectId = some workflow ∧ workflow.stage = .completed

theorem Step.completed (step : Step platform before operation after)
    (completed : before.Completed projectId) : after.Completed projectId := by
  obtain ⟨workflow, found, isCompleted⟩ := completed
  obtain ⟨later, isLater, follows⟩ := step.stage found
  rw [isCompleted] at follows
  cases follows with
  | inl same => exact ⟨later, isLater, same⟩
  | inr next => cases next

theorem Step.final (step : Step platform before operation after)
    (final : before.Final projectId) : after.Final projectId := by
  obtain ⟨workflow, found, stage⟩ := final
  obtain ⟨later, isLater, follows⟩ := step.stage found
  refine ⟨later, isLater, ?_⟩
  cases stage with
  | inl verifying =>
    rw [verifying] at follows
    cases follows with
    | inl same => exact .inl same
    | inr next => exact .inr (Option.some.inj next).symm
  | inr completed =>
    rw [completed] at follows
    cases follows with
    | inl same => exact .inr same
    | inr next => cases next

/-! ## Publications -/

/-- The log is numbered, and readiness is announced in final verifications only. -/
structure LogSound (ledger : Ledger) : Prop where
  numbered : Numbered ledger.events
  published : ∀ event ∈ ledger.events, ∀ readiness, event.kind = .cutoverReady readiness →
    ledger.Final event.projectId

theorem logSound_empty : LogSound {} where
  numbered := numbered_nil
  published := by simp

theorem LogSound.step (sound : LogSound before) (step : Step platform before operation after) :
    LogSound after where
  numbered := step.logs.numbered sound.numbered
  published := by
    intro event isEvent readiness isReady
    obtain ⟨new, appended, published⟩ := step.logs.appended
    rw [appended, List.mem_append] at isEvent
    cases isEvent with
    | inl isOld => exact step.final (sound.published event isOld readiness isReady)
    | inr isNew =>
      obtain ⟨workflow, found, stage⟩ := published event isNew readiness isReady
      exact ⟨workflow, found, .inl stage⟩

theorem logSound_of_run {operations : List Operation}
    (run : Trace (Step platform) {} operations ledger) : LogSound ledger :=
  run.invariant LogSound logSound_empty fun step sound => sound.step step

theorem isCutoverReady_iff {event : LedgerEvent} : isCutoverReady projectId event = true ↔
    event.projectId = projectId ∧ ∃ readiness, event.kind = .cutoverReady readiness := by
  rw [isCutoverReady, Bool.and_eq_true, decide_eq_true_eq]
  apply and_congr_right
  intro _
  split
  · next readiness isReady => simp [isReady]
  · next notReady => simpa using notReady

/-! ## Withdrawals -/

/-- Readiness was withdrawn after an event. -/
def Withdrawn (ledger : Ledger) (projectId : ProjectId) (ready : LedgerEvent) : Prop :=
  ∃ invalidated ∈ ledger.events, isInvalidation projectId invalidated = true ∧
    ready.id < invalidated.id

theorem Withdrawn.mono (withdrawn : before.Withdrawn projectId ready)
    (kept : ∀ event ∈ before.events, event ∈ after.events) : after.Withdrawn projectId ready := by
  obtain ⟨invalidated, isEvent, isWithdrawal⟩ := withdrawn
  exact ⟨invalidated, kept invalidated isEvent, isWithdrawal⟩

/-- An admission in the final verification withdraws the readiness announced before it, unless
another admission of the mailbox has. -/
theorem withdrawn_invalidate (jobId : JobId) (runId : RunId) (numbered : Numbered ledger.events)
    (verifying : ledger.Verifying projectId) (isEvent : ready ∈ ledger.events)
    (isReady : isCutoverReady projectId ready = true) :
    (ledger.invalidateCutoverReadinessForNewRun projectId jobId runId).Withdrawn projectId
      ready := by
  obtain ⟨workflow, found, stage⟩ := verifying
  have inStage : (ledger.workflows.find projectId).any (·.stage = .verification) = true := by
    rw [found]
    exact decide_eq_true stage
  cases isLatest : ledger.latestEvent (isCutoverReady projectId) with
  | none => exact absurd isReady (latestEvent_eq_none.mp isLatest ready isEvent)
  | some latest =>
    obtain ⟨_, _, greatest⟩ := latestEvent_eq_some numbered isLatest
    rw [invalidateCutoverReadinessForNewRun, inStage, isLatest]
    cases already : ledger.invalidatedAfter projectId jobId latest with
    | true =>
      obtain ⟨invalidated, isOld, facts⟩ := List.any_eq_true.mp already
      rw [Bool.and_eq_true, Bool.and_eq_true, decide_eq_true_eq] at facts
      have after := (greatest ready isEvent isReady).trans_lt facts.2
      refine ⟨invalidated, ?_, facts.1.1, after⟩
      rw [announce]
      exact List.mem_append_left _ isOld
    | false =>
      have isNew : (⟨ledger.events.length + 1, projectId, some runId,
          .cutoverReadinessInvalidated⟩ : LedgerEvent) ∈ (ledger.announce projectId
            (some runId) (some .cutoverReadinessInvalidated)).events :=
        List.mem_append_right _ (List.mem_singleton.mpr rfl)
      refine ⟨⟨ledger.events.length + 1, projectId, some runId, .cutoverReadinessInvalidated⟩,
        ?_, ?_, Nat.lt_succ_of_le (numbered.le_length isEvent)⟩
      · simpa [already] using isNew
      · simp [isInvalidation]

theorem insertRun_log {run : Run} (inserted : ledger.insertRun run = .ok next) :
    next.events = ledger.events ∧ next.workflows = ledger.workflows := by
  obtain ⟨_, _, rfl⟩ := insertRun_ok inserted
  exact ⟨rfl, rfl⟩

/-- Some child of a batch withdraws readiness. -/
theorem withdrawn_insertChildren {engine : TransferEngine} {phase : Phase}
    {members : List BatchMember} (numbered : Numbered ledger.events)
    (verifying : ledger.Verifying projectId) (isEvent : ready ∈ ledger.events)
    (isReady : isCutoverReady projectId ready = true) (nonempty : members ≠ [])
    (ran : members.foldlM (insertChild projectId runId engine phase) ledger = .ok next) :
    next.Withdrawn projectId ready := by
  cases members with
  | nil => exact absurd rfl nonempty
  | cons member rest =>
    rw [List.foldlM_cons, bind_eq_ok] at ran
    obtain ⟨first, stepped, restRan⟩ := ran
    simp only [insertChild, bind_eq_ok, pure_eq_ok] at stepped
    obtain ⟨admitted, inserted, rfl⟩ := stepped
    obtain ⟨sameEvents, sameWorkflows⟩ := insertRun_log inserted
    have withdrawn : (admitted.invalidateCutoverReadinessForNewRun projectId member.jobId
        member.childRunId).Withdrawn projectId ready := by
      apply withdrawn_invalidate
      · rw [sameEvents]
        exact numbered
      · rw [Verifying, sameWorkflows]
        exact verifying
      · rw [sameEvents]
        exact isEvent
      · exact isReady
    have logs := (Logs.refl (fun _ => True) (admitted.invalidateCutoverReadinessForNewRun
      projectId member.jobId member.childRunId).events).insertChildren restRan
    exact withdrawn.mono fun event isOld => logs.mem isOld

theorem beginBatchRunWithChildren_nonempty {jobIds : List JobId} {engine : TransferEngine}
    {expectedPlans : List String} {planSnapshot : String} {childPlans : List BatchChildPlan}
    {newRunId : Nat → RunId}
    (accepted : ledger.beginBatchRunWithChildren platform projectId jobIds runId engine
      expectedPlans planSnapshot childPlans newRunId = .ok next) :
    batchMembers jobIds expectedPlans childPlans newRunId ≠ [] := by
  simp only [beginBatchRunWithChildren, bind_eq_ok, require_eq_ok, exists_const,
    Bool.and_eq_true, decide_eq_true_eq] at accepted
  obtain ⟨_, ⟨⟨⟨nonempty, _⟩, _⟩, _⟩, _⟩ := accepted
  intro isEmpty
  have noJobs := batchMembers_jobIds jobIds expectedPlans childPlans newRunId
  rw [isEmpty] at noJobs
  exact nonempty noJobs.symm

/-- Every admission of a run withdraws the readiness announced before it. -/
theorem Step.withdraws (step : Step platform before operation after)
    (admits : operation.AdmitsRun projectId) (numbered : Numbered before.events)
    (verifying : before.Verifying projectId) (isEvent : ready ∈ before.events)
    (isReady : isCutoverReady projectId ready = true) : after.Withdrawn projectId ready := by
  cases operation with
  | beginRunWithSnapshot _ jobId runId =>
    cases admits
    obtain ⟨_, _, admitted, _, _, _, _, _, _, _, inserted, rfl⟩ := beginRunWithSnapshot_ok step
    obtain ⟨sameEvents, sameWorkflows⟩ := insertRun_log inserted
    rw [← sameEvents] at numbered isEvent
    rw [Verifying, ← sameWorkflows] at verifying
    have withdrawn := withdrawn_invalidate jobId runId numbered verifying isEvent isReady
    exact withdrawn.mono fun event isOld => List.mem_append_left _ isOld
  | beginVerificationRunFromTransfer _ jobId runId =>
    cases admits
    obtain ⟨_, _, admitted, _, _, _, _, _, _, inserted, rfl⟩ :=
      beginVerificationRunFromTransfer_ok step
    obtain ⟨sameEvents, sameWorkflows⟩ := insertRun_log inserted
    rw [← sameEvents] at numbered isEvent
    rw [Verifying, ← sameWorkflows] at verifying
    have withdrawn := withdrawn_invalidate jobId runId numbered verifying isEvent isReady
    exact withdrawn.mono fun event isOld => List.mem_append_left _ isOld
  | beginBatchRunWithChildren =>
    cases admits
    have nonempty := beginBatchRunWithChildren_nonempty step
    obtain ⟨_, _, parent, _, _, _, _, _, _, _, inserted, added, rfl⟩ :=
      beginBatchRunWithChildren_ok step
    obtain ⟨sameEvents, sameWorkflows⟩ := insertRun_log inserted
    rw [← sameEvents] at numbered isEvent
    rw [Verifying, ← sameWorkflows] at verifying
    have withdrawn := withdrawn_insertChildren numbered verifying isEvent isReady nonempty added
    exact withdrawn.mono fun event isOld => List.mem_append_left _ isOld
  | _ => exact absurd admits id

/-- No run of a project was admitted since the readiness that is still current. -/
theorem no_admission_since {operations : List Operation} (sound : LogSound before)
    (run : Trace (Step platform) before operations after) (isEvent : ready ∈ before.events)
    (isReady : isCutoverReady projectId ready = true)
    (notWithdrawn : ¬after.Withdrawn projectId ready) (open_ : ¬after.Completed projectId) :
    ∀ operation ∈ operations, ¬operation.AdmitsRun projectId := by
  intro operation isOperation admits
  obtain ⟨earlier, later, rfl⟩ := List.append_of_mem isOperation
  obtain ⟨middle, first, rest⟩ := run.of_append
  obtain ⟨admitted, step, second⟩ := rest.of_cons
  have reached := first.invariant (fun state => LogSound state ∧ ready ∈ state.events)
    ⟨sound, isEvent⟩ fun step held => ⟨held.1.step step, step.logs.mem held.2⟩
  obtain ⟨ofProject, readiness, isPublication⟩ := isCutoverReady_iff.mp isReady
  obtain ⟨workflow, found, stage⟩ := reached.1.published ready reached.2 readiness isPublication
  rw [ofProject] at found
  have ends : ∀ {start : Ledger} {labels : List Operation},
      Trace (Step platform) start labels after → ¬start.Completed projectId :=
    fun remaining completed => open_ (remaining.invariant (·.Completed projectId) completed
      fun step => step.completed)
  have verifying : middle.Verifying projectId := by
    refine ⟨workflow, found, stage.resolve_right fun completed => ?_⟩
    exact ends (Trace.cons step second) ⟨workflow, found, completed⟩
  have withdrawn := step.withdraws admits reached.1.numbered verifying reached.2 isReady
  exact notWithdrawn (second.invariant (·.Withdrawn projectId ready) withdrawn
    fun step held => held.mono fun event => step.logs.mem)

/-! ## Completion -/

/-- Readiness that is current has not been withdrawn. -/
theorem current_ready (numbered : Numbered ledger.events)
    (current : ledger.currentCutoverReadyEvent projectId = true) :
    ∃ ready ∈ ledger.events, isCutoverReady projectId ready = true ∧
      (∀ other ∈ ledger.events, isCutoverReady projectId other = true → other.id ≤ ready.id) ∧
      ¬ledger.Withdrawn projectId ready ∧ ledger.cutoverReadyEventIsCurrent ready = true := by
  rw [currentCutoverReadyEvent, Option.any_eq_true] at current
  obtain ⟨ready, isLatest, facts⟩ := current
  rw [Bool.and_eq_true] at facts
  obtain ⟨isEvent, isReady, greatest⟩ := latestEvent_eq_some numbered isLatest
  refine ⟨ready, isEvent, isReady, greatest, ?_, facts.2⟩
  intro withdrawn
  obtain ⟨invalidated, isInvalidated, isWithdrawal, after⟩ := withdrawn
  have none := facts.1
  cases isLast : ledger.latestEvent (isInvalidation projectId) with
  | none => exact latestEvent_eq_none.mp isLast invalidated isInvalidated isWithdrawal
  | some last =>
    obtain ⟨_, _, last_greatest⟩ := latestEvent_eq_some numbered isLast
    rw [isLast] at none
    have earlier : last.id < ready.id := of_decide_eq_true none
    have within := last_greatest invalidated isInvalidated isWithdrawal
    exact absurd (after.trans_le within) (Nat.lt_asymm earlier)

/-- What is collected was found for every item. -/
theorem exists_of_mapM {α β : Type} {find : α → Option β} {items : List α} {results : List β}
    (collected : items.mapM find = some results) :
    ∀ item ∈ items, ∃ result, find item = some result := by
  induction items generalizing results with
  | nil => simp
  | cons item rest ih =>
    simp only [List.mapM_cons, Option.bind_eq_bind, Option.bind_eq_some_iff] at collected
    obtain ⟨result, found, others, restCollected, _⟩ := collected
    intro other isOther
    cases List.mem_cons.mp isOther with
    | inl same =>
      rw [same]
      exact ⟨result, found⟩
    | inr isRest => exact ih restCollected other isRest

/-- Every mailbox of a project has evidence to complete its cutover on. -/
theorem isFinalEvidence_of_summary {job : MailboxJob}
    (settled : ledger.everyMailboxSettled projectId = true)
    (summary : (ledger.finalVerificationEvidenceSummary projectId).isSome = true)
    (isJob : job ∈ ledger.jobs) (ofProject : job.projectId = projectId) :
    ∃ row, ledger.evidence.find job.id = some row ∧ ledger.isFinalEvidence job row = true := by
  have certified := (certified_of_settled settled).2 job isJob ofProject
  have isVerified : job.state = .verified ∨ job.state = .verifiedWithExceptions :=
    (certified_iff.mp certified).imp_right And.left
  obtain ⟨counts, isSummary⟩ := Option.isSome_iff_exists.mp summary
  simp only [finalVerificationEvidenceSummary, Option.bind_eq_bind,
    Option.bind_eq_some_iff] at isSummary
  obtain ⟨verdicts, collected, _⟩ := isSummary
  have isMember : job ∈ (ledger.projectJobs projectId).filter fun job =>
      job.state = .verified || job.state = .verifiedWithExceptions :=
    List.mem_filter.mpr ⟨Table.mem_select.mpr ⟨isJob, decide_eq_true ofProject⟩, by
      simpa using isVerified⟩
  obtain ⟨verdict, isVerdict⟩ := exists_of_mapM collected job isMember
  simp only [finalVerificationEvidence, Option.bind_eq_bind, Option.bind_eq_some_iff] at isVerdict
  obtain ⟨row, found, checked⟩ := isVerdict
  refine ⟨row, found, ?_⟩
  by_contra notFinal
  rw [if_neg notFinal] at checked
  cases checked

end Ledger

/-- What the completion of a cutover rests on.  The current evidence of every mailbox is the last
its history records.  It comes from a completed run of the mailbox that was admitted in the
verification phase and started after every event by which a run of this mailbox withdrew
readiness, and no run of the mailbox is active.  No run of the project was admitted since the
readiness that the completion accepted. -/
theorem Ledger.cutover_completion_sound {platform : LedgerPlatform} {operations : List Operation}
    {ledger next : Ledger} (run : Trace (Ledger.ClockStep platform) {} operations ledger)
    {projectId : ProjectId} {confirmation : Option String}
    (advanced : ledger.advanceCutover projectId confirmation = .ok (next, .completed)) :
    (∀ job ∈ ledger.jobs, job.projectId = projectId →
      ∃ row, ledger.evidence.find job.id = some row ∧
        (ledger.history.filter (·.jobId = job.id)).getLast? = some row ∧
        (∀ other ∈ ledger.history, other.jobId = job.id → other.capturedAt ≤ row.capturedAt) ∧
        (∃ verification ∈ ledger.runs, verification.id = row.runId ∧
          verification.jobId = some job.id ∧ verification.phaseAtStart = .verification ∧
            verification.status = .completed) ∧
        (∀ invalidated ∈ ledger.events, Ledger.isInvalidation projectId invalidated = true →
          ledger.eventOfJob job.id invalidated = true →
          ∃ start ∈ ledger.events, Ledger.isStart row.runId start = true ∧
            invalidated.id < start.id) ∧
        ∀ other ∈ ledger.runs, other.jobId = some job.id → other.status.isActive = false) ∧
    ∃ ready ∈ ledger.events, Ledger.isCutoverReady projectId ready = true ∧
      (∀ other ∈ ledger.events, Ledger.isCutoverReady projectId other = true →
        other.id ≤ ready.id) ∧
      ledger.cutoverReadyEventIsCurrent ready = true ∧
      ∀ earlier middle later, Trace (Ledger.Step platform) {} earlier middle →
        ready ∈ middle.events → Trace (Ledger.Step platform) middle later ledger →
        ∀ operation ∈ later, ¬operation.AdmitsRun projectId := by
  have steps : Trace (Ledger.Step platform) {} operations ledger := run.weaken And.left
  have history := Ledger.historySound_of_run run
  have log := Ledger.logSound_of_run steps
  obtain ⟨workflow, _, _, found, _, _, _, settled, isNext, final, _⟩ :=
    Ledger.advanceCutover_ok advanced
  obtain ⟨summary, current⟩ := final rfl
  refine ⟨fun job isJob ofProject => ?_, ?_⟩
  · obtain ⟨row, isCurrent, isFinal⟩ :=
      Ledger.isFinalEvidence_of_summary settled summary isJob ofProject
    obtain ⟨isRow, ofJob⟩ := Table.find_eq_some.mp isCurrent
    rw [Ledger.isFinalEvidence, Bool.and_eq_true, Bool.and_eq_true, Bool.and_eq_true] at isFinal
    obtain ⟨⟨⟨verified, latest⟩, idle⟩, started⟩ := isFinal
    have isLast := history.eq_latest isCurrent latest
    refine ⟨row, isCurrent, isLast, fun other isOther => history.capturedAt_le isLast isOther, ?_,
      ?_, ?_⟩
    · rw [Option.any_eq_true] at verified
      obtain ⟨verification, isFound, facts⟩ := verified
      rw [Bool.and_eq_true, decide_eq_true_eq, decide_eq_true_eq] at facts
      obtain ⟨isRun, sameId⟩ := Table.find_eq_some.mp isFound
      obtain ⟨source, isSource, sourceId, sourceJob, _⟩ :=
        history.source row (history.current row isRow)
      have same := Table.eq_of_key isRun isSource (sameId.trans sourceId.symm)
      refine ⟨verification, isRun, sameId, ?_, facts⟩
      rw [same, sourceJob, ofJob]
    · intro invalidated isInvalidated isWithdrawal linked
      cases isLatest : ledger.latestEvent fun event =>
          Ledger.isInvalidation job.projectId event && ledger.eventOfJob job.id event with
      | none =>
        have never := Ledger.latestEvent_eq_none.mp isLatest invalidated isInvalidated
        rw [ofProject, isWithdrawal, linked] at never
        exact absurd rfl never
      | some last =>
        obtain ⟨_, _, greatest⟩ := Ledger.latestEvent_eq_some log.numbered isLatest
        have within := greatest invalidated isInvalidated (by
          rw [ofProject, isWithdrawal, linked]
          rfl)
        rw [isLatest, Option.all_some, Option.any_eq_true] at started
        obtain ⟨start, isStart, after⟩ := started
        obtain ⟨isEvent, starts, _⟩ := Ledger.latestEvent_eq_some log.numbered isStart
        exact ⟨start, isEvent, starts, within.trans_lt (of_decide_eq_true after)⟩
    · intro other isOther otherJob
      rw [Bool.not_eq_true', Table.any_eq_false] at idle
      have inactive := idle other isOther
      rw [otherJob, decide_eq_true rfl, Bool.true_and, Bool.not_eq_true] at inactive
      exact inactive
  · obtain ⟨ready, isEvent, isReady, greatest, notWithdrawn, isCurrent⟩ :=
      Ledger.current_ready log.numbered current
    refine ⟨ready, isEvent, isReady, greatest, isCurrent, ?_⟩
    intro earlier middle later first isEarlier second
    refine Ledger.no_admission_since (Ledger.logSound_of_run first) second isEarlier isReady
      notWithdrawn ?_
    rintro ⟨other, isOther, completed⟩
    cases found.symm.trans isOther
    rw [completed] at isNext
    cases isNext

/-! ## Two mailboxes -/

/-- One pass over a mailbox, with evidence of the engine itself. -/
def Operation.verifiedPassOf (jobId : JobId) (runId : RunId) : List Operation :=
  [.beginRunWithSnapshot "project" jobId runId .imapsync "",
    .finishRunForMailboxWithEvidence "project" jobId runId .completed .verified ""
      { MailboxEvidence.ofThree with verificationMethod := .nativeDovecot } [] none none]

/-- A managed cutover of two mailboxes up to its last step.  In the final verification the second
mailbox is transferred once more, after readiness had been announced. -/
def Operation.cutoverOfTwo : List Operation :=
  [.createBatchQueue "project" [
      { destinationMailbox := "first@example.org", destinationIdentity := "first", config := "" },
      { destinationMailbox := "second@example.org", destinationIdentity := "second", config := "" }]
      (fun position => if position = 0 then "first" else "second") fun _ => "plan",
    .transition "project" .preflight,
    .createCutoverWorkflow "project" "2026-01-01T00:00:00Z" none,
    .approveCutover "project" "operator"] ++
  verifiedPassOf "first" "first-seed" ++ verifiedPassOf "second" "second-seed" ++
  [.advanceCutover "project" none] ++
  verifiedPassOf "first" "first-catch-up" ++ verifiedPassOf "second" "second-catch-up" ++
  [.attestCutoverSourceQuiescence "project" "operator" "paused",
    .advanceCutover "project" none] ++
  verifiedPassOf "first" "first-final-delta" ++ verifiedPassOf "second" "second-final-delta" ++
  [.advanceCutover "project" none,
    .attestCutoverSourceQuiescence "project" "operator" "paused"] ++
  verifiedPassOf "first" "first-final" ++ verifiedPassOf "second" "second-final" ++
  verifiedPassOf "second" "second-again"

namespace Ledger

/-- A replay that leaves the clock alone does not turn it back. -/
theorem exists_clock_run (platform : LedgerPlatform) (operations : List Operation)
    (check : Ledger → Bool)
    (replayed : (replay platform (fun _ operation => .clock ∉ operation.writes) {}
      operations).toOption.any check = true) :
    ∃ ledger, Trace (ClockStep platform) {} operations ledger ∧ check ledger = true := by
  obtain ⟨ledger, run, checked⟩ := exists_run_under platform _ {} operations check replayed
  refine ⟨ledger, run.weaken fun step => ⟨step.2, ?_⟩, checked⟩
  rw [step.2.kept.clock (of_decide_eq_true step.1)]

/-- Whether the cutover of the examples may be completed. -/
def completes (ledger : Ledger) : Bool :=
  (ledger.advanceCutover "project" (some "confirmed")).toOption.any (·.2 = .completed)

theorem exists_of_completes {ledger : Ledger} (completes : ledger.completes = true) :
    ∃ next, ledger.advanceCutover "project" (some "confirmed") = .ok (next, .completed) := by
  obtain ⟨⟨next, stage⟩, advanced, isCompleted⟩ := accepted_of_any completes
  cases of_decide_eq_true isCompleted
  exact ⟨next, advanced⟩

end Ledger

/-- A mailbox whose evidence is the last of its history when the cutover completes. -/
theorem Ledger.completed_on_last_evidence : ∃ (ledger next : Ledger) (job : MailboxJob)
    (row : EvidenceRow), Trace (Ledger.ClockStep .ascii) {} Operation.cutoverOfTwo ledger ∧
      ledger.advanceCutover "project" (some "confirmed") = .ok (next, .completed) ∧
      job ∈ ledger.jobs ∧ job.projectId = "project" ∧
      ledger.evidence.find job.id = some row ∧
      (ledger.history.filter (·.jobId = job.id)).getLast? = some row := by
  obtain ⟨ledger, run, checked⟩ := Ledger.exists_clock_run .ascii Operation.cutoverOfTwo
    (fun ledger => ledger.completes && ledger.jobs.any (·.projectId = "project"))
    (by decide +kernel)
  rw [Bool.and_eq_true, Table.any_eq_true] at checked
  obtain ⟨completes, job, isJob, ofProject⟩ := checked
  have ofProject := of_decide_eq_true ofProject
  obtain ⟨next, advanced⟩ := Ledger.exists_of_completes completes
  obtain ⟨row, isCurrent, isLast, _⟩ :=
    (Ledger.cutover_completion_sound run advanced).1 job isJob ofProject
  exact ⟨ledger, next, job, row, run, advanced, isJob, ofProject, isCurrent, isLast⟩

/-- The evidence of a mailbox may be older than an event that withdrew readiness for another. -/
theorem Ledger.evidence_before_withdrawal : ¬∀ (platform : LedgerPlatform)
    (operations : List Operation) (ledger next : Ledger) (projectId : ProjectId)
    (confirmation : Option String), Trace (Ledger.ClockStep platform) {} operations ledger →
      ledger.advanceCutover projectId confirmation = .ok (next, .completed) →
      ∀ job ∈ ledger.jobs, job.projectId = projectId →
        ∀ row, ledger.evidence.find job.id = some row →
          ∀ invalidated ∈ ledger.events, Ledger.isInvalidation projectId invalidated = true →
            ∃ start ∈ ledger.events, Ledger.isStart row.runId start = true ∧
              invalidated.id < start.id := by
  intro always
  obtain ⟨ledger, run, checked⟩ := Ledger.exists_clock_run .ascii Operation.cutoverOfTwo
    (fun ledger => ledger.completes && ledger.jobs.any fun job => job.projectId = "project" &&
      (ledger.evidence.find job.id).any fun row => ledger.events.any fun invalidated =>
        Ledger.isInvalidation "project" invalidated && ledger.events.all fun start =>
          !Ledger.isStart row.runId start || decide (start.id ≤ invalidated.id))
    (by decide +kernel)
  rw [Bool.and_eq_true, Table.any_eq_true] at checked
  obtain ⟨completes, job, isJob, older⟩ := checked
  rw [Bool.and_eq_true, Option.any_eq_true] at older
  obtain ⟨ofProject, row, isCurrent, withdrawn⟩ := older
  obtain ⟨invalidated, isEvent, facts⟩ := List.any_eq_true.mp withdrawn
  rw [Bool.and_eq_true, List.all_eq_true] at facts
  obtain ⟨next, advanced⟩ := Ledger.exists_of_completes completes
  obtain ⟨start, isStart, starts, after⟩ := always .ascii _ ledger next "project" _ run advanced
    job isJob (of_decide_eq_true ofProject) row isCurrent invalidated isEvent facts.1
  have earlier := facts.2 start isStart
  rw [starts, Bool.not_true, Bool.false_or, decide_eq_true_eq] at earlier
  exact absurd after (Nat.not_lt.mpr earlier)

end MailSwiftSync
