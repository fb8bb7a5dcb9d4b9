import MailSwiftSync.Ledger.Refinement

/-!
# Owners, batches and recovery

What holds in every ledger that the program can reach: a mailbox has one owner, a
finished batch has only finished children, and a restart leaves nothing open.
-/

namespace MailSwiftSync

open Foundation

variable {platform : LedgerPlatform} {operations : List Operation} {ledger : Ledger}

namespace Ledger

theorem sound_empty : (Ledger.ownership {}).Sound where
  mailboxKey := fun _ _ _ ⟨_, isJob, _⟩ => absurd isJob (Table.not_mem_empty _)
  runKey := fun _ isRun => absurd isRun (Table.not_mem_empty _)
  runMailbox := fun _ isRun => absurd isRun (Table.not_mem_empty _)
  parentKnown := fun _ isRun => absurd isRun (Table.not_mem_empty _)
  oneActive := fun _ isRun => absurd isRun (Table.not_mem_empty _)
  busyIff := fun _ => ⟨fun ⟨_, isJob, _⟩ => absurd isJob (Table.not_mem_empty _),
    fun ⟨_, isRun, _⟩ => absurd isRun (Table.not_mem_empty _)⟩
  queuedChild := fun _ isRun => absurd isRun (Table.not_mem_empty _)
  activeChild := fun _ isRun => absurd isRun (Table.not_mem_empty _)
  completedBatch := fun _ isRun => absurd isRun (Table.not_mem_empty _)

/-- Ownership is sound in every reachable ledger. -/
theorem sound_of_run (run : Trace (DisciplinedStep platform) {} operations ledger) :
    ledger.ownership.Sound :=
  run.invariant (·.ownership.Sound) sound_empty fun step sound =>
    sound.step (DisciplinedStep.ownership sound step)

theorem run_of_active {job : MailboxJob} (sound : ledger.ownership.Sound)
    (isJob : job ∈ ledger.jobs) :
    job.state = .running ↔ ∃ run ∈ ledger.runs, run.jobId = some job.id ∧
      run.isTransfer = true ∧ run.status = .running := by
  refine Iff.trans ⟨fun running => ⟨job, isJob, rfl, running⟩, ?_⟩ (sound.busyIff job.id)
  rintro ⟨row, isRow, sameId, running⟩
  rwa [← Table.eq_of_key isRow isJob sameId]

end Ledger

/-- One owner per mailbox. -/
theorem Ledger.one_owner_per_mailbox
    (run : Trace (Ledger.DisciplinedStep platform) {} operations ledger) {job : MailboxJob}
    (isJob : job ∈ ledger.jobs) :
    (∀ first ∈ ledger.runs, ∀ second ∈ ledger.runs, first.jobId = some job.id →
      second.jobId = some job.id → first.status.isActive = true →
        second.status.isActive = true → first = second) ∧
    (job.state = .running ↔ ∃! owner, owner ∈ ledger.runs ∧ owner.jobId = some job.id ∧
      owner.isTransfer = true ∧ owner.status = .running) := by
  have sound := Ledger.sound_of_run run
  have unique : ∀ first ∈ ledger.runs, ∀ second ∈ ledger.runs, first.jobId = some job.id →
      second.jobId = some job.id → first.status.isActive = true →
        second.status.isActive = true → first = second :=
    fun first isFirst second isSecond ofJob otherJob =>
      sound.oneActive first isFirst second isSecond job.id ofJob otherJob
  refine ⟨unique, ?_⟩
  rw [Ledger.run_of_active sound isJob]
  constructor
  · rintro ⟨owner, isOwner, ofJob, transfers, running⟩
    refine ⟨owner, ⟨isOwner, ofJob, transfers, running⟩, ?_⟩
    rintro other ⟨isOther, otherJob, _, otherRunning⟩
    exact unique other isOther owner isOwner otherJob ofJob
      (RunStatus.isActive_eq_true.mpr (.inr otherRunning))
      (RunStatus.isActive_eq_true.mpr (.inr running))
  · rintro ⟨owner, ⟨isOwner, facts⟩, _⟩
    exact ⟨owner, isOwner, facts⟩

/-- The engine of the examples. -/
def TransferEngine.imapsync : TransferEngine where
  name := "imapsync"
  transfers := by decide

/-- A running transfer is the one owner of its mailbox. -/
theorem Ledger.one_owner_of_single_run : ∃ (operations : List Operation) (ledger : Ledger)
    (job : MailboxJob), Trace (Ledger.DisciplinedStep .ascii) {} operations ledger ∧
      job ∈ ledger.jobs ∧ job.state = .running ∧
      ∃! owner, owner ∈ ledger.runs ∧ owner.jobId = some job.id ∧
        owner.isTransfer = true ∧ owner.status = .running := by
  obtain ⟨ledger, run, started⟩ := Ledger.exists_run_of_replay .ascii {} [
      .createProjectWithMailbox "project" "mailbox" "user@example.org",
      .beginRunWithSnapshot "project" "mailbox" "run" .imapsync ""]
    (fun ledger => ledger.jobs.any (·.state = .running)) (by decide)
  obtain ⟨job, isJob, running⟩ := Table.any_eq_true.mp started
  have running := of_decide_eq_true running
  exact ⟨_, ledger, job, run, isJob, running,
    (Ledger.one_owner_per_mailbox run isJob).2.mp running⟩

/-! ## Batches -/

namespace Ledger

/-- A run that ended stays as it is, whatever happens later. -/
theorem ended_kept {later : Ledger} (sound : ledger.ownership.Sound) {run : Run}
    (isRun : run ∈ ledger.runs) (ended : run.status.isActive = false)
    (continued : Trace (DisciplinedStep platform) ledger operations later) :
    run ∈ later.runs := by
  have both := continued.invariant (fun state => state.ownership.Sound ∧ run ∈ state.runs)
    ⟨sound, isRun⟩ fun step held => ⟨held.1.step (DisciplinedStep.ownership held.1 step),
      held.1.ended_kept (DisciplinedStep.ownership held.1 step) held.2 ended⟩
  exact both.2

/-- A claim needs a running batch. -/
theorem claim_refused {parent : Run} {projectId : ProjectId} {jobId : JobId}
    {childRunId : RunId} (isParent : parent ∈ ledger.runs)
    (ended : parent.status.isActive = false) (next : Ledger) :
    ledger.claimBatchMailboxForChild projectId jobId parent.id childRunId ≠ .ok next := by
  intro accepted
  obtain ⟨_, other, _, _, _, _, _, _, _, _, isOther, sameId, _, running, _⟩ :=
    claimBatchMailboxForChild_ok accepted
  rw [Table.eq_of_key isOther isParent sameId] at running
  exact (RunStatus.isActive_eq_false.mp ended).2 running

end Ledger

/-- Batches summarise their children. -/
theorem Ledger.batches_summarise_children
    (run : Trace (Ledger.DisciplinedStep platform) {} operations ledger) {batch : Run}
    (isBatch : batch ∈ ledger.runs) (noMailbox : batch.jobId = none) :
    (batch.status.isActive = false → ∀ child ∈ ledger.runs,
      child.parentRunId = some batch.id → child.status.isActive = false) ∧
    (batch.status = .completed → ∀ child ∈ ledger.runs,
      child.parentRunId = some batch.id → child.status = .completed) ∧
    ∀ more later, Trace (Ledger.DisciplinedStep platform) ledger more later →
      (∀ child ∈ ledger.runs, child.parentRunId = some batch.id →
        child.status.isActive = false → child ∈ later.runs) ∧
      (batch.status.isActive = false → ∀ projectId jobId childRunId next,
        later.claimBatchMailboxForChild projectId jobId batch.id childRunId ≠ .ok next) := by
  have sound := Ledger.sound_of_run run
  refine ⟨?_, ?_, ?_⟩
  · intro ended child isChild ofBatch
    cases active : child.status.isActive with
    | false => rfl
    | true =>
      have running := sound.activeChild child isChild batch isBatch ⟨ofBatch, noMailbox⟩ active
      exact absurd running (RunStatus.isActive_eq_false.mp ended).2
  · intro completed child isChild ofBatch
    exact sound.completedBatch child isChild batch isBatch ⟨ofBatch, noMailbox⟩ completed
  · intro more later continued
    constructor
    · intro child isChild _ ended
      exact Ledger.ended_kept sound isChild ended continued
    · intro ended projectId jobId childRunId next
      exact Ledger.claim_refused (Ledger.ended_kept sound isBatch ended continued) ended next

/-- A completed batch of one mailbox. -/
theorem Ledger.completed_batch_of_one : ∃ (operations : List Operation) (ledger : Ledger)
    (batch child : Run), Trace (Ledger.DisciplinedStep .ascii) {} operations ledger ∧
      batch ∈ ledger.runs ∧ batch.jobId = none ∧ batch.status = .completed ∧
      child ∈ ledger.runs ∧ child.parentRunId = some batch.id ∧ child.status = .completed := by
  obtain ⟨ledger, run, closed⟩ := Ledger.exists_run_of_replay .ascii {} [
      .createProjectWithMailbox "project" "mailbox" "user@example.org",
      .beginBatchRunWithChildren "project" ["mailbox"] "batch" .imapsync [] "" [] fun _ => "child",
      .claimBatchMailboxForChild "project" "mailbox" "batch" "child",
      .finishRunForMailbox "project" "mailbox" "child" .completed .completed "" none none,
      .finishRun "batch" .completed ""]
    (fun ledger => ledger.runs.any fun batch =>
      decide (batch.jobId = none ∧ batch.status = .completed) &&
        ledger.runs.any (·.parentRunId = some batch.id)) (by decide)
  obtain ⟨batch, isBatch, closed⟩ := Table.any_eq_true.mp closed
  rw [Bool.and_eq_true, decide_eq_true_eq, Table.any_eq_true] at closed
  obtain ⟨⟨noMailbox, completed⟩, child, isChild, ofBatch⟩ := closed
  have ofBatch := of_decide_eq_true ofBatch
  exact ⟨_, ledger, batch, child, run, isBatch, noMailbox, completed, isChild, ofBatch,
    (Ledger.batches_summarise_children run isBatch noMailbox).2.1 completed child isChild ofBatch⟩

/-! ## Recovery -/

namespace Ledger

/-- The process rows of a ledger belong to its runs and mailboxes. -/
def ProcessesKnown (ledger : Ledger) : Prop :=
  ∀ row ∈ ledger.processes, (∃ run ∈ ledger.runs, run.id = row.runId) ∧
    (∃ job ∈ ledger.jobs, job.id = row.jobId) ∧ row.startTicks.all fitsI64 = true

/-- Whether processes can be recorded again. -/
def Insertable (ledger : Ledger) (preserved : List ActiveProcess) : Prop :=
  (∀ process ∈ preserved, (∃ run ∈ ledger.runs, run.id = process.runId) ∧
    (∃ job ∈ ledger.jobs, job.id = process.jobId) ∧
    process.startTicks.all fitsI64 = true) ∧
  (preserved.map fun process => (process.runId, process.jobId)).Nodup

theorem insertProcess_known {process : ActiveProcess} {next : Ledger}
    (accepted : ledger.insertProcess process = .ok next) :
    (∃ run ∈ ledger.runs, run.id = process.runId) ∧
      (∃ job ∈ ledger.jobs, job.id = process.jobId) ∧
      process.startTicks.all fitsI64 = true := by
  simp only [insertProcess, bind_eq_ok, require_eq_ok, demand_eq_ok, pure_eq_ok, exists_const,
    Bool.and_eq_true, Option.isSome_iff_exists, Table.find_eq_some] at accepted
  obtain ⟨inRange, ⟨⟨run, isRun⟩, job, isJob⟩, _⟩ := accepted
  exact ⟨⟨run, isRun⟩, ⟨job, isJob⟩, inRange⟩

theorem insertProcess_accepts {process : ActiveProcess}
    (known : (∃ run ∈ ledger.runs, run.id = process.runId) ∧
      (∃ job ∈ ledger.jobs, job.id = process.jobId) ∧
      process.startTicks.all fitsI64 = true)
    (fresh : ∀ row ∈ ledger.processes, row.key ≠ (process.runId, process.jobId)) :
    ∃ processes, ledger.insertProcess process = .ok { ledger with processes } ∧
      processes.rows = ledger.processes.rows ++ [ledger.processRow process] := by
  obtain ⟨⟨run, isRun, runId⟩, ⟨job, isJob, jobId⟩, inRange⟩ := known
  have runFound := Table.find_eq_some.mpr ⟨isRun, runId⟩
  have jobFound := Table.find_eq_some.mpr ⟨isJob, jobId⟩
  have fresh : ∀ row ∈ ledger.processes, row.key ≠ (ledger.processRow process).key := fresh
  obtain ⟨processes, inserted⟩ := Table.insert_of_fresh fresh
  refine ⟨processes, ?_, (Table.insert_eq_some inserted).2⟩
  simp only [insertProcess, inRange, runFound, jobFound, inserted]
  rfl

variable {preserved : List ActiveProcess}

/-- Recording processes again gives them the current time. -/
theorem insertProcesses_accepts (insertable : ledger.Insertable preserved)
    (fresh : ∀ process ∈ preserved, ∀ row ∈ ledger.processes,
      row.key ≠ (process.runId, process.jobId)) :
    ∃ processes, preserved.foldlM insertProcess ledger = .ok { ledger with processes } ∧
      processes.rows = ledger.processes.rows ++ preserved.map ledger.processRow := by
  induction preserved generalizing ledger with
  | nil => exact ⟨ledger.processes, rfl, by simp⟩
  | cons process rest ih =>
    obtain ⟨known, distinct⟩ := insertable
    rw [List.map_cons, List.nodup_cons] at distinct
    obtain ⟨between, inserted, rows⟩ := insertProcess_accepts
      (known process List.mem_cons_self) (fresh process List.mem_cons_self)
    have restInsertable : ({ ledger with processes := between } : Ledger).Insertable rest :=
      ⟨fun other isOther => known other (List.mem_cons_of_mem _ isOther), distinct.2⟩
    obtain ⟨processes, ran, allRows⟩ := ih restInsertable (by
      intro other isOther row isRow sameKey
      rw [← Table.mem_rows, rows, List.mem_append, List.mem_singleton] at isRow
      rcases isRow with isOld | rfl
      · exact fresh other (List.mem_cons_of_mem _ isOther) row isOld sameKey
      · exact distinct.1 (List.mem_map.mpr ⟨other, isOther, sameKey.symm⟩))
    refine ⟨processes, ?_, ?_⟩
    · rw [List.foldlM_cons, inserted, ok_bind]
      exact ran
    · rw [allRows, rows, List.append_assoc]
      rfl

/-- What a recovery could record, it can record again. -/
theorem insertable_of_ran {next : Ledger}
    (ran : preserved.foldlM insertProcess ledger = .ok next) : ledger.Insertable preserved := by
  have held := foldlM_invariant
    (motive := fun done (current : Ledger) => ledger.Insertable done ∧
      (∃ processes, current = { ledger with processes }) ∧
      ∀ process ∈ done, ledger.processRow process ∈ current.processes)
    ⟨⟨by simp, by simp⟩, ⟨ledger.processes, rfl⟩, by simp⟩ ?_ ran
  · exact held.1
  rintro done process _ after ⟨⟨known, distinct⟩, ⟨processes, rfl⟩, recorded⟩ stepped
  have processKnown := insertProcess_known stepped
  obtain ⟨processes', inserted, rfl⟩ := insertProcess_ok stepped
  refine ⟨⟨?_, ?_⟩, ⟨processes', rfl⟩, ?_⟩
  · intro other isOther
    rcases List.mem_append.mp isOther with earlier | last
    · exact known other earlier
    · rwa [List.mem_singleton.mp last]
  · rw [List.map_append, List.map_singleton]
    refine List.nodup_append.mpr ⟨distinct, List.nodup_singleton _, ?_⟩
    rintro key isKey other isOther rfl
    obtain ⟨earlier, isEarlier, sameKey⟩ := List.mem_map.mp isKey
    exact (Table.insert_eq_some inserted).1 _ (recorded earlier isEarlier)
      (sameKey.trans (List.mem_singleton.mp isOther))
  · intro other isOther
    rw [Table.mem_insert inserted]
    rcases List.mem_append.mp isOther with earlier | last
    · exact .inl (recorded other earlier)
    · rw [List.mem_singleton.mp last]
      exact .inr rfl

/-- The processes after a recovery. -/
theorem recover_processes {next : Ledger}
    (accepted : ledger.recoverAbandonedJobsPreserving preserved = .ok next) :
    ledger.abandonRuns.Insertable preserved ∧
      next.processes.rows = preserved.map ledger.processRow := by
  simp only [recoverAbandonedJobsPreserving, bind_eq_ok, pure_eq_ok] at accepted
  obtain ⟨recovered, ran, rfl⟩ := accepted
  have insertable := insertable_of_ran ran
  obtain ⟨processes, again, rows⟩ := insertProcesses_accepts insertable
    fun _ _ row isRow => absurd isRow (Table.not_mem_empty row)
  obtain rfl := Except.ok.inj (ran.symm.trans again)
  obtain ⟨events, emitted, _⟩ := emitAll_eq .runRecovered ledger.interruptedProjects
    { ledger.abandonRuns with processes }
  refine ⟨insertable, ?_⟩
  rw [emitted]
  exact rows

/-- A process row is an old one, or known to the ledger that records it. -/
theorem processes_of_step {before after : Ledger} {operation : Operation}
    (step : Step platform before operation after) :
    ∀ row ∈ after.processes, row ∈ before.processes ∨
      ((∃ run ∈ before.runs, run.id = row.runId) ∧
        (∃ job ∈ before.jobs, job.id = row.jobId) ∧ row.startTicks.all fitsI64 = true) ∨
      ((∃ run ∈ after.runs, run.id = row.runId) ∧
        (∃ job ∈ after.jobs, job.id = row.jobId) ∧ row.startTicks.all fitsI64 = true) := by
  intro row isRow
  by_cases written : LedgerTable.processes ∈ operation.writes
  · cases operation with
    | finishRun =>
      obtain ⟨_, _, _, _, _, _, _, rfl⟩ := finishRun_ok step
      exact .inl (Table.mem_delete.mp isRow).1
    | finishRunForMailbox =>
      obtain ⟨_, _, _, _, _, _, _, _, _, _, _, _, _, rfl⟩ := finishRunForMailbox_ok step
      exact .inl (Table.mem_delete.mp isRow).1
    | finishRunForMailboxWithEvidence =>
      obtain ⟨_, _, _, _, _, _, _, _, _, _, _, rfl⟩ := finishRunForMailboxWithEvidence_ok step
      exact .inl (Table.mem_delete.mp isRow).1
    | registerProcess =>
      obtain ⟨⟨run, isRun, sameId, _, found⟩, inRange, rfl⟩ := registerProcess_ok step
      rcases Table.mem_upsert.mp isRow with rfl | ⟨isOld, _⟩
      · obtain ⟨job, isJob⟩ := Option.isSome_iff_exists.mp found
        obtain ⟨isJob, jobId, _⟩ := jobIn_eq_some.mp isJob
        exact .inr (.inl ⟨⟨run, isRun, sameId⟩, ⟨job, isJob, jobId⟩, inRange⟩)
      · exact .inl isOld
    | clearProcesses =>
      cases step
      exact .inl (Table.mem_delete.mp isRow).1
    | clearActiveProcessesAfterReview =>
      cases step
      exact absurd isRow (Table.not_mem_empty row)
    | recoverAbandonedJobsPreserving =>
      obtain ⟨insertable, rows⟩ := recover_processes step
      obtain ⟨_, _, rfl, _⟩ := recoverAbandonedJobsPreserving_ok step
      rw [← Table.mem_rows, rows] at isRow
      obtain ⟨process, isProcess, rfl⟩ := List.mem_map.mp isRow
      exact .inr (.inr (insertable.1 process isProcess))
    | _ => simp [Operation.writes] at written
  · rw [step.kept.processes written] at isRow
    exact .inl isRow

/-- Process rows belong to the runs and mailboxes of every reachable ledger. -/
theorem processes_known (run : Trace (DisciplinedStep platform) {} operations ledger) :
    ledger.ProcessesKnown := by
  have both := run.invariant (fun state => state.ownership.Sound ∧ state.ProcessesKnown)
    ⟨sound_empty, fun row isRow => absurd isRow (Table.not_mem_empty row)⟩ ?_
  · exact both.2
  intro before operation after step held
  have ownership := DisciplinedStep.ownership held.1 step
  have carry : ∀ row : ActiveProcessRow, (∃ run ∈ before.runs, run.id = row.runId) ∧
      (∃ job ∈ before.jobs, job.id = row.jobId) ∧ row.startTicks.all fitsI64 = true →
      (∃ run ∈ after.runs, run.id = row.runId) ∧
      (∃ job ∈ after.jobs, job.id = row.jobId) ∧ row.startTicks.all fitsI64 = true := by
    rintro row ⟨⟨run, isRun, runId⟩, ⟨job, isJob, jobId⟩, inRange⟩
    obtain ⟨progress, isKept⟩ := ownership.run_kept isRun
    have known : (job.id, job.projectId) ∈ before.ownership.mailboxes := ⟨job, isJob, rfl, rfl⟩
    obtain ⟨kept, isKeptJob, sameId, _⟩ := ownership.mailbox_kept known
    exact ⟨⟨_, isKept, runId⟩, ⟨kept, isKeptJob, sameId.trans jobId⟩, inRange⟩
  refine ⟨held.1.step ownership, fun row isRow => ?_⟩
  rcases processes_of_step step.step row isRow with isOld | known | known
  · exact carry row (held.2 row isOld)
  · exact carry row known
  · exact known

/-- Mailboxes and runs after a recovery. -/
theorem jobs_of_recover {next : Ledger}
    (accepted : ledger.recoverAbandonedJobsPreserving preserved = .ok next) {job : MailboxJob} :
    job ∈ next.jobs ↔ ∃ old ∈ ledger.jobs, job = if old.state = .running then
      { old with
        state := .attention
        attentionReason := some .processIdentityUnverified }
      else old := by
  obtain ⟨_, _, rfl, _⟩ := recoverAbandonedJobsPreserving_ok accepted
  have rows : job ∈ (ledger.setJobs (·.state = .running) ({ · with
      state := .attention
      attentionReason := some .processIdentityUnverified })).jobs ↔ _ := mem_setJobs
  simp only [decide_eq_true_eq] at rows
  exact rows

theorem runs_ended_of_recover {next : Ledger} (sound : ledger.ownership.Sound)
    (accepted : ledger.recoverAbandonedJobsPreserving preserved = .ok next) {run : Run}
    (isRun : run ∈ next.runs) : run.status.isActive = false := by
  obtain ⟨_, _, rfl, _⟩ := recoverAbandonedJobsPreserving_ok accepted
  have isRun : run ∈ ledger.abandonRuns.ownership.runs := isRun
  rw [runs_abandonRuns sound] at isRun
  obtain ⟨old, _, rfl⟩ := isRun
  simp only [Ownership.withProgress, abandonedProgress]
  split
  · rfl
  · split
    · rfl
    · next notRunning notQueued => exact RunStatus.isActive_eq_false.mpr ⟨notQueued, notRunning⟩

/-- Registered processes can be recorded again. -/
theorem insertable_of_registered (sound : ledger.ownership.Sound) (known : ledger.ProcessesKnown)
    (registered : ∀ process ∈ preserved, ∃ row ∈ ledger.processes,
      row.toActiveProcess = process)
    (distinct : (preserved.map fun process => (process.runId, process.jobId)).Nodup) :
    ledger.abandonRuns.Insertable preserved := by
  refine ⟨fun process isProcess => ?_, distinct⟩
  obtain ⟨row, isRow, rfl⟩ := registered process isProcess
  obtain ⟨⟨run, isRun, runId⟩, ⟨job, isJob, jobId⟩, inRange⟩ := known row isRow
  have isAbandoned : Ownership.withProgress abandonedProgress run ∈
      ledger.abandonRuns.ownership.runs := by
    rw [runs_abandonRuns sound]
    exact ⟨run, isRun, rfl⟩
  have isKnown : (job.id, job.projectId) ∈ ledger.abandonRuns.ownership.mailboxes :=
    (mailboxes_setJobs ledger _ _).symm ▸ ⟨job, isJob, rfl, rfl⟩
  obtain ⟨kept, isKept, sameId, _⟩ := isKnown
  exact ⟨⟨_, isAbandoned, runId⟩, ⟨kept, isKept, sameId.trans jobId⟩, inRange⟩

/-- A recovery of mailboxes and runs that are all closed changes nothing. -/
theorem abandonRuns_of_closed (closedRuns : ∀ run ∈ ledger.runs, run.status.isActive = false)
    (closedJobs : ∀ job ∈ ledger.jobs, job.state ≠ .running) :
    ledger.abandonRuns = ledger ∧ ledger.interruptedProjects = [] := by
  have notRunning : ∀ run ∈ ledger.runs, decide (run.status = .running) = false :=
    fun run isRun => decide_eq_false (RunStatus.isActive_eq_false.mp (closedRuns run isRun)).2
  have notQueued : ∀ run ∈ ledger.runs, decide (run.status = .queued) = false :=
    fun run isRun => decide_eq_false (RunStatus.isActive_eq_false.mp (closedRuns run isRun)).1
  have closed : ledger.closeRunning = ledger := by
    rw [closeRunning, setJobs_of_none fun job isJob => decide_eq_false (closedJobs job isJob),
      setRuns_of_none notRunning]
  constructor
  · rw [abandonRuns, closed, setRuns_of_none]
    intro run isRun
    rw [notQueued run isRun, Bool.false_and]
  · have none : ledger.runs.select (fun run => run.status = .running || (run.status = .queued &&
        ledger.runs.any fun parent => run.parentRunId = some parent.id &&
          parent.status = .running && parent.jobId = none)) = [] := by
      refine List.filter_eq_nil_iff.mpr fun run isRun => ?_
      simp [notRunning run isRun, notQueued run isRun]
    rw [interruptedProjects, none]
    rfl

/-- The second of two recoveries only records the processes again. -/
theorem recover_again {after : Ledger} (sound : ledger.ownership.Sound)
    (accepted : ledger.recoverAbandonedJobsPreserving preserved = .ok after) (now : Nat) :
    ∃ again, ({ after with now } : Ledger).recoverAbandonedJobsPreserving preserved = .ok again ∧
      again = { after with now, processes := again.processes } ∧
      again.processes.rows = after.processes.rows.map ({ · with startedAt := now / 1000 }) := by
  obtain ⟨insertable, rows⟩ := recover_processes accepted
  have closedRuns : ∀ run ∈ after.runs, run.status.isActive = false :=
    fun run isRun => runs_ended_of_recover sound accepted isRun
  have closedJobs : ∀ job ∈ after.jobs, job.state ≠ .running := by
    intro job isJob
    obtain ⟨old, _, rfl⟩ := (jobs_of_recover accepted).mp isJob
    split
    · simp
    · assumption
  have unchanged : ({ after with now } : Ledger).abandonRuns = { after with now } ∧
      ({ after with now } : Ledger).interruptedProjects = [] :=
    abandonRuns_of_closed closedRuns closedJobs
  obtain ⟨sameRows, quiet⟩ := unchanged
  have insertableAgain :
      ({ after with now, processes := .empty } : Ledger).Insertable preserved := by
    obtain ⟨_, _, rfl, _⟩ := recoverAbandonedJobsPreserving_ok accepted
    exact insertable
  obtain ⟨processes, ran, newRows⟩ := insertProcesses_accepts insertableAgain
    fun _ _ row isRow => absurd isRow (Table.not_mem_empty row)
  refine ⟨{ after with now, processes }, ?_, rfl, ?_⟩
  · rw [recoverAbandonedJobsPreserving, sameRows, quiet, ran]
    rfl
  · rw [newRows, rows, List.map_map]
    rfl

end Ledger

/-- Recovery is complete, keeps what was closed, and can be repeated: a second recovery
only gives the preserved processes a new start time. -/
theorem Ledger.recovery_complete
    (run : Trace (Ledger.DisciplinedStep platform) {} operations ledger) :
    (∀ preserved : List ActiveProcess,
      (∀ process ∈ preserved, ∃ row ∈ ledger.processes, row.toActiveProcess = process) →
      (preserved.map fun process => (process.runId, process.jobId)).Nodup →
      ∃ after, ledger.recoverAbandonedJobsPreserving preserved = .ok after) ∧
    ∀ preserved after, ledger.recoverAbandonedJobsPreserving preserved = .ok after →
      (∀ run ∈ after.runs, run.status.isActive = false) ∧
      (∀ job ∈ after.jobs, job.state ≠ .running) ∧
      (∀ job ∈ ledger.jobs, job.state = .running →
        { job with
          state := .attention
          attentionReason := some .processIdentityUnverified } ∈ after.jobs) ∧
      (∀ job ∈ ledger.jobs, job.state ≠ .running → job ∈ after.jobs) ∧
      (∀ run ∈ ledger.runs, run.status.isActive = false → run ∈ after.runs) ∧
      ∀ now, ∃ again,
        ({ after with now } : Ledger).recoverAbandonedJobsPreserving preserved = .ok again ∧
        again = { after with now, processes := again.processes } ∧
        again.processes.rows = after.processes.rows.map ({ · with startedAt := now / 1000 }) := by
  have sound := Ledger.sound_of_run run
  refine ⟨fun preserved registered distinct => ?_, fun preserved after accepted => ?_⟩
  · have insertable : ({ ledger.abandonRuns with processes := .empty } : Ledger).Insertable
        preserved :=
      Ledger.insertable_of_registered sound (Ledger.processes_known run) registered distinct
    obtain ⟨processes, ran, _⟩ := Ledger.insertProcesses_accepts insertable
      fun _ _ row isRow => absurd isRow (Table.not_mem_empty row)
    rw [Ledger.recoverAbandonedJobsPreserving, ran]
    exact ⟨_, rfl⟩
  · refine ⟨fun run isRun => Ledger.runs_ended_of_recover sound accepted isRun, ?_, ?_, ?_, ?_,
      Ledger.recover_again sound accepted⟩
    · intro job isJob
      obtain ⟨old, _, rfl⟩ := (Ledger.jobs_of_recover accepted).mp isJob
      split
      · simp
      · assumption
    · intro job isJob running
      exact (Ledger.jobs_of_recover accepted).mpr ⟨job, isJob, by rw [if_pos running]⟩
    · intro job isJob notRunning
      exact (Ledger.jobs_of_recover accepted).mpr ⟨job, isJob, by rw [if_neg notRunning]⟩
    · intro run isRun ended
      exact sound.ended_kept (Ledger.recoverAbandonedJobsPreserving_ownership sound accepted)
        isRun ended

/-- The process of the examples. -/
def ActiveProcess.transfer : ActiveProcess where
  runId := "run"
  jobId := "mailbox"
  pid := 42
  startTicks := some 7

/-- A crash with a transfer under way and its process still registered. -/
theorem Ledger.recovery_of_single_run : ∃ (operations : List Operation) (ledger after : Ledger)
    (job : MailboxJob), Trace (Ledger.DisciplinedStep .ascii) {} operations ledger ∧
      job ∈ ledger.jobs ∧ job.state = .running ∧
      ledger.recoverAbandonedJobsPreserving [.transfer] = .ok after ∧
      { job with
        state := .attention
        attentionReason := some .processIdentityUnverified } ∈ after.jobs := by
  obtain ⟨ledger, run, crashed⟩ := Ledger.exists_run_of_replay .ascii {} [
      .createProjectWithMailbox "project" "mailbox" "user@example.org",
      .beginRunWithSnapshot "project" "mailbox" "run" .imapsync "",
      .registerProcess .transfer]
    (fun ledger => ledger.jobs.any (·.state = .running) &&
      ledger.processes.any (·.toActiveProcess = .transfer)) (by decide)
  rw [Bool.and_eq_true, Table.any_eq_true, Table.any_eq_true] at crashed
  obtain ⟨⟨job, isJob, running⟩, row, isRow, isProcess⟩ := crashed
  have running := of_decide_eq_true running
  obtain ⟨recovers, complete⟩ := Ledger.recovery_complete run
  obtain ⟨after, accepted⟩ := recovers [.transfer]
    (fun process isMember => by
      rw [List.mem_singleton] at isMember
      exact ⟨row, isRow, (of_decide_eq_true isProcess).trans isMember.symm⟩) (by decide)
  exact ⟨_, ledger, after, job, run, isJob, running, accepted,
    (complete [.transfer] after accepted).2.2.1 job isJob running⟩

/-- Repeating a recovery five seconds later is visible in the process rows. -/
theorem Ledger.recovery_not_idempotent : ¬ ∀ (platform : LedgerPlatform)
    (operations : List Operation) (ledger first second : Ledger) (preserved : List ActiveProcess)
    (now : Nat), Trace (Ledger.DisciplinedStep platform) {} operations ledger →
      ledger.recoverAbandonedJobsPreserving preserved = .ok first → first.now ≤ now →
      ({ first with now } : Ledger).recoverAbandonedJobsPreserving preserved = .ok second →
      second.processes.rows = first.processes.rows := by
  intro idempotent
  obtain ⟨ledger, run, crashed⟩ := Ledger.exists_run_of_replay .ascii {} [
      .createProjectWithMailbox "project" "mailbox" "user@example.org",
      .beginRunWithSnapshot "project" "mailbox" "run" .imapsync "",
      .registerProcess .transfer]
    (fun ledger =>
      (ledger.recoverAbandonedJobsPreserving [.transfer]).toOption.any fun (first : Ledger) =>
        (({ first with now := 5000 } : Ledger).recoverAbandonedJobsPreserving
          [.transfer]).toOption.any fun (second : Ledger) =>
            decide (first.now ≤ 5000 ∧ second.processes.rows ≠ first.processes.rows))
    (by decide)
  obtain ⟨first, accepted, crashed⟩ := accepted_of_any crashed
  obtain ⟨second, again, differ⟩ := accepted_of_any crashed
  have differ := of_decide_eq_true differ
  exact differ.2 (idempotent .ascii _ ledger first second [.transfer] 5000 run accepted
    differ.1 again)

end MailSwiftSync
