import MailSwiftSync.Ledger.Launches

/-!
# Histories of evidence

A run leaves evidence once, when it ends, and the current evidence of a mailbox is one entry of
its history.  On a clock that does not run backwards the history is in the order of capture, so
that the entry captured last is the entry recorded last.
-/

namespace MailSwiftSync

open Foundation

namespace Ledger

variable {platform : LedgerPlatform} {ledger before after : Ledger} {operation : Operation}

/-! ## Recording -/

/-- A running run of a mailbox ends and leaves evidence. -/
structure Captures (before after : Ledger) (row : EvidenceRow) : Prop where
  running : ∃ run ∈ before.runs, run.id = row.runId ∧ run.jobId = some row.jobId ∧
    run.status = .running
  closed : ∃ run ∈ after.runs, run.id = row.runId ∧ run.status = .completed
  capturedAt : row.capturedAt = before.currentTimestamp
  recorded : after.history = before.history ++ [row]
  current : after.evidence = before.evidence ∨ after.evidence = before.evidence.upsert row

/-- What an operation does to the evidence. -/
theorem Step.captures (step : Step platform before operation after) :
    (after.history = before.history ∧ after.evidence = before.evidence) ∨
      ∃ row, Captures before after row := by
  cases operation with
  | finishRunForMailboxWithEvidence projectId jobId runId runStatus mailboxState detail value =>
    obtain ⟨_, run, _, isRun, sameId, _, ofJob, running, _, _, _, rfl⟩ :=
      finishRunForMailboxWithEvidence_ok step
    refine .inr ⟨before.committedRow jobId runId mailboxState value, ?_⟩
    constructor
    case running => exact ⟨run, isRun, sameId, ofJob, running⟩
    case closed =>
      exact ⟨_, mem_setRuns.mpr ⟨run, isRun, (if_pos (decide_eq_true sameId)).symm⟩, sameId, rfl⟩
    case capturedAt => rfl
    case recorded => rfl
    case current => exact .inr rfl
  | finishVerificationOnlyRun projectId jobId runId value =>
    obtain ⟨run, isRun, sameId, _, ofJob, running, rfl⟩ := finishVerificationOnlyRun_ok step
    refine .inr ⟨⟨jobId, runId, stored value, before.currentTimestamp⟩, ?_⟩
    constructor
    case running => exact ⟨run, isRun, sameId, ofJob, running⟩
    case closed =>
      exact ⟨_, mem_setRuns.mpr ⟨run, isRun, (if_pos (decide_eq_true sameId)).symm⟩, sameId, rfl⟩
    case capturedAt => rfl
    case recorded => rfl
    case current => exact .inl rfl
  | _ => exact .inl ⟨step.kept.history (by simp [Operation.writes]),
      step.kept.evidence (by simp [Operation.writes])⟩

/-- One accepted operation, during which the clock does not run backwards. -/
def ClockStep (platform : LedgerPlatform) (before : Ledger) (operation : Operation)
    (after : Ledger) : Prop :=
  Step platform before operation after ∧ before.now ≤ after.now

/-! ## What histories are like -/

/-- Each entry comes from a run of its mailbox that has ended, no run has two, entries are in
the order of their capture, and the current evidence is among them. -/
structure HistorySound (ledger : Ledger) : Prop where
  past : ∀ row ∈ ledger.history, row.capturedAt ≤ ledger.currentTimestamp
  source : ∀ row ∈ ledger.history, ∃ run ∈ ledger.runs, run.id = row.runId ∧
    run.jobId = some row.jobId ∧ run.status.isActive = false
  distinct : (ledger.history.map (·.runId)).Nodup
  ordered : ledger.history.Pairwise (·.capturedAt ≤ ·.capturedAt)
  current : ∀ row ∈ ledger.evidence, row ∈ ledger.history

theorem historySound_empty : HistorySound {} where
  past := by simp
  source := by simp
  distinct := List.nodup_nil
  ordered := List.Pairwise.nil
  current := fun _ isRow => absurd isRow (Table.not_mem_empty _)

/-- A run that ended is found again. -/
theorem source_kept (step : Step platform before operation after) {row : EvidenceRow}
    (source : ∃ run ∈ before.runs, run.id = row.runId ∧ run.jobId = some row.jobId ∧
      run.status.isActive = false) :
    ∃ run ∈ after.runs, run.id = row.runId ∧ run.jobId = some row.jobId ∧
      run.status.isActive = false := by
  obtain ⟨run, isRun, sameId, ofJob, ended⟩ := source
  obtain ⟨progress, moves, isMoved⟩ := step.runsFollow.kept run isRun
  cases moves with
  | inl same =>
    refine ⟨_, isMoved, sameId, ofJob, ?_⟩
    rw [same]
    exact ended
  | inr moved => exact absurd moved.1 (by simp [ended])

/-- The run that leaves evidence has left none before. -/
theorem HistorySound.fresh (sound : HistorySound before) {row : EvidenceRow}
    (captures : Captures before after row) : ∀ old ∈ before.history, old.runId ≠ row.runId := by
  intro old isOld sameRun
  obtain ⟨run, isRun, sameId, _, running⟩ := captures.running
  obtain ⟨ended, isEnded, endedId, _, inactive⟩ := sound.source old isOld
  have same := Table.eq_of_key isEnded isRun (endedId.trans (sameRun.trans sameId.symm))
  rw [same, running] at inactive
  cases inactive

theorem HistorySound.step (sound : HistorySound before)
    (step : ClockStep platform before operation after) : HistorySound after := by
  have later : before.currentTimestamp ≤ after.currentTimestamp := Nat.div_le_div_right step.2
  cases step.1.captures with
  | inl unchanged =>
    obtain ⟨sameHistory, sameEvidence⟩ := unchanged
    constructor
    case past =>
      rw [sameHistory]
      exact fun row isRow => (sound.past row isRow).trans later
    case source =>
      rw [sameHistory]
      exact fun row isRow => source_kept step.1 (sound.source row isRow)
    case distinct =>
      rw [sameHistory]
      exact sound.distinct
    case ordered =>
      rw [sameHistory]
      exact sound.ordered
    case current =>
      rw [sameHistory, sameEvidence]
      exact sound.current
  | inr captured =>
    obtain ⟨row, captures⟩ := captured
    constructor
    case past =>
      intro entry isEntry
      rw [captures.recorded, List.mem_append, List.mem_singleton] at isEntry
      cases isEntry with
      | inl isOld => exact (sound.past entry isOld).trans later
      | inr isNew =>
        rw [isNew, captures.capturedAt]
        exact later
    case source =>
      intro entry isEntry
      rw [captures.recorded, List.mem_append, List.mem_singleton] at isEntry
      cases isEntry with
      | inl isOld => exact source_kept step.1 (sound.source entry isOld)
      | inr isNew =>
        rw [isNew]
        obtain ⟨run, isRun, sameId, ofJob, _⟩ := captures.running
        obtain ⟨closed, isClosed, closedId, completed⟩ := captures.closed
        obtain ⟨progress, _, isMoved⟩ := step.1.runsFollow.kept run isRun
        have same := Table.eq_of_key isClosed isMoved (closedId.trans sameId.symm)
        refine ⟨closed, isClosed, closedId, ?_, ?_⟩
        · rw [same]
          exact ofJob
        · rw [completed]
          rfl
    case distinct =>
      rw [captures.recorded, List.map_append, List.map_singleton]
      refine List.nodup_append.mpr ⟨sound.distinct, List.nodup_singleton _, ?_⟩
      rintro runId isOld other isNew rfl
      obtain ⟨old, isEntry, sameRun⟩ := List.mem_map.mp isOld
      exact sound.fresh captures old isEntry (sameRun.trans (List.mem_singleton.mp isNew))
    case ordered =>
      rw [captures.recorded]
      refine List.pairwise_append.mpr ⟨sound.ordered, List.pairwise_singleton _ _, ?_⟩
      intro old isOld new isNew
      rw [List.mem_singleton.mp isNew, captures.capturedAt]
      exact sound.past old isOld
    case current =>
      rw [captures.recorded]
      intro entry isEntry
      cases captures.current with
      | inl same =>
        rw [same] at isEntry
        exact List.mem_append_left _ (sound.current entry isEntry)
      | inr upserted =>
        rw [upserted] at isEntry
        cases Table.mem_upsert.mp isEntry with
        | inl isNew => exact List.mem_append_right _ (List.mem_singleton.mpr isNew)
        | inr isOld => exact List.mem_append_left _ (sound.current entry isOld.1)

theorem historySound_of_run {operations : List Operation}
    (run : Trace (ClockStep platform) {} operations ledger) : HistorySound ledger :=
  run.invariant HistorySound historySound_empty fun step sound => sound.step step

/-! ## The most recent entry -/

/-- Among entries in the order of their capture, the one captured last is the last. -/
theorem foldl_latest {rows : List EvidenceRow}
    (ordered : rows.Pairwise (·.capturedAt ≤ ·.capturedAt)) :
    rows.foldl (fun latest row =>
      if latest.all (·.capturedAt ≤ row.capturedAt) then some row else latest) none =
      rows.getLast? := by
  induction rows using List.reverseRecOn with
  | nil => rfl
  | append_singleton earlier last ih =>
    obtain ⟨earlierOrdered, _, before⟩ := List.pairwise_append.mp ordered
    rw [List.foldl_append, ih earlierOrdered, List.getLast?_concat]
    apply if_pos
    rw [Option.all_eq_true]
    intro row isLast
    have isRow : row ∈ earlier := List.mem_of_getLast? isLast
    exact decide_eq_true (before row isRow last (List.mem_singleton.mpr rfl))

theorem HistorySound.latestHistory (sound : HistorySound ledger) (jobId : JobId) :
    ledger.latestHistory jobId = (ledger.history.filter (·.jobId = jobId)).getLast? :=
  foldl_latest (sound.ordered.sublist List.filter_sublist)

/-- Evidence of the run that left the last entry is that entry. -/
theorem HistorySound.eq_latest (sound : HistorySound ledger) {jobId : JobId} {row : EvidenceRow}
    (isCurrent : ledger.evidence.find jobId = some row)
    (latest : (ledger.latestHistory jobId).any (·.runId = row.runId) = true) :
    (ledger.history.filter (·.jobId = jobId)).getLast? = some row := by
  obtain ⟨isRow, _⟩ := Table.find_eq_some.mp isCurrent
  rw [Option.any_eq_true, sound.latestHistory] at latest
  obtain ⟨last, isLatest, sameRun⟩ := latest
  have isEntry : last ∈ ledger.history := List.mem_of_mem_filter (List.mem_of_getLast? isLatest)
  have same := List.inj_on_of_nodup_map sound.distinct isEntry (sound.current row isRow)
    (of_decide_eq_true sameRun)
  rw [isLatest, same]

/-- The last entry of a mailbox was captured no earlier than the others. -/
theorem HistorySound.capturedAt_le (sound : HistorySound ledger) {jobId : JobId}
    {row other : EvidenceRow}
    (isLast : (ledger.history.filter (·.jobId = jobId)).getLast? = some row)
    (isOther : other ∈ ledger.history) (ofJob : other.jobId = jobId) :
    other.capturedAt ≤ row.capturedAt := by
  have ordered := sound.ordered.sublist
    (List.filter_sublist (p := fun entry : EvidenceRow => decide (entry.jobId = jobId)))
  obtain ⟨earlier, split⟩ := List.getLast?_eq_some_iff.mp isLast
  have isMember : other ∈ ledger.history.filter (·.jobId = jobId) :=
    List.mem_filter.mpr ⟨isOther, decide_eq_true ofJob⟩
  rw [split] at ordered isMember
  cases List.mem_append.mp isMember with
  | inl isEarlier =>
    exact (List.pairwise_append.mp ordered).2.2 other isEarlier row (List.mem_singleton.mpr rfl)
  | inr isSame => rw [List.mem_singleton.mp isSame]

end Ledger

end MailSwiftSync
