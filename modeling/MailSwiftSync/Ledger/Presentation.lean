import Mathlib.Algebra.BigOperators.Group.List.Lemmas
import MailSwiftSync.Ledger.Facts
import MailSwiftSync.Ledger.Runs

/-!
# Presented queue states

The state of a queue row as operators see it, once computed from mailboxes, runs and
acceptances and once from the facts alone, and the counts of rows by presented state.
-/

namespace MailSwiftSync

open Foundation

/-- A presented state: a mailbox state, or a row that no run has admitted yet. -/
inductive PresentedState where
  | imported
  | durable (state : MailboxState)
deriving DecidableEq, Repr

/-- The columns of the facts that the presented state depends on. -/
structure FactsGroup where
  state : MailboxState
  runsQueued : Int
  runsTotal : Int
  acceptances : Int
deriving DecidableEq, Repr

def QueueFacts.group (facts : QueueFacts) : FactsGroup where
  state := facts.state
  runsQueued := facts.runsQueued
  runsTotal := facts.runsTotal
  acceptances := facts.acceptances

/-- `FACTS_EFFECTIVE_STATE`. -/
def FactsGroup.effectiveState (facts : FactsGroup) : PresentedState :=
  if facts.runsQueued > 0 then .durable .queued
  else if facts.state = .queued ∧ facts.runsTotal = 0 then .imported
  else if facts.state = .verifiedWithExceptions ∧ facts.acceptances = 0 then
    .durable .verificationDifference
  else .durable facts.state

def QueueFacts.effectiveState (facts : QueueFacts) : PresentedState :=
  facts.group.effectiveState

namespace Ledger

variable (ledger : Ledger)

/-- `EFFECTIVE_STATE`, for a mailbox of the given project. -/
def effectiveState (projectId : ProjectId) (job : MailboxJob) : PresentedState :=
  if ledger.runs.any fun run => run.projectId = projectId && run.status = .queued &&
      run.jobId = some job.id then .durable .queued
  else if job.state = .queued && !ledger.runs.any fun run =>
      run.projectId = projectId && run.jobId = some job.id then .imported
  else if job.state = .verifiedWithExceptions &&
      !ledger.acceptances.any (·.jobId = job.id) then .durable .verificationDifference
  else .durable job.state

/-- The facts of a queue, grouped by what their presented state depends on. -/
def groupedFacts (projectId : ProjectId) : List (FactsGroup × Nat) :=
  let groups := (ledger.facts.select (·.projectId = projectId)).map (·.group)
  groups.dedup.map fun group => (group, groups.count group)

/-- How many rows of a queue have each presented state. -/
def queueStateCounts (projectId : ProjectId) : List (PresentedState × Nat) :=
  let grouped := ledger.groupedFacts projectId
  (grouped.map (·.1.effectiveState)).dedup.map fun state =>
    (state, ((grouped.filter (·.1.effectiveState = state)).map (·.2)).sum)

variable {ledger}

/-! ## Agreement -/

theorem countRuns_pos {jobId : JobId} {condition : Run → Bool} :
    0 < ledger.countRuns jobId condition ↔
      ∃ run ∈ ledger.runs, run.jobId = some jobId ∧ condition run = true := by
  rw [countRuns, List.length_pos_iff_exists_mem]
  simp only [Table.mem_select, Bool.and_eq_true, decide_eq_true_eq]

theorem countAcceptances_eq_zero {jobId : JobId} :
    ledger.countAcceptances jobId = 0 ↔
      ledger.acceptances.any (·.jobId = jobId) = false := by
  rw [countAcceptances, List.length_eq_zero_iff, List.filter_eq_nil_iff, List.any_eq_false]

/-- Facts that are exact present what the tables say. -/
theorem Consistent.effectiveState_queueFacts {queues : Set ProjectId}
    (consistent : Consistent queues ledger) {job : MailboxJob} (isJob : job ∈ ledger.jobs) :
    (ledger.queueFacts job).effectiveState = ledger.effectiveState job.projectId job := by
  have ofProject : ∀ run ∈ ledger.runs, run.jobId = some job.id →
      run.projectId = job.projectId := by
    intro run isRun ofJob
    obtain ⟨other, isOther, sameId, sameProject⟩ := consistent.runJob run isRun job.id ofJob
    rw [← sameProject, Table.eq_of_key isOther isJob sameId]
  have queued : (ledger.queueFacts job).runsQueued > 0 ↔
      (ledger.runs.any fun run => run.projectId = job.projectId && run.status = .queued &&
        run.jobId = some job.id) = true := by
    rw [queueFacts, gt_iff_lt, Int.natCast_pos, countRuns_pos, Table.any_eq_true]
    simp only [Bool.and_eq_true, decide_eq_true_eq]
    constructor
    · rintro ⟨run, isRun, ofJob, isQueued⟩
      exact ⟨run, isRun, ⟨ofProject run isRun ofJob, isQueued⟩, ofJob⟩
    · rintro ⟨run, isRun, ⟨_, isQueued⟩, ofJob⟩
      exact ⟨run, isRun, ofJob, isQueued⟩
  have total : (ledger.queueFacts job).runsTotal = 0 ↔
      (ledger.runs.any fun run => run.projectId = job.projectId &&
        run.jobId = some job.id) = false := by
    rw [queueFacts, Int.natCast_eq_zero, ← Nat.le_zero, ← Nat.not_lt, countRuns_pos,
      ← Bool.not_eq_true, Table.any_eq_true, not_iff_not]
    simp only [Bool.and_eq_true, decide_eq_true_eq, and_true]
    constructor
    · rintro ⟨run, isRun, ofJob⟩
      exact ⟨run, isRun, ofProject run isRun ofJob, ofJob⟩
    · rintro ⟨run, isRun, _, ofJob⟩
      exact ⟨run, isRun, ofJob⟩
  have acceptances : (ledger.queueFacts job).acceptances = 0 ↔
      ledger.acceptances.any (·.jobId = job.id) = false := by
    rw [queueFacts, Int.natCast_eq_zero, countAcceptances_eq_zero]
  simp only [QueueFacts.effectiveState, FactsGroup.effectiveState, QueueFacts.group, queued,
    total, acceptances, effectiveState, Bool.and_eq_true, decide_eq_true_eq,
    Bool.not_eq_true']
  rfl

/-- The facts of a queue are those of its mailboxes. -/
theorem Consistent.facts_perm {queues : Set ProjectId} (consistent : Consistent queues ledger)
    {projectId : ProjectId} (isQueue : projectId ∈ queues) :
    (ledger.facts.select (·.projectId = projectId)).Perm
      ((ledger.projectJobs projectId).map ledger.queueFacts) := by
  have factsNodup : (ledger.facts.select (·.projectId = projectId)).Nodup :=
    ledger.facts.primaryKey.of_map.filter _
  have jobsNodup : ((ledger.projectJobs projectId).map ledger.queueFacts).Nodup := by
    refine List.Nodup.map_on ?_ (ledger.jobs.primaryKey.of_map.filter _)
    intro job isJob other isOther same
    exact Table.eq_of_key (Table.mem_select.mp isJob).1 (Table.mem_select.mp isOther).1
      (congrArg QueueFacts.jobId same)
  refine (List.perm_ext_iff_of_nodup factsNodup jobsNodup).mpr fun facts => ?_
  rw [Table.mem_select, List.mem_map, decide_eq_true_eq]
  constructor
  · rintro ⟨isFacts, ofProject⟩
    obtain ⟨job, isJob, rfl⟩ := consistent.factsExact facts isFacts
    exact ⟨job, Table.mem_select.mpr ⟨isJob, decide_eq_true ofProject⟩, rfl⟩
  · rintro ⟨job, isMember, rfl⟩
    obtain ⟨isJob, ofProject⟩ := Table.mem_select.mp isMember
    have ofProject := of_decide_eq_true ofProject
    obtain ⟨facts, isFacts, ofJob⟩ := consistent.queueCovered job isJob (ofProject ▸ isQueue)
    obtain ⟨owner, isOwner, rfl⟩ := consistent.factsExact facts isFacts
    rw [← Table.eq_of_key isOwner isJob ofJob]
    exact ⟨isFacts, (congrArg MailboxJob.projectId
      (Table.eq_of_key isOwner isJob ofJob)).trans ofProject⟩

/-! ## Counts -/

/-- The presented states of a queue, row by row. -/
def presentedStates (ledger : Ledger) (projectId : ProjectId) : List PresentedState :=
  (ledger.facts.select (·.projectId = projectId)).map (·.effectiveState)

/-- Adding up groups is counting rows. -/
theorem groupedFacts_sum (projectId : ProjectId) (state : PresentedState) :
    (((ledger.groupedFacts projectId).filter (·.1.effectiveState = state)).map (·.2)).sum =
      (ledger.presentedStates projectId).count state := by
  have counted := List.sum_map_count_dedup_filter_eq_countP
    (fun group : FactsGroup => decide (group.effectiveState = state))
    ((ledger.facts.select (·.projectId = projectId)).map (·.group))
  rw [groupedFacts, List.filter_map, List.map_map, presentedStates]
  refine Eq.trans ?_ (counted.trans ?_)
  · rfl
  · rw [List.countP_map, List.count, List.countP_map]
    rfl

/-- The counts of a queue are those of its presented states. -/
theorem queueStateCounts_eq (projectId : ProjectId) :
    (ledger.queueStateCounts projectId).Perm ((ledger.presentedStates projectId).dedup.map
      fun state => (state, (ledger.presentedStates projectId).count state)) := by
  have states : (((ledger.groupedFacts projectId).map (·.1.effectiveState)).dedup).Perm
      (ledger.presentedStates projectId).dedup := by
    refine (List.perm_ext_iff_of_nodup (List.nodup_dedup _) (List.nodup_dedup _)).mpr
      fun state => ?_
    rw [List.mem_dedup, List.mem_dedup, groupedFacts, List.map_map, presentedStates]
    simp only [List.mem_map, List.mem_dedup, Function.comp]
    constructor
    · rintro ⟨_, ⟨facts, isFacts, rfl⟩, rfl⟩
      exact ⟨facts, isFacts, rfl⟩
    · rintro ⟨facts, isFacts, rfl⟩
      exact ⟨_, ⟨facts, isFacts, rfl⟩, rfl⟩
  refine (states.map _).trans (List.Perm.of_eq ?_)
  refine List.map_congr_left fun state _ => ?_
  rw [groupedFacts_sum]

end Ledger

/-- Presented queue states are computed states. -/
theorem Ledger.presented_states_agree {platform : LedgerPlatform} {operations : List Operation}
    {ledger : Ledger} (run : Trace (Ledger.Step platform) {} operations ledger) :
    (∀ facts ∈ ledger.facts, ∃ job ∈ ledger.jobs, job.id = facts.jobId ∧
      job.projectId = facts.projectId ∧
      facts.effectiveState = ledger.effectiveState job.projectId job) ∧
    ∀ projectId ∈ Ledger.queuesOf operations,
      (∀ job ∈ ledger.projectJobs projectId, ∃ facts ∈ ledger.facts, facts.jobId = job.id ∧
        facts.effectiveState = ledger.effectiveState projectId job) ∧
      ((ledger.queueStateCounts projectId).map (·.2)).sum =
        (ledger.projectJobs projectId).length ∧
      ∀ state count, (state, count) ∈ ledger.queueStateCounts projectId →
        count = ((ledger.projectJobs projectId).filter
          (ledger.effectiveState projectId · = state)).length := by
  have consistent := Ledger.consistent_of_run run
  refine ⟨?_, fun projectId isQueue => ?_⟩
  · intro facts isFacts
    obtain ⟨job, isJob, rfl⟩ := consistent.factsExact facts isFacts
    exact ⟨job, isJob, rfl, rfl, consistent.effectiveState_queueFacts isJob⟩
  have perm := consistent.facts_perm isQueue
  have presented : (ledger.presentedStates projectId).Perm
      ((ledger.projectJobs projectId).map (ledger.effectiveState projectId)) := by
    refine (perm.map _).trans (List.Perm.of_eq ?_)
    rw [List.map_map]
    refine List.map_congr_left fun job isMember => ?_
    obtain ⟨isJob, ofProject⟩ := Table.mem_select.mp isMember
    rw [← of_decide_eq_true ofProject]
    exact consistent.effectiveState_queueFacts isJob
  refine ⟨?_, ?_, ?_⟩
  · intro job isMember
    obtain ⟨isJob, ofProject⟩ := Table.mem_select.mp isMember
    have isFacts := perm.mem_iff.mpr (List.mem_map_of_mem isMember)
    refine ⟨_, (Table.mem_select.mp isFacts).1, rfl, ?_⟩
    rw [← of_decide_eq_true ofProject]
    exact consistent.effectiveState_queueFacts isJob
  · calc ((ledger.queueStateCounts projectId).map (·.2)).sum
        = ((ledger.presentedStates projectId).dedup.map
            (ledger.presentedStates projectId).count).sum := by
          rw [((Ledger.queueStateCounts_eq projectId).map _).sum_eq, List.map_map]
          rfl
      _ = (ledger.presentedStates projectId).length :=
          List.sum_map_count_dedup_eq_length _
      _ = (ledger.projectJobs projectId).length := by
          rw [presented.length_eq, List.length_map]
  · intro state count isCount
    obtain ⟨_, _, same⟩ :=
      List.mem_map.mp ((Ledger.queueStateCounts_eq projectId).mem_iff.mp isCount)
    cases same
    rw [presented.count_eq, List.count, List.countP_map, List.countP_eq_length_filter]
    rfl

/-- A queue of two rows, one of them admitted to a batch. -/
theorem Ledger.presented_states_of_admitted_row : ∃ (operations : List Operation)
    (ledger : Ledger), Trace (Ledger.Step .ascii) {} operations ledger ∧
      "project" ∈ Ledger.queuesOf operations ∧
      ledger.queueStateCounts "project" = [(.durable .queued, 1), (.imported, 1)] ∧
      ((ledger.queueStateCounts "project").map (·.2)).sum =
        (ledger.projectJobs "project").length := by
  obtain ⟨ledger, run, counted⟩ := Ledger.exists_run_of_replay .ascii {} [
      .createBatchQueue "project" [
        { destinationMailbox := "a@example.org", destinationIdentity := "a", config := "first" },
        { destinationMailbox := "b@example.org", destinationIdentity := "b", config := "second" }]
        (fun position => if position = 0 then "first" else "second") (fun _ => "plan"),
      .beginBatchRunWithChildren "project" ["first"] "batch" .imapsync [] "" [] fun _ => "child"]
    (fun ledger =>
      decide (ledger.queueStateCounts "project" = [(.durable .queued, 1), (.imported, 1)]))
    (by decide)
  have run := Ledger.steps_of_disciplined run
  refine ⟨_, ledger, run, ⟨_, _, _, List.mem_cons_self⟩, of_decide_eq_true counted, ?_⟩
  exact ((Ledger.presented_states_agree run).2 "project" ⟨_, _, _, List.mem_cons_self⟩).2.1

end MailSwiftSync
