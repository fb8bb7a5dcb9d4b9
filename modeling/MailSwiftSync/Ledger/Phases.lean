import MailSwiftSync.Ledger.Promotion

/-!
# Phases and stages

A managed cutover moves its stage and the phase of its project together.  Both are
compared by name when a run is admitted, and the names of the last stage and of the
last phase differ.
-/

namespace MailSwiftSync

open Foundation

namespace Ledger

variable {platform : LedgerPlatform} {ledger before after : Ledger} {operation : Operation}
  {projectId : ProjectId}

theorem mem_setWorkflow {change : CutoverWorkflow → CutoverWorkflow}
    (keepsKey : ∀ workflow, (change workflow).projectId = workflow.projectId)
    {workflow : CutoverWorkflow} :
    workflow ∈ (ledger.setWorkflow projectId change keepsKey).workflows ↔
      ∃ old ∈ ledger.workflows,
        workflow = if old.projectId = projectId then change old else old := by
  rw [setWorkflow, Table.mem_update]
  simp only [decide_eq_true_eq]

/-- A phase that is set again stays. -/
theorem setPhase_self {project : Project}
    (isProject : ledger.projects.find projectId = some project) :
    ledger.setPhase projectId project.phase = ledger := by
  obtain ⟨isRow, rfl⟩ := Table.find_eq_some.mp isProject
  have sameRows : (ledger.setPhase project.id project.phase).projects = ledger.projects := by
    apply Table.eq_of_rows
    refine (List.map_congr_left fun row isOther => ?_).trans (List.map_id _)
    split
    · next hit =>
        rw [Table.eq_of_key isOther isRow (of_decide_eq_true hit)]
        rfl
    · rfl
  exact congrArg (fun projects => { ledger with projects }) sameRows

/-- Stages and phases move together once a cutover is approved. -/
structure Bound (ledger : Ledger) : Prop where
  known : ∀ workflow ∈ ledger.workflows, ∃ project ∈ ledger.projects,
    project.id = workflow.projectId
  unapproved : ∀ workflow ∈ ledger.workflows, workflow.approvedBy.isSome = false →
    workflow.stage = .seed
  agree : ∀ workflow ∈ ledger.workflows, workflow.approvedBy.isSome = true →
    ∀ project ∈ ledger.projects, project.id = workflow.projectId →
      project.phase = workflow.stage.phase

theorem bound_empty : Bound {} where
  known := fun _ isWorkflow => absurd isWorkflow (Table.not_mem_empty _)
  unapproved := fun _ isWorkflow => absurd isWorkflow (Table.not_mem_empty _)
  agree := fun _ isWorkflow => absurd isWorkflow (Table.not_mem_empty _)

namespace Bound

/-- Writes to other tables. -/
theorem congr (bound : Bound before) (projects : after.projects = before.projects)
    (workflows : after.workflows = before.workflows) : Bound after := by
  cases after
  cases projects
  cases workflows
  exact ⟨bound.known, bound.unapproved, bound.agree⟩

theorem insertProject (bound : Bound before) {project : Project}
    (inserted : before.projects.insert project = some after.projects)
    (workflows : after.workflows = before.workflows) : Bound after := by
  have isProject : ∀ other, other ∈ before.projects → other ∈ after.projects :=
    fun other isOld => (Table.mem_insert inserted).mpr (.inl isOld)
  constructor
  case known =>
    intro workflow isWorkflow
    rw [workflows] at isWorkflow
    obtain ⟨other, isOld, sameId⟩ := bound.known workflow isWorkflow
    exact ⟨other, isProject other isOld, sameId⟩
  case unapproved =>
    intro workflow isWorkflow
    rw [workflows] at isWorkflow
    exact bound.unapproved workflow isWorkflow
  case agree =>
    intro workflow isWorkflow approved other isOther sameId
    rw [workflows] at isWorkflow
    cases (Table.mem_insert inserted).mp isOther with
    | inl isOld => exact bound.agree workflow isWorkflow approved other isOld sameId
    | inr isNew =>
      subst isNew
      obtain ⟨owner, isOwner, ownerId⟩ := bound.known workflow isWorkflow
      exact absurd (ownerId.trans sameId.symm) ((Table.insert_eq_some inserted).1 owner isOwner)

/-- The phase of a project without a workflow may change freely. -/
theorem setPhase (bound : Bound ledger) (phase : Phase)
    (unmanaged : ledger.hasCutoverWorkflow projectId = false) :
    Bound (ledger.setPhase projectId phase) := by
  have elsewhere : ∀ workflow ∈ ledger.workflows, workflow.projectId ≠ projectId := by
    refine Table.find_eq_none.mp ?_
    rw [← Option.not_isSome_iff_eq_none, ← hasCutoverWorkflow, unmanaged]
    simp
  constructor
  case known =>
    intro workflow isWorkflow
    obtain ⟨project, isProject, sameId⟩ := bound.known workflow isWorkflow
    refine ⟨_, mem_setPhase.mpr ⟨project, isProject, rfl⟩, ?_⟩
    split
    · exact sameId
    · exact sameId
  case unapproved => exact bound.unapproved
  case agree =>
    intro workflow isWorkflow approved project isProject sameId
    obtain ⟨old, isOld, rfl⟩ := mem_setPhase.mp isProject
    split at sameId
    · next hit => exact absurd (hit.symm.trans sameId).symm (elsewhere workflow isWorkflow)
    · next miss =>
        rw [if_neg miss]
        exact bound.agree workflow isWorkflow approved old isOld sameId

/-- A workflow and its project move to a stage and its phase. -/
theorem moveTo (bound : Bound ledger) {stage : CutoverStage}
    {change : CutoverWorkflow → CutoverWorkflow}
    {keepsKey : ∀ workflow, (change workflow).projectId = workflow.projectId}
    (approves : ∀ workflow ∈ ledger.workflows, workflow.projectId = projectId →
      (change workflow).approvedBy.isSome = true ∧ (change workflow).stage = stage) :
    Bound ((ledger.setWorkflow projectId change keepsKey).setPhase projectId stage.phase) := by
  constructor
  case known =>
    intro workflow isWorkflow
    obtain ⟨old, isOld, rfl⟩ := (mem_setWorkflow keepsKey).mp isWorkflow
    obtain ⟨project, isProject, sameId⟩ := bound.known old isOld
    refine ⟨_, mem_setPhase.mpr ⟨project, isProject, rfl⟩, ?_⟩
    split <;> split
    · exact sameId.trans (keepsKey old).symm
    · exact sameId
    · exact sameId.trans (keepsKey old).symm
    · exact sameId
  case unapproved =>
    intro workflow isWorkflow notApproved
    obtain ⟨old, isOld, rfl⟩ := (mem_setWorkflow keepsKey).mp isWorkflow
    split at notApproved
    · next hit =>
        rw [(approves old isOld hit).1] at notApproved
        cases notApproved
    · next miss =>
        rw [if_neg miss]
        exact bound.unapproved old isOld notApproved
  case agree =>
    intro workflow isWorkflow approved project isProject sameId
    obtain ⟨old, isOld, rfl⟩ := (mem_setWorkflow keepsKey).mp isWorkflow
    obtain ⟨row, isRow, rfl⟩ := mem_setPhase.mp isProject
    by_cases hit : old.projectId = projectId
    · rw [if_pos hit] at sameId ⊢
      rw [keepsKey old, hit] at sameId
      by_cases ofProject : row.id = projectId
      · rw [if_pos ofProject, (approves old isOld hit).2]
      · rw [if_neg ofProject] at sameId
        exact absurd sameId ofProject
    · rw [if_neg hit] at sameId approved ⊢
      by_cases ofProject : row.id = projectId
      · rw [if_pos ofProject] at sameId
        exact absurd (ofProject.symm.trans sameId).symm hit
      · rw [if_neg ofProject] at sameId ⊢
        exact bound.agree old isOld approved row isRow sameId

/-- Other columns of a workflow may change freely. -/
theorem setWorkflow (bound : Bound ledger) {change : CutoverWorkflow → CutoverWorkflow}
    {keepsKey : ∀ workflow, (change workflow).projectId = workflow.projectId}
    (keeps : ∀ workflow, (change workflow).approvedBy = workflow.approvedBy ∧
      (change workflow).stage = workflow.stage) :
    Bound (ledger.setWorkflow projectId change keepsKey) := by
  have kept : ∀ workflow ∈ (ledger.setWorkflow projectId change keepsKey).workflows,
      ∃ old ∈ ledger.workflows, workflow.projectId = old.projectId ∧
        workflow.approvedBy = old.approvedBy ∧ workflow.stage = old.stage := by
    intro workflow isWorkflow
    obtain ⟨old, isOld, rfl⟩ := (mem_setWorkflow keepsKey).mp isWorkflow
    refine ⟨old, isOld, ?_⟩
    split
    · exact ⟨keepsKey old, keeps old⟩
    · exact ⟨rfl, rfl, rfl⟩
  constructor
  case known =>
    intro workflow isWorkflow
    obtain ⟨old, isOld, sameId, _⟩ := kept workflow isWorkflow
    rw [sameId]
    exact bound.known old isOld
  case unapproved =>
    intro workflow isWorkflow notApproved
    obtain ⟨old, isOld, _, sameApproval, sameStage⟩ := kept workflow isWorkflow
    rw [sameApproval] at notApproved
    rw [sameStage]
    exact bound.unapproved old isOld notApproved
  case agree =>
    intro workflow isWorkflow approved project isProject ofProject
    obtain ⟨old, isOld, sameId, sameApproval, sameStage⟩ := kept workflow isWorkflow
    rw [sameApproval] at approved
    rw [sameStage]
    exact bound.agree old isOld approved project isProject (ofProject.trans sameId)

end Bound

/-- Every accepted operation keeps stages and phases together. -/
theorem Step.bound (step : Step platform before operation after) (bound : Bound before) :
    Bound after := by
  cases operation with
  | createProjectWithMailbox =>
    obtain ⟨_, _, inserted, _, rfl⟩ := createProjectWithMailbox_ok step
    exact bound.insertProject inserted rfl
  | createBatchQueue =>
    obtain ⟨_, _, _, _, inserted, _, rfl⟩ := createBatchQueue_enrolls step
    exact bound.insertProject inserted rfl
  | acceptVerificationDifference projectId =>
    obtain ⟨_, _, _, _, _, _, _, _, rfl⟩ := acceptVerificationDifference_ok step
    rw [recordAcceptance]
    split
    · next closes =>
        refine (Bound.setPhase ?_ .complete (by simpa using closes.2.1)).congr rfl rfl
        exact bound.congr rfl rfl
    · exact bound.congr rfl rfl
  | transition projectId phase =>
    obtain ⟨project, isProject, unmanaged, _, _, rfl⟩ := transition_ok step
    cases unmanaged with
    | inl same =>
      subst same
      rw [setPhase_self isProject]
      exact bound.congr rfl rfl
    | inr unmanaged => exact (bound.setPhase phase unmanaged).congr rfl rfl
  | reopenProject =>
    obtain ⟨_, _, _, unmanaged, rfl⟩ := reopenProject_ok step
    refine (Bound.setPhase ?_ .attention unmanaged).congr rfl rfl
    exact bound.congr rfl rfl
  | createCutoverWorkflow =>
    obtain ⟨project, workflows, isProject, _, inserted, rfl⟩ := createCutoverWorkflow_ok step
    obtain ⟨isRow, sameId⟩ := Table.find_eq_some.mp isProject
    constructor
    case known =>
      intro workflow isWorkflow
      cases (Table.mem_insert inserted).mp isWorkflow with
      | inl isOld => exact bound.known workflow isOld
      | inr isNew =>
        subst isNew
        exact ⟨project, isRow, sameId⟩
    case unapproved =>
      intro workflow isWorkflow notApproved
      cases (Table.mem_insert inserted).mp isWorkflow with
      | inl isOld => exact bound.unapproved workflow isOld notApproved
      | inr isNew =>
        subst isNew
        rfl
    case agree =>
      intro workflow isWorkflow approved
      cases (Table.mem_insert inserted).mp isWorkflow with
      | inl isOld => exact bound.agree workflow isOld approved
      | inr isNew =>
        subst isNew
        cases approved
  | approveCutover projectId =>
    obtain ⟨approver, _, workflow, _, _, isWorkflow, notApproved, rfl⟩ := approveCutover_ok step
    obtain ⟨isRow, sameId⟩ := Table.find_eq_some.mp isWorkflow
    have approves : ∀ old ∈ before.workflows, old.projectId = projectId →
        ({ old with approvedBy := some approver } : CutoverWorkflow).approvedBy.isSome = true ∧
          old.stage = .seed := by
      intro old isOld ofProject
      rw [Table.eq_of_key isOld isRow (ofProject.trans sameId.symm)]
      exact ⟨rfl, bound.unapproved workflow isRow (by rw [notApproved]; rfl)⟩
    exact (bound.moveTo approves).congr rfl rfl
  | attestCutoverSourceQuiescence projectId =>
    obtain ⟨_, _, _, rfl⟩ := attestCutoverSourceQuiescence_ok step
    have attested : Bound (before.setWorkflow projectId
        ({ · with sourceQuiescenceAt := some before.currentTimestamp }) fun _ => rfl) :=
      bound.setWorkflow fun _ => ⟨rfl, rfl⟩
    exact attested.congr rfl rfl
  | advanceCutover projectId =>
    simp only [Step, Operation.apply, bind_eq_ok, pure_eq_ok] at step
    obtain ⟨⟨_, stage⟩, advanced, rfl⟩ := step
    obtain ⟨workflow, _, _, isWorkflow, approved, _, _, _, _, _, rfl⟩ :=
      advanceCutover_ok advanced
    obtain ⟨isRow, sameId⟩ := Table.find_eq_some.mp isWorkflow
    have requeued : Bound (before.requeueVerified projectId stage) := bound.congr rfl rfl
    refine (requeued.moveTo ?_).congr rfl rfl
    intro old isOld ofProject
    rw [Table.eq_of_key isOld isRow (ofProject.trans sameId.symm)]
    exact ⟨approved, rfl⟩
  | _ =>
    exact bound.congr (step.kept.projects (by simp [Operation.writes]))
      (step.kept.workflows (by simp [Operation.writes]))

theorem bound_of_run {operations : List Operation}
    (run : Trace (Step platform) {} operations ledger) : Bound ledger :=
  run.invariant Bound bound_empty fun step => step.bound

/-! ## Names -/

/-- Only the last stage is spelled differently from its phase. -/
theorem stage_named_as_phase (stage : CutoverStage) :
    stage.asStr = stage.phase.asStr ↔ stage ≠ .completed := by
  cases stage <;> decide

theorem sourceQuiescenceError_ne_mismatch {attestedAt : Option Nat} {error : String}
    (refused : ledger.sourceQuiescenceError attestedAt = some error) :
    error ≠ "managed cutover stage does not match the project phase" := by
  cases attestedAt with
  | none =>
    cases refused
    decide
  | some attestedAt =>
    rw [sourceQuiescenceError] at refused
    split at refused
    · cases refused
      decide
    · split at refused
      · cases refused
        decide
      · cases refused

/-- A stage is refused against its own phase exactly when the names differ. -/
theorem validateCutoverRunStage_mismatch (stage : CutoverStage) (attestedAt : Option Nat) :
    ledger.validateCutoverRunStage stage stage.phase attestedAt =
        .error "managed cutover stage does not match the project phase" ↔
      stage = .completed := by
  rw [validateCutoverRunStage]
  constructor
  · intro refused
    by_contra notLast
    rw [if_neg (not_not_intro ((stage_named_as_phase stage).mpr notLast))] at refused
    split at refused
    · cases refused
    · cases error : ledger.sourceQuiescenceError attestedAt with
      | none =>
        rw [error] at refused
        cases refused
      | some reason =>
        rw [error] at refused
        exact sourceQuiescenceError_ne_mismatch error (Except.error.inj refused)
  · rintro rfl
    rw [if_pos (by decide)]

/-- No run is admitted to a project whose cutover has completed. -/
theorem admission_refused {workflow : CutoverWorkflow} (bound : Bound ledger)
    (isWorkflow : workflow ∈ ledger.workflows) (approved : workflow.approvedBy.isSome = true)
    (completed : workflow.stage = .completed) {project : Project}
    (isProject : project ∈ ledger.projects) (ofProject : project.id = workflow.projectId) :
    ledger.validateManagedCutoverRunAdmission workflow.projectId project.phase =
      .error (.rejection
        "managed cutover: managed cutover stage does not match the project phase") := by
  have found : ledger.workflows.find workflow.projectId = some workflow :=
    Table.find_eq_some.mpr ⟨isWorkflow, rfl⟩
  have phase := bound.agree workflow isWorkflow approved project isProject ofProject
  have mismatch : ledger.validateCutoverRunStage workflow.stage workflow.stage.phase
      workflow.sourceQuiescenceAt =
        .error "managed cutover stage does not match the project phase" :=
    (validateCutoverRunStage_mismatch _ _).mpr completed
  rw [validateManagedCutoverRunAdmission, found]
  simp only [approved, phase, mismatch, require]
  rfl

end Ledger

/-- Stage and phase agree by name exactly as long as the cutover has not completed; from
then on no audit is admitted. -/
theorem Ledger.stage_agrees_until_completed {platform : LedgerPlatform}
    {operations : List Operation} {ledger : Ledger}
    (run : Trace (Ledger.Step platform) {} operations ledger) {workflow : CutoverWorkflow}
    (isWorkflow : workflow ∈ ledger.workflows) (approved : workflow.approvedBy.isSome = true)
    {project : Project} (isProject : project ∈ ledger.projects)
    (ofProject : project.id = workflow.projectId) :
    (ledger.validateCutoverRunStage workflow.stage project.phase workflow.sourceQuiescenceAt ≠
        .error "managed cutover stage does not match the project phase" ↔
      workflow.stage ≠ .completed) ∧
    (workflow.stage = .completed → ∀ jobId runId transferRunId planSnapshot next,
      ledger.beginVerificationRunFromTransfer platform workflow.projectId jobId runId
        transferRunId planSnapshot ≠ .ok next) := by
  have bound := Ledger.bound_of_run run
  constructor
  · rw [bound.agree workflow isWorkflow approved project isProject ofProject]
    exact not_congr (Ledger.validateCutoverRunStage_mismatch _ _)
  · intro completed jobId runId transferRunId planSnapshot next accepted
    obtain ⟨_, other, _, _, isOther, admitted, _⟩ :=
      Ledger.beginVerificationRunFromTransfer_ok accepted
    obtain ⟨isRow, otherId⟩ := Table.find_eq_some.mp isOther
    rw [Ledger.admission_refused bound isWorkflow approved completed isRow otherId] at admitted
    cases admitted

/-- One pass over the mailbox of the examples, with evidence of the engine itself. -/
def Operation.verifiedPass (runId : RunId) : List Operation :=
  [.beginRunWithSnapshot "project" "mailbox" runId .imapsync "",
    .finishRunForMailboxWithEvidence "project" "mailbox" runId .completed .verified ""
      { MailboxEvidence.ofThree with verificationMethod := .nativeDovecot } [] none none]

/-- A managed cutover of one mailbox, from its creation to the last approval. -/
def Operation.managedCutover : List Operation :=
  [.createProjectWithMailbox "project" "mailbox" "user@example.org",
    .transition "project" .preflight,
    .createCutoverWorkflow "project" "2026-01-01T00:00:00Z" none,
    .approveCutover "project" "operator"] ++ verifiedPass "seed" ++
  [.advanceCutover "project" none] ++ verifiedPass "catch-up" ++
  [.attestCutoverSourceQuiescence "project" "operator" "paused",
    .advanceCutover "project" none] ++ verifiedPass "final-delta" ++
  [.advanceCutover "project" none,
    .attestCutoverSourceQuiescence "project" "operator" "paused"] ++ verifiedPass "final" ++
  [.advanceCutover "project" (some "confirmed")]

/-- Before its last step the cutover agrees with its project. -/
theorem Ledger.stage_agrees_before_completion : ∃ (operations : List Operation)
    (ledger : Ledger) (workflow : CutoverWorkflow) (project : Project),
      Trace (Ledger.Step .ascii) {} operations ledger ∧ workflow ∈ ledger.workflows ∧
      workflow.stage = .verification ∧ project ∈ ledger.projects ∧
      ledger.validateCutoverRunStage workflow.stage project.phase
        workflow.sourceQuiescenceAt ≠
          .error "managed cutover stage does not match the project phase" := by
  obtain ⟨ledger, run, ready⟩ := Ledger.exists_run_of_replay .ascii {}
    Operation.managedCutover.dropLast
    (fun ledger => ledger.workflows.any fun workflow => ledger.projects.any fun project =>
      decide (workflow.approvedBy.isSome = true ∧ workflow.stage = .verification ∧
        project.id = workflow.projectId)) (by decide +kernel)
  obtain ⟨workflow, isWorkflow, ready⟩ := Table.any_eq_true.mp ready
  obtain ⟨project, isProject, ready⟩ := Table.any_eq_true.mp ready
  have ready := of_decide_eq_true ready
  have run := Ledger.steps_of_disciplined run
  refine ⟨_, ledger, workflow, project, run, isWorkflow, ready.2.1, isProject, ?_⟩
  refine (Ledger.stage_agrees_until_completed run isWorkflow ready.1 isProject
    ready.2.2).1.mpr ?_
  rw [ready.2.1]
  decide

/-- After a completed cutover, an audit of its mailbox is refused for a mismatch. -/
theorem Ledger.audit_refused_after_completed_cutover : ∃ (operations : List Operation)
    (ledger : Ledger) (workflow : CutoverWorkflow) (project : Project),
      Trace (Ledger.DisciplinedStep .ascii) {} operations ledger ∧
      workflow ∈ ledger.workflows ∧ workflow.approvedBy.isSome = true ∧
      project ∈ ledger.projects ∧ project.id = workflow.projectId ∧
      ledger.validateCutoverRunStage workflow.stage project.phase workflow.sourceQuiescenceAt =
        .error "managed cutover stage does not match the project phase" ∧
      ledger.beginVerificationRunFromTransfer .ascii project.id "mailbox" "audit" "final" "" =
        .error (.rejection
          "managed cutover: managed cutover stage does not match the project phase") := by
  obtain ⟨ledger, run, completed⟩ := Ledger.exists_run_of_replay .ascii {}
    Operation.managedCutover
    (fun ledger => ledger.workflows.any fun workflow => ledger.projects.any fun project =>
      decide (workflow.approvedBy.isSome = true ∧ project.id = workflow.projectId ∧
        ledger.validateCutoverRunStage workflow.stage project.phase
          workflow.sourceQuiescenceAt =
            .error "managed cutover stage does not match the project phase" ∧
        Ledger.refusal (ledger.beginVerificationRunFromTransfer .ascii project.id "mailbox"
          "audit" "final" "") = some (.rejection
            "managed cutover: managed cutover stage does not match the project phase")))
    (by decide +kernel)
  obtain ⟨workflow, isWorkflow, completed⟩ := Table.any_eq_true.mp completed
  obtain ⟨project, isProject, completed⟩ := Table.any_eq_true.mp completed
  have completed := of_decide_eq_true completed
  exact ⟨_, ledger, workflow, project, run, isWorkflow, completed.1, isProject, completed.2.1,
    completed.2.2.1, Ledger.refusal_eq_some.mp completed.2.2.2⟩

/-! ## Completed projects -/

namespace Ledger

variable {platform : LedgerPlatform} {ledger before after : Ledger} {operation : Operation}
  {projectId : ProjectId}

/-- A project with mailboxes, all of them certified. -/
def Certified (ledger : Ledger) (projectId : ProjectId) : Prop :=
  (∃ job ∈ ledger.jobs, job.projectId = projectId) ∧
    ∀ job ∈ ledger.jobs, job.projectId = projectId → ledger.certified job = true

theorem certified_iff {job : MailboxJob} : ledger.certified job = true ↔ job.state = .verified ∨
    (job.state = .verifiedWithExceptions ∧ ∃ acceptance ∈ ledger.acceptances,
      acceptance.jobId = job.id) := by
  rw [certified, Bool.or_eq_true, Bool.and_eq_true, decide_eq_true_eq, decide_eq_true_eq,
    List.any_eq_true]
  simp only [decide_eq_true_eq]

theorem everyMailboxCertified_iff :
    ledger.everyMailboxCertified projectId = true ↔ Certified ledger projectId := by
  rw [everyMailboxCertified, Bool.and_eq_true, decide_eq_true_eq, decide_eq_true_eq,
    List.length_filter_eq_length_iff, ← Nat.pos_iff_ne_zero, List.length_pos_iff_exists_mem]
  simp only [projectJobs, Table.mem_select, decide_eq_true_eq, Certified, and_imp]

/-- Rows of two kinds that exclude each other. -/
theorem length_filter_or {ρ : Type} (rows : List ρ) {first second : ρ → Bool}
    (exclusive : ∀ row, first row = true → second row = false) :
    (rows.filter fun row => first row || second row).length =
      (rows.filter first).length + (rows.filter second).length := by
  induction rows with
  | nil => rfl
  | cons row rows ih =>
    rw [List.filter_cons, List.filter_cons, List.filter_cons]
    cases isFirst : first row with
    | true =>
      simp [exclusive row isFirst, ih]
      omega
    | false =>
      cases second row with
      | true =>
        simp [ih]
        omega
      | false => simp [ih]

/-- Whoever may advance a cutover has certified its mailboxes. -/
theorem certified_of_settled (settled : ledger.everyMailboxSettled projectId = true) :
    Certified ledger projectId := by
  rw [everyMailboxSettled, Bool.and_eq_true, decide_eq_true_eq, decide_eq_true_eq,
    cleanVerified, acceptedExceptions, ← length_filter_or _ (by
      intro job verified
      rw [acceptedException, of_decide_eq_true verified]
      rfl)] at settled
  obtain ⟨some, all⟩ := settled
  rw [← Nat.pos_iff_ne_zero, List.length_pos_iff_exists_mem] at some
  obtain ⟨job, isMember⟩ := some
  obtain ⟨isJob, ofProject⟩ := Table.mem_select.mp isMember
  refine ⟨⟨job, isJob, of_decide_eq_true ofProject⟩, fun other isOther otherProject => ?_⟩
  have kind := List.length_filter_eq_length_iff.mp all.symm other
    (Table.mem_select.mpr ⟨isOther, decide_eq_true otherProject⟩)
  rw [Bool.or_eq_true, decide_eq_true_eq, acceptedException, Bool.and_eq_true,
    decide_eq_true_eq, List.any_eq_true] at kind
  refine certified_iff.mpr (kind.imp_right fun excepted => ?_)
  obtain ⟨acceptance, isAcceptance, ofJob⟩ := excepted.2
  rw [Bool.and_eq_true, decide_eq_true_eq] at ofJob
  exact ⟨excepted.1, acceptance, isAcceptance, ofJob.1⟩

namespace Certified

/-- Mailboxes of the project may change when they end up verified. -/
theorem verify (certified : Certified ledger projectId) {condition : MailboxJob → Bool}
    {change : MailboxProgress → MailboxProgress}
    (verifies : ∀ job ∈ ledger.jobs, condition job = true → job.projectId = projectId →
      (changedJob change job).state = .verified) :
    Certified (ledger.setJobs condition change) projectId := by
  constructor
  · obtain ⟨job, isJob, ofProject⟩ := certified.1
    refine ⟨_, mem_setJobs.mpr ⟨job, isJob, rfl⟩, ?_⟩
    split
    · exact ofProject
    · exact ofProject
  · intro job isJob ofProject
    obtain ⟨old, isOld, rfl⟩ := mem_setJobs.mp isJob
    split at ofProject
    · next hit =>
        rw [if_pos hit]
        exact certified_iff.mpr (.inl (verifies old isOld hit ofProject))
    · next miss =>
        rw [if_neg miss]
        exact certified.2 old isOld ofProject

/-- Mailboxes outside the project may change freely. -/
theorem setJobs (certified : Certified ledger projectId) {condition : MailboxJob → Bool}
    {change : MailboxProgress → MailboxProgress}
    (elsewhere : ∀ job ∈ ledger.jobs, condition job = true → job.projectId ≠ projectId) :
    Certified (ledger.setJobs condition change) projectId :=
  certified.verify fun job isJob hit ofProject => absurd ofProject (elsewhere job isJob hit)

/-- Certification looks at mailboxes and at acceptances, which only grow. -/
theorem congr (certified : Certified before projectId) (jobs : after.jobs = before.jobs)
    (acceptances : ∀ acceptance ∈ before.acceptances, acceptance ∈ after.acceptances) :
    Certified after projectId := by
  rw [Certified, jobs]
  refine ⟨certified.1, fun job isJob ofProject => certified_iff.mpr ?_⟩
  refine (certified_iff.mp (certified.2 job isJob ofProject)).imp_right fun accepted => ?_
  obtain ⟨acceptance, isAcceptance, ofJob⟩ := accepted.2
  exact ⟨accepted.1, acceptance, acceptances acceptance isAcceptance, ofJob⟩

/-- New projects leave the others alone. -/
theorem enroll (certified : Certified before projectId) {newProject : ProjectId}
    (enrolls : Enrolls newProject before.jobs after.jobs) (other : projectId ≠ newProject)
    (acceptances : ∀ acceptance ∈ before.acceptances, acceptance ∈ after.acceptances) :
    Certified after projectId := by
  constructor
  · obtain ⟨job, isJob, ofProject⟩ := certified.1
    exact ⟨job, enrolls.kept job isJob, ofProject⟩
  · intro job isJob ofProject
    cases enrolls.added job isJob with
    | inr isNew => exact absurd (ofProject.symm.trans isNew.1) other
    | inl isOld =>
      have renewed : Certified { before with acceptances := after.acceptances } projectId :=
        certified.congr rfl acceptances
      exact renewed.2 job isOld ofProject

/-- Mailboxes that were running were not certified. -/
theorem abandon (certified : Certified ledger projectId) :
    Certified ledger.abandonRuns projectId := by
  have still : Certified (ledger.setJobs (·.state = .running) ({ · with
      state := .attention
      attentionReason := some .processIdentityUnverified })) projectId := by
    refine certified.setJobs fun job isJob running ofProject => ?_
    have running := of_decide_eq_true running
    cases certified_iff.mp (certified.2 job isJob ofProject) with
    | inl verified => cases running.symm.trans verified
    | inr excepted => cases running.symm.trans excepted.1
  exact still.congr rfl fun _ => id

end Certified

variable {project : Project}

/-- The projects that are complete after a phase was set. -/
theorem complete_of_setPhase {phase : Phase}
    (isProject : project ∈ (ledger.setPhase projectId phase).projects)
    (complete : project.phase = .complete) :
    (project.id = projectId ∧ phase = .complete) ∨
      (project.id ≠ projectId ∧ project ∈ ledger.projects) := by
  obtain ⟨old, isOld, rfl⟩ := mem_setPhase.mp isProject
  split at complete
  · next hit =>
      rw [if_pos hit]
      exact .inl ⟨hit, complete⟩
  · next miss =>
      rw [if_neg miss]
      exact .inr ⟨miss, isOld⟩

theorem Replanned.sameProject {job job' : MailboxJob} (replanned : Replanned job job') :
    job'.projectId = job.projectId := by
  cases replanned with
  | inl same => rw [same]
  | inr changed =>
    obtain ⟨_, rfl⟩ := changed
    rfl

/-- New plans leave mailboxes in their states. -/
theorem Certified.replan (certified : Certified ledger projectId) {jobs : Table MailboxJob.id}
    (replans : Replans ledger.jobs jobs) : Certified { ledger with jobs } projectId := by
  obtain ⟨⟨job, isJob, ofProject⟩, every⟩ := certified
  constructor
  · obtain ⟨job', isJob', replanned⟩ := replans.forward job isJob
    exact ⟨job', isJob', replanned.sameProject.trans ofProject⟩
  · intro job' isJob' ofProject
    obtain ⟨old, isOld, replanned⟩ := replans.backward job' isJob'
    have still := every old isOld (replanned.sameProject.symm.trans ofProject)
    cases replanned with
    | inl same =>
      subst same
      exact still
    | inr changed =>
      obtain ⟨_, rfl⟩ := changed
      exact still

/-- The condition under which an operation leaves completed projects alone: the ends of
mailbox runs do not look at the phase. -/
def Respects (ledger : Ledger) : Operation → Prop
  | .finishRunForMailbox projectId .. =>
    ∀ project ∈ ledger.projects, project.id = projectId → project.phase ≠ .complete
  | .finishRunForMailboxWithEvidence projectId _ _ _ mailboxState .. =>
    mailboxState = .verified ∨
      ∀ project ∈ ledger.projects, project.id = projectId → project.phase ≠ .complete
  | _ => True

/-- One accepted operation that respects completed projects. -/
def RespectfulStep (platform : LedgerPlatform) (before : Ledger) (operation : Operation)
    (after : Ledger) : Prop :=
  Respects before operation ∧ Step platform before operation after

/-- Completed projects are certified. -/
def CompletedCertified (ledger : Ledger) : Prop :=
  ∀ project ∈ ledger.projects, project.phase = .complete → Certified ledger project.id

/-- Updates of one mailbox of a project that is not complete. -/
theorem Certified.setJob {job : MailboxJob} {jobId : JobId}
    (certified : Certified ledger project.id) (complete : project.phase = .complete)
    (isProject : project ∈ ledger.projects) (isJob : ledger.jobIn projectId jobId = some job)
    (isOpen : ∀ other ∈ ledger.projects, other.id = projectId → other.phase ≠ .complete)
    (change : MailboxProgress → MailboxProgress) :
    Certified (ledger.setJobs (·.id = jobId) change) project.id := by
  obtain ⟨isRow, sameId, sameProject⟩ := jobIn_eq_some.mp isJob
  refine certified.setJobs fun other isOther hit ofProject => ?_
  have same := Table.eq_of_key isOther isRow ((of_decide_eq_true hit).trans sameId.symm)
  subst same
  exact isOpen project isProject (ofProject.symm.trans sameProject) complete

/-- A project that was found is the only one with its identifier. -/
theorem open_of_find (found : ledger.projects.find projectId = some project)
    (isOpen : project.phase ≠ .complete) :
    ∀ other ∈ ledger.projects, other.id = projectId → other.phase ≠ .complete := by
  obtain ⟨isRow, rfl⟩ := Table.find_eq_some.mp found
  intro other isOther sameId
  rw [Table.eq_of_key isOther isRow sameId]
  exact isOpen

/-- New projects are not complete. -/
theorem CompletedCertified.addProject (completed : CompletedCertified before)
    {projects : Table Project.id} {jobs : Table MailboxJob.id}
    (newProject : before.projects.insert { id := projectId, phase := .discovery } = some projects)
    (enrolls : Enrolls projectId before.jobs jobs) :
    CompletedCertified { before with projects, jobs } := by
  intro project isProject complete
  cases (Table.mem_insert newProject).mp isProject with
  | inl isOld =>
    have fresh := (Table.insert_eq_some newProject).1 project isOld
    exact (completed project isOld complete).enroll enrolls fresh fun _ => id
  | inr isNew =>
    subst isNew
    cases complete

/-- Accepting a difference completes a project only with its last mailbox. -/
theorem CompletedCertified.accept (completed : CompletedCertified ledger)
    {acceptance : VerificationAcceptance} {job : MailboxJob} {owner : Project}
    (isJob : ledger.jobIn projectId acceptance.jobId = some job)
    (found : ledger.projects.find projectId = some owner) (isOpen : owner.phase ≠ .complete) :
    CompletedCertified (ledger.recordAcceptance acceptance projectId owner.phase) := by
  intro project isProject complete
  have still : project ∈ ledger.projects →
      Certified ((ledger.insertAcceptance acceptance).setJobs
      (·.id = acceptance.jobId)
        ({ · with state := .verifiedWithExceptions, attentionReason := none })) project.id := by
    intro isOld
    have accepted : Certified (ledger.insertAcceptance acceptance) project.id :=
      (completed project isOld complete).congr rfl fun _ => List.mem_append_left _
    exact accepted.setJob complete isOld isJob (open_of_find found isOpen) _
  rw [recordAcceptance] at isProject ⊢
  split at isProject
  · next closes =>
      rw [if_pos closes]
      cases complete_of_setPhase isProject complete with
      | inl closed =>
        rw [closed.1]
        exact (everyMailboxCertified_iff.mp closes.2.2).congr rfl fun _ => id
      | inr other => exact (still other.2).congr rfl fun _ => id
  · next stays =>
      rw [if_neg stays]
      exact (still isProject).congr rfl fun _ => id

/-- A cutover advances once its mailboxes are certified. -/
theorem CompletedCertified.advance (completed : CompletedCertified ledger) {phase : Phase}
    {stage : CutoverStage} {confirmation : Option String}
    (settled : ledger.everyMailboxSettled projectId = true) :
    CompletedCertified (ledger.enterStage projectId phase stage confirmation) := by
  intro project isProject complete
  cases complete_of_setPhase isProject complete with
  | inl closed =>
    rw [closed.1]
    have last : stage = .completed := by
      cases stage <;> first | rfl | cases closed.2
    subst last
    refine Certified.congr ((certified_of_settled settled).setJobs ?_) rfl fun _ => id
    intro job _ hit
    cases hit
  | inr other =>
    refine Certified.congr ((completed project other.2 complete).setJobs ?_) rfl fun _ => id
    intro job _ hit ofProject
    rw [Bool.and_eq_true, Bool.and_eq_true, decide_eq_true_eq, decide_eq_true_eq] at hit
    exact other.1 (ofProject.symm.trans hit.1.2)

/-- Every accepted operation that respects completed projects keeps them certified. -/
theorem RespectfulStep.completed (step : RespectfulStep platform before operation after)
    (completed : CompletedCertified before) : CompletedCertified after := by
  obtain ⟨respects, step⟩ := step
  intro project isProject complete
  cases operation with
  | createProjectWithMailbox newId =>
    obtain ⟨_, _, newProject, newJob, rfl⟩ := createProjectWithMailbox_ok step
    have itself : Enrolls newId before.jobs before.jobs := ⟨fun _ => id, fun _ => .inl⟩
    have still := completed.addProject newProject (itself.insert rfl ⟨none, rfl⟩ newJob)
    exact (still project isProject complete).congr rfl fun _ => id
  | createBatchQueue =>
    obtain ⟨_, _, _, _, newProject, enrolls, rfl⟩ := createBatchQueue_enrolls step
    exact (completed.addProject newProject enrolls project isProject complete).congr rfl
      fun _ => id
  | updateQueuePlans =>
    obtain ⟨_, _, _, replans, rfl⟩ := updateQueuePlans_ok step
    exact ((completed project isProject complete).replan replans).congr rfl fun _ => id
  | beginRunWithSnapshot =>
    obtain ⟨job, _, admitted, isJob, found, _, isOpen, _, _, _, inserted, rfl⟩ :=
      beginRunWithSnapshot_ok step
    obtain ⟨_, _, rfl⟩ := insertRun_ok inserted
    have still := (completed project isProject complete).setJob complete isProject isJob
      (open_of_find found isOpen) claimed
    exact still.congr rfl fun _ => id
  | claimBatchMailboxForChild =>
    obtain ⟨_, _, job, _, _, _, _, _, _, _, _, _, _, _, isJob, found, _, isOpen, _, rfl⟩ :=
      claimBatchMailboxForChild_ok step
    have still := (completed project isProject complete).setJob complete isProject isJob
      (open_of_find found isOpen) claimed
    exact still.congr rfl fun _ => id
  | finishRunForMailbox _ _ _ _ mailboxState detail preflightPlan checkpoint =>
    obtain ⟨job, _, isJob, _, _, _, _, _, _, _, _, _, _, rfl⟩ := finishRunForMailbox_ok step
    have still := (completed project isProject complete).setJob complete isProject isJob
      respects (settled mailboxState detail preflightPlan checkpoint)
    exact still.congr rfl fun _ => id
  | finishRunForMailboxWithEvidence _ jobId _ _ mailboxState detail _ _ preflightPlan
      checkpoint =>
    obtain ⟨job, _, isJob, _, _, _, _, _, _, _, _, rfl⟩ := finishRunForMailboxWithEvidence_ok step
    have earlier := completed project isProject complete
    cases respects with
    | inl verified =>
      have still : Certified (before.setJobs (·.id = jobId)
          (settled mailboxState detail preflightPlan checkpoint)) project.id :=
        earlier.verify fun _ _ _ _ => verified
      exact still.congr rfl fun _ => id
    | inr isOpen =>
      have still := earlier.setJob complete isProject isJob isOpen
        (settled mailboxState detail preflightPlan checkpoint)
      exact still.congr rfl fun _ => id
  | acceptVerificationDifference projectId jobId =>
    obtain ⟨acceptance, job, owner, isJob, found, _, isOpen, ofJob, rfl⟩ :=
      acceptVerificationDifference_ok step
    subst ofJob
    exact completed.accept isJob found isOpen project isProject complete
  | transition projectId phase =>
    obtain ⟨owner, found, _, _, closes, rfl⟩ := transition_ok step
    cases complete_of_setPhase isProject complete with
    | inr other => exact (completed project other.2 complete).congr rfl fun _ => id
    | inl closed =>
      rw [closed.1]
      refine Certified.congr ?_ rfl fun _ => id
      by_cases same : owner.phase = phase
      · obtain ⟨isOwner, rfl⟩ := Table.find_eq_some.mp found
        exact completed owner isOwner (same.trans closed.2)
      · exact everyMailboxCertified_iff.mp (closes closed.2 same).1
  | reopenProject projectId =>
    obtain ⟨_, _, _, _, rfl⟩ := reopenProject_ok step
    cases complete_of_setPhase isProject complete with
    | inl closed => cases closed.2
    | inr other =>
      refine Certified.congr ((completed project other.2 complete).setJobs ?_) rfl fun _ => id
      intro job _ hit ofProject
      rw [Bool.and_eq_true, decide_eq_true_eq] at hit
      exact other.1 (ofProject.symm.trans hit.1)
  | approveCutover =>
    obtain ⟨_, _, _, _, _, _, _, rfl⟩ := approveCutover_ok step
    cases complete_of_setPhase isProject complete with
    | inl closed => cases closed.2
    | inr other => exact (completed project other.2 complete).congr rfl fun _ => id
  | advanceCutover projectId =>
    simp only [Step, Operation.apply, bind_eq_ok, pure_eq_ok] at step
    obtain ⟨⟨_, stage⟩, advanced, rfl⟩ := step
    obtain ⟨_, _, _, _, _, _, _, settled, _, _, rfl⟩ := advanceCutover_ok advanced
    exact completed.advance settled project isProject complete
  | recoverAbandonedJobsPreserving =>
    obtain ⟨_, _, rfl, _⟩ := recoverAbandonedJobsPreserving_ok step
    exact (completed project isProject complete).abandon.congr rfl fun _ => id
  | _ =>
    rw [step.kept.projects (by simp [Operation.writes])] at isProject
    exact (completed project isProject complete).congr
      (step.kept.jobs (by simp [Operation.writes]))
      (by rw [step.kept.acceptances (by simp [Operation.writes])]; exact fun _ => id)

/-- The project of a mailbox run that an operation ends without verifying it. -/
def unverifiedEnd : Operation → Option ProjectId
  | .finishRunForMailbox projectId .. => some projectId
  | .finishRunForMailboxWithEvidence projectId _ _ _ mailboxState .. =>
    if mailboxState = .verified then none else some projectId
  | _ => none

theorem respects_iff {operation : Operation} : Respects ledger operation ↔
    ∀ projectId ∈ unverifiedEnd operation, ∀ project ∈ ledger.projects.rows,
      project.id = projectId → project.phase ≠ .complete := by
  cases operation with
  | finishRunForMailbox => simp [Respects, unverifiedEnd]
  | finishRunForMailboxWithEvidence _ _ _ _ mailboxState =>
    by_cases verified : mailboxState = .verified
    · simp [Respects, unverifiedEnd, verified]
    · simp [Respects, unverifiedEnd, verified]
  | _ => simp [Respects, unverifiedEnd]

instance (ledger : Ledger) (operation : Operation) : Decidable (Respects ledger operation) :=
  decidable_of_iff _ respects_iff.symm

theorem completed_of_run {operations : List Operation}
    (run : Trace (RespectfulStep platform) {} operations ledger) : CompletedCertified ledger :=
  run.invariant CompletedCertified (fun _ isProject => absurd isProject (Table.not_mem_empty _))
    fun step => step.completed

/-! ## Reopening -/

theorem mem_setPhase_other {phase : Phase}
    (isProject : project ∈ ledger.projects) (other : project.id ≠ projectId) :
    project ∈ (ledger.setPhase projectId phase).projects :=
  mem_setPhase.mpr ⟨project, isProject, by rw [if_neg other]⟩

/-- Only reopening leaves the last phase. -/
theorem Step.leaves_complete (step : Step platform before operation after)
    (isProject : project ∈ before.projects) (complete : project.phase = .complete) :
    project ∈ after.projects ∨ ∃ reason, operation = .reopenProject project.id reason := by
  have elsewhere : ∀ {projectId : ProjectId} {owner : Project},
      before.projects.find projectId = some owner → owner.phase ≠ .complete →
        project.id ≠ projectId :=
    fun found isOpen sameId => open_of_find found isOpen project isProject sameId complete
  cases operation with
  | createProjectWithMailbox =>
    obtain ⟨_, _, newProject, _, rfl⟩ := createProjectWithMailbox_ok step
    exact .inl ((Table.mem_insert newProject).mpr (.inl isProject))
  | createBatchQueue =>
    obtain ⟨_, _, _, _, newProject, _, rfl⟩ := createBatchQueue_enrolls step
    exact .inl ((Table.mem_insert newProject).mpr (.inl isProject))
  | acceptVerificationDifference =>
    obtain ⟨_, _, _, _, found, _, isOpen, _, rfl⟩ := acceptVerificationDifference_ok step
    rw [recordAcceptance]
    split
    · exact .inl (mem_setPhase_other isProject (elsewhere found isOpen))
    · exact .inl isProject
  | transition projectId phase =>
    obtain ⟨owner, found, _, keeps, _, rfl⟩ := transition_ok step
    cases keeps with
    | inl same =>
      subst same
      rw [setPhase_self found]
      exact .inl isProject
    | inr isOpen => exact .inl (mem_setPhase_other isProject (elsewhere found isOpen))
  | reopenProject projectId reason =>
    obtain ⟨_, _, _, _, rfl⟩ := reopenProject_ok step
    by_cases same : project.id = projectId
    · subst same
      exact .inr ⟨reason, rfl⟩
    · exact .inl (mem_setPhase_other isProject same)
  | approveCutover =>
    obtain ⟨_, _, _, found, phase, _, _, rfl⟩ := approveCutover_ok step
    have isOpen : ∀ owner : Project, owner.phase = .preflight ∨ owner.phase = .pilot →
        owner.phase ≠ .complete := by
      rintro owner (phase | phase) <;> simp [phase]
    exact .inl (mem_setPhase_other isProject (elsewhere found (isOpen _ phase)))
  | advanceCutover =>
    simp only [Step, Operation.apply, bind_eq_ok, pure_eq_ok] at step
    obtain ⟨⟨_, _⟩, advanced, rfl⟩ := step
    obtain ⟨_, _, _, _, _, found, isOpen, _, _, _, rfl⟩ := advanceCutover_ok advanced
    exact .inl (mem_setPhase_other isProject (elsewhere found isOpen))
  | _ =>
    rw [step.kept.projects (by simp [Operation.writes])]
    exact .inl isProject

/-- Certified projects can be reopened once nothing is active. -/
theorem reopen_enabled (isProject : project ∈ ledger.projects)
    (complete : project.phase = .complete) (certified : Certified ledger project.id)
    (unmanaged : ledger.hasCutoverWorkflow project.id = false)
    (noRun : ∀ run ∈ ledger.runs, run.projectId = project.id → run.status.isActive = false)
    (noProcess : ∀ process ∈ ledger.processes, ∀ run ∈ ledger.runs, run.id = process.runId →
      run.projectId ≠ project.id)
    {reason : String} (valid : (singleLineAuditText reason 4096).isSome = true) :
    ∃ next, ledger.reopenProject project.id reason = .ok next := by
  obtain ⟨text, isText⟩ := Option.isSome_iff_exists.mp valid
  have found : ledger.projects.find project.id = some project :=
    Table.find_eq_some.mpr ⟨isProject, rfl⟩
  have quiet : (ledger.runs.any fun run => run.projectId = project.id && run.status.isActive) =
      false := by
    refine Table.any_eq_false.mpr fun run isRun active => ?_
    rw [Bool.and_eq_true, decide_eq_true_eq] at active
    rw [noRun run isRun active.1] at active
    cases active.2
  have noProcesses : (ledger.processes.any fun process =>
      (ledger.runs.find process.runId).any (·.projectId = project.id)) = false := by
    refine Table.any_eq_false.mpr fun process isProcess active => ?_
    cases isRun : ledger.runs.find process.runId with
    | none =>
      rw [isRun] at active
      cases active
    | some run =>
      rw [isRun] at active
      obtain ⟨isRow, sameId⟩ := Table.find_eq_some.mp isRun
      exact noProcess process isProcess run isRow sameId (of_decide_eq_true active)
  rw [reopenProject, isText, found]
  simp only [demand, require, Option.elim, ok_bind, complete, unmanaged, quiet, noProcesses,
    everyMailboxCertified_iff.mpr certified]
  exact ⟨_, rfl⟩

end Ledger

/-- Completed projects stay certified, can only be left by reopening, and can be reopened. -/
theorem Ledger.completed_projects_certified {platform : LedgerPlatform}
    {operations : List Operation} {ledger : Ledger}
    (run : Trace (Ledger.RespectfulStep platform) {} operations ledger) {project : Project}
    (isProject : project ∈ ledger.projects) (complete : project.phase = .complete) :
    ((∃ job ∈ ledger.jobs, job.projectId = project.id) ∧
      ∀ job ∈ ledger.jobs, job.projectId = project.id → job.state = .verified ∨
        (job.state = .verifiedWithExceptions ∧
          ∃ acceptance ∈ ledger.acceptances, acceptance.jobId = job.id)) ∧
    (∀ operation next, Ledger.Step platform ledger operation next →
      project ∈ next.projects ∨ ∃ reason, operation = .reopenProject project.id reason) ∧
    (ledger.hasCutoverWorkflow project.id = false →
      (∀ run ∈ ledger.runs, run.projectId = project.id → run.status.isActive = false) →
      (∀ process ∈ ledger.processes, ∀ run ∈ ledger.runs, run.id = process.runId →
        run.projectId ≠ project.id) →
      ∀ reason, (singleLineAuditText reason 4096).isSome = true →
        ∃ next, ledger.reopenProject project.id reason = .ok next) := by
  have certified := Ledger.completed_of_run run project isProject complete
  refine ⟨⟨certified.1, ?_⟩, ?_, ?_⟩
  · intro job isJob ofProject
    exact Ledger.certified_iff.mp (certified.2 job isJob ofProject)
  · intro operation next step
    exact step.leaves_complete isProject complete
  · intro unmanaged noRun noProcess reason valid
    exact Ledger.reopen_enabled isProject complete certified unmanaged noRun noProcess valid

/-- A project of one verified mailbox that completes while a child of a batch waits. -/
def Operation.completedWithChild : List Operation :=
  .createProjectWithMailbox "project" "mailbox" "user@example.org" ::
    Operation.verifiedPass "run" ++
  [.transition "project" .preflight,
    .transition "project" .verification,
    .beginBatchRunWithChildren "project" ["mailbox"] "batch" .imapsync [] "" [] fun _ => "child",
    .transition "project" .complete]

/-- A completed project is certified while its child waits. -/
theorem Ledger.certified_while_child_waits : ∃ (operations : List Operation) (ledger : Ledger)
    (project : Project), Trace (Ledger.RespectfulStep .ascii) {} operations ledger ∧
      project ∈ ledger.projects ∧ project.phase = .complete ∧
      (∃ job ∈ ledger.jobs, job.projectId = project.id) ∧
      (∀ job ∈ ledger.jobs, job.projectId = project.id → job.state = .verified ∨
        (job.state = .verifiedWithExceptions ∧
          ∃ acceptance ∈ ledger.acceptances, acceptance.jobId = job.id)) ∧
      ∀ operation next, Ledger.Step .ascii ledger operation next →
        project ∈ next.projects ∨ ∃ reason, operation = .reopenProject project.id reason := by
  obtain ⟨ledger, run, completed⟩ := Ledger.exists_run_under .ascii
    (fun ledger operation => decide (Ledger.Respects ledger operation)) {}
    Operation.completedWithChild
    (fun ledger => ledger.projects.any (·.phase = .complete)) (by decide +kernel)
  obtain ⟨project, isProject, complete⟩ := Table.any_eq_true.mp completed
  have complete := of_decide_eq_true complete
  have run : Trace (Ledger.RespectfulStep .ascii) {} Operation.completedWithChild ledger :=
    run.weaken fun step => ⟨of_decide_eq_true step.1, step.2⟩
  have certified := Ledger.completed_projects_certified run isProject complete
  exact ⟨_, ledger, project, run, isProject, complete, certified.1.1, certified.1.2,
    certified.2.1⟩

/-- When the waiting child is cancelled, the completed project keeps an uncertified mailbox
and can no longer be reopened. -/
theorem Ledger.completed_project_loses_certification : ∃ (operations : List Operation)
    (ledger : Ledger) (project : Project) (job : MailboxJob),
      Trace (Ledger.DisciplinedStep .ascii) {} operations ledger ∧
      project ∈ ledger.projects ∧ project.phase = .complete ∧
      job ∈ ledger.jobs ∧ job.projectId = project.id ∧ job.state = .attention ∧
      ledger.reopenProject project.id "correction" = .error (.rejection
        "reopen requires every mailbox verified and no active runs or processes") := by
  obtain ⟨ledger, run, lost⟩ := Ledger.exists_run_of_replay .ascii {}
    (Operation.completedWithChild ++
      [.finishRunForMailbox "project" "mailbox" "child" .cancelled .attention "" none none,
        .finishRun "batch" .cancelled ""])
    (fun ledger => ledger.projects.any fun project => ledger.jobs.any fun job =>
      decide (project.phase = .complete ∧ job.projectId = project.id ∧ job.state = .attention ∧
        Ledger.refusal (ledger.reopenProject project.id "correction") = some (.rejection
          "reopen requires every mailbox verified and no active runs or processes")))
    (by decide +kernel)
  obtain ⟨project, isProject, lost⟩ := Table.any_eq_true.mp lost
  obtain ⟨job, isJob, lost⟩ := Table.any_eq_true.mp lost
  have lost := of_decide_eq_true lost
  exact ⟨_, ledger, project, job, run, isProject, lost.1, isJob, lost.2.1, lost.2.2.1,
    Ledger.refusal_eq_some.mp lost.2.2.2⟩

end MailSwiftSync
