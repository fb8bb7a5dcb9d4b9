import MailSwiftSync.Ledger.Operations

/-!
# References and queue facts

Runs and acceptances refer to mailboxes, mailboxes to projects, and the facts of a
queue row repeat what the other tables say about it.  Every write keeps these
references, because the triggers on the written tables follow it.
-/

namespace MailSwiftSync

open Foundation

namespace Ledger

/-- The facts of a mailbox, read from the tables themselves. -/
def queueFacts (ledger : Ledger) (job : MailboxJob) : QueueFacts where
  jobId := job.id
  projectId := job.projectId
  state := job.state
  runsTotal := ledger.countRuns job.id fun _ => true
  runsQueued := ledger.countRuns job.id (·.status = .queued)
  acceptances := ledger.countAcceptances job.id

/-- References resolve, facts are what they repeat, and the mailboxes of the given queues
all have facts. -/
structure Consistent (queues : Set ProjectId) (ledger : Ledger) : Prop where
  jobProject : ∀ job ∈ ledger.jobs, ∃ project ∈ ledger.projects, project.id = job.projectId
  runJob : ∀ run ∈ ledger.runs, ∀ jobId, run.jobId = some jobId →
    ∃ job ∈ ledger.jobs, job.id = jobId ∧ job.projectId = run.projectId
  acceptanceJob : ∀ acceptance ∈ ledger.acceptances, ∃ job ∈ ledger.jobs,
    job.id = acceptance.jobId
  factsExact : ∀ facts ∈ ledger.facts, ∃ job ∈ ledger.jobs, facts = ledger.queueFacts job
  queueKnown : ∀ projectId ∈ queues, ∃ project ∈ ledger.projects, project.id = projectId
  queueCovered : ∀ job ∈ ledger.jobs, job.projectId ∈ queues →
    ∃ facts ∈ ledger.facts, facts.jobId = job.id

theorem consistent_empty : Consistent ∅ {} where
  jobProject := fun _ isJob => absurd isJob (Table.not_mem_empty _)
  runJob := fun _ isRun => absurd isRun (Table.not_mem_empty _)
  acceptanceJob := fun _ isAcceptance => absurd isAcceptance List.not_mem_nil
  factsExact := fun _ isFacts => absurd isFacts (Table.not_mem_empty _)
  queueKnown := fun _ isQueue => absurd isQueue (Set.notMem_empty _)
  queueCovered := fun _ isJob => absurd isJob (Table.not_mem_empty _)

namespace Consistent

variable {queues : Set ProjectId} {ledger next : Ledger}

/-- Writes to other tables. -/
theorem congr (consistent : Consistent queues ledger) (projects : next.projects = ledger.projects)
    (jobs : next.jobs = ledger.jobs) (runs : next.runs = ledger.runs)
    (acceptances : next.acceptances = ledger.acceptances) (facts : next.facts = ledger.facts) :
    Consistent queues next := by
  cases next
  cases projects
  cases jobs
  cases runs
  cases acceptances
  cases facts
  exact ⟨consistent.jobProject, consistent.runJob, consistent.acceptanceJob,
    consistent.factsExact, consistent.queueKnown, consistent.queueCovered⟩

theorem mono {fewer : Set ProjectId} (consistent : Consistent queues ledger)
    (subset : fewer ⊆ queues) : Consistent fewer ledger where
  jobProject := consistent.jobProject
  runJob := consistent.runJob
  acceptanceJob := consistent.acceptanceJob
  factsExact := consistent.factsExact
  queueKnown := fun projectId isQueue => consistent.queueKnown projectId (subset isQueue)
  queueCovered := fun job isJob isQueue => consistent.queueCovered job isJob (subset isQueue)

theorem setPhase (consistent : Consistent queues ledger) (projectId : ProjectId) (phase : Phase) :
    Consistent queues (ledger.setPhase projectId phase) where
  jobProject := by
    intro job isJob
    obtain ⟨project, isProject, sameId⟩ := consistent.jobProject job isJob
    refine ⟨_, mem_setPhase.mpr ⟨project, isProject, rfl⟩, ?_⟩
    split
    · exact sameId
    · exact sameId
  runJob := consistent.runJob
  acceptanceJob := consistent.acceptanceJob
  factsExact := consistent.factsExact
  queueKnown := by
    intro queue isQueue
    obtain ⟨project, isProject, sameId⟩ := consistent.queueKnown queue isQueue
    refine ⟨_, mem_setPhase.mpr ⟨project, isProject, rfl⟩, ?_⟩
    split
    · exact sameId
    · exact sameId
  queueCovered := consistent.queueCovered

end Consistent

/-! ## Counting runs -/

/-- What the trigger for one run does to one row of facts. -/
def counted (sign : Int) (run : Run) (facts : QueueFacts) : QueueFacts :=
  if run.jobId = some facts.jobId then
    { facts with
      runsTotal := facts.runsTotal + sign
      runsQueued := facts.runsQueued + sign * if run.status = .queued then 1 else 0 }
  else facts

theorem countRun_rowwise (sign : Int) (run : Run) :
    Table.Rowwise (countRun sign run) (counted sign run) := by
  intro facts
  rw [countRun, Table.update]
  refine List.map_congr_left fun row _ => ?_
  rw [counted]
  simp only [decide_eq_true_eq]

@[simp] theorem counted_jobId (sign : Int) (run : Run) (facts : QueueFacts) :
    (counted sign run facts).jobId = facts.jobId := by
  rw [counted]
  split
  · rfl
  · rfl

/-- How many of some runs of a mailbox are queued. -/
def queuedAmong (jobId : JobId) (runs : List Run) : Int :=
  (runs.filter fun run => run.jobId = some jobId && run.status = .queued).length

theorem queuedAmong_cons (jobId : JobId) (run : Run) (runs : List Run) :
    queuedAmong jobId (run :: runs) =
      (if run.jobId = some jobId then if run.status = .queued then 1 else 0 else 0) +
        queuedAmong jobId runs := by
  rw [queuedAmong, queuedAmong, List.filter_cons]
  by_cases ofJob : run.jobId = some jobId
  · by_cases queued : run.status = .queued
    · simp [ofJob, queued]
      omega
    · simp [ofJob, queued]
  · simp [ofJob]

/-- Recounting one run leaves the total as it was. -/
theorem recounted (facts : QueueFacts) (change : RunProgress → RunProgress) (run : Run) :
    counted 1 (changedRun change run) (counted (-1) run facts) =
      { facts with
        runsQueued := facts.runsQueued +
          (queuedAmong facts.jobId [changedRun change run] - queuedAmong facts.jobId [run]) } := by
  rw [queuedAmong_cons, queuedAmong_cons]
  by_cases ofJob : run.jobId = some facts.jobId
  · have changedJob : (changedRun change run).jobId = some facts.jobId := ofJob
    rw [counted, counted_jobId, if_pos changedJob, counted, if_pos ofJob, if_pos changedJob,
      if_pos ofJob]
    simp only [QueueFacts.mk.injEq, true_and, and_true]
    constructor
    · omega
    · split <;> split <;> simp [queuedAmong]
  · have changedJob : ¬(changedRun change run).jobId = some facts.jobId := ofJob
    rw [counted, counted_jobId, if_neg changedJob, counted, if_neg ofJob, if_neg changedJob,
      if_neg ofJob]
    simp

/-- Recounting updated runs is counting them after the update. -/
theorem foldl_recounted (condition : Run → Bool) (change : RunProgress → RunProgress)
    (runs : List Run) (facts : QueueFacts) :
    (runs.filter condition).foldl (fun facts run =>
        counted 1 (changedRun change run) (counted (-1) run facts)) facts =
      { facts with
        runsQueued := facts.runsQueued +
          (queuedAmong facts.jobId
            (runs.map fun run => if condition run then changedRun change run else run) -
              queuedAmong facts.jobId runs) } := by
  induction runs generalizing facts with
  | nil => simp
  | cons run runs ih =>
    rw [List.filter_cons, List.map_cons, queuedAmong_cons facts.jobId run,
      queuedAmong_cons facts.jobId (if condition run = true then _ else _)]
    cases hit : condition run with
    | false =>
      simp only [Bool.false_eq_true, if_false]
      rw [ih, QueueFacts.mk.injEq]
      refine ⟨rfl, rfl, rfl, rfl, ?_, rfl⟩
      omega
    | true =>
      simp only [if_true]
      rw [List.foldl_cons, recounted, ih, queuedAmong_cons facts.jobId (changedRun change run),
        queuedAmong_cons facts.jobId run, QueueFacts.mk.injEq]
      refine ⟨rfl, rfl, rfl, rfl, ?_, rfl⟩
      simp only [queuedAmong, List.filter_nil, List.length_nil]
      omega

/-- An update of runs keeps how many a mailbox has. -/
theorem countRuns_setRuns (ledger : Ledger) (condition : Run → Bool)
    (change : RunProgress → RunProgress) (jobId : JobId) :
    (ledger.setRuns condition change).countRuns jobId (fun _ => true) =
      ledger.countRuns jobId fun _ => true := by
  rw [countRuns, countRuns, setRuns, Table.select, Table.update, Table.select, List.filter_map,
    List.length_map]
  congr 2
  funext run
  simp only [Function.comp, Bool.and_true]
  split
  · rfl
  · rfl

/-- The trigger on updated runs keeps the facts exact. -/
theorem facts_setRuns (ledger : Ledger) (condition : Run → Bool)
    (change : RunProgress → RunProgress) (job : MailboxJob) :
    (ledger.runs.select condition).foldl (fun facts run =>
        counted 1 (changedRun change run) (counted (-1) run facts)) (ledger.queueFacts job) =
      (ledger.setRuns condition change).queueFacts job := by
  rw [Table.select, foldl_recounted, queueFacts, queueFacts, countRuns_setRuns,
    QueueFacts.mk.injEq]
  refine ⟨rfl, rfl, rfl, rfl, ?_, rfl⟩
  simp only [countRuns, queuedAmong, setRuns, Table.select, Table.update]
  omega

/-- The trigger on a new run keeps the facts exact. -/
theorem facts_insertRun {ledger next : Ledger} {run : Run}
    (accepted : ledger.insertRun run = .ok next) (job : MailboxJob) :
    counted 1 run (ledger.queueFacts job) = next.queueFacts job := by
  obtain ⟨runs, inserted, rfl⟩ := insertRun_ok accepted
  obtain ⟨_, rows⟩ := Table.insert_eq_some inserted
  rw [counted]
  simp only [queueFacts, countRuns, Table.select, rows, List.filter_append,
    List.length_append]
  by_cases ofJob : run.jobId = some job.id
  · by_cases queued : run.status = .queued
    · simp [ofJob, queued, countAcceptances]
    · simp [ofJob, queued, countAcceptances]
  · simp [ofJob, countAcceptances]

/-! ## Restating mailboxes -/

/-- What the trigger for one mailbox does to one row of facts. -/
def restated (change : MailboxProgress → MailboxProgress) (job : MailboxJob)
    (facts : QueueFacts) : QueueFacts :=
  if facts.jobId = job.id then { facts with state := (changedJob change job).state } else facts

theorem restate_rowwise (change : MailboxProgress → MailboxProgress) (jobs : List MailboxJob) :
    Table.Rowwise (fun facts : Table QueueFacts.jobId => jobs.foldl (fun facts job =>
        facts.update (·.jobId = job.id) fun row =>
          { row with state := (changedJob change job).state }) facts)
      (fun facts => jobs.foldl (fun facts job => restated change job facts) facts) := by
  refine Table.Rowwise.foldl (fun job facts => ?_) _
  rw [Table.update]
  refine List.map_congr_left fun row _ => ?_
  rw [restated]
  simp only [decide_eq_true_eq]

/-- Of updated mailboxes, only the one that facts belong to matters. -/
theorem foldl_restated (change : MailboxProgress → MailboxProgress) (job : MailboxJob)
    (jobs : List MailboxJob) (facts : QueueFacts) (ofJob : facts.jobId = job.id)
    (unique : ∀ other ∈ jobs, other.id = job.id → other = job) :
    jobs.foldl (fun facts other => restated change other facts) facts =
      if job ∈ jobs then { facts with state := (changedJob change job).state } else facts := by
  induction jobs generalizing facts with
  | nil => rfl
  | cons other jobs ih =>
    have unique' : ∀ later ∈ jobs, later.id = job.id → later = job :=
      fun later isLater => unique later (List.mem_cons_of_mem _ isLater)
    rw [List.foldl_cons]
    by_cases same : other.id = job.id
    · obtain rfl := unique other List.mem_cons_self same
      rw [restated, if_pos ofJob, if_pos List.mem_cons_self,
        ih { facts with state := (changedJob change other).state } ofJob unique']
      split
      · rfl
      · rfl
    · have differs : ¬facts.jobId = other.id := fun isOther => same (isOther.symm.trans ofJob)
      have isRest : job ∈ other :: jobs ↔ job ∈ jobs := by
        rw [List.mem_cons, or_iff_right]
        rintro rfl
        exact same rfl
      rw [restated, if_neg differs, ih _ ofJob unique']
      simp only [isRest]

/-- The trigger on updated mailboxes keeps the facts exact. -/
theorem facts_setJobs (ledger : Ledger) (condition : MailboxJob → Bool)
    (change : MailboxProgress → MailboxProgress) {job : MailboxJob} (isJob : job ∈ ledger.jobs) :
    (ledger.jobs.select condition).foldl (fun facts other => restated change other facts)
        (ledger.queueFacts job) =
      (ledger.setJobs condition change).queueFacts
        (if condition job then changedJob change job else job) := by
  rw [foldl_restated change job _ _ rfl fun other isOther sameId =>
    Table.eq_of_key (Table.mem_select.mp isOther).1 isJob sameId]
  simp only [Table.mem_select, isJob, true_and]
  cases condition job with
  | false => rfl
  | true => rfl

theorem mem_facts_insertAcceptance {ledger : Ledger} {acceptance : VerificationAcceptance}
    {facts : QueueFacts} : facts ∈ (ledger.insertAcceptance acceptance).facts ↔
      ∃ old ∈ ledger.facts, facts = if old.jobId = acceptance.jobId then
        { old with acceptances := old.acceptances + 1 } else old := by
  rw [insertAcceptance, Table.mem_update]
  simp only [decide_eq_true_eq]

namespace Consistent

variable {queues : Set ProjectId} {ledger next : Ledger}

theorem setRuns (consistent : Consistent queues ledger) (condition : Run → Bool)
    (change : RunProgress → RunProgress) : Consistent queues (ledger.setRuns condition change) := by
  have rowwise := Table.Rowwise.foldl (fun run : Run =>
    (countRun_rowwise 1 (changedRun change run)).comp (countRun_rowwise (-1) run))
      (ledger.runs.select condition)
  constructor
  case jobProject => exact consistent.jobProject
  case acceptanceJob => exact consistent.acceptanceJob
  case queueKnown => exact consistent.queueKnown
  case runJob =>
    intro run isRun jobId ofJob
    obtain ⟨old, isOld, rfl⟩ := mem_setRuns.mp isRun
    split at ofJob
    · next hit =>
        rw [if_pos hit]
        exact consistent.runJob old isOld jobId ofJob
    · next miss =>
        rw [if_neg miss]
        exact consistent.runJob old isOld jobId ofJob
  case factsExact =>
    intro facts isFacts
    obtain ⟨old, isOld, rfl⟩ := rowwise.mem.mp isFacts
    obtain ⟨job, isJob, rfl⟩ := consistent.factsExact old isOld
    exact ⟨job, isJob, facts_setRuns ledger condition change job⟩
  case queueCovered =>
    intro job isJob isQueue
    obtain ⟨facts, isFacts, ofJob⟩ := consistent.queueCovered job isJob isQueue
    obtain ⟨owner, isOwner, rfl⟩ := consistent.factsExact facts isFacts
    refine ⟨_, rowwise.mem.mpr ⟨_, isFacts, rfl⟩, ?_⟩
    rw [facts_setRuns]
    exact ofJob

theorem insertRun (consistent : Consistent queues ledger) {run : Run}
    (known : ∀ jobId, run.jobId = some jobId →
      ∃ job ∈ ledger.jobs, job.id = jobId ∧ job.projectId = run.projectId)
    (accepted : ledger.insertRun run = .ok next) : Consistent queues next := by
  have counts := facts_insertRun accepted
  obtain ⟨runs, inserted, rfl⟩ := insertRun_ok accepted
  constructor
  case jobProject => exact consistent.jobProject
  case acceptanceJob => exact consistent.acceptanceJob
  case queueKnown => exact consistent.queueKnown
  case runJob =>
    intro other isOther jobId ofJob
    cases (Table.mem_insert inserted).mp isOther with
    | inl isOld => exact consistent.runJob other isOld jobId ofJob
    | inr isNew =>
      subst isNew
      exact known jobId ofJob
  case factsExact =>
    intro facts isFacts
    obtain ⟨old, isOld, rfl⟩ := (countRun_rowwise 1 run).mem.mp isFacts
    obtain ⟨job, isJob, rfl⟩ := consistent.factsExact old isOld
    exact ⟨job, isJob, counts job⟩
  case queueCovered =>
    intro job isJob isQueue
    obtain ⟨facts, isFacts, ofJob⟩ := consistent.queueCovered job isJob isQueue
    exact ⟨_, (countRun_rowwise 1 run).mem.mpr ⟨_, isFacts, rfl⟩,
      (counted_jobId _ _ _).trans ofJob⟩

theorem setJobs (consistent : Consistent queues ledger) (condition : MailboxJob → Bool)
    (change : MailboxProgress → MailboxProgress) :
    Consistent queues (ledger.setJobs condition change) := by
  have kept : ∀ old : MailboxJob,
      (if condition old = true then changedJob change old else old).id = old.id ∧
      (if condition old = true then changedJob change old else old).projectId =
        old.projectId := by
    intro old
    split
    · exact ⟨rfl, rfl⟩
    · exact ⟨rfl, rfl⟩
  have rowwise := restate_rowwise change (ledger.jobs.select condition)
  constructor
  case jobProject =>
    intro job isJob
    obtain ⟨old, isOld, rfl⟩ := mem_setJobs.mp isJob
    rw [(kept old).2]
    exact consistent.jobProject old isOld
  case runJob =>
    intro run isRun jobId ofJob
    obtain ⟨job, isJob, sameId, sameProject⟩ := consistent.runJob run isRun jobId ofJob
    exact ⟨_, mem_setJobs.mpr ⟨job, isJob, rfl⟩, (kept job).1.trans sameId,
      (kept job).2.trans sameProject⟩
  case acceptanceJob =>
    intro acceptance isAcceptance
    obtain ⟨job, isJob, sameId⟩ := consistent.acceptanceJob acceptance isAcceptance
    exact ⟨_, mem_setJobs.mpr ⟨job, isJob, rfl⟩, (kept job).1.trans sameId⟩
  case factsExact =>
    intro facts isFacts
    obtain ⟨old, isOld, rfl⟩ := rowwise.mem.mp isFacts
    obtain ⟨job, isJob, rfl⟩ := consistent.factsExact old isOld
    exact ⟨_, mem_setJobs.mpr ⟨job, isJob, rfl⟩, facts_setJobs ledger condition change isJob⟩
  case queueKnown => exact consistent.queueKnown
  case queueCovered =>
    intro job isJob isQueue
    obtain ⟨old, isOld, rfl⟩ := mem_setJobs.mp isJob
    rw [(kept old).2] at isQueue
    obtain ⟨facts, isFacts, ofJob⟩ := consistent.queueCovered old isOld isQueue
    obtain ⟨owner, isOwner, rfl⟩ := consistent.factsExact facts isFacts
    refine ⟨_, rowwise.mem.mpr ⟨_, isFacts, rfl⟩, ?_⟩
    rw [facts_setJobs ledger condition change isOwner, (kept old).1]
    exact (kept owner).1.trans ofJob

theorem insertAcceptance (consistent : Consistent queues ledger)
    {acceptance : VerificationAcceptance}
    (known : ∃ job ∈ ledger.jobs, job.id = acceptance.jobId) :
    Consistent queues (ledger.insertAcceptance acceptance) := by
  constructor
  case jobProject => exact consistent.jobProject
  case runJob => exact consistent.runJob
  case queueKnown => exact consistent.queueKnown
  case acceptanceJob =>
    intro other isOther
    cases List.mem_append.mp isOther with
    | inl isOld => exact consistent.acceptanceJob other isOld
    | inr isNew =>
      rw [List.mem_singleton.mp isNew]
      exact known
  case factsExact =>
    intro facts isFacts
    obtain ⟨old, isOld, rfl⟩ := mem_facts_insertAcceptance.mp isFacts
    obtain ⟨job, isJob, rfl⟩ := consistent.factsExact old isOld
    refine ⟨job, isJob, ?_⟩
    by_cases ofJob : job.id = acceptance.jobId
    · simp [Ledger.insertAcceptance, queueFacts, countAcceptances, countRuns, ofJob]
    · simp [Ledger.insertAcceptance, queueFacts, countAcceptances, countRuns, ofJob,
        Ne.symm ofJob]
  case queueCovered =>
    intro job isJob isQueue
    obtain ⟨facts, isFacts, ofJob⟩ := consistent.queueCovered job isJob isQueue
    refine ⟨_, mem_facts_insertAcceptance.mpr ⟨facts, isFacts, rfl⟩, ?_⟩
    split
    · exact ofJob
    · exact ofJob

/-! ## Enrolling -/

variable {projectId : ProjectId}

/-- A project of one mailbox is a new project. -/
theorem createProjectWithMailbox (consistent : Consistent queues ledger) {platform : LedgerPlatform}
    {jobId : JobId} {destinationMailbox : String}
    (accepted : ledger.createProjectWithMailbox platform projectId jobId destinationMailbox =
      .ok next) : Consistent queues next := by
  obtain ⟨projects, jobs, newProject, newJob, rfl⟩ := createProjectWithMailbox_ok accepted
  have isJob : ∀ job, job ∈ ledger.jobs → job ∈ jobs :=
    fun job isOld => (Table.mem_insert newJob).mpr (.inl isOld)
  have noQueue : projectId ∉ queues := by
    intro isQueue
    obtain ⟨project, isProject, sameId⟩ := consistent.queueKnown projectId isQueue
    exact (Table.insert_eq_some newProject).1 project isProject sameId
  constructor
  case jobProject =>
    intro job isNext
    cases (Table.mem_insert newJob).mp isNext with
    | inl isOld =>
      obtain ⟨project, isProject, sameId⟩ := consistent.jobProject job isOld
      exact ⟨project, (Table.mem_insert newProject).mpr (.inl isProject), sameId⟩
    | inr isNew =>
      subst isNew
      exact ⟨_, (Table.mem_insert newProject).mpr (.inr rfl), rfl⟩
  case runJob =>
    intro run isRun id ofJob
    obtain ⟨job, isOld, same⟩ := consistent.runJob run isRun id ofJob
    exact ⟨job, isJob job isOld, same⟩
  case acceptanceJob =>
    intro acceptance isAcceptance
    obtain ⟨job, isOld, same⟩ := consistent.acceptanceJob acceptance isAcceptance
    exact ⟨job, isJob job isOld, same⟩
  case factsExact =>
    intro facts isFacts
    obtain ⟨job, isOld, same⟩ := consistent.factsExact facts isFacts
    exact ⟨job, isJob job isOld, same⟩
  case queueKnown =>
    intro queue isQueue
    obtain ⟨project, isProject, sameId⟩ := consistent.queueKnown queue isQueue
    exact ⟨project, (Table.mem_insert newProject).mpr (.inl isProject), sameId⟩
  case queueCovered =>
    intro job isNext isQueue
    cases (Table.mem_insert newJob).mp isNext with
    | inl isOld => exact consistent.queueCovered job isOld isQueue
    | inr isNew =>
      subst isNew
      exact absurd isQueue noQueue

/-- A mailbox that was just inserted has no runs and no acceptances. -/
theorem queueFacts_of_fresh (consistent : Consistent queues ledger) {job : MailboxJob}
    (fresh : ∀ other ∈ ledger.jobs, other.id ≠ job.id) :
    ledger.queueFacts job =
      { jobId := job.id, projectId := job.projectId, state := job.state } := by
  have noRuns : ∀ condition, ledger.countRuns job.id condition = 0 := by
    intro condition
    rw [countRuns, List.length_eq_zero_iff]
    refine List.filter_eq_nil_iff.mpr fun run isRun hit => ?_
    rw [Bool.and_eq_true, decide_eq_true_eq] at hit
    obtain ⟨other, isOther, sameId, _⟩ := consistent.runJob run isRun job.id hit.1
    exact fresh other isOther sameId
  have noAcceptances : ledger.countAcceptances job.id = 0 := by
    rw [countAcceptances, List.length_eq_zero_iff]
    refine List.filter_eq_nil_iff.mpr fun acceptance isAcceptance hit => ?_
    obtain ⟨other, isOther, sameId⟩ := consistent.acceptanceJob acceptance isAcceptance
    exact fresh other isOther (sameId.trans (of_decide_eq_true hit))
  rw [queueFacts, noRuns, noRuns, noAcceptances]
  rfl

/-- A row of a queue comes with its facts. -/
theorem insertQueueRow (consistent : Consistent queues ledger)
    {index : PlanIndex} {newJobId : Nat → JobId} {numbered : QueueInsert × Nat}
    (isQueue : projectId ∈ queues)
    (accepted : insertQueueRow projectId index newJobId ledger numbered = .ok next) :
    Consistent queues next := by
  obtain ⟨job, jobs, facts, _, ofProject, isNew, newJob, newFacts, rfl⟩ :=
    insertQueueRow_ok accepted
  have queued : job.state = .queued := congrArg MailboxProgress.state isNew
  have isJob : ∀ other, other ∈ ledger.jobs → other ∈ jobs :=
    fun other isOld => (Table.mem_insert newJob).mpr (.inl isOld)
  constructor
  case jobProject =>
    intro other isOther
    cases (Table.mem_insert newJob).mp isOther with
    | inl isOld => exact consistent.jobProject other isOld
    | inr isNew =>
      subst isNew
      rw [ofProject]
      exact consistent.queueKnown projectId isQueue
  case runJob =>
    intro run isRun id ofJob
    obtain ⟨other, isOld, same⟩ := consistent.runJob run isRun id ofJob
    exact ⟨other, isJob other isOld, same⟩
  case acceptanceJob =>
    intro acceptance isAcceptance
    obtain ⟨other, isOld, same⟩ := consistent.acceptanceJob acceptance isAcceptance
    exact ⟨other, isJob other isOld, same⟩
  case factsExact =>
    intro row isRow
    cases (Table.mem_insert newFacts).mp isRow with
    | inl isOld =>
      obtain ⟨other, isOther, same⟩ := consistent.factsExact row isOld
      exact ⟨other, isJob other isOther, same⟩
    | inr isNew =>
      refine ⟨job, (Table.mem_insert newJob).mpr (.inr rfl), isNew.trans ?_⟩
      rw [← queued, ← ofProject]
      exact (consistent.queueFacts_of_fresh (Table.insert_eq_some newJob).1).symm
  case queueKnown => exact consistent.queueKnown
  case queueCovered =>
    intro other isOther ofQueue
    cases (Table.mem_insert newJob).mp isOther with
    | inl isOld =>
      obtain ⟨row, isRow, ofOther⟩ := consistent.queueCovered other isOld ofQueue
      exact ⟨row, (Table.mem_insert newFacts).mpr (.inl isRow), ofOther⟩
    | inr isNew =>
      subst isNew
      exact ⟨_, (Table.mem_insert newFacts).mpr (.inr rfl), rfl⟩

/-- A new batch queue is one more queue whose mailboxes all have facts. -/
theorem createBatchQueue (consistent : Consistent queues ledger) {platform : LedgerPlatform}
    {rows : List QueueInsert} {newJobId : Nat → JobId} {newPlanId : Nat → String}
    (accepted : ledger.createBatchQueue platform projectId rows newJobId newPlanId = .ok next) :
    Consistent (insert projectId queues) next := by
  obtain ⟨projects, index, planned, queued, newProject, planning, queueing, rfl⟩ :=
    createBatchQueue_ok accepted
  obtain ⟨plans, rfl⟩ := insertSharedPlans_ok planning
  have isProject : ∀ project, project ∈ ledger.projects → project ∈ projects :=
    fun project isOld => (Table.mem_insert newProject).mpr (.inl isOld)
  have started : Consistent (insert projectId queues) { ledger with projects, plans } := by
    constructor
    case jobProject =>
      intro job isJob
      obtain ⟨project, isOld, sameId⟩ := consistent.jobProject job isJob
      exact ⟨project, isProject project isOld, sameId⟩
    case runJob => exact consistent.runJob
    case acceptanceJob => exact consistent.acceptanceJob
    case factsExact => exact consistent.factsExact
    case queueKnown =>
      intro queue isQueue
      cases Set.mem_insert_iff.mp isQueue with
      | inl isNew =>
        subst isNew
        exact ⟨_, (Table.mem_insert newProject).mpr (.inr rfl), rfl⟩
      | inr isOld =>
        obtain ⟨project, isOldProject, sameId⟩ := consistent.queueKnown queue isOld
        exact ⟨project, isProject project isOldProject, sameId⟩
    case queueCovered =>
      intro job isJob isQueue
      cases Set.mem_insert_iff.mp isQueue with
      | inl isNew =>
        obtain ⟨project, isOld, sameId⟩ := consistent.jobProject job isJob
        exact absurd (sameId.trans isNew) ((Table.insert_eq_some newProject).1 project isOld)
      | inr isOld => exact consistent.queueCovered job isJob isOld
  have filled := foldlM_invariant (motive := fun _ current =>
    Consistent (insert projectId queues) current) started
      (fun _ _ _ _ held inserted => held.insertQueueRow (Set.mem_insert _ _) inserted) queueing
  exact filled.congr rfl rfl rfl rfl rfl

/-! ## Facts of existing rows -/

/-- Facts that are written again are the facts of their mailbox. -/
theorem upsertFacts_eq (consistent : Consistent queues ledger) {jobId : JobId}
    (accepted : ledger.upsertFacts jobId = .ok next) :
    ∃ job ∈ ledger.jobs, next = { ledger with
      facts := ledger.facts.upsert (ledger.queueFacts job) } := by
  simp only [Ledger.upsertFacts, bind_eq_ok, demand_eq_ok, Table.find_eq_some] at accepted
  obtain ⟨job, ⟨isJob, rfl⟩, accepted⟩ := accepted
  refine ⟨job, isJob, ?_⟩
  split at accepted
  · next facts found =>
      obtain ⟨isFacts, ofJob⟩ := Table.find_eq_some.mp found
      obtain ⟨other, isOther, rfl⟩ := consistent.factsExact facts isFacts
      obtain rfl := Table.eq_of_key isOther isJob ofJob
      exact (pure_eq_ok.mp accepted).symm
  · exact (pure_eq_ok.mp accepted).symm

theorem upsertFacts (consistent : Consistent queues ledger) {jobId : JobId}
    (accepted : ledger.upsertFacts jobId = .ok next) : Consistent queues next := by
  obtain ⟨job, isJob, rfl⟩ := consistent.upsertFacts_eq accepted
  constructor
  case jobProject => exact consistent.jobProject
  case runJob => exact consistent.runJob
  case acceptanceJob => exact consistent.acceptanceJob
  case queueKnown => exact consistent.queueKnown
  case factsExact =>
    intro facts isFacts
    cases Table.mem_upsert.mp isFacts with
    | inl isNew => exact ⟨job, isJob, isNew⟩
    | inr isOld => exact consistent.factsExact facts isOld.1
  case queueCovered =>
    intro other isOther isQueue
    obtain ⟨facts, isFacts, ofOther⟩ := consistent.queueCovered other isOther isQueue
    by_cases same : facts.jobId = job.id
    · exact ⟨_, Table.mem_upsert.mpr (.inl rfl), same.symm.trans ofOther⟩
    · exact ⟨facts, Table.mem_upsert.mpr (.inr ⟨isFacts, same⟩), ofOther⟩

theorem setQueueFacts (consistent : Consistent queues ledger) {jobIds : List JobId}
    (accepted : ledger.setQueueFacts jobIds = .ok next) : Consistent queues next :=
  foldlM_invariant (motive := fun _ current => Consistent queues current) consistent
    (fun _ _ _ _ held upserted => held.upsertFacts upserted) accepted

/-- A new plan delta does not show in the facts. -/
theorem updateQueuePlan (consistent : Consistent queues ledger)
    {update : JobId × String} (accepted : updateQueuePlan projectId ledger update = .ok next) :
    Consistent queues next := by
  simp only [Ledger.updateQueuePlan, bind_eq_ok, demand_eq_ok] at accepted
  obtain ⟨_, _, upserted⟩ := accepted
  refine upsertFacts ?_ upserted
  have sameFacts : (ledger.setJobs (·.id = update.1) (replan update.2)).facts = ledger.facts := by
    apply Table.eq_of_rows
    refine (restate_rowwise (replan update.2) _ ledger.facts).trans ?_
    refine (List.map_congr_left fun facts isFacts => ?_).trans (List.map_id _)
    obtain ⟨job, isJob, rfl⟩ := consistent.factsExact facts isFacts
    rw [facts_setJobs ledger _ _ isJob]
    split
    · rfl
    · rfl
  exact (consistent.setJobs (·.id = update.1) (replan update.2)).congr rfl rfl rfl rfl
    sameFacts.symm

theorem updateQueuePlans (consistent : Consistent queues ledger) {updates : List (JobId × String)}
    (accepted : ledger.updateQueuePlans projectId updates = .ok next) : Consistent queues next := by
  simp only [Ledger.updateQueuePlans, bind_eq_ok, require_eq_ok, exists_const] at accepted
  exact foldlM_invariant (motive := fun _ current => Consistent queues current) consistent
    (fun _ _ _ _ held updated => held.updateQueuePlan updated) accepted.2.2

/-- Children are runs of mailboxes of the project. -/
theorem insertChildren (consistent : Consistent queues ledger) {runId : RunId}
    {engine : TransferEngine} {phase : Phase} {members : List BatchMember}
    (known : ∀ member ∈ members, ∃ job ∈ ledger.jobs, job.id = member.jobId ∧
      job.projectId = projectId)
    (ran : members.foldlM (insertChild projectId runId engine phase) ledger = .ok next) :
    Consistent queues next := by
  have held := foldlM_invariant (motive := fun done (current : Ledger) =>
    (∀ member ∈ done, ∃ job ∈ ledger.jobs, job.id = member.jobId ∧ job.projectId = projectId) →
      Consistent queues current ∧ current.jobs = ledger.jobs) (fun _ => ⟨consistent, rfl⟩)
    (by
      intro done member current after held inserted known
      obtain ⟨earlier, sameJobs⟩ := held fun other isOther =>
        known other (List.mem_append_left _ isOther)
      obtain ⟨job, isJob, sameId, sameProject⟩ :=
        known member (List.mem_append_right _ List.mem_cons_self)
      simp only [insertChild, bind_eq_ok, pure_eq_ok] at inserted
      obtain ⟨admitted, inserted, rfl⟩ := inserted
      have isAdmitted := earlier.insertRun
        (fun id ofJob => ⟨job, sameJobs ▸ isJob, sameId.trans (Option.some.inj ofJob),
          sameProject⟩) inserted
      obtain ⟨_, _, rfl⟩ := insertRun_ok inserted
      exact ⟨isAdmitted.congr rfl rfl rfl rfl rfl, sameJobs⟩) ran
  exact (held known).1

theorem commitEvidence (consistent : Consistent queues ledger) (row : EvidenceRow)
    (mailboxState : MailboxState) (detail : String) (preflightPlan checkpoint : Option String) :
    Consistent queues (ledger.commitEvidence row mailboxState detail preflightPlan checkpoint) := by
  have recorded : Consistent queues (((ledger.setRuns (·.id = row.runId)
      (ended .completed (boundedEventDetail detail))).recordHistory
        row).upsertEvidenceProjection row) :=
    (consistent.setRuns _ _).congr rfl rfl rfl rfl rfl
  exact recorded.setJobs _ _

theorem enterStage (consistent : Consistent queues ledger) (projectId : ProjectId) (phase : Phase)
    (stage : CutoverStage) (confirmation : Option String) :
    Consistent queues (ledger.enterStage projectId phase stage confirmation) := by
  have requeued : Consistent queues ((ledger.requeueVerified projectId stage).setWorkflow projectId
      (advancedWorkflow stage confirmation) fun _ => rfl) :=
    (consistent.setJobs _ _).congr rfl rfl rfl rfl rfl
  exact (requeued.setPhase projectId stage.phase).congr rfl rfl rfl rfl rfl

theorem recordAcceptance (consistent : Consistent queues ledger)
    {acceptance : VerificationAcceptance}
    (known : ∃ job ∈ ledger.jobs, job.id = acceptance.jobId) (projectId : ProjectId)
    (phase : Phase) : Consistent queues (ledger.recordAcceptance acceptance projectId phase) := by
  have accepted := (consistent.insertAcceptance known).setJobs (·.id = acceptance.jobId)
    ({ · with state := .verifiedWithExceptions, attentionReason := none })
  rw [Ledger.recordAcceptance]
  split
  · exact (accepted.setPhase projectId .complete).congr rfl rfl rfl rfl rfl
  · exact accepted.congr rfl rfl rfl rfl rfl

end Consistent

variable {platform : LedgerPlatform} {queues : Set ProjectId} {before after : Ledger}
  {operation : Operation}

/-- Every accepted operation keeps references and facts. -/
theorem Step.consistent (step : Step platform before operation after)
    (consistent : Consistent queues before) : Consistent queues after := by
  cases operation with
  | createProjectWithMailbox => exact consistent.createProjectWithMailbox step
  | createBatchQueue => exact (consistent.createBatchQueue step).mono (Set.subset_insert _ _)
  | setQueueFacts => exact consistent.setQueueFacts step
  | updateQueuePlans => exact consistent.updateQueuePlans step
  | beginRunWithSnapshot projectId jobId runId =>
    obtain ⟨job, project, admitted, isJob, _, _, _, _, _, _, inserted, rfl⟩ :=
      beginRunWithSnapshot_ok step
    obtain ⟨isRow, sameId, sameProject⟩ := jobIn_eq_some.mp isJob
    have isAdmitted := consistent.insertRun
      (fun id ofJob => ⟨job, isRow, sameId.trans (Option.some.inj ofJob), sameProject⟩) inserted
    have invalidated : Consistent queues
        (admitted.invalidateCutoverReadinessForNewRun projectId jobId runId) :=
      isAdmitted.congr rfl rfl rfl rfl rfl
    exact (invalidated.setJobs (·.id = jobId) claimed).congr rfl rfl rfl rfl rfl
  | beginVerificationRunFromTransfer =>
    obtain ⟨job, project, admitted, isJob, _, _, _, _, _, inserted, rfl⟩ :=
      beginVerificationRunFromTransfer_ok step
    obtain ⟨isRow, sameId, sameProject⟩ := jobIn_eq_some.mp isJob
    have isAdmitted := consistent.insertRun
      (fun id ofJob => ⟨job, isRow, sameId.trans (Option.some.inj ofJob), sameProject⟩) inserted
    exact isAdmitted.congr rfl rfl rfl rfl rfl
  | beginBatchRunWithChildren =>
    obtain ⟨project, jobs, parent, children, _, _, _, _, admitted, _, inserted, added, rfl⟩ :=
      beginBatchRunWithChildren_ok step
    obtain ⟨checked, _⟩ := admitBatchMembers_ok admitted
    have sameJobs : parent.jobs = before.jobs := by
      obtain ⟨_, _, rfl⟩ := insertRun_ok inserted
      rfl
    have isParent := consistent.insertRun (fun id ofJob => by cases ofJob) inserted
    have isBatch := isParent.insertChildren
      (fun member isMember => by
        obtain ⟨job, _, isJob, _⟩ := checked member isMember
        exact ⟨job, sameJobs ▸ jobIn_eq_some.mp isJob⟩) added
    exact isBatch.congr rfl rfl rfl rfl rfl
  | claimBatchMailboxForChild _ jobId _ childRunId =>
    obtain ⟨_, _, _, _, _, _, _, _, _, _, _, _, _, _, _, _, _, _, _, rfl⟩ :=
      claimBatchMailboxForChild_ok step
    exact ((consistent.setJobs _ _).setRuns _ _).congr rfl rfl rfl rfl rfl
  | finishRun =>
    obtain ⟨_, _, _, _, _, _, _, rfl⟩ := finishRun_ok step
    exact (consistent.setRuns _ _).congr rfl rfl rfl rfl rfl
  | cancelHeldChildRun =>
    obtain ⟨_, _, _, _, _, rfl⟩ := cancelHeldChildRun_ok step
    exact (consistent.setRuns _ _).congr rfl rfl rfl rfl rfl
  | finishRunForMailbox =>
    obtain ⟨_, _, _, _, _, _, _, _, _, _, _, _, _, rfl⟩ := finishRunForMailbox_ok step
    exact ((consistent.setRuns _ _).setJobs _ _).congr rfl rfl rfl rfl rfl
  | finishRunForMailboxWithEvidence =>
    obtain ⟨_, _, _, _, _, _, _, _, _, _, _, rfl⟩ := finishRunForMailboxWithEvidence_ok step
    exact (consistent.commitEvidence _ _ _ _ _).congr rfl rfl rfl rfl rfl
  | finishVerificationOnlyRun =>
    obtain ⟨_, _, _, _, _, _, rfl⟩ := finishVerificationOnlyRun_ok step
    exact (consistent.setRuns _ _).congr rfl rfl rfl rfl rfl
  | acceptVerificationDifference projectId =>
    obtain ⟨acceptance, job, project, isJob, _, _, _, ofJob, rfl⟩ :=
      acceptVerificationDifference_ok step
    obtain ⟨isRow, sameId, _⟩ := jobIn_eq_some.mp isJob
    exact consistent.recordAcceptance ⟨job, isRow, sameId.trans ofJob.symm⟩ projectId _
  | transition =>
    obtain ⟨_, _, _, _, _, rfl⟩ := transition_ok step
    exact (consistent.setPhase _ _).congr rfl rfl rfl rfl rfl
  | reopenProject =>
    obtain ⟨_, _, _, _, rfl⟩ := reopenProject_ok step
    exact ((consistent.setJobs _ _).setPhase _ _).congr rfl rfl rfl rfl rfl
  | createCutoverWorkflow =>
    obtain ⟨_, _, _, _, _, rfl⟩ := createCutoverWorkflow_ok step
    exact consistent.congr rfl rfl rfl rfl rfl
  | approveCutover =>
    obtain ⟨_, _, _, _, _, _, _, rfl⟩ := approveCutover_ok step
    exact (consistent.setPhase _ _).congr rfl rfl rfl rfl rfl
  | attestCutoverSourceQuiescence =>
    obtain ⟨_, _, _, rfl⟩ := attestCutoverSourceQuiescence_ok step
    exact consistent.congr rfl rfl rfl rfl rfl
  | advanceCutover =>
    simp only [Step, Operation.apply, bind_eq_ok, pure_eq_ok] at step
    obtain ⟨⟨_, _⟩, advanced, rfl⟩ := step
    obtain ⟨_, _, _, _, _, _, _, _, _, _, rfl⟩ := advanceCutover_ok advanced
    exact consistent.enterStage _ _ _ _
  | holdProject =>
    obtain ⟨_, rfl⟩ := holdProject_ok step
    exact consistent.congr rfl rfl rfl rfl rfl
  | releaseProjectHold =>
    obtain ⟨_, rfl⟩ := releaseProjectHold_ok step
    exact consistent.congr rfl rfl rfl rfl rfl
  | registerProcess =>
    obtain ⟨_, _, rfl⟩ := registerProcess_ok step
    exact consistent.congr rfl rfl rfl rfl rfl
  | clearProcesses =>
    cases step
    exact consistent.congr rfl rfl rfl rfl rfl
  | clearActiveProcessesAfterReview =>
    cases step
    exact consistent.congr rfl rfl rfl rfl rfl
  | recoverAbandonedJobsPreserving =>
    obtain ⟨_, _, rfl, _⟩ := recoverAbandonedJobsPreserving_ok step
    exact (((consistent.setJobs _ _).setRuns _ _).setRuns _ _).congr rfl rfl rfl rfl rfl
  | recordPasses =>
    cases step
    exact consistent.congr rfl rfl rfl rfl rfl
  | setClock =>
    cases step
    exact consistent.congr rfl rfl rfl rfl rfl

/-- The projects that a run created as batch queues. -/
def queuesOf (operations : List Operation) : Set ProjectId :=
  {projectId | ∃ rows newJobId newPlanId,
    .createBatchQueue projectId rows newJobId newPlanId ∈ operations}

/-- References and facts are right in every reachable ledger. -/
theorem consistent_of_run {ledger : Ledger} {operations : List Operation}
    (run : Trace (Step platform) {} operations ledger) :
    Consistent (queuesOf operations) ledger := by
  induction run with
  | nil =>
    refine consistent_empty.mono ?_
    rintro projectId ⟨_, _, _, isOperation⟩
    exact absurd isOperation List.not_mem_nil
  | @snoc _ _ _ operation earlier last ih =>
    by_cases isQueue : ∃ projectId rows newJobId newPlanId, operation =
        Operation.createBatchQueue projectId rows newJobId newPlanId
    · obtain ⟨projectId, rows, newJobId, newPlanId, rfl⟩ := isQueue
      refine (ih.createBatchQueue last).mono ?_
      rintro queue ⟨rows', newJobId', newPlanId', isOperation⟩
      cases List.mem_append.mp isOperation with
      | inl isOld => exact .inr ⟨_, _, _, isOld⟩
      | inr isNew =>
        cases List.mem_singleton.mp isNew
        exact .inl rfl
    · refine (Step.consistent last ih).mono ?_
      rintro queue ⟨rows', newJobId', newPlanId', isOperation⟩
      cases List.mem_append.mp isOperation with
      | inl isOld => exact ⟨_, _, _, isOld⟩
      | inr isNew =>
        exact absurd ⟨queue, rows', newJobId', newPlanId', (List.mem_singleton.mp isNew).symm⟩
          isQueue

end Ledger

end MailSwiftSync
