import MailSwiftSync.Control.Workers
import MailSwiftSync.Foundation.Transition

/-!
# Workers run reviewed plans

Every plan is written at a revision of its own, an approval is for the revision that is
current, and somebody other than its author gives it.
-/

namespace MailSwiftSync.Control

open Foundation

/-! ## Runs with their history -/

/-- A call of a user, through a session or a key. -/
structure UserCall where
  principal : Principal
  requestId : String
  env : Environment

def UserCall.actor (call : UserCall) : Actor where
  requestId := call.requestId
  label := call.principal.actor

/-- Calls that concern plans. -/
inductive PlanEvent where
  | createProject (call : UserCall) (tenant name : String) (plan : Json)
  | updatePlan (call : UserCall) (tenant id : String) (plan : Json) (expectedRevision : Int)
  | approveProject (call : UserCall) (tenant id : String) (revision : Int)
  | createAssignments (call : UserCall) (tenant project : String) (mailboxes : List String)
  | lease (worker : WorkerIdentity) (seconds : Int) (requestId : String) (env : Environment)

/-- A plan somebody wrote; the plan it replaced, unless it was the first. -/
structure PlanWrite where
  projectId : String
  revision : Int
  text : String
  author : Principal
  replaced : Option String

/-- A revision somebody approved. -/
structure PlanApproval where
  projectId : String
  revision : Int
  approver : Principal

/-- The store, and the writes, approvals and leases so far. -/
structure PlanSystem where
  store : Store
  written : List PlanWrite := []
  approvals : List PlanApproval := []
  leases : List Lease := []

namespace PlanSystem

variable (libraries : Libraries) (system : PlanSystem)

/-- The write of a call that creates a project. -/
def created (call : UserCall) (tenant name : String) (plan : Json) : List PlanWrite :=
  match validateName name "project name", validatePlan libraries plan with
  | .ok name, .ok text =>
    match Store.createProject (newProject libraries call.env tenant name text call.actor)
        system.store with
    | .ok _ => [{
        projectId := newId libraries "prj" (call.env.id 0)
        revision := 1
        text
        author := call.principal
        replaced := none }]
    | .error _ => []
  | _, _ => []

/-- The write of a call that updates a plan. -/
def updated (call : UserCall) (tenant id : String) (plan : Json) (expectedRevision : Int) :
    List PlanWrite :=
  match validatePlan libraries plan with
  | .ok text =>
    match Store.updatePlan tenant id text expectedRevision call.actor.label system.store with
    | .ok _ => [{
        projectId := id
        revision := expectedRevision + 1
        text
        author := call.principal
        replaced := (system.store.findProject tenant id).map (·.plan) }]
    | .error _ => []
  | .error _ => []

/-- The approval of a call that approves a revision. -/
def approved (call : UserCall) (tenant id : String) (revision : Int) : List PlanApproval :=
  match Store.approveProject tenant id revision call.principal.userId call.actor.label
      system.store with
  | .ok _ => [{ projectId := id, revision, approver := call.principal }]
  | .error _ => []

def step : PlanEvent → PlanSystem
  | .createProject call tenant name plan =>
    { system with
      store := (createProject libraries call.env tenant name plan call.actor system.store).2
      written := system.written ++ system.created libraries call tenant name plan }
  | .updatePlan call tenant id plan expectedRevision =>
    { system with
      store := (updatePlan libraries call.env tenant id plan expectedRevision call.actor
        system.store).2
      written := system.written ++
        system.updated libraries call tenant id plan expectedRevision }
  | .approveProject call tenant id revision =>
    { system with
      store := (approveProject libraries call.env tenant id revision call.principal.userId
        call.actor system.store).2
      approvals := system.approvals ++ system.approved call tenant id revision }
  | .createAssignments call tenant project mailboxes =>
    { system with
      store := (createAssignments libraries call.env tenant project mailboxes call.actor
        system.store).2 }
  | .lease worker seconds requestId env =>
    let (result, store) := lease libraries env worker seconds requestId system.store
    { system with
      store
      leases := system.leases ++ (match result with
        | .ok (some lease) => [lease]
        | _ => []) }

/-- The runs of the service, from a store without projects. -/
def Runs (libraries : Libraries) (store : Store) (events : List PlanEvent)
    (system : PlanSystem) : Prop :=
  Trace (fun before event next => next = step libraries before event) { store } events system

end PlanSystem

/-! ## Who wrote a plan -/

/-- The label of a caller names its user. -/
theorem labelNames_actor (principal : Principal) :
    labelNames principal.actor principal.userId = true := by
  rw [labelNames, Principal.actor, Bool.or_eq_true, decide_eq_true_eq]
  cases principal.via with
  | session => exact .inl rfl
  | apiKey keyId tenant scopes =>
    right
    rw [startsWith, List.isPrefixOf_iff_prefix]
    have blank : " key:" = " " ++ "key:" := by decide
    refine ⟨("key:" ++ keyId).toList, ?_⟩
    simp only [blank, String.toList_append, List.append_assoc]

/-! ## What every state keeps -/

/-- A write is the current plan of a project. -/
def PlanWrite.IsCurrent (write : PlanWrite) (project : Project) : Prop :=
  write.projectId = project.id ∧ write.revision = project.planRevision ∧
    write.text = project.plan ∧ write.author.actor = project.planChangedBy

/-- An approval of a write by somebody else. -/
def PlanApproval.Reviews (approval : PlanApproval) (write : PlanWrite) : Prop :=
  approval.projectId = write.projectId ∧ approval.revision = write.revision ∧
    approval.approver.userId ≠ write.author.userId

/-- The projects agree with the history. -/
structure Reviewed (projects : Table Project.id) (written : List PlanWrite)
    (approvals : List PlanApproval) : Prop where
  current : ∀ project ∈ projects, ∃ write ∈ written, write.IsCurrent project ∧
    (project.approvedRevision = none ∨
      (project.approvedRevision = some project.planRevision ∧
        ∃ approval ∈ approvals, approval.Reviews write))
  latest : ∀ write ∈ written, ∃ project ∈ projects,
    project.id = write.projectId ∧ write.revision ≤ project.planRevision
  unique : (written.map fun write => (write.projectId, write.revision)).Nodup
  replaced : ∀ write ∈ written, ∀ text ∈ write.replaced, ∃ earlier ∈ written,
    earlier.projectId = write.projectId ∧ earlier.revision + 1 = write.revision ∧
      earlier.text = text

theorem reviewed_empty : Reviewed .empty [] [] where
  current _ isProject := nomatch isProject
  latest _ isWrite := nomatch isWrite
  unique := List.nodup_nil
  replaced _ isWrite := nomatch isWrite

section

variable {projects projects' : Table Project.id} {written : List PlanWrite}
  {approvals : List PlanApproval} {write : PlanWrite}

/-- Further history does not hurt. -/
theorem Reviewed.approval (reviewed : Reviewed projects written approvals)
    (more : List PlanApproval) : Reviewed projects written (approvals ++ more) :=
  { reviewed with
    current := by
      intro project isProject
      obtain ⟨write, isWrite, isCurrent, standing⟩ := reviewed.current project isProject
      refine ⟨write, isWrite, isCurrent, standing.imp_right fun ⟨isApproved, approval, isApproval,
        reviews⟩ => ⟨isApproved, approval, List.mem_append_left _ isApproval, reviews⟩⟩ }

/-- A new project with its first plan. -/
theorem Reviewed.create (reviewed : Reviewed projects written approvals) {project : Project}
    (inserted : projects.insert project = some projects') (isCurrent : write.IsCurrent project)
    (unapproved : project.approvedRevision = none) (isFirst : write.replaced = none) :
    Reviewed projects' (written ++ [write]) approvals where
  current := by
    intro other isOther
    rcases (Table.mem_insert inserted).mp isOther with isOld | rfl
    · obtain ⟨found, isWrite, rest⟩ := reviewed.current other isOld
      exact ⟨found, List.mem_append_left _ isWrite, rest⟩
    · exact ⟨write, List.mem_append_right _ (List.mem_singleton_self _), isCurrent,
        .inl unapproved⟩
  latest := by
    intro other isOther
    rcases List.mem_append.mp isOther with isOld | isNew
    · obtain ⟨found, isProject, rest⟩ := reviewed.latest other isOld
      exact ⟨found, (Table.mem_insert inserted).mpr (.inl isProject), rest⟩
    · obtain rfl := List.mem_singleton.mp isNew
      exact ⟨project, (Table.mem_insert inserted).mpr (.inr rfl), isCurrent.1.symm,
        isCurrent.2.1.le⟩
  unique := by
    rw [List.map_append, List.map_singleton]
    refine List.nodup_append.mpr ⟨reviewed.unique, List.nodup_singleton _, ?_⟩
    intro key isKey key' isKey' same
    obtain ⟨other, isOther, rfl⟩ := List.mem_map.mp isKey
    obtain rfl := List.mem_singleton.mp isKey'
    obtain ⟨found, isProject, isIt, _⟩ := reviewed.latest other isOther
    have sameProject : other.projectId = write.projectId := congrArg Prod.fst same
    exact (Table.insert_eq_some inserted).1 found isProject
      (isIt.trans (sameProject.trans isCurrent.1))
  replaced := by
    intro other isOther text isText
    rcases List.mem_append.mp isOther with isOld | isNew
    · obtain ⟨earlier, isEarlier, rest⟩ := reviewed.replaced other isOld text isText
      exact ⟨earlier, List.mem_append_left _ isEarlier, rest⟩
    · obtain rfl := List.mem_singleton.mp isNew
      rw [isFirst] at isText
      cases isText

/-- Another plan of a project. -/
theorem Reviewed.replan (reviewed : Reviewed projects written approvals) {project : Project}
    {text : String} {author : Principal} (isProject : project ∈ projects)
    (members : ∀ row, row ∈ projects' ↔
      row = project.replanned text author.actor ∨ (row ∈ projects ∧ row ≠ project)) :
    Reviewed projects' (written ++ [{
      projectId := project.id
      revision := project.planRevision + 1
      text, author
      replaced := some project.plan }]) approvals where
  current := by
    intro row isRow
    rcases (members row).mp isRow with rfl | ⟨isOld, _⟩
    · exact ⟨_, List.mem_append_right _ (List.mem_singleton_self _), ⟨rfl, rfl, rfl, rfl⟩,
        .inl rfl⟩
    · obtain ⟨found, isWrite, rest⟩ := reviewed.current row isOld
      exact ⟨found, List.mem_append_left _ isWrite, rest⟩
  latest := by
    intro other isOther
    rcases List.mem_append.mp isOther with isOld | isNew
    · obtain ⟨found, isFound, isIt, bound⟩ := reviewed.latest other isOld
      by_cases same : found = project
      · subst same
        exact ⟨_, (members _).mpr (.inl rfl), isIt, bound.trans (Int.le_add_one le_rfl)⟩
      · exact ⟨found, (members found).mpr (.inr ⟨isFound, same⟩), isIt, bound⟩
    · obtain rfl := List.mem_singleton.mp isNew
      exact ⟨_, (members _).mpr (.inl rfl), rfl, le_refl _⟩
  unique := by
    rw [List.map_append, List.map_singleton]
    refine List.nodup_append.mpr ⟨reviewed.unique, List.nodup_singleton _, ?_⟩
    intro key isKey key' isKey' same
    obtain ⟨other, isOther, rfl⟩ := List.mem_map.mp isKey
    obtain rfl := List.mem_singleton.mp isKey'
    obtain ⟨found, isFound, isIt, bound⟩ := reviewed.latest other isOther
    have sameProject : other.projectId = project.id := congrArg Prod.fst same
    have sameRevision : other.revision = project.planRevision + 1 := congrArg Prod.snd same
    obtain rfl := Table.eq_of_key isFound isProject (isIt.trans sameProject)
    omega
  replaced := by
    intro other isOther replaced isText
    rcases List.mem_append.mp isOther with isOld | isNew
    · obtain ⟨earlier, isEarlier, rest⟩ := reviewed.replaced other isOld replaced isText
      exact ⟨earlier, List.mem_append_left _ isEarlier, rest⟩
    · obtain rfl := List.mem_singleton.mp isNew
      obtain rfl := Option.some.inj isText
      obtain ⟨earlier, isEarlier, ⟨isIt, revision, sameText, _⟩, _⟩ :=
        reviewed.current project isProject
      exact ⟨earlier, List.mem_append_left _ isEarlier, isIt, congrArg (· + 1) revision, sameText⟩

/-- The approval of a plan by somebody else. -/
theorem Reviewed.approve (reviewed : Reviewed projects written approvals) {project : Project}
    {approver : Principal} {label : String} (isProject : project ∈ projects)
    (separate : labelNames project.planChangedBy approver.userId = false)
    (members : ∀ row, row ∈ projects' ↔
      row = project.approved project.planRevision label ∨ (row ∈ projects ∧ row ≠ project)) :
    Reviewed projects' written (approvals ++ [{
      projectId := project.id
      revision := project.planRevision
      approver }]) where
  current := by
    intro row isRow
    rcases (members row).mp isRow with rfl | ⟨isOld, _⟩
    · obtain ⟨write, isWrite, isCurrent, _⟩ := reviewed.current project isProject
      refine ⟨write, isWrite, isCurrent, .inr ⟨rfl, _, List.mem_append_right _
        (List.mem_singleton_self _), isCurrent.1.symm, isCurrent.2.1.symm, ?_⟩⟩
      intro same
      rw [← isCurrent.2.2.2, same, labelNames_actor] at separate
      cases separate
    · exact (reviewed.approval _).current row isOld
  latest := by
    intro write isWrite
    obtain ⟨found, isFound, isIt, bound⟩ := reviewed.latest write isWrite
    by_cases same : found = project
    · subst same
      exact ⟨_, (members _).mpr (.inl rfl), isIt, bound⟩
    · exact ⟨found, (members found).mpr (.inr ⟨isFound, same⟩), isIt, bound⟩
  unique := reviewed.unique
  replaced := reviewed.replaced

end

/-! ## Steps -/

theorem Store.findProject_eq_some {store : Store} {tenant id : String} {project : Project} :
    store.findProject tenant id = some project ↔
      project ∈ store.projects ∧ project.tenant = tenant ∧ project.id = id := by
  constructor
  · intro found
    have isOf := List.find?_some found
    rw [Project.isOf, Bool.and_eq_true, decide_eq_true_eq, decide_eq_true_eq] at isOf
    exact ⟨List.mem_of_find?_eq_some found, isOf⟩
  · rintro ⟨isProject, rfl, rfl⟩
    cases found : store.findProject project.tenant project.id with
    | none =>
      have absent := List.find?_eq_none.mp found project isProject
      exact absurd (by simp [Project.isOf]) absent
    | some other =>
      have isOf := List.find?_some found
      rw [Project.isOf, Bool.and_eq_true, decide_eq_true_eq, decide_eq_true_eq] at isOf
      rw [Table.eq_of_key (List.mem_of_find?_eq_some found) isProject isOf.2]

namespace PlanSystem

variable {libraries : Libraries} {system : PlanSystem}

/-- The projects of a system agree with its history. -/
def Agrees (system : PlanSystem) : Prop :=
  Reviewed system.store.projects system.written system.approvals

theorem Agrees.createProject (agrees : system.Agrees) (call : UserCall) (tenant name : String)
    (plan : Json) : (system.step libraries (.createProject call tenant name plan)).Agrees := by
  rw [step, Agrees]
  dsimp only
  cases named : validateName name "project name" with
  | error error =>
    have none : system.created libraries call tenant name plan = [] := by rw [created, named]
    rw [none, List.append_nil, Control.createProject, named, Effect.ofExcept_error_bind]
    exact agrees
  | ok trimmed =>
    cases planned : validatePlan libraries plan with
    | error error =>
      have none : system.created libraries call tenant name plan = [] := by
        rw [created, named, planned]
      rw [none, List.append_nil, Control.createProject, named, Effect.ofExcept_ok_bind, planned,
        Effect.ofExcept_error_bind]
      exact agrees
    | ok text =>
      rw [Control.createProject, named, Effect.ofExcept_ok_bind, planned,
        Effect.ofExcept_ok_bind, bind_project_snd, created, named, planned]
      dsimp only
      cases ran :
          Store.createProject (newProject libraries call.env tenant trimmed text call.actor)
          system.store with
      | error error =>
        rw [mutate_of_error _ ran, List.append_nil]
        exact agrees
      | ok pair =>
        rw [mutate_of_ok _ ran]
        simp only [Store.createProject, bind_eq_ok, pure_eq_ok, insertRow_eq_ok] at ran
        obtain ⟨projects, ⟨_, inserted⟩, rfl⟩ := ran
        exact Reviewed.create agrees inserted ⟨rfl, rfl, rfl, rfl⟩ rfl rfl

theorem Agrees.updatePlan (agrees : system.Agrees) (call : UserCall) (tenant id : String)
    (plan : Json) (expectedRevision : Int) :
    (system.step libraries (.updatePlan call tenant id plan expectedRevision)).Agrees := by
  rw [step, Agrees]
  dsimp only
  cases planned : validatePlan libraries plan with
  | error error =>
    have none : system.updated libraries call tenant id plan expectedRevision = [] := by
      rw [updated, planned]
    rw [none, List.append_nil, Control.updatePlan, planned, Effect.ofExcept_error_bind]
    exact agrees
  | ok text =>
    rw [Control.updatePlan, planned, Effect.ofExcept_ok_bind, bind_project_snd, updated, planned]
    dsimp only
    cases ran : Store.updatePlan tenant id text expectedRevision call.actor.label
        system.store with
    | error error =>
      rw [mutate_of_error _ ran, List.append_nil]
      exact agrees
    | ok pair =>
      rw [mutate_of_ok _ ran]
      simp only [Store.updatePlan, bind_eq_ok, pure_eq_ok, ensure_eq_ok, Table.any_eq_true,
        Project.isOf, Bool.and_eq_true, decide_eq_true_eq] at ran
      obtain ⟨_, ⟨project, isProject, ⟨rfl, rfl⟩, rfl⟩, rfl⟩ := ran
      have found := Store.findProject_eq_some.mpr ⟨isProject, rfl, rfl⟩
      rw [found]
      refine Reviewed.replan agrees isProject fun row =>
        Table.mem_update_one (by intro _; rfl) isProject ?_ ?_
      · simp
      · intro other isOther selected
        simp only [Bool.and_eq_true, decide_eq_true_eq] at selected
        exact Table.eq_of_key isOther isProject selected.1.2

theorem Agrees.approveProject (agrees : system.Agrees) (call : UserCall) (tenant id : String)
    (revision : Int) :
    (system.step libraries (.approveProject call tenant id revision)).Agrees := by
  rw [step, Agrees]
  dsimp only
  rw [Control.approveProject, bind_project_snd, approved]
  cases ran : Store.approveProject tenant id revision call.principal.userId call.actor.label
      system.store with
  | error error =>
    rw [mutate_of_error _ ran, List.append_nil]
    exact agrees
  | ok pair =>
    rw [mutate_of_ok _ ran]
    simp only [Store.approveProject, bind_eq_ok, pure_eq_ok, ensure_eq_ok, needed_eq_ok,
      decide_eq_true_eq, Bool.not_eq_true'] at ran
    obtain ⟨project, found, _, rfl, _, separate, rfl⟩ := ran
    obtain ⟨isProject, rfl, rfl⟩ := Store.findProject_eq_some.mp found
    refine Reviewed.approve agrees isProject separate fun row =>
      Table.mem_update_one (by intro _; rfl) isProject ?_ ?_
    · simp [Project.isOf]
    · intro other isOther selected
      simp only [Project.isOf, Bool.and_eq_true, decide_eq_true_eq] at selected
      exact Table.eq_of_key isOther isProject selected.2

end PlanSystem

/-! ## Leases -/

/-- The projects stay the same. -/
def SameProjects (store later : Store) : Prop := later.projects = store.projects

instance : IsPreorder Store SameProjects where
  refl _ := rfl
  trans _ _ _ first second := Eq.trans second first

section

variable {libraries : Libraries} {env : Environment} {store later : Store}

theorem sameProjects_createAssignments (tenant project : String) (mailboxes : List String)
    (actor : Actor) :
    Effect.Keeps SameProjects
      (createAssignments libraries env tenant project mailboxes actor) := by
  refine .bind (.ofExcept _) fun _ => .bind (.ofExcept _) fun labels =>
    .bind (keeps_mutate libraries (fun _ _ => rfl) ?_) fun _ => .reading _
  intro store value changed accepted
  simp only [Store.createAssignments, bind_eq_ok, pure_eq_ok, Prod.mk.injEq] at accepted
  obtain ⟨found, _, _, _, created, inserted, _, rfl⟩ := accepted
  refine foldlM_invariant (motive := fun _ current => SameProjects store current) rfl ?_ inserted
  intro done row before after same insertedRow
  simp only [bind_eq_ok, pure_eq_ok] at insertedRow
  obtain ⟨assignments, _, rfl⟩ := insertedRow
  exact same

theorem projects_reconcileExpiredLeases (tenant : String) (time : Int) (requestId : String) :
    (store.reconcileExpiredLeases libraries tenant time requestId).projects = store.projects :=
  List.foldlRecOn _ _ (motive := fun later : Store => later.projects = store.projects) rfl
    fun _ same _ _ => same

theorem sameProjects_lease (worker : WorkerIdentity) (seconds : Int) (requestId : String) :
    Effect.Keeps SameProjects (lease libraries env worker seconds requestId) := by
  refine .bind (.ofExcept _) fun _ => .bind (.transact ?_) fun _ => .ofExcept _
  intro store value changed accepted
  simp only [Store.lease] at accepted
  split at accepted
  · split at accepted
    · simp only [pure_eq_ok, Prod.mk.injEq] at accepted
      obtain ⟨_, rfl⟩ := accepted
      exact projects_reconcileExpiredLeases _ _ _
    · simp only [bind_eq_ok, pure_eq_ok, Prod.mk.injEq, Prod.exists] at accepted
      obtain ⟨lease, leased, ran, _, rfl⟩ := accepted
      simp only [Store.leaseAssignment, bind_eq_ok, pure_eq_ok, Prod.mk.injEq] at ran
      obtain ⟨row, _, project, _, plan, _, _, rfl⟩ := ran
      exact projects_reconcileExpiredLeases _ _ _
  · simp only [pure_eq_ok, Prod.mk.injEq] at accepted
    obtain ⟨_, rfl⟩ := accepted
    rfl

/-- The project an assignment that can be leased belongs to. -/
theorem exists_project_of_planStillApproved {assignment : Assignment}
    (approved : store.planStillApproved assignment = true) :
    ∃ project ∈ store.projects, project.id = assignment.projectId ∧
      project.approvedRevision = some project.planRevision ∧
      project.planRevision = assignment.planRevision := by
  simp only [Store.planStillApproved, Table.any_eq_true, Bool.and_eq_true, decide_eq_true_eq]
    at approved
  obtain ⟨project, isProject, ⟨⟨isIt, _⟩, isApproved⟩, revision⟩ := approved
  exact ⟨project, isProject, isIt, isApproved, revision⟩

theorem Store.leaseCandidate_mem {tenant : String} {candidate : Assignment}
    (found : store.leaseCandidate tenant = some candidate) :
    candidate ∈ store.assignments ∧ store.planStillApproved candidate = true := by
  have isCandidate := List.mem_of_head? found
  rw [List.mem_mergeSort, Table.mem_select, Bool.and_eq_true] at isCandidate
  exact ⟨isCandidate.1, isCandidate.2.2⟩

/-- The assignment that is handed out keeps its project and its revision. -/
theorem leased_assignment {worker : WorkerIdentity} {id : String} {expiresAt time : Int}
    {candidate row : Assignment} (isCandidate : candidate ∈ store.assignments)
    (isIt : candidate.id = id)
    (found : Store.findAssignment { store with
      assignments := store.assignments.update (·.isOf worker.tenant id)
        (·.leased worker.id expiresAt time) } worker.tenant id = some row) :
    row.projectId = candidate.projectId ∧ row.planRevision = candidate.planRevision := by
  have isRow := List.mem_of_find?_eq_some found
  have isOf := List.find?_some found
  rw [Assignment.isOf, Bool.and_eq_true, decide_eq_true_eq, decide_eq_true_eq] at isOf
  obtain ⟨old, isOld, rfl⟩ := List.mem_map.mp isRow
  split at isOf
  · next hit =>
      rw [if_pos hit]
      obtain rfl := Table.eq_of_key isOld isCandidate (isOf.2.trans isIt.symm)
      exact ⟨rfl, rfl⟩
  · next miss =>
      rw [if_neg miss]
      obtain rfl := Table.eq_of_key isOld isCandidate (isOf.2.trans isIt.symm)
      exact ⟨rfl, rfl⟩

/-- What a lease returns is the approved plan of a project. -/
theorem lease_plan {worker : WorkerIdentity} {seconds : Int} {requestId : String} {given : Lease}
    (leased : lease libraries env worker seconds requestId store = (.ok (some given), later)) :
    ∃ project ∈ store.projects, project.id = given.projectId ∧
      project.approvedRevision = some project.planRevision ∧
      project.planRevision = given.planRevision ∧
      libraries.jsonOf project.plan = .ok given.plan := by
  simp only [lease, Effect.bind_eq_ok, Effect.ofExcept_eq_ok, Effect.transact_eq_ok] at leased
  obtain ⟨_, _, ⟨_, rfl⟩, result, middle, ran, rfl, rfl⟩ := leased
  simp only [Store.lease] at ran
  split at ran
  · split at ran
    · simp only [pure_eq_ok, Prod.mk.injEq, Except.ok.injEq, reduceCtorEq, false_and] at ran
    · next candidate isCandidate =>
        simp only [bind_eq_ok, pure_eq_ok, Prod.mk.injEq, Prod.exists, Except.ok.injEq,
          Option.some.injEq] at ran
        obtain ⟨lease, after, handed, rfl, rfl⟩ := ran
        obtain ⟨isRow, stillApproved⟩ := Store.leaseCandidate_mem isCandidate
        obtain ⟨project, isProject, isIt, isApproved, revision⟩ :=
          exists_project_of_planStillApproved stillApproved
        simp only [Store.leaseAssignment, queriedRow, columnJson, bind_eq_ok, pure_eq_ok,
          needed_eq_ok, Prod.mk.injEq] at handed
        obtain ⟨row, foundRow, other, foundProject, plan, isPlan, rfl, rfl⟩ := handed
        obtain ⟨sameProject, sameRevision⟩ := leased_assignment isRow rfl foundRow
        obtain ⟨isOther, _, otherId⟩ := Store.findProject_eq_some.mp foundProject
        obtain rfl := Table.eq_of_key isOther isProject
          (otherId.trans (sameProject.trans isIt.symm))
        have isPlan : libraries.jsonOf other.plan = .ok plan := by
          cases parsed : libraries.jsonOf other.plan with
          | error error =>
            rw [parsed] at isPlan
            cases isPlan
          | ok value =>
            rw [parsed] at isPlan
            rw [Except.ok.inj isPlan]
        rw [projects_reconcileExpiredLeases] at isProject
        exact ⟨other, isProject, otherId, isApproved, revision.trans sameRevision.symm, isPlan⟩
  · simp only [pure_eq_ok, Prod.mk.injEq, reduceCtorEq, false_and] at ran

end

/-! ## Runs -/

/-- The plan of a lease was written at its revision and approved by somebody else. -/
def PlanSystem.HasReviewed (libraries : Libraries) (system : PlanSystem) (lease : Lease) : Prop :=
  ∃ write ∈ system.written, write.projectId = lease.projectId ∧
    write.revision = lease.planRevision ∧ libraries.jsonOf write.text = .ok lease.plan ∧
    ∃ approval ∈ system.approvals, approval.Reviews write

namespace PlanSystem

variable {libraries : Libraries} {system later : PlanSystem}

/-- What is part of the history stays part of it. -/
theorem HasReviewed.grow {lease : Lease} (reviewed : system.HasReviewed libraries lease)
    (written : system.written ⊆ later.written) (approvals : system.approvals ⊆ later.approvals) :
    later.HasReviewed libraries lease := by
  obtain ⟨write, isWrite, isProject, isRevision, isPlan, approval, isApproval, reviews⟩ := reviewed
  exact ⟨write, written isWrite, isProject, isRevision, isPlan, approval, approvals isApproval,
    reviews⟩

theorem Agrees.lease (agrees : system.Agrees) (worker : WorkerIdentity) (seconds : Int)
    (requestId : String) (env : Environment) :
    (system.step libraries (.lease worker seconds requestId env)).Agrees := by
  have same : (Control.lease libraries env worker seconds requestId system.store).2.projects =
      system.store.projects := sameProjects_lease worker seconds requestId system.store
  rw [Agrees, step]
  dsimp only
  rw [same]
  exact agrees

theorem Agrees.createAssignments (agrees : system.Agrees) (call : UserCall)
    (tenant project : String) (mailboxes : List String) :
    (system.step libraries (.createAssignments call tenant project mailboxes)).Agrees := by
  have same : (Control.createAssignments libraries call.env tenant project mailboxes call.actor
      system.store).2.projects = system.store.projects :=
    sameProjects_createAssignments tenant project mailboxes call.actor system.store
  rw [Agrees, step]
  dsimp only
  rw [same]
  exact agrees

theorem Agrees.step (agrees : system.Agrees) (event : PlanEvent) :
    (system.step libraries event).Agrees := by
  cases event with
  | createProject call tenant name plan => exact agrees.createProject call tenant name plan
  | updatePlan call tenant id plan expectedRevision =>
    exact agrees.updatePlan call tenant id plan expectedRevision
  | approveProject call tenant id revision => exact agrees.approveProject call tenant id revision
  | createAssignments call tenant project mailboxes =>
    exact agrees.createAssignments call tenant project mailboxes
  | lease worker seconds requestId env => exact agrees.lease worker seconds requestId env

theorem written_subset_step (event : PlanEvent) :
    system.written ⊆ (system.step libraries event).written := by
  cases event with
  | createProject call tenant name plan => exact List.subset_append_left _ _
  | updatePlan call tenant id plan expectedRevision => exact List.subset_append_left _ _
  | approveProject call tenant id revision => exact List.Subset.refl _
  | createAssignments call tenant project mailboxes => exact List.Subset.refl _
  | lease worker seconds requestId env => exact List.Subset.refl _

theorem approvals_subset_step (event : PlanEvent) :
    system.approvals ⊆ (system.step libraries event).approvals := by
  cases event with
  | createProject call tenant name plan => exact List.Subset.refl _
  | updatePlan call tenant id plan expectedRevision => exact List.Subset.refl _
  | approveProject call tenant id revision => exact List.subset_append_left _ _
  | createAssignments call tenant project mailboxes => exact List.Subset.refl _
  | lease worker seconds requestId env => exact List.Subset.refl _

/-- A lease that a step returns is of a plan the history has reviewed. -/
theorem Agrees.reviewed_of_lease (agrees : system.Agrees) {worker : WorkerIdentity}
    {seconds : Int} {requestId : String} {env : Environment} {given : Lease} {store : Store}
    (leased : Control.lease libraries env worker seconds requestId system.store =
      (.ok (some given), store)) :
    system.HasReviewed libraries given := by
  obtain ⟨project, isProject, isIt, isApproved, revision, isPlan⟩ := lease_plan leased
  obtain ⟨write, isWrite, isCurrent, standing⟩ := agrees.current project isProject
  rcases standing with unapproved | ⟨_, approval, isApproval, reviews⟩
  · rw [unapproved] at isApproved
    cases isApproved
  · refine ⟨write, isWrite, isCurrent.1.trans isIt, isCurrent.2.1.trans revision, ?_, approval,
      isApproval, reviews⟩
    rw [isCurrent.2.2.1]
    exact isPlan

/-- The leases of a step are those before it and perhaps one with a reviewed plan. -/
theorem Agrees.leases_step (agrees : system.Agrees) (event : PlanEvent) {given : Lease}
    (isLease : given ∈ (system.step libraries event).leases) :
    given ∈ system.leases ∨ system.HasReviewed libraries given := by
  cases event with
  | createProject call tenant name plan => exact .inl isLease
  | updatePlan call tenant id plan expectedRevision => exact .inl isLease
  | approveProject call tenant id revision => exact .inl isLease
  | createAssignments call tenant project mailboxes => exact .inl isLease
  | lease worker seconds requestId env =>
    rcases List.mem_append.mp isLease with isOld | isNew
    · exact .inl isOld
    · split at isNew
      · next given' ran =>
          obtain rfl := List.mem_singleton.mp isNew
          exact .inr (agrees.reviewed_of_lease (Prod.ext ran rfl))
      · cases isNew

/-- What every state of a run has. -/
structure Sound (libraries : Libraries) (system : PlanSystem) : Prop where
  agrees : system.Agrees
  leased : ∀ lease ∈ system.leases, system.HasReviewed libraries lease

theorem Sound.step (sound : system.Sound libraries) (event : PlanEvent) :
    (system.step libraries event).Sound libraries where
  agrees := sound.agrees.step event
  leased := by
    intro lease isLease
    have reviewed : system.HasReviewed libraries lease := by
      rcases sound.agrees.leases_step event isLease with isOld | isNew
      · exact sound.leased lease isOld
      · exact isNew
    exact reviewed.grow (written_subset_step event) (approvals_subset_step event)

theorem Runs.sound {store : Store} {events : List PlanEvent} (noProjects : store.projects = .empty)
    (run : Runs libraries store events system) : system.Sound libraries := by
  refine Trace.invariant (Sound libraries) ?_ ?_ run
  · refine ⟨?_, fun _ isLease => nomatch isLease⟩
    rw [Agrees, noProjects]
    exact reviewed_empty
  · rintro before event _ rfl sound
    exact sound.step event

end PlanSystem

/-- Workers run reviewed plans: in every run the approved revision of a project is the current
one, no two plans of a project have the same revision and each replaced the one its author
expected, and a plan that is leased was written at its revision and approved by another user
than the one who wrote it. -/
theorem leased_plans_are_reviewed {libraries : Libraries} {store : Store}
    {events : List PlanEvent} {system : PlanSystem} (noProjects : store.projects = .empty)
    (run : PlanSystem.Runs libraries store events system) :
    (∀ project ∈ system.store.projects,
      project.approvedRevision = none ∨ project.approvedRevision = some project.planRevision) ∧
    (system.written.map fun write => (write.projectId, write.revision)).Nodup ∧
    (∀ write ∈ system.written, ∀ text ∈ write.replaced, ∃ earlier ∈ system.written,
      earlier.projectId = write.projectId ∧ earlier.revision + 1 = write.revision ∧
        earlier.text = text) ∧
    ∀ lease ∈ system.leases, ∃ write ∈ system.written,
      write.projectId = lease.projectId ∧ write.revision = lease.planRevision ∧
      libraries.jsonOf write.text = .ok lease.plan ∧
      ∃ approval ∈ system.approvals, approval.projectId = lease.projectId ∧
        approval.revision = lease.planRevision ∧
        approval.approver.userId ≠ write.author.userId := by
  have sound := PlanSystem.Runs.sound noProjects run
  refine ⟨?_, sound.agrees.unique, sound.agrees.replaced, ?_⟩
  · intro project isProject
    obtain ⟨_, _, _, standing⟩ := sound.agrees.current project isProject
    exact standing.imp_right And.left
  · intro lease isLease
    obtain ⟨write, isWrite, isProject, isRevision, isPlan, approval, isApproval, reviews⟩ :=
      sound.leased lease isLease
    exact ⟨write, isWrite, isProject, isRevision, isPlan, approval, isApproval,
      reviews.1.trans isProject, reviews.2.1.trans isRevision, reviews.2.2⟩

namespace ReviewedPlan

/-- Libraries that know the empty object. -/
def libraries : Libraries where
  sha256 _ := .zero
  argon2 _ _ := .error ""
  verifiesArgon2 _ _ := false
  jsonText
    | .object [] => "\x7b\x7d"
    | _ => ""
  jsonOf text := if text = "\x7b\x7d" then .ok (.object []) else .error "expected value"
  debugText text := text
  base64Url := base64OfEqual

def worker : WorkerIdentity where
  id := "wrk_AAAAAAAAAAAAAAAA"
  tenant := "acme"

/-- A tenant with a worker. -/
def store : Store where
  tenants := {
    rows := [{ id := "acme", name := "Acme", createdAt := 1767225600 }]
    primaryKey := List.nodup_singleton _ }
  workers := {
    rows := [{
      id := worker.id
      tenant := worker.tenant
      name := "worker-1"
      credentialHash := .zero
      capabilities := ""
      enrolledAt := 1767225600 }]
    primaryKey := List.nodup_singleton _ }

def environment : Environment where
  now _ := 1767225600
  id _ := .replicate 12 0
  token _ := .replicate 32 0
  salt := .replicate 16 0

def call (userId : String) (via : Credential) : UserCall where
  principal := { userId, grants := [{ role := .administrator, tenant := none }], via }
  requestId := "req_AAAAAAAAAAAAAAAA"
  env := environment

def author : UserCall := call "usr_AAAAAAAAAAAAAAAA"
  (.apiKey "key_AAAAAAAAAAAAAAAA" "acme" [.projectWrite, .projectApprove, .assignmentCreate])

def reviewer : UserCall := call "usr_AQEBAQEBAQEBAQEB" .session

def project : String := "prj_AAAAAAAAAAAAAAAA"

/-- The author cannot approve the plan, through a key or a session; the reviewer can. -/
def events : List PlanEvent :=
  [.createProject author "acme" "Migration" (.object []),
    .approveProject author "acme" project 1,
    .approveProject (call author.principal.userId .session) "acme" project 1,
    .approveProject reviewer "acme" project 1,
    .createAssignments author "acme" project ["mailbox-1"],
    .lease worker 60 "req_AAAAAAAAAAAAAAAA" environment]

def after : PlanSystem := events.foldl (PlanSystem.step libraries) { store }

end ReviewedPlan

/-- The lease of a project that was approved at the third attempt. -/
theorem reviewed_plan_leased :
    ReviewedPlan.after.leases.length = 1 ∧
    ∀ lease ∈ ReviewedPlan.after.leases, ∃ write ∈ ReviewedPlan.after.written,
      write.projectId = lease.projectId ∧
      ∃ approval ∈ ReviewedPlan.after.approvals, approval.projectId = lease.projectId ∧
        approval.approver.userId ≠ write.author.userId := by
  constructor
  · decide +kernel
  · intro lease isLease
    have run : PlanSystem.Runs ReviewedPlan.libraries ReviewedPlan.store ReviewedPlan.events
        ReviewedPlan.after := Trace.of_foldl _ _
    obtain ⟨write, isWrite, isProject, _, _, approval, isApproval, isApproved, _, isOther⟩ :=
      (leased_plans_are_reviewed rfl run).2.2.2 lease isLease
    exact ⟨write, isWrite, isProject, approval, isApproval, isApproved, isOther⟩

end MailSwiftSync.Control
