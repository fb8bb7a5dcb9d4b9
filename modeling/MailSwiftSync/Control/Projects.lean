import MailSwiftSync.Control.Accounts

/-!
# Projects and their plans

A plan has a revision; an approval names the revision it is for, and every change of the plan
withdraws it.
-/

namespace MailSwiftSync.Control

open Foundation

/-- A project as the service shows it. -/
structure ProjectView where
  id : String
  tenant : String
  name : String
  plan : Json
  planRevision : Int
  planChangedBy : String
  approved : Bool
  approvedRevision : Option Int
  approvedBy : Option String
  createdAt : Int

namespace Project

variable (project : Project)

def isOf (tenant id : String) : Bool := project.tenant = tenant && project.id = id

/-- With another plan. -/
def replanned (plan changedBy : String) : Project :=
  { project with
    plan
    planRevision := project.planRevision + 1
    planChangedBy := changedBy
    approvedRevision := none
    approvedBy := none }

def approved (revision : Int) (approvedBy : String) : Project :=
  { project with approvedRevision := some revision, approvedBy := some approvedBy }

end Project

def Store.findProject (store : Store) (tenant id : String) : Option Project :=
  store.projects.rows.find? (·.isOf tenant id)

section

variable (libraries : Libraries) (env : Environment)

/-- A text column that holds JSON. -/
def columnJson (column : Nat) (text : String) : Except StoreError Json :=
  (libraries.jsonOf text).mapError fun error =>
    .internal ("Conversion error from type Text at index: " ++ toString column ++ ", " ++ error)

def projectFromRow (project : Project) : Except StoreError ProjectView := do
  let plan ← columnJson libraries 3 project.plan
  return {
    id := project.id
    tenant := project.tenant
    name := project.name
    plan
    planRevision := project.planRevision
    planChangedBy := project.planChangedBy
    approved := project.approvedRevision = some project.planRevision
    approvedRevision := project.approvedRevision
    approvedBy := project.approvedBy
    createdAt := project.createdAt }

def projects (tenant : String) : Operation (List ProjectView) := .reading fun store =>
  ((store.projects.select (·.tenant = tenant)).mergeSort
    fun first second => first.name ≤ second.name).mapM (projectFromRow libraries)

def project (tenant id : String) : Operation ProjectView := .reading fun store => do
  let found ← needed (store.findProject tenant id) .notFound
  projectFromRow libraries found

/-- Showing a project afterwards leaves the store. -/
theorem bind_project_snd {α : Type} (first : Operation α) (tenant id : String) (store : Store) :
    ((first >>= fun _ => project libraries tenant id) store).2 = (first store).2 :=
  Effect.bind_reading_snd first _ store

def Store.createProject (project : Project) : Edit Unit := fun store => do
  let projects ← insertRow store.projects project
    (store.hasTenant project.tenant &&
      !store.projects.any fun other => other.tenant = project.tenant && other.name = project.name)
  return ((), { store with projects })

/-- A project with its first plan. -/
def newProject (tenant name plan : String) (actor : Actor) : Project where
  id := newId libraries "prj" (env.id 0)
  tenant := tenant
  name := name
  plan := plan
  planRevision := 1
  planChangedBy := actor.label
  createdAt := env.now 0

def createProject (tenant name : String) (plan : Json) (actor : Actor) :
    Operation ProjectView := do
  let name ← .ofExcept (validateName name "project name")
  let planText ← .ofExcept (validatePlan libraries plan)
  let id := newId libraries "prj" (env.id 0)
  mutate libraries (env.now 1) actor (some tenant) "project.create" ("project:" ++ id) name
    (Store.createProject (newProject libraries env tenant name planText actor))
  project libraries tenant id

def revisionConflictOrMissing (store : Store) (tenant id : String) : StoreError :=
  match store.findProject tenant id with
  | none => .notFound
  | some project => .conflict ("the plan changed concurrently and is now at revision " ++
      toString project.planRevision)

def Store.updatePlan (tenant id plan : String) (expectedRevision : Int) (changedBy : String) :
    Edit Unit := fun store => do
  let expected (project : Project) : Bool :=
    project.isOf tenant id && project.planRevision = expectedRevision
  ensure (store.projects.any expected) (revisionConflictOrMissing store tenant id)
  return ((), { store with
    projects := store.projects.update expected (·.replanned plan changedBy) })

/-- Replace the plan of a project; any change withdraws a prior approval. -/
def updatePlan (tenant id : String) (plan : Json) (expectedRevision : Int) (actor : Actor) :
    Operation ProjectView := do
  let planText ← .ofExcept (validatePlan libraries plan)
  mutate libraries (env.now 0) actor (some tenant) "project.update_plan" ("project:" ++ id) ""
    (Store.updatePlan tenant id planText expectedRevision actor.label)
  project libraries tenant id

/-- Whether a label names a user, with or without a key. -/
def labelNames (label userId : String) : Bool :=
  label = "user:" ++ userId || startsWith label ("user:" ++ userId ++ " ")

def Store.approveProject (tenant id : String) (revision : Int)
    (approverUserId approvedBy : String) :
    Edit Unit := fun store => do
  let current ← needed (store.findProject tenant id) .notFound
  ensure (current.planRevision = revision)
    (.conflict ("the plan is at revision " ++ toString current.planRevision ++
      "; review it and approve that revision"))
  ensure (!labelNames current.planChangedBy approverUserId)
    (.conflict "the person who last changed the plan cannot approve it")
  return ((), { store with
    projects := store.projects.update (·.isOf tenant id) (·.approved revision approvedBy) })

/-- Approve the current revision of a plan; the person who last changed it cannot. -/
def approveProject (tenant id : String) (revision : Int) (approverUserId : String)
    (actor : Actor) : Operation ProjectView := do
  mutate libraries (env.now 0) actor (some tenant) "project.approve" ("project:" ++ id)
    ("revision " ++ toString revision)
    (Store.approveProject tenant id revision approverUserId actor.label)
  project libraries tenant id

end

end MailSwiftSync.Control
