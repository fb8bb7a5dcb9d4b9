import MailSwiftSync.Control.Projects

/-!
# Workers, assignments and leases

A worker belongs to one tenant and enrolls once with a single-use token.  Work is handed out
as leases; every lease raises the fencing token of its assignment, and renewals and results
have to present the current one.
-/

namespace MailSwiftSync.Control

open Foundation

def maxEnrollmentMinutes : Int := 60

def maxLeaseSeconds : Int := 900

/-- How long after expiry a lease that never reported moves on. -/
def reassignGraceSeconds : Int := 60

def maxRequeueReasonBytes : Nat := 500

def maxAssignmentsPerRequest : Nat := 1000

def maxResultBytes : Nat := 64 * 1024

def maxCapabilities : Nat := 32

def reconciliationResult : String :=
  "\x7b\"error\":\"the lease expired without a result; the worker's engine may have written " ++
    "to the mailbox, so reconcile it before requeueing\"\x7d"

/-! ## Rows -/

/-- The worker a credential authenticates. -/
structure WorkerIdentity where
  id : String
  tenant : String
deriving DecidableEq

def WorkerIdentity.actor (worker : WorkerIdentity) : String := "worker:" ++ worker.id

/-- A worker as the service shows it. -/
structure WorkerView where
  id : String
  tenant : String
  name : String
  capabilities : List String
  enrolledAt : Int
  lastSeenAt : Option Int
  revoked : Bool
deriving DecidableEq

def Enrollment.used (time : Int) (enrollment : Enrollment) : Enrollment :=
  { enrollment with usedAt := some time }

namespace Worker

variable (worker : Worker)

def isActive : Bool := worker.revokedAt = none

def seen (time : Int) : Worker := { worker with lastSeenAt := some time }

def revoked (time : Int) : Worker := { worker with revokedAt := some time }

def view : WorkerView where
  id := worker.id
  tenant := worker.tenant
  name := worker.name
  capabilities := (splitText ',' worker.capabilities).filter (· ≠ "")
  enrolledAt := worker.enrolledAt
  lastSeenAt := worker.lastSeenAt
  revoked := worker.revokedAt.isSome

end Worker

/-- How a worker reports an assignment. -/
inductive Outcome where
  | completed
  | failed
deriving DecidableEq, Repr

namespace Outcome

def state : Outcome → AssignmentState
  | completed => .completed
  | failed => .failed

end Outcome

namespace AssignmentState

def leaseWorkerId : AssignmentState → Option String
  | leased worker _ => some worker
  | _ => none

def leaseExpiresAt : AssignmentState → Option Int
  | leased _ expiresAt => some expiresAt
  | _ => none

end AssignmentState

/-- An assignment as the service shows it. -/
structure AssignmentView where
  id : String
  projectId : String
  planRevision : Int
  mailbox : String
  state : String
  fencingToken : Nat
  leaseWorkerId : Option String
  leaseExpiresAt : Option Int
  attempts : Nat
  result : Option Json

namespace Assignment

variable (assignment : Assignment)

def isOf (tenant id : String) : Bool := assignment.tenant = tenant && assignment.id = id

/-- A lease that expired longer than the grace ago. -/
def isOverdue (time : Int) : Bool :=
  assignment.state.leaseExpiresAt.any fun expiresAt => expiresAt + reassignGraceSeconds ≤ time

/-- Leased to a worker under a fencing token, and not expired. -/
def isHeldBy (worker : String) (fencingToken time : Int) : Bool :=
  assignment.state.leaseWorkerId = some worker && assignment.fencingToken = fencingToken &&
    assignment.state.leaseExpiresAt.any (time < ·)

def reconciled (time : Int) : Assignment :=
  { assignment with
    state := .needsReconciliation
    result := some reconciliationResult
    updatedAt := time }

def requeued (time : Int) : Assignment :=
  { assignment with state := .queued, result := none, updatedAt := time }

def leased (worker : String) (expiresAt time : Int) : Assignment :=
  { assignment with
    state := .leased worker expiresAt
    fencingToken := assignment.fencingToken + 1
    attempts := assignment.attempts + 1
    updatedAt := time }

def renewed (worker : String) (expiresAt time : Int) : Assignment :=
  { assignment with state := .leased worker expiresAt, updatedAt := time }

def reported (outcome : Outcome) (result : String) (time : Int) : Assignment :=
  { assignment with state := outcome.state, result := some result, updatedAt := time }

/-- `ORDER BY created_at,id`. -/
def sortsBefore (assignment other : Assignment) : Bool :=
  assignment.createdAt < other.createdAt ||
    (assignment.createdAt = other.createdAt && assignment.id ≤ other.id)

end Assignment

namespace Store

variable (store : Store)

def findAssignment (tenant id : String) : Option Assignment :=
  store.assignments.rows.find? (·.isOf tenant id)

/-- The leasing worker still exists and is not revoked. -/
def workerNotRevoked (assignment : Assignment) : Bool :=
  store.workers.any fun worker =>
    assignment.state.leaseWorkerId = some worker.id && worker.tenant = assignment.tenant &&
      worker.isActive

/-- The plan of the project of an assignment is approved and unchanged. -/
def planStillApproved (assignment : Assignment) : Bool :=
  store.projects.any fun project =>
    project.id = assignment.projectId && project.tenant = assignment.tenant &&
      project.approvedRevision = some project.planRevision &&
      project.planRevision = assignment.planRevision

end Store

section

variable (libraries : Libraries) (env : Environment)

def assignmentFromRow (assignment : Assignment) : Except StoreError AssignmentView := do
  let result ← assignment.result.mapM (columnJson libraries 9)
  return {
    id := assignment.id
    projectId := assignment.projectId
    planRevision := assignment.planRevision
    mailbox := assignment.mailbox
    state := assignment.state.asStr
    fencingToken := assignment.fencingToken
    leaseWorkerId := assignment.state.leaseWorkerId
    leaseExpiresAt := assignment.state.leaseExpiresAt
    attempts := assignment.attempts
    result }

/-- A query that must give a row. -/
def queriedRow {α : Type} (row : Option α) : Except StoreError α :=
  needed row (.internal "Query returned no rows")

/-! ## Workers -/

/-- Mint a single-use enrollment token for a new worker. -/
def createEnrollment (tenant name : String) (minutes : Int) (actor : Actor) :
    Operation (String × Int) := do
  let name ← .ofExcept (validateName name "worker name")
  .ofExcept (ensure (1 ≤ minutes && minutes ≤ maxEnrollmentMinutes)
    (.invalid ("enrollment tokens expire after 1 to " ++ toString maxEnrollmentMinutes ++
      " minutes")))
  let token := newToken libraries .enrollment (env.token 0)
  let expiresAt := env.now 0 + minutes * 60
  mutate libraries (env.now 1) actor (some tenant) "worker.enrollment_create"
    ("worker_name:" ++ name) "" fun store => do
      ensure (!store.workers.any fun worker => worker.tenant = tenant && worker.name = name)
        (.conflict "a worker with that name is already enrolled in this tenant")
      let enrollments ← insertRow store.enrollments
        { tokenHash := tokenHash libraries token
          tenant, name
          createdBy := actor.label
          createdAt := env.now 0
          expiresAt } (store.hasTenant tenant)
      return ((), { store with enrollments })
  return (token, expiresAt)

def isCapability (capability : String) : Bool :=
  capability ≠ "" && capability.utf8ByteSize ≤ 64 &&
    capability.toList.all fun c => c.isAlphanum || "-_.:".toList.contains c

/-- The enrollment a token names. -/
def Store.enrollmentOf (store : Store) (time : Int) (token : String) : Option Enrollment :=
  store.enrollments.rows.find? fun enrollment =>
    enrollment.tokenHash = tokenHash libraries token && enrollment.usedAt = none &&
      time < enrollment.expiresAt

/-- Exchange an enrollment token for a worker credential. -/
def enrollWorker (enrollmentToken : String) (capabilities : List String) (requestId : String) :
    Operation (WorkerView × String) := do
  .ofExcept (ensure (TokenKind.ofToken enrollmentToken = some .enrollment) .notFound)
  .ofExcept (ensure (capabilities.length ≤ maxCapabilities && capabilities.all isCapability)
    (.invalid ("declare at most " ++ toString maxCapabilities ++
      " capabilities of letters, digits, and - _ . :")))
  let credential := newToken libraries .worker (env.token 0)
  let id := newId libraries "wrk" (env.id 0)
  .transact fun store => do
    let enrollment ← needed (store.enrollmentOf libraries (env.now 0) enrollmentToken) .notFound
    let worker : Worker := {
      id
      tenant := enrollment.tenant
      name := enrollment.name
      credentialHash := tokenHash libraries credential
      capabilities := ",".intercalate capabilities
      enrolledAt := env.now 0 }
    let workers ← insertRow store.workers worker
      (store.hasTenant worker.tenant &&
        !store.workers.any (fun other =>
          other.tenant = worker.tenant && other.name = worker.name) &&
        !store.workers.any (·.credentialHash = worker.credentialHash))
    let enrolled : Store := { store with
      workers
      enrollments := store.enrollments.update
        (·.tokenHash = tokenHash libraries enrollmentToken) (Enrollment.used (env.now 0)) }
    return (({ worker.view with capabilities }, credential), enrolled.record libraries
      { time := env.now 0
        requestId
        actor := "worker:" ++ id
        tenant := some worker.tenant
        action := "worker.enroll"
        resource := "worker:" ++ id
        allowed := true
        detail := worker.name })

/-- The worker that is not revoked with a credential. -/
def Store.workerOf (store : Store) (credential : String) : Option Worker :=
  store.workers.rows.find? fun worker =>
    worker.credentialHash = tokenHash libraries credential && worker.isActive

/-- The worker a credential authenticates; that it was seen is noted twice a minute. -/
def workerIdentity (credential : String) : Operation (Option WorkerIdentity) := fun store =>
  let found := if TokenKind.ofToken credential = some .worker then
    store.workerOf libraries credential else none
  let seen (worker : Worker) : Bool :=
    found.any (·.id = worker.id) && worker.lastSeenAt.all fun last => 30 ≤ env.now 0 - last
  (.ok (found.map fun worker => { id := worker.id, tenant := worker.tenant }),
    { store with workers := store.workers.update seen (·.seen (env.now 0)) })

def workers (tenant : String) : Operation (List WorkerView) := .reading fun store => .ok
  (((store.workers.select (·.tenant = tenant)).mergeSort
    fun first second => first.name ≤ second.name).map Worker.view)

/-- Revoke a worker; how many leases it holds. -/
def revokeWorker (tenant worker : String) (actor : Actor) : Operation Nat :=
  mutate libraries (env.now 1) actor (some tenant) "worker.revoke" ("worker:" ++ worker) ""
    fun store => do
      let revocable (row : Worker) : Bool :=
        row.tenant = tenant && row.id = worker && row.isActive
      ensure (store.workers.any revocable) .notFound
      let held := store.assignments.select fun assignment =>
        assignment.tenant = tenant && assignment.state.leaseWorkerId = some worker
      return (held.length, { store with
        workers := store.workers.update revocable (·.revoked (env.now 0)) })

/-! ## Assignments -/

def Store.insertAssignments (store : Store) (rows : List Assignment) :
    Except StoreError Store :=
  rows.foldlM (fun store row => do
    let assignments ← insertRow store.assignments row
      (store.hasTenant row.tenant && store.projects.any (·.id = row.projectId))
    return { store with assignments }) store

def Store.createAssignments (tenant project : String) (mailboxes : List (String × String))
    (createdBy : String) (time : Int) : Edit Unit := fun store => do
  let found ← needed (store.findProject tenant project) .notFound
  ensure (found.approvedRevision = some found.planRevision)
    (.conflict "the project's current plan is not approved; approve it before queuing work")
  let created ← store.insertAssignments (mailboxes.map fun (id, mailbox) => {
    id, tenant
    projectId := project
    planRevision := found.planRevision
    mailbox, createdBy
    createdAt := time
    updatedAt := time })
  return ((), created)

/-- Queue one assignment for each mailbox label. -/
def createAssignments (tenant project : String) (mailboxes : List String) (actor : Actor) :
    Operation (List AssignmentView) := do
  .ofExcept (ensure (!mailboxes.isEmpty && mailboxes.length ≤ maxAssignmentsPerRequest)
    (.invalid ("send 1 to " ++ toString maxAssignmentsPerRequest ++ " mailboxes")))
  let labels ← .ofExcept (mailboxes.mapM (validateName · "mailbox label"))
  let ids := (List.range labels.length).map fun index => newId libraries "asg" (env.id index)
  mutate libraries (env.now 1) actor (some tenant) "assignment.create" ("project:" ++ project)
    (toString labels.length ++ " mailbox(es)")
    (Store.createAssignments tenant project (ids.zip labels) actor.label (env.now 0))
  .reading fun store => ids.mapM fun id => do
    let row ← queriedRow (store.findAssignment tenant id)
    assignmentFromRow libraries row

def assignments (tenant project : String) : Operation (List AssignmentView) :=
  .reading fun store => do
    ensure (store.findProject tenant project).isSome .notFound
    ((store.assignments.select fun assignment =>
      assignment.tenant = tenant && assignment.projectId = project).mergeSort
        Assignment.sortsBefore).mapM (assignmentFromRow libraries)

/-- Move a lease that expired without a result on. -/
def Store.reconcileLease (requestId : String) (time : Int) (store : Store)
    (assignment : Assignment) : Store :=
  { store with
    assignments := store.assignments.update (·.id = assignment.id)
      (·.reconciled time) }.record libraries
    { time, requestId
      actor := "control-plane"
      tenant := some assignment.tenant
      action := "assignment.needs_reconciliation"
      resource := "assignment:" ++ assignment.id
      allowed := true
      detail := "lease of worker:" ++ assignment.state.leaseWorkerId.getD "" ++
        " (fencing token " ++ toString assignment.fencingToken ++ ") expired without a result" }

/-- Move every lease of a tenant that expired longer than the grace ago on. -/
def Store.reconcileExpiredLeases (store : Store) (tenant : String) (time : Int)
    (requestId : String) : Store :=
  (store.assignments.select fun assignment =>
    assignment.tenant = tenant && assignment.isOverdue time).foldl
      (Store.reconcileLease libraries requestId time) store

def Store.requeueAssignment (tenant project assignment requestId : String) (time : Int) :
    Edit AssignmentView := fun store => do
  let store := store.reconcileExpiredLeases libraries tenant time requestId
  let isIt (row : Assignment) : Bool := row.isOf tenant assignment && row.projectId = project
  let row ← needed (store.assignments.rows.find? isIt) .notFound
  ensure (row.state = .needsReconciliation)
    (.conflict ("only an assignment that needs reconciliation can be requeued; this one is " ++
      row.state.asStr))
  let requeued : Store := { store with
    assignments := store.assignments.update isIt (·.requeued time) }
  let row ← queriedRow (requeued.findAssignment tenant assignment)
  let view ← assignmentFromRow libraries row
  return (view, requeued)

/-- Return an assignment that needs reconciliation to the queue. -/
def requeueAssignment (tenant project assignment reason : String) (actor : Actor) :
    Operation AssignmentView := do
  let reason := trim reason
  .ofExcept (ensure (reason ≠ "" && reason.utf8ByteSize ≤ maxRequeueReasonBytes)
    (.invalid ("a requeue needs a reason of 1 to " ++ toString maxRequeueReasonBytes ++
      " bytes")))
  mutate libraries (env.now 1) actor (some tenant) "assignment.requeue"
    ("assignment:" ++ assignment) reason
    (Store.requeueAssignment libraries tenant project assignment actor.requestId (env.now 0))

/-! ## Leases -/

/-- What a worker receives with a lease. -/
structure Lease where
  assignmentId : String
  fencingToken : Nat
  leaseExpiresAt : Int
  projectId : String
  planRevision : Int
  plan : Json
  mailbox : String

def validLeaseSeconds (seconds : Int) : Except StoreError Unit :=
  ensure (30 ≤ seconds && seconds ≤ maxLeaseSeconds)
    (.invalid ("leases last 30 to " ++ toString maxLeaseSeconds ++ " seconds"))

def WorkerIdentity.entry (worker : WorkerIdentity) (requestId : String) (time : Int)
    (action resource detail : String) (allowed : Bool) : AuditEntry where
  time := time
  requestId := requestId
  actor := worker.actor
  tenant := some worker.tenant
  action := action
  resource := resource
  allowed := allowed
  detail := detail

/-- The oldest assignment of a tenant that can be leased. -/
def Store.leaseCandidate (store : Store) (tenant : String) : Option Assignment :=
  ((store.assignments.select fun assignment =>
    assignment.tenant = tenant && assignment.state = .queued &&
      store.planStillApproved assignment).mergeSort Assignment.sortsBefore).head?

/-- Hand an assignment to a worker. -/
def Store.leaseAssignment (worker : WorkerIdentity) (id requestId : String)
    (expiresAt time : Int) : Edit Lease := fun store => do
  let leased : Store := { store with
    assignments := store.assignments.update (·.isOf worker.tenant id)
      (·.leased worker.id expiresAt time) }
  let row ← queriedRow (leased.findAssignment worker.tenant id)
  let project ← queriedRow (leased.findProject worker.tenant row.projectId)
  let plan ← columnJson libraries 3 project.plan
  return (
    { assignmentId := id
      fencingToken := row.fencingToken
      leaseExpiresAt := expiresAt
      projectId := row.projectId
      planRevision := row.planRevision
      plan
      mailbox := row.mailbox },
    leased.record libraries (worker.entry requestId time "assignment.lease"
      ("assignment:" ++ id) ("fencing token " ++ toString row.fencingToken) true))

/-- The transaction of a lease; a worker that is not active is refused with an entry. -/
def Store.lease (worker : WorkerIdentity) (seconds : Int) (requestId : String) (time : Int) :
    Edit (Except StoreError (Option Lease)) := fun store => do
  let isWorker (row : Worker) : Bool :=
    row.id = worker.id && row.tenant = worker.tenant && row.isActive
  if store.workers.any isWorker then
    let store := store.reconcileExpiredLeases libraries worker.tenant time requestId
    match store.leaseCandidate worker.tenant with
    | none => return (.ok none, store)
    | some candidate =>
      let (lease, leased) ←
        Store.leaseAssignment libraries worker candidate.id requestId (time + seconds) time store
      return (.ok (some lease), leased)
  else
    return (.error .notFound, store.record libraries (worker.entry requestId time
      "assignment.lease" "assignment:queue" "worker is revoked or no longer exists" false))

/-- Lease the oldest queued assignment in the tenant of a worker. -/
def lease (worker : WorkerIdentity) (seconds : Int) (requestId : String) :
    Operation (Option Lease) := do
  .ofExcept (validLeaseSeconds seconds)
  let result ← .transact (Store.lease libraries worker seconds requestId (env.now 0))
  .ofExcept result

def leaseLost : StoreError :=
  .conflict ("this worker no longer holds the lease (it expired, was revoked, was reassigned, " ++
    "or the plan approval changed); stop work on this assignment")

/-- A fenced change with its audit entry; refusals are audited as denials. -/
def fenced {α : Type} (worker : WorkerIdentity) (assignment : String) (fencingToken : Int)
    (action requestId : String) (time : Int) (change : Edit α) : Operation α := fun store =>
  let entry := worker.entry requestId time action ("assignment:" ++ assignment)
    ("fencing token " ++ toString fencingToken)
  match change store with
  | .ok (value, changed) => (.ok value, changed.record libraries (entry true))
  | .error error => (.error error, store.record libraries (entry false))

def Store.renewLease (worker : WorkerIdentity) (assignment : String)
    (fencingToken expiresAt time : Int) : Edit Int := fun store => do
  let held (row : Assignment) : Bool :=
    row.isOf worker.tenant assignment && row.isHeldBy worker.id fencingToken time &&
      store.workerNotRevoked row && store.planStillApproved row
  ensure (store.assignments.any held) leaseLost
  return (expiresAt, { store with
    assignments := store.assignments.update held (·.renewed worker.id expiresAt time) })

/-- Extend a lease the worker still holds. -/
def renewLease (worker : WorkerIdentity) (assignment : String) (fencingToken seconds : Int)
    (requestId : String) : Operation Int := do
  .ofExcept (validLeaseSeconds seconds)
  fenced libraries worker assignment fencingToken "assignment.renew" requestId (env.now 1)
    (Store.renewLease worker assignment fencingToken (env.now 0 + seconds) (env.now 0))

def Store.complete (worker : WorkerIdentity) (assignment : String) (fencingToken : Int)
    (outcome : Outcome) (result : String) (time : Int) : Edit Unit := fun store => do
  let held (row : Assignment) : Bool :=
    row.isOf worker.tenant assignment && row.isHeldBy worker.id fencingToken time &&
      store.workerNotRevoked row
  ensure (store.assignments.any held) leaseLost
  return ((), { store with
    assignments := store.assignments.update held (·.reported outcome result time) })

/-- The messages about plans, for results. -/
def StoreError.aboutResult : StoreError → StoreError
  | .invalid message => .invalid (message.replace "plan" "result")
  | other => other

/-- Record the outcome of a leased assignment. -/
def complete (worker : WorkerIdentity) (assignment : String) (fencingToken : Int)
    (outcome : Outcome) (result : Json) (requestId : String) : Operation Unit := do
  let text ← .ofExcept ((validatePlan libraries result).mapError StoreError.aboutResult)
  .ofExcept (ensure (text.utf8ByteSize ≤ maxResultBytes)
    (.invalid ("the result exceeds " ++ toString maxResultBytes ++ " bytes")))
  fenced libraries worker assignment fencingToken "assignment.complete" requestId (env.now 1)
    (Store.complete worker assignment fencingToken outcome text (env.now 0))

end

end MailSwiftSync.Control
