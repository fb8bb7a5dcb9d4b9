import Mathlib.Data.List.Induction
import MailSwiftSync.Control.Identities
import MailSwiftSync.Control.Workers
import MailSwiftSync.Foundation.Transition

/-!
# Every operation is on record

Whatever the service does to its store, the audit log only grows, and each entry continues
the chain.
-/

namespace MailSwiftSync.Control

open Foundation

/-- The operations of the store. -/
inductive StoreOperation where
  | audit (entry : AuditEntry)
  | auditEntries (tenant : Option String) (before : Option Int) (limit : Int)
  | verifyAuditChain
  | bootstrapAdministrator (email displayName password : String)
  | login (email password requestId : String)
  | openSession (userId method : String) (actor : Actor)
  | logout (token : String) (actor : Actor)
  | principal (token : String)
  | user (userId : String)
  | users
  | createUser (email displayName : String) (password : Option String) (actor : Actor)
  | disableUser (userId : String) (actor : Actor)
  | addGrant (userId : String) (role : Role) (tenant : Option String) (actor : Actor)
  | removeGrant (userId : String) (role : Role) (tenant : Option String) (actor : Actor)
  | createTenant (name : String) (actor : Actor)
  | tenants (visible : Option (List String))
  | tenantExists (tenant : String)
  | createApiKey (principal : Principal) (tenant name : String) (scopes : List Permission)
      (lifetimeDays : Int) (actor : Actor)
  | apiKeys (owner : Option String)
  | revokeApiKey (keyId : String) (owner : Option String) (actor : Actor)
  | createProject (tenant name : String) (plan : Json) (actor : Actor)
  | projects (tenant : String)
  | project (tenant id : String)
  | updatePlan (tenant id : String) (plan : Json) (expectedRevision : Int) (actor : Actor)
  | approveProject (tenant id : String) (revision : Int) (approverUserId : String) (actor : Actor)
  | savePending (state provider nonce verifier : String)
  | takePending (state : String)
  | userForIdentity (provider : Provider) (identity : Identity) (requestId : String)
  | createEnrollment (tenant name : String) (minutes : Int) (actor : Actor)
  | enrollWorker (enrollmentToken : String) (capabilities : List String) (requestId : String)
  | workerIdentity (credential : String)
  | workers (tenant : String)
  | revokeWorker (tenant worker : String) (actor : Actor)
  | createAssignments (tenant project : String) (mailboxes : List String) (actor : Actor)
  | assignments (tenant project : String)
  | requeueAssignment (tenant project assignment reason : String) (actor : Actor)
  | lease (worker : WorkerIdentity) (seconds : Int) (requestId : String)
  | renewLease (worker : WorkerIdentity) (assignment : String) (fencingToken seconds : Int)
      (requestId : String)
  | complete (worker : WorkerIdentity) (assignment : String) (fencingToken : Int)
      (outcome : Outcome) (result : Json) (requestId : String)

/-- The store an operation leaves behind. -/
def perform (libraries : Libraries) (env : Environment) :
    StoreOperation → Store → Store
  | .audit entry, store => (audit libraries entry store).2
  | .auditEntries tenant before limit, store =>
    (auditEntries tenant before limit store).2
  | .verifyAuditChain, store => (verifyAudit libraries store).2
  | .bootstrapAdministrator email displayName password, store =>
    (bootstrapAdministrator libraries env email displayName password store).2
  | .login email password requestId, store =>
    (login libraries env email password requestId store).2
  | .openSession userId method actor, store =>
    (openSession libraries env userId method actor store).2
  | .logout token actor, store => (logout libraries env token actor store).2
  | .principal token, store => (principal libraries env token store).2
  | .user userId, store => (user userId store).2
  | .users, store => (users store).2
  | .createUser email displayName password actor, store =>
    (createUser libraries env email displayName password actor store).2
  | .disableUser userId actor, store =>
    (disableUser libraries env userId actor store).2
  | .addGrant userId role tenant actor, store =>
    (addGrant libraries env userId role tenant actor store).2
  | .removeGrant userId role tenant actor, store =>
    (removeGrant libraries env userId role tenant actor store).2
  | .createTenant name actor, store => (createTenant libraries env name actor store).2
  | .tenants visible, store => (tenants visible store).2
  | .tenantExists tenant, store => (tenantExists tenant store).2
  | .createApiKey caller tenant name scopes lifetimeDays actor, store =>
    (createApiKey libraries env caller tenant name scopes lifetimeDays actor store).2
  | .apiKeys owner, store => (apiKeys owner store).2
  | .revokeApiKey keyId owner actor, store =>
    (revokeApiKey libraries env keyId owner actor store).2
  | .createProject tenant name plan actor, store =>
    (createProject libraries env tenant name plan actor store).2
  | .projects tenant, store => (projects libraries tenant store).2
  | .project tenant id, store => (project libraries tenant id store).2
  | .updatePlan tenant id plan expectedRevision actor, store =>
    (updatePlan libraries env tenant id plan expectedRevision actor store).2
  | .approveProject tenant id revision approverUserId actor, store =>
    (approveProject libraries env tenant id revision approverUserId actor store).2
  | .savePending state provider nonce verifier, store =>
    (savePending libraries env state provider nonce verifier store).2
  | .takePending state, store => (takePending libraries env state store).2
  | .userForIdentity provider identity requestId, store =>
    (userForIdentity libraries env provider identity requestId store).2
  | .createEnrollment tenant name minutes actor, store =>
    (createEnrollment libraries env tenant name minutes actor store).2
  | .enrollWorker enrollmentToken capabilities requestId, store =>
    (enrollWorker libraries env enrollmentToken capabilities requestId store).2
  | .workerIdentity credential, store =>
    (workerIdentity libraries env credential store).2
  | .workers tenant, store => (workers tenant store).2
  | .revokeWorker tenant worker actor, store =>
    (revokeWorker libraries env tenant worker actor store).2
  | .createAssignments tenant project mailboxes actor, store =>
    (createAssignments libraries env tenant project mailboxes actor store).2
  | .assignments tenant project, store => (assignments libraries tenant project store).2
  | .requeueAssignment tenant project assignment reason actor, store =>
    (requeueAssignment libraries env tenant project assignment reason actor store).2
  | .lease worker seconds requestId, store =>
    (lease libraries env worker seconds requestId store).2
  | .renewLease worker assignment fencingToken seconds requestId, store =>
    (renewLease libraries env worker assignment fencingToken seconds requestId store).2
  | .complete worker assignment fencingToken outcome result requestId, store =>
    (complete libraries env worker assignment fencingToken outcome result requestId
      store).2

/-! ## What operations put on record -/

/-- The request, the caller and the action that the entries of an operation name; the caller is
left open where the operation finds it out itself. -/
structure Attribution where
  requestId : String
  actor : Option String
  action : String

def Actor.attribution (actor : Actor) (action : String) : Attribution :=
  ⟨actor.requestId, some actor.label, action⟩

def WorkerIdentity.attribution (worker : WorkerIdentity) (requestId action : String) :
    Attribution :=
  ⟨requestId, some worker.actor, action⟩

namespace StoreOperation

/-- How an operation is recorded, if it is. -/
def attribution : StoreOperation → Option Attribution
  | audit entry => some ⟨entry.requestId, some entry.actor, entry.action⟩
  | bootstrapAdministrator _ _ _ =>
    some ⟨"bootstrap", some "bootstrap", "user.bootstrap_administrator"⟩
  | login _ _ requestId => some ⟨requestId, none, "session.login"⟩
  | openSession _ _ actor => some (actor.attribution "session.login")
  | logout _ actor => some (actor.attribution "session.logout")
  | createUser _ _ _ actor => some (actor.attribution "user.create")
  | disableUser _ actor => some (actor.attribution "user.disable")
  | addGrant _ _ _ actor => some (actor.attribution "grant.add")
  | removeGrant _ _ _ actor => some (actor.attribution "grant.remove")
  | createTenant _ actor => some (actor.attribution "tenant.create")
  | createApiKey _ _ _ _ _ actor => some (actor.attribution "api_key.create")
  | revokeApiKey _ _ actor => some (actor.attribution "api_key.revoke")
  | createProject _ _ _ actor => some (actor.attribution "project.create")
  | updatePlan _ _ _ _ actor => some (actor.attribution "project.update_plan")
  | approveProject _ _ _ _ actor => some (actor.attribution "project.approve")
  | userForIdentity _ _ requestId => some ⟨requestId, none, "identity.link"⟩
  | createEnrollment _ _ _ actor => some (actor.attribution "worker.enrollment_create")
  | enrollWorker _ _ requestId => some ⟨requestId, none, "worker.enroll"⟩
  | revokeWorker _ _ actor => some (actor.attribution "worker.revoke")
  | createAssignments _ _ _ actor => some (actor.attribution "assignment.create")
  | requeueAssignment _ _ _ _ actor => some (actor.attribution "assignment.requeue")
  | lease worker _ requestId => some (worker.attribution requestId "assignment.lease")
  | renewLease worker _ _ _ requestId => some (worker.attribution requestId "assignment.renew")
  | complete worker _ _ _ _ requestId =>
    some (worker.attribution requestId "assignment.complete")
  | _ => none

/-- Whether an operation first moves leases on that expired. -/
def movesLeases : StoreOperation → Bool
  | requeueAssignment .. | lease .. => true
  | _ => false

/-- Whether an operation may change the store without an entry: pending sign-ins come and go, and
it is noted when a key was last used or a worker last seen. -/
def isQuiet : StoreOperation → Bool
  | principal .. | savePending .. | takePending .. | workerIdentity .. => true
  | _ => false

/-- An entry is about an operation: its own, or that of a lease it moved on. -/
def Concerns (operation : StoreOperation) (entry : AuditEntry) : Prop :=
  ∃ attribution ∈ operation.attribution, entry.requestId = attribution.requestId ∧
    ((entry.action = attribution.action ∧ ∀ actor ∈ attribution.actor, entry.actor = actor) ∨
      (operation.movesLeases = true ∧ entry.actor = "control-plane" ∧
        entry.action = "assignment.needs_reconciliation"))

/-- What an operation does to the log: it appends entries about itself, and without an entry it
changes nothing. -/
def Appends (operation : StoreOperation) (store later : Store) : Prop :=
  ∃ new : List AuditEntry, entries later.audit = entries store.audit ++ new ∧
    (∀ entry ∈ new, operation.Concerns entry) ∧
    (new = [] → later = store ∨ operation.isQuiet = true)

variable {operation : StoreOperation}

theorem Concerns.own {attribution : Attribution} {entry : AuditEntry}
    (isOwn : operation.attribution = some attribution)
    (request : entry.requestId = attribution.requestId)
    (action : entry.action = attribution.action)
    (actor : ∀ actor ∈ attribution.actor, entry.actor = actor) : operation.Concerns entry :=
  ⟨attribution, isOwn, request, .inl ⟨action, actor⟩⟩

theorem Concerns.actor {actor : Actor} {action : String}
    (isOwn : operation.attribution = some (actor.attribution action)) {time : Int}
    {tenant : Option String} {resource detail : String} {allowed : Bool} :
    operation.Concerns (actor.entry time tenant action resource detail allowed) :=
  .own isOwn rfl rfl fun _ isActor => Option.some.inj isActor

theorem Concerns.worker {worker : WorkerIdentity} {requestId action : String}
    (isOwn : operation.attribution = some (worker.attribution requestId action)) {time : Int}
    {resource detail : String} {allowed : Bool} :
    operation.Concerns (worker.entry requestId time action resource detail allowed) :=
  .own isOwn rfl rfl fun _ isActor => Option.some.inj isActor

end StoreOperation

/-! ## Growth -/

section

variable {libraries : Libraries} {env : Environment} {α : Type} {about : AuditEntry → Prop}
  {store middle later : Store}

/-- The log of a later store continues the log of an earlier one with entries of a kind. -/
def Logged (libraries : Libraries) (about : AuditEntry → Prop) (store later : Store) : Prop :=
  ∃ new : List AuditEntry, later.audit = new.foldl (appendAudit libraries.sha256) store.audit ∧
    ∀ entry ∈ new, about entry

theorem Logged.of_eq (same : later.audit = store.audit) : Logged libraries about store later :=
  ⟨[], same, fun _ isEntry => nomatch isEntry⟩

theorem Logged.trans (first : Logged libraries about store middle)
    (second : Logged libraries about middle later) : Logged libraries about store later := by
  obtain ⟨new, isFirst, concerns⟩ := first
  obtain ⟨new', isSecond, concerns'⟩ := second
  refine ⟨new ++ new', ?_, List.forall_mem_append.mpr ⟨concerns, concerns'⟩⟩
  rw [List.foldl_append, ← isFirst, isSecond]

/-- The log goes on, and a store without a new entry is the same. -/
def Recorded (libraries : Libraries) (about : AuditEntry → Prop) (store later : Store) : Prop :=
  ∃ new : List AuditEntry, later.audit = new.foldl (appendAudit libraries.sha256) store.audit ∧
    (∀ entry ∈ new, about entry) ∧ (new = [] → later = store)

theorem Recorded.logged (recorded : Recorded libraries about store later) :
    Logged libraries about store later := by
  obtain ⟨new, isLog, concerns, _⟩ := recorded
  exact ⟨new, isLog, concerns⟩

theorem Recorded.rfl : Recorded libraries about store store :=
  ⟨[], Eq.refl _, fun _ isEntry => (nomatch isEntry), fun _ => Eq.refl _⟩

theorem Recorded.trans (first : Recorded libraries about store middle)
    (second : Recorded libraries about middle later) : Recorded libraries about store later := by
  obtain ⟨new, isFirst, concerns, silent⟩ := first
  obtain ⟨new', isSecond, concerns', silent'⟩ := second
  refine ⟨new ++ new', ?_, List.forall_mem_append.mpr ⟨concerns, concerns'⟩, ?_⟩
  · rw [List.foldl_append, ← isFirst, isSecond]
  · intro none
    obtain ⟨isNil, isNil'⟩ := List.append_eq_nil_iff.mp none
    rw [silent' isNil', silent isNil]

/-- A change with its entry. -/
theorem Logged.record {entry : AuditEntry} (logged : Logged libraries about store later)
    (concerns : about entry) : Recorded libraries about store (later.record libraries entry) := by
  obtain ⟨new, isLog, concernsNew⟩ := logged
  refine ⟨new ++ [entry], ?_, List.forall_mem_append.mpr
    ⟨concernsNew, List.forall_mem_singleton.mpr concerns⟩, fun none => ?_⟩
  · rw [List.foldl_append, ← isLog]
    rfl
  · exact absurd none (List.append_ne_nil_of_right_ne_nil _ (List.cons_ne_nil _ _))

/-- A change that does not touch the log, with its entry. -/
theorem Recorded.of_entry {entry : AuditEntry} (same : later.audit = store.audit)
    (concerns : about entry) : Recorded libraries about store (later.record libraries entry) :=
  Logged.record (.of_eq same) concerns

instance : IsPreorder Store (Recorded libraries about) where
  refl _ := .rfl
  trans _ _ _ := Recorded.trans

/-- A change that continues the log at most. -/
def LoggedEdit (libraries : Libraries) (about : AuditEntry → Prop) (change : Edit α) : Prop :=
  ∀ store value changed, change store = .ok (value, changed) →
    Logged libraries about store changed

variable {change : Edit α}

/-- A change that does not touch the log. -/
theorem LoggedEdit.of_eq (same : ∀ store value changed, change store = .ok (value, changed) →
      changed.audit = store.audit) : LoggedEdit libraries about change :=
  fun store value changed accepted => .of_eq (same store value changed accepted)

/-- What an operation does is on record. -/
abbrev OnRecord {ε : Type} (libraries : Libraries) (operation : StoreOperation)
    (effect : Effect Store ε α) : Prop :=
  Effect.Keeps (Recorded libraries operation.Concerns) effect

variable {operation : StoreOperation}

theorem onRecord_mutate {time : Int} {actor : Actor} {tenant : Option String}
    {action resource detail : String} (logged : LoggedEdit libraries operation.Concerns change)
    (isOwn : operation.attribution = some (actor.attribution action)) :
    OnRecord libraries operation
      (mutate libraries time actor tenant action resource detail change) := by
  intro store
  rw [mutate]
  split
  · next ran => exact (logged _ _ _ ran).record (.actor isOwn)
  · exact .of_entry rfl (.actor isOwn)

variable {worker : WorkerIdentity}

theorem onRecord_fenced {assignment : String}
    {fencingToken : Int} {action requestId : String} {time : Int}
    (logged : LoggedEdit libraries operation.Concerns change)
    (isOwn : operation.attribution = some (worker.attribution requestId action)) :
    OnRecord libraries operation
      (fenced libraries worker assignment fencingToken action requestId time change) := by
  intro store
  simp only [fenced]
  split
  · next ran => exact (logged _ _ _ ran).record (.worker isOwn)
  · exact .of_entry rfl (.worker isOwn)

/-- A change that records itself. -/
theorem onRecord_transact (recorded : ∀ store value changed, change store = .ok (value, changed) →
      Recorded libraries operation.Concerns store changed) :
    OnRecord libraries operation (.transact change) := .transact recorded

/-! ## Accounts -/

variable {store changed : Store}

theorem audit_insertSession {userId method : String} {time : Int} {session : String × Int}
    (accepted : insertSession libraries env userId method time store = .ok (session, changed)) :
    changed.audit = store.audit := by
  simp only [insertSession, bind_eq_ok, pure_eq_ok, Prod.mk.injEq] at accepted
  obtain ⟨sessions, _, _, rfl⟩ := accepted
  rfl

theorem recorded_bootstrapAdministrator (email displayName password : String) :
    OnRecord libraries (.bootstrapAdministrator email displayName password)
      (bootstrapAdministrator libraries env email displayName password) := by
  refine .bind (.ofExcept _) fun email => .bind (.ofExcept _) fun displayName =>
    .bind (.ofExcept _) fun hash => onRecord_transact ?_
  intro store value changed accepted
  simp only [bind_eq_ok, pure_eq_ok, Prod.mk.injEq] at accepted
  obtain ⟨_, _, users, _, grants, _, _, rfl⟩ := accepted
  exact .of_entry rfl (.own rfl rfl rfl fun _ isActor => Option.some.inj isActor)

theorem recorded_commitLogin {about : AuditEntry → Prop} (attempt : LoginAttempt)
    (concerns : ∀ allowed detail, about (attempt.entry allowed detail)) :
    Effect.Keeps (Recorded libraries about) (commitLogin libraries env attempt) := by
  intro store
  rw [commitLogin]
  split
  · exact .of_entry rfl (concerns _ _)
  · dsimp only
    split
    · next ran => exact .of_entry ((audit_insertSession ran).trans rfl) (concerns _ _)
    · exact .rfl

/-- An attempt carries the request of its call. -/
theorem beginLogin_requestId {time : Int} {email password requestId : String} {store : Store}
    {attempt : LoginAttempt}
    (begun : beginLogin libraries time email password requestId store = .ok attempt) :
    attempt.requestId = requestId := by
  simp only [beginLogin] at begun
  split at begun
  · cases begun
  · split at begun
    · cases begun
    · split at begun
      · cases begun
      · cases begun
        rfl

theorem recorded_login (email password requestId : String) :
    OnRecord libraries (.login email password requestId)
      (login libraries env email password requestId) := by
  intro store
  cases begun : beginLogin libraries (env.now 0) email password requestId store with
  | error error =>
    rw [login, Effect.bind_of_error (by rw [Effect.reading, begun])]
    exact .rfl
  | ok attempt =>
    rw [login, Effect.bind_of_ok (by rw [Effect.reading, begun])]
    exact recorded_commitLogin attempt (fun _ _ =>
      .own rfl (beginLogin_requestId begun) rfl fun _ isActor => by cases isActor) store

theorem recorded_openSession (userId method : String) (actor : Actor) :
    OnRecord libraries (.openSession userId method actor)
      (openSession libraries env userId method actor) := by
  refine onRecord_transact ?_
  intro store value changed accepted
  simp only [bind_eq_ok, pure_eq_ok, Prod.mk.injEq, Prod.exists] at accepted
  obtain ⟨session, expiresAt, opened, inserted, _, rfl⟩ := accepted
  exact .of_entry (audit_insertSession inserted) (.actor rfl)

theorem recorded_createUser (email displayName : String) (password : Option String)
    (actor : Actor) :
    OnRecord libraries (.createUser email displayName password actor)
      (createUser libraries env email displayName password actor) := by
  refine .bind (.ofExcept _) fun email => .bind (.ofExcept _) fun displayName =>
    .bind (.ofExcept _) fun hash => .bind (onRecord_mutate (.of_eq ?_) rfl) fun _ => .pure _
  intro store value changed accepted
  simp only [bind_eq_ok, pure_eq_ok, Prod.mk.injEq] at accepted
  obtain ⟨users, _, _, rfl⟩ := accepted
  rfl

theorem recorded_disableUser (userId : String) (actor : Actor) :
    OnRecord libraries (.disableUser userId actor)
      (disableUser libraries env userId actor) := by
  refine onRecord_mutate (.of_eq ?_) rfl
  intro store value changed accepted
  simp only [Store.disableUser, bind_eq_ok, pure_eq_ok, Prod.mk.injEq] at accepted
  obtain ⟨_, _, _, rfl⟩ := accepted
  rfl

theorem recorded_addGrant (userId : String) (role : Role) (tenant : Option String)
    (actor : Actor) :
    OnRecord libraries (.addGrant userId role tenant actor)
      (addGrant libraries env userId role tenant actor) := by
  refine .bind (.ofExcept _) fun _ => onRecord_mutate (.of_eq ?_) rfl
  intro store value changed accepted
  simp only [Store.addGrant, bind_eq_ok, pure_eq_ok, Prod.mk.injEq] at accepted
  obtain ⟨_, _, grants, _, _, rfl⟩ := accepted
  rfl

theorem recorded_removeGrant (userId : String) (role : Role) (tenant : Option String)
    (actor : Actor) :
    OnRecord libraries (.removeGrant userId role tenant actor)
      (removeGrant libraries env userId role tenant actor) := by
  refine onRecord_mutate (.of_eq ?_) rfl
  intro store value changed accepted
  simp only [Store.removeGrant, bind_eq_ok, pure_eq_ok, Prod.mk.injEq] at accepted
  obtain ⟨_, _, _, _, _, rfl⟩ := accepted
  rfl

theorem recorded_createTenant (name : String) (actor : Actor) :
    OnRecord libraries (.createTenant name actor)
      (createTenant libraries env name actor) := by
  refine .bind (.ofExcept _) fun name =>
    .bind (onRecord_mutate (.of_eq ?_) rfl) fun _ => .pure _
  intro store value changed accepted
  simp only [bind_eq_ok, pure_eq_ok, Prod.mk.injEq] at accepted
  obtain ⟨tenants, _, _, rfl⟩ := accepted
  rfl

theorem recorded_createApiKey (caller : Principal) (tenant name : String)
    (scopes : List Permission) (lifetimeDays : Int) (actor : Actor) :
    OnRecord libraries (.createApiKey caller tenant name scopes lifetimeDays actor)
      (createApiKey libraries env caller tenant name scopes lifetimeDays actor) := by
  refine .bind (.ofExcept _) fun name => .bind (.ofExcept _) fun _ => .bind (.ofExcept _) fun _ =>
    .bind (.ofExcept _) fun _ => .bind (onRecord_mutate (.of_eq ?_) rfl) fun _ => .pure _
  intro store value changed accepted
  simp only [bind_eq_ok, pure_eq_ok, Prod.mk.injEq] at accepted
  obtain ⟨apiKeys, _, _, rfl⟩ := accepted
  rfl

theorem recorded_revokeApiKey (keyId : String) (owner : Option String) (actor : Actor) :
    OnRecord libraries (.revokeApiKey keyId owner actor)
      (revokeApiKey libraries env keyId owner actor) := by
  refine onRecord_mutate (.of_eq ?_) rfl
  intro store value changed accepted
  simp only [bind_eq_ok, pure_eq_ok, Prod.mk.injEq] at accepted
  obtain ⟨_, _, _, rfl⟩ := accepted
  rfl

/-! ## Projects and identities -/

theorem recorded_createProject (tenant name : String) (plan : Json) (actor : Actor) :
    OnRecord libraries (.createProject tenant name plan actor)
      (createProject libraries env tenant name plan actor) := by
  refine .bind (.ofExcept _) fun name => .bind (.ofExcept _) fun text =>
    .bind (onRecord_mutate (.of_eq ?_) rfl) fun _ => .reading _
  intro store value changed accepted
  simp only [Store.createProject, bind_eq_ok, pure_eq_ok, Prod.mk.injEq] at accepted
  obtain ⟨projects, _, _, rfl⟩ := accepted
  rfl

theorem recorded_updatePlan (tenant id : String) (plan : Json) (expectedRevision : Int)
    (actor : Actor) :
    OnRecord libraries (.updatePlan tenant id plan expectedRevision actor)
      (updatePlan libraries env tenant id plan expectedRevision actor) := by
  refine .bind (.ofExcept _) fun text =>
    .bind (onRecord_mutate (.of_eq ?_) rfl) fun _ => .reading _
  intro store value changed accepted
  simp only [Store.updatePlan, bind_eq_ok, pure_eq_ok, Prod.mk.injEq] at accepted
  obtain ⟨_, _, _, rfl⟩ := accepted
  rfl

theorem recorded_approveProject (tenant id : String) (revision : Int) (approverUserId : String)
    (actor : Actor) :
    OnRecord libraries (.approveProject tenant id revision approverUserId actor)
      (approveProject libraries env tenant id revision approverUserId actor) := by
  refine .bind (onRecord_mutate (.of_eq ?_) rfl) fun _ => .reading _
  intro store value changed accepted
  simp only [Store.approveProject, bind_eq_ok, pure_eq_ok, Prod.mk.injEq] at accepted
  obtain ⟨current, _, _, _, _, _, _, rfl⟩ := accepted
  rfl

theorem recorded_userForIdentity (provider : Provider) (identity : Identity)
    (requestId : String) :
    OnRecord libraries (.userForIdentity provider identity requestId)
      (userForIdentity libraries env provider identity requestId) := by
  intro store
  simp only [userForIdentity]
  split
  · exact .rfl
  · split
    · exact .rfl
    · split
      · exact .rfl
      · exact .of_entry rfl (.own rfl rfl rfl fun _ isActor => nomatch isActor)

/-! ## Workers and assignments -/

theorem recorded_createEnrollment (tenant name : String) (minutes : Int) (actor : Actor) :
    OnRecord libraries (.createEnrollment tenant name minutes actor)
      (createEnrollment libraries env tenant name minutes actor) := by
  refine .bind (.ofExcept _) fun name => .bind (.ofExcept _) fun _ =>
    .bind (onRecord_mutate (.of_eq ?_) rfl) fun _ => .pure _
  intro store value changed accepted
  simp only [bind_eq_ok, pure_eq_ok, Prod.mk.injEq] at accepted
  obtain ⟨_, _, enrollments, _, _, rfl⟩ := accepted
  rfl

theorem recorded_enrollWorker (enrollmentToken : String) (capabilities : List String)
    (requestId : String) :
    OnRecord libraries (.enrollWorker enrollmentToken capabilities requestId)
      (enrollWorker libraries env enrollmentToken capabilities requestId) := by
  refine .bind (.ofExcept _) fun _ => .bind (.ofExcept _) fun _ => onRecord_transact ?_
  intro store value changed accepted
  simp only [bind_eq_ok, pure_eq_ok, Prod.mk.injEq] at accepted
  obtain ⟨enrollment, _, workers, _, _, rfl⟩ := accepted
  exact .of_entry rfl (.own rfl rfl rfl fun _ isActor => nomatch isActor)

theorem recorded_revokeWorker (tenant worker : String) (actor : Actor) :
    OnRecord libraries (.revokeWorker tenant worker actor)
      (revokeWorker libraries env tenant worker actor) := by
  refine onRecord_mutate (.of_eq ?_) rfl
  intro store value changed accepted
  simp only [bind_eq_ok, pure_eq_ok, Prod.mk.injEq] at accepted
  obtain ⟨_, _, _, rfl⟩ := accepted
  rfl

theorem audit_insertAssignments {rows : List Assignment}
    (accepted : store.insertAssignments rows = .ok changed) : changed.audit = store.audit := by
  refine foldlM_invariant (motive := fun _ current => current.audit = store.audit) rfl ?_ accepted
  intro done row before after same inserted
  simp only [bind_eq_ok, pure_eq_ok] at inserted
  obtain ⟨assignments, _, rfl⟩ := inserted
  exact same

theorem recorded_createAssignments (tenant project : String) (mailboxes : List String)
    (actor : Actor) :
    OnRecord libraries (.createAssignments tenant project mailboxes actor)
      (createAssignments libraries env tenant project mailboxes actor) := by
  refine .bind (.ofExcept _) fun _ => .bind (.ofExcept _) fun labels =>
    .bind (onRecord_mutate (.of_eq ?_) rfl) fun _ => .reading _
  intro store value changed accepted
  simp only [Store.createAssignments, bind_eq_ok, pure_eq_ok, Prod.mk.injEq] at accepted
  obtain ⟨found, _, _, _, created, inserted, _, rfl⟩ := accepted
  exact audit_insertAssignments inserted

/-- Each lease that moves on has its entry. -/
theorem recorded_reconcileExpiredLeases {operation : StoreOperation} {requestId : String}
    {attribution : Attribution} (isOwn : operation.attribution = some attribution)
    (request : requestId = attribution.requestId) (moves : operation.movesLeases = true)
    (store : Store) (tenant : String) (time : Int) :
    Recorded libraries operation.Concerns store
      (store.reconcileExpiredLeases libraries tenant time requestId) :=
  List.foldlRecOn _ _ (motive := fun later => Recorded libraries operation.Concerns store later)
    .rfl fun _ recorded _ _ => recorded.trans
      (.of_entry rfl ⟨attribution, isOwn, request, .inr ⟨moves, rfl, rfl⟩⟩)

theorem recorded_requeueAssignment (tenant project assignment reason : String) (actor : Actor) :
    OnRecord libraries (.requeueAssignment tenant project assignment reason actor)
      (requeueAssignment libraries env tenant project assignment reason actor) := by
  refine .bind (.ofExcept _) fun _ => onRecord_mutate ?_ rfl
  intro store value changed accepted
  simp only [Store.requeueAssignment, bind_eq_ok, pure_eq_ok, Prod.mk.injEq] at accepted
  obtain ⟨row, _, _, _, requeued, _, view, _, _, rfl⟩ := accepted
  exact (recorded_reconcileExpiredLeases rfl rfl rfl store tenant (env.now 0)).logged.trans
    (.of_eq rfl)

theorem recorded_leaseAssignment {about : AuditEntry → Prop}
    {id requestId : String} {expiresAt time : Int} {lease : Lease} (concerns : ∀ resource detail,
      about (worker.entry requestId time "assignment.lease" resource detail true))
    (accepted : Store.leaseAssignment libraries worker id requestId expiresAt time store =
      .ok (lease, changed)) : Recorded libraries about store changed := by
  simp only [Store.leaseAssignment, bind_eq_ok, pure_eq_ok, Prod.mk.injEq] at accepted
  obtain ⟨row, _, project, _, plan, _, _, rfl⟩ := accepted
  exact .of_entry rfl (concerns _ _)

theorem recorded_storeLease {seconds time : Int} {requestId : String}
    {value : Except StoreError (Option Lease)}
    (accepted : Store.lease libraries worker seconds requestId time store =
      .ok (value, changed)) :
    Recorded libraries (StoreOperation.Concerns (.lease worker seconds requestId)) store
      changed := by
  have isOwn : StoreOperation.attribution (.lease worker seconds requestId) =
      some (worker.attribution requestId "assignment.lease") := rfl
  have reconciled : Recorded libraries (StoreOperation.Concerns (.lease worker seconds requestId))
      store (store.reconcileExpiredLeases libraries worker.tenant time requestId) :=
    recorded_reconcileExpiredLeases isOwn rfl rfl store worker.tenant time
  simp only [Store.lease] at accepted
  split at accepted
  · split at accepted
    · simp only [pure_eq_ok, Prod.mk.injEq] at accepted
      obtain ⟨_, rfl⟩ := accepted
      exact reconciled
    · simp only [bind_eq_ok, pure_eq_ok, Prod.mk.injEq, Prod.exists] at accepted
      obtain ⟨lease, leased, ran, _, rfl⟩ := accepted
      exact reconciled.trans (recorded_leaseAssignment (fun _ _ => .worker rfl) ran)
  · simp only [pure_eq_ok, Prod.mk.injEq] at accepted
    obtain ⟨_, rfl⟩ := accepted
    exact .of_entry rfl (.worker rfl)

theorem recorded_lease (worker : WorkerIdentity) (seconds : Int) (requestId : String) :
    OnRecord libraries (.lease worker seconds requestId)
      (lease libraries env worker seconds requestId) :=
  .bind (.ofExcept _) fun _ =>
    .bind (onRecord_transact fun _ _ _ => recorded_storeLease) fun _ => .ofExcept _

theorem recorded_renewLease (worker : WorkerIdentity) (assignment : String)
    (fencingToken seconds : Int) (requestId : String) :
    OnRecord libraries (.renewLease worker assignment fencingToken seconds requestId)
      (renewLease libraries env worker assignment fencingToken seconds requestId) := by
  refine .bind (.ofExcept _) fun _ => onRecord_fenced (.of_eq ?_) rfl
  intro store value changed accepted
  simp only [Store.renewLease, bind_eq_ok, pure_eq_ok, Prod.mk.injEq] at accepted
  obtain ⟨_, _, _, rfl⟩ := accepted
  rfl

theorem recorded_complete (worker : WorkerIdentity) (assignment : String) (fencingToken : Int)
    (outcome : Outcome) (result : Json) (requestId : String) :
    OnRecord libraries (.complete worker assignment fencingToken outcome result requestId)
      (complete libraries env worker assignment fencingToken outcome result requestId) := by
  refine .bind (.ofExcept _) fun text => .bind (.ofExcept _) fun _ =>
    onRecord_fenced (.of_eq ?_) rfl
  intro store value changed accepted
  simp only [Store.complete, bind_eq_ok, pure_eq_ok, Prod.mk.injEq] at accepted
  obtain ⟨_, _, _, rfl⟩ := accepted
  rfl

/-! ## Runs -/

/-- Every operation that is not quiet is on record. -/
theorem recorded_perform (operation : StoreOperation) (notQuiet : operation.isQuiet = false)
    (store : Store) :
    Recorded libraries operation.Concerns store (perform libraries env operation store) := by
  cases operation with
  | audit entry =>
    exact .of_entry rfl (.own rfl rfl rfl fun _ isActor => Option.some.inj isActor)
  | auditEntries tenant before limit => exact .rfl
  | verifyAuditChain => exact .rfl
  | bootstrapAdministrator email displayName password =>
    exact recorded_bootstrapAdministrator email displayName password store
  | login email password requestId => exact recorded_login email password requestId store
  | openSession userId method actor => exact recorded_openSession userId method actor store
  | logout token actor => exact .of_entry rfl (.actor rfl)
  | principal token => cases notQuiet
  | user userId => exact .rfl
  | users => exact .rfl
  | createUser email displayName password actor =>
    exact recorded_createUser email displayName password actor store
  | disableUser userId actor => exact recorded_disableUser userId actor store
  | addGrant userId role tenant actor => exact recorded_addGrant userId role tenant actor store
  | removeGrant userId role tenant actor =>
    exact recorded_removeGrant userId role tenant actor store
  | createTenant name actor => exact recorded_createTenant name actor store
  | tenants visible => exact .rfl
  | tenantExists tenant => exact .rfl
  | createApiKey caller tenant name scopes lifetimeDays actor =>
    exact recorded_createApiKey caller tenant name scopes lifetimeDays actor store
  | apiKeys owner => exact .rfl
  | revokeApiKey keyId owner actor => exact recorded_revokeApiKey keyId owner actor store
  | createProject tenant name plan actor =>
    exact recorded_createProject tenant name plan actor store
  | projects tenant => exact .rfl
  | project tenant id => exact .rfl
  | updatePlan tenant id plan expectedRevision actor =>
    exact recorded_updatePlan tenant id plan expectedRevision actor store
  | approveProject tenant id revision approverUserId actor =>
    exact recorded_approveProject tenant id revision approverUserId actor store
  | savePending state provider nonce verifier => cases notQuiet
  | takePending state => cases notQuiet
  | userForIdentity provider identity requestId =>
    exact recorded_userForIdentity provider identity requestId store
  | createEnrollment tenant name minutes actor =>
    exact recorded_createEnrollment tenant name minutes actor store
  | enrollWorker enrollmentToken capabilities requestId =>
    exact recorded_enrollWorker enrollmentToken capabilities requestId store
  | workerIdentity credential => cases notQuiet
  | workers tenant => exact .rfl
  | revokeWorker tenant worker actor => exact recorded_revokeWorker tenant worker actor store
  | createAssignments tenant project mailboxes actor =>
    exact recorded_createAssignments tenant project mailboxes actor store
  | assignments tenant project => exact .rfl
  | requeueAssignment tenant project assignment reason actor =>
    exact recorded_requeueAssignment tenant project assignment reason actor store
  | lease worker seconds requestId => exact recorded_lease worker seconds requestId store
  | renewLease worker assignment fencingToken seconds requestId =>
    exact recorded_renewLease worker assignment fencingToken seconds requestId store
  | complete worker assignment fencingToken outcome result requestId =>
    exact recorded_complete worker assignment fencingToken outcome result requestId store

/-- A quiet operation leaves the log. -/
theorem audit_perform_of_isQuiet {operation : StoreOperation} (quiet : operation.isQuiet = true)
    (store : Store) : (perform libraries env operation store).audit = store.audit := by
  cases operation with
  | principal token => rfl
  | savePending state provider nonce verifier =>
    simp only [perform, savePending]
    split
    · rfl
    · split
      · rfl
      · rfl
  | takePending state => rfl
  | workerIdentity credential => rfl
  | _ => cases quiet

theorem logged_perform (operation : StoreOperation) (store : Store) :
    Logged libraries operation.Concerns store (perform libraries env operation store) := by
  cases quiet : operation.isQuiet with
  | true => exact .of_eq (audit_perform_of_isQuiet quiet store)
  | false => exact (recorded_perform operation quiet store).logged

/-- A step of the service: an operation with what it gets from outside. -/
def Performed (libraries : Libraries) (store : Store) (call : StoreOperation × Environment)
    (later : Store) : Prop :=
  later = perform libraries call.2 call.1 store

/-! ## The log of a run -/

/-- Entries are appended at the end, and the log verifies again. -/
theorem Intact.append {sha256 : List UInt8 → Digest} {log : AuditLog}
    (intact : Intact sha256 log) (new : List AuditEntry) :
    Intact sha256 (new.foldl (Control.appendAudit sha256) log) ∧
      entries (new.foldl (Control.appendAudit sha256) log) = entries log ++ new := by
  induction new using List.reverseRecOn with
  | nil => exact ⟨intact, (List.append_nil _).symm⟩
  | append_singleton earlier entry ih =>
    obtain ⟨intactEarlier, isEarlier⟩ := ih
    have appended : Intact sha256 (Control.appendAudit sha256 _ entry) :=
      intactEarlier.appendAudit
    rw [List.foldl_append, List.foldl_cons, List.foldl_nil]
    refine ⟨appended, ?_⟩
    rw [entries, appended.ordered, intactEarlier.rows_appendAudit, List.map_append,
      ← List.append_assoc, ← isEarlier, entries, intactEarlier.ordered]
    rfl

theorem Logged.intact (logged : Logged libraries about store later)
    (intact : Intact libraries.sha256 store.audit) : Intact libraries.sha256 later.audit := by
  obtain ⟨new, isLog, _⟩ := logged
  rw [isLog]
  exact (intact.append new).1

theorem intact_of_run {operations : List (StoreOperation × Environment)}
    (intact : Intact libraries.sha256 store.audit)
    (run : Trace (Performed libraries) store operations later) :
    Intact libraries.sha256 later.audit := by
  refine run.invariant (fun store => Intact libraries.sha256 store.audit) intact ?_
  intro state call next performed intact
  rw [performed]
  exact (logged_perform call.1 state).intact intact

theorem appends_perform (intact : Intact libraries.sha256 store.audit)
    (operation : StoreOperation) :
    operation.Appends store (perform libraries env operation store) := by
  cases quiet : operation.isQuiet with
  | true =>
    refine ⟨[], ?_, fun _ isEntry => (nomatch isEntry), fun _ => .inr quiet⟩
    rw [audit_perform_of_isQuiet quiet, List.append_nil]
  | false =>
    have recorded : Recorded libraries operation.Concerns store
        (perform libraries env operation store) := recorded_perform operation quiet store
    obtain ⟨new, isLog, concerns, silent⟩ := recorded
    refine ⟨new, ?_, concerns, fun none => .inl (silent none)⟩
    rw [isLog, (intact.append new).2]

/-- The log only grows. -/
theorem grows_of_run {operations : List (StoreOperation × Environment)}
    (intact : Intact libraries.sha256 store.audit)
    (run : Trace (Performed libraries) store operations later) :
    entries store.audit <+: entries later.audit := by
  refine (run.invariant (fun later => Intact libraries.sha256 later.audit ∧
    entries store.audit <+: entries later.audit) ⟨intact, List.prefix_rfl⟩ ?_).2
  rintro state call next performed ⟨intactState, grows⟩
  rw [performed]
  have appends : call.1.Appends state (perform libraries call.2 call.1 state) :=
    appends_perform intactState call.1
  obtain ⟨new, isLog, _⟩ := appends
  refine ⟨(logged_perform call.1 state).intact intactState, grows.trans ?_⟩
  exact ⟨new, isLog.symm⟩

/-- One more entry. -/
theorem entries_record (intact : Intact libraries.sha256 store.audit) (entry : AuditEntry) :
    entries (store.record libraries entry).audit = entries store.audit ++ [entry] :=
  (intact.append [entry]).2

/-- The detail of a change that went through, or why it was refused. -/
def outcomeDetail (detail : String) : Except StoreError α → String
  | .ok _ => detail
  | .error error => error.reason

/-- What holds of the audit log of a store from here on: it verifies with the number of its
entries, operations append to it and nothing else happens to it, and a change leaves exactly one
entry, whether it goes through or is refused. -/
structure Complete (libraries : Libraries) (store : Store) : Prop where
  verifies : verifyAuditChain libraries.sha256 store.audit = .ok (entries store.audit).length
  appends : ∀ (operation : StoreOperation) env,
    operation.Appends store (perform libraries env operation store)
  grows : ∀ operations later, Trace (Performed libraries) store operations later →
    entries store.audit <+: entries later.audit
  mutates : ∀ (α : Type) (change : Edit α) time actor tenant action resource detail,
    (∀ value changed, change store = .ok (value, changed) → changed.audit = store.audit) →
      entries (mutate libraries time actor tenant action resource detail change store).2.audit =
        entries store.audit ++ [actor.entry time tenant action resource
          (outcomeDetail detail (change store)) (change store).isOk]
  fences : ∀ (α : Type) (change : Edit α) worker assignment fencingToken action requestId time,
    (∀ value changed, change store = .ok (value, changed) → changed.audit = store.audit) →
      entries (fenced libraries worker assignment fencingToken action requestId time change
        store).2.audit = entries store.audit ++ [worker.entry requestId time action
          ("assignment:" ++ assignment) ("fencing token " ++ toString fencingToken)
          (change store).isOk]

theorem Intact.complete (intact : Intact libraries.sha256 store.audit) :
    Complete libraries store where
  verifies := by
    rw [intact.verifyAuditChain, entries, intact.ordered, List.length_map]
  appends operation _ := appends_perform intact operation
  grows _ _ run := grows_of_run intact run
  mutates α change time actor tenant action resource detail same := by
    cases ran : change store with
    | ok result =>
      have sameLog := same _ _ ran
      rw [mutate_of_ok libraries ran, entries_record (sameLog ▸ intact), sameLog]
      rfl
    | error error =>
      rw [mutate_of_error libraries ran, entries_record intact]
      rfl
  fences α change worker assignment fencingToken action requestId time same := by
    rw [fenced]
    cases ran : change store with
    | ok result =>
      have sameLog := same _ _ ran
      exact (entries_record (sameLog ▸ intact) _).trans (by rw [sameLog]; rfl)
    | error error => exact entries_record intact _

end

/-- The chain is complete and tamper evident: after any run the log is complete, and two tables
that verify and end in the same hash hold the same entries, unless their bytes collide. -/
theorem audit_chain_complete_and_binding (libraries : Libraries) :
    (∀ operations store, Trace (Performed libraries) {} operations store →
      Complete libraries store) ∧
    ∀ (log log' : AuditLog) (count count' : Nat),
      (∀ entry ∈ entries log ++ entries log', entry.Sized) →
      (∀ bytes ∈ preimages log, ∀ bytes' ∈ preimages log',
        libraries.sha256 bytes = libraries.sha256 bytes' → bytes = bytes') →
      (∀ bytes ∈ preimages log ++ preimages log', libraries.sha256 bytes ≠ .zero) →
      verifyAuditChain libraries.sha256 log = .ok count →
      verifyAuditChain libraries.sha256 log' = .ok count' →
      lastHash log = lastHash log' → entries log = entries log' := by
  constructor
  · intro operations store run
    exact (intact_of_run intact_empty run).complete
  · intro log log' count count' sized collisionFree nonzero verified verified' same
    exact entries_of_lastHash (fun entry isEntry => sized entry (List.mem_append_left _ isEntry))
      (fun entry isEntry => sized entry (List.mem_append_right _ isEntry)) collisionFree nonzero
      verified verified' same

namespace FirstEntry

/-- The entry of a bootstrap. -/
def entry : AuditEntry where
  time := 1767225600
  requestId := "bootstrap"
  actor := "bootstrap"
  tenant := none
  action := "user.bootstrap_administrator"
  resource := "user:usr_1"
  allowed := true
  detail := "admin@msp.example"

/-- The SHA-256 digest of its bytes. -/
def digest : Digest :=
  #v[185, 147, 70, 157, 249, 195, 155, 144, 247, 126, 84, 198, 61, 236, 109, 13,
    32, 50, 34, 146, 65, 246, 250, 121, 203, 120, 154, 196, 230, 54, 36, 11]

/-- Libraries that know this digest. -/
def libraries : Libraries where
  sha256 bytes := if bytes = preimage .zero entry then digest else .zero
  argon2 _ _ := .error ""
  verifiesArgon2 _ _ := false
  jsonText _ := ""
  jsonOf _ := .error ""
  debugText text := text
  base64Url := base64OfEqual

/-- The table with the entry under some number. -/
def log (seq : Int) : AuditLog where
  rows := [{ seq, entry, prevHash := .zero, hash := digest }]
  primaryKey := List.nodup_singleton _

end FirstEntry

/-- Whoever asks here. -/
def FirstEntry.actor : Actor := ⟨"req_1", "user:usr_1"⟩

/-- A refused request and one that is granted are two entries, the log then verifies, and the
number of a row does not matter. -/
theorem first_entry_verifies :
    (∃ store, Trace (Performed FirstEntry.libraries) {}
        [(.disableUser "usr_2" FirstEntry.actor, default),
          (.createTenant "Acme" FirstEntry.actor, default)] store ∧
      verifyAuditChain FirstEntry.libraries.sha256 store.audit = .ok 2 ∧
      (entries store.audit).map (fun entry => (entry.action, entry.detail, entry.allowed)) =
        [("user.disable", "not found", false), ("tenant.create", "Acme", true)]) ∧
      entries (FirstEntry.log 1) = entries (FirstEntry.log 7) := by
  have theorems := audit_chain_complete_and_binding FirstEntry.libraries
  constructor
  · have first : Trace (Performed FirstEntry.libraries) {}
        ([] ++ [(.disableUser "usr_2" FirstEntry.actor, default)]) _ := .snoc .nil rfl
    have run : Trace (Performed FirstEntry.libraries) {} ([(.disableUser "usr_2"
        FirstEntry.actor, default)] ++ [(.createTenant "Acme" FirstEntry.actor, default)]) _ :=
      first.snoc rfl
    have refused := (theorems.1 [] _ .nil).mutates Unit (Store.disableUser 0 "usr_2") 0
      FirstEntry.actor none "user.disable" "user:usr_2" "" (fun _ _ accepted => nomatch accepted)
    have granted := (theorems.1 _ _ first).mutates Unit
      (fun store => do
        let tenants ← insertRow store.tenants ⟨newId FirstEntry.libraries "ten" default, "Acme", 0⟩
          (!store.tenants.any (·.name = "Acme"))
        return ((), { store with tenants }))
      0 FirstEntry.actor (some (newId FirstEntry.libraries "ten" default))
      "tenant.create" ("tenant:" ++ newId FirstEntry.libraries "ten" default) "Acme"
      (fun _ _ accepted => by
        cases accepted
        rfl)
    have both := granted.trans (congrArg (· ++ _) refused)
    have intact : Intact FirstEntry.libraries.sha256 ({} : Store).audit := intact_empty
    have empty : entries ({} : Store).audit = [] := by
      rw [entries, intact.ordered]
      rfl
    rw [empty] at both
    refine ⟨_, run, (theorems.1 _ _ run).verifies.trans ?_, ?_⟩
    · exact congrArg (fun log => Except.ok (List.length log)) both
    · exact congrArg (List.map _) both
  · exact theorems.2 _ _ 1 1 (by decide +kernel) (by decide +kernel) (by decide +kernel)
      (by decide +kernel) (by decide +kernel) (by decide +kernel)

end MailSwiftSync.Control
