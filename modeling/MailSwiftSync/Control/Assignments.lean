import MailSwiftSync.Control.Operations
import MailSwiftSync.Control.Plans

/-!
# What happens to assignments

Every call of the service takes each assignment through a few events: it is leased, its lease is
renewed, a result is reported, an overdue lease is reconciled, or somebody requeues it.  All other
calls leave the assignments alone.
-/

namespace MailSwiftSync.Control

open Foundation

/-! ## Events -/

inductive LeaseEvent where
  | leased
  | renewed
  | reported
  | reconciled
  | requeued
deriving DecidableEq, Repr

/-- Something that happens to an assignment, in a call on a store. -/
structure Occurrence where
  store : Store
  call : StoreOperation × Environment
  event : LeaseEvent
  before : Assignment
  after : Assignment

namespace Occurrence

variable (occurrence : Occurrence)

/-- When the call is handled. -/
def time : Int := occurrence.call.2.now 0

/-- The worker and the fencing token of a lease. -/
def grant : Option (String × Nat) :=
  if occurrence.event = .leased then
    occurrence.after.state.leaseWorkerId.map (·, occurrence.after.fencingToken)
  else none

end Occurrence

/-- A worker that exists and is not revoked. -/
def Store.hasActiveWorker (store : Store) (worker : WorkerIdentity) : Bool :=
  store.workers.any fun row =>
    row.id = worker.id && row.tenant = worker.tenant && row.isActive

/-- The calls that reconcile the leases of a tenant. -/
def StoreOperation.reconciles : StoreOperation → Option String
  | .lease worker _ _ => some worker.tenant
  | .requeueAssignment tenant _ _ _ _ => some tenant
  | _ => none

/-- What can happen. -/
inductive Occurs : Occurrence → Prop
  | leased {store : Store} {env : Environment} {worker : WorkerIdentity} {seconds : Int}
      {requestId : String} {row : Assignment} (sameTenant : row.tenant = worker.tenant)
      (queued : row.state = .queued) (active : store.hasActiveWorker worker = true)
      (approved : store.planStillApproved row = true) :
      Occurs {
        store
        call := (.lease worker seconds requestId, env)
        event := .leased
        before := row
        after := row.leased worker.id (env.now 0 + seconds) (env.now 0) }
  | renewed {store : Store} {env : Environment} {worker : WorkerIdentity}
      {fencingToken seconds : Int} {requestId : String} {row : Assignment}
      (sameTenant : row.tenant = worker.tenant)
      (held : row.isHeldBy worker.id fencingToken (env.now 0) = true)
      (active : store.workerNotRevoked row = true)
      (approved : store.planStillApproved row = true) :
      Occurs {
        store
        call := (.renewLease worker row.id fencingToken seconds requestId, env)
        event := .renewed
        before := row
        after := row.renewed worker.id (env.now 0 + seconds) (env.now 0) }
  | reported {store : Store} {env : Environment} {worker : WorkerIdentity} {fencingToken : Int}
      {outcome : Outcome} {result : Json} {text requestId : String} {row : Assignment}
      (sameTenant : row.tenant = worker.tenant)
      (held : row.isHeldBy worker.id fencingToken (env.now 0) = true)
      (active : store.workerNotRevoked row = true) :
      Occurs {
        store
        call := (.complete worker row.id fencingToken outcome result requestId, env)
        event := .reported
        before := row
        after := row.reported outcome text (env.now 0) }
  | reconciled {store : Store} {call : StoreOperation × Environment} {row : Assignment}
      (inTenant : call.1.reconciles = some row.tenant)
      (overdue : row.isOverdue (call.2.now 0) = true) :
      Occurs {
        store
        call
        event := .reconciled
        before := row
        after := row.reconciled (call.2.now 0) }
  | requeued {store : Store} {env : Environment} {reason : String} {actor : Actor}
      {row : Assignment} (needsReconciliation : row.state = .needsReconciliation) :
      Occurs {
        store
        call := (.requeueAssignment row.tenant row.projectId row.id reason actor, env)
        event := .requeued
        before := row
        after := row.requeued (env.now 0) }

/-- One occurrence after the other. -/
def Happens (row : Assignment) (occurrence : Occurrence) (next : Assignment) : Prop :=
  Occurs occurrence ∧ occurrence.before = row ∧ occurrence.after = next

/-- An assignment as it is created. -/
structure Assignment.IsNew (row : Assignment) : Prop where
  queued : row.state = .queued
  token : row.fencingToken = 0

/-! ## Calls -/

/-- What happens to an assignment in one call. -/
inductive Passes (store : Store) (call : StoreOperation × Environment) :
    Option Assignment → List Occurrence → Option Assignment → Prop
  | absent : Passes store call none [] none
  | created {row : Assignment} (isCreate : ∃ tenant project mailboxes actor,
        call.1 = .createAssignments tenant project mailboxes actor) (isNew : row.IsNew) :
      Passes store call none [] (some row)
  | present {row next : Assignment} {occurrences : List Occurrence}
      (trace : Trace Happens row occurrences next)
      (here : ∀ occurrence ∈ occurrences, occurrence.store = store ∧ occurrence.call = call) :
      Passes store call (some row) occurrences (some next)

/-- A call takes an assignment through some events. -/
def Advances (store : Store) (call : StoreOperation × Environment) (later : Store) (id : String) :
    Prop :=
  ∃ occurrences, Passes store call (store.assignments.find id) occurrences
    (later.assignments.find id)

section

variable {libraries : Libraries} {env : Environment} {store later : Store} {id : String}
variable {call : StoreOperation × Environment} {change : Assignment → Assignment}
variable {row next : Assignment}

/-- The events of a row in a call. -/
def Reaches (store : Store) (call : StoreOperation × Environment) (row next : Assignment) : Prop :=
  ∃ occurrences, Trace Happens row occurrences next ∧
    ∀ occurrence ∈ occurrences, occurrence.store = store ∧ occurrence.call = call

theorem Reaches.refl : Reaches store call row row :=
  ⟨[], .nil, fun _ isNone => absurd isNone List.not_mem_nil⟩

theorem Reaches.happens {occurrence : Occurrence}
    (reaches : Reaches store call row occurrence.before) (occurs : Occurs occurrence)
    (isStore : occurrence.store = store) (isCall : occurrence.call = call) :
    Reaches store call row occurrence.after := by
  obtain ⟨occurrences, trace, here⟩ := reaches
  refine ⟨occurrences ++ [occurrence], .snoc trace ⟨occurs, rfl, rfl⟩, ?_⟩
  intro other isIn
  cases List.mem_append.mp isIn with
  | inl isEarlier => exact here other isEarlier
  | inr isLast =>
    cases List.mem_singleton.mp isLast
    exact ⟨isStore, isCall⟩

/-- A call that changes rows in place. -/
theorem Advances.of_map
    (mapped : later.assignments.find id = (store.assignments.find id).map change)
    (each : ∀ row ∈ store.assignments, row.id = id → Reaches store call row (change row)) :
    Advances store call later id := by
  rw [Advances, mapped]
  cases found : store.assignments.find id with
  | none => exact ⟨[], .absent⟩
  | some row =>
    obtain ⟨isRow, isId⟩ := Table.find_eq_some.mp found
    obtain ⟨occurrences, trace, here⟩ := each row isRow isId
    exact ⟨occurrences, .present trace here⟩

theorem Advances.of_same (same : later.assignments = store.assignments) :
    Advances store call later id := by
  have mapped : later.assignments.find id = (store.assignments.find id).map fun row => row := by
    rw [same, Option.map_id']
  exact .of_map mapped fun _ _ _ => .refl

theorem Advances.of_update {condition : Assignment → Bool}
    (keepsKey : ∀ row, (change row).id = row.id)
    (updated : later.assignments = store.assignments.update condition change keepsKey)
    (each : ∀ row ∈ store.assignments, row.id = id → condition row = true →
      Reaches store call row (change row)) : Advances store call later id := by
  have mapped : later.assignments.find id =
      (store.assignments.find id).map fun row => if condition row then change row else row := by
    rw [updated, Table.find_update]
  refine .of_map mapped fun row isRow isId => ?_
  split
  · next hit => exact each row isRow isId hit
  · exact .refl

/-- A call that may stop before it begins. -/
theorem Advances.ofExcept_bind {α β : Type} {given : Except StoreError α}
    {continuation : α → Operation β}
    (goesOn : ∀ value, Advances store call (continuation value store).2 id) :
    Advances store call ((Effect.ofExcept given >>= continuation) store).2 id := by
  cases given with
  | error error => exact .of_same rfl
  | ok value => exact goesOn value

theorem planStillApproved_congr (same : later.projects = store.projects) :
    later.planStillApproved row = store.planStillApproved row := by
  rw [Store.planStillApproved, Store.planStillApproved, same]

variable {worker : WorkerIdentity}

theorem advances_renewLease {assignment requestId : String} {fencingToken seconds : Int} :
    Advances store (.renewLease worker assignment fencingToken seconds requestId, env)
      (renewLease libraries env worker assignment fencingToken seconds requestId store).2 id := by
  rw [renewLease]
  refine .ofExcept_bind fun _ => ?_
  simp only [fenced]
  split
  · next changed ran =>
      simp only [Store.renewLease, bind_eq_ok, ensure_eq_ok, pure_eq_ok, Prod.mk.injEq] at ran
      obtain ⟨_, _, _, rfl⟩ := ran
      refine .of_update ?keepsKey rfl fun row _ _ held => ?_
      case keepsKey => exact fun _ => rfl
      simp only [Bool.and_eq_true, Assignment.isOf, decide_eq_true_eq] at held
      obtain ⟨⟨⟨⟨sameTenant, isIt⟩, isHeld⟩, active⟩, approved⟩ := held
      cases isIt
      exact Reaches.refl.happens (.renewed sameTenant isHeld active approved) rfl rfl
  · exact .of_same rfl

theorem advances_complete {assignment requestId : String}
    {fencingToken : Int} {outcome : Outcome} {result : Json} :
    Advances store (.complete worker assignment fencingToken outcome result requestId, env)
      (complete libraries env worker assignment fencingToken outcome result requestId store).2
        id := by
  rw [complete]
  refine .ofExcept_bind fun text => .ofExcept_bind fun _ => ?_
  simp only [fenced]
  split
  · next changed ran =>
      simp only [Store.complete, bind_eq_ok, ensure_eq_ok, pure_eq_ok, Prod.mk.injEq] at ran
      obtain ⟨_, _, _, rfl⟩ := ran
      refine .of_update ?keepsKey rfl fun row _ _ held => ?_
      case keepsKey => exact fun _ => rfl
      simp only [Bool.and_eq_true, Assignment.isOf, decide_eq_true_eq] at held
      obtain ⟨⟨⟨sameTenant, isIt⟩, isHeld⟩, active⟩ := held
      cases isIt
      exact Reaches.refl.happens (.reported sameTenant isHeld active) rfl rfl
  · exact .of_same rfl

/-! ## Reconciling -/

/-- An assignment after the leases of a tenant were reconciled. -/
def Assignment.reconciledIn (tenant : String) (time : Int) (row : Assignment) : Assignment :=
  if row.tenant = tenant && row.isOverdue time then row.reconciled time else row

theorem Assignment.id_reconciled (time : Int) (row : Assignment) :
    (row.reconciled time).id = row.id := rfl

theorem find_reconcileLeases {requestId : String} {time : Int} (rows : List Assignment)
    (store : Store) :
    (rows.foldl (Store.reconcileLease libraries requestId time) store).assignments.find id =
      (store.assignments.find id).map fun row =>
        if row.id ∈ rows.map (·.id) then row.reconciled time else row := by
  induction rows generalizing store with
  | nil => simp
  | cons reconciled rest ih =>
    rw [List.foldl_cons, ih]
    have first : (store.reconcileLease libraries requestId time reconciled).assignments =
        store.assignments.update (·.id = reconciled.id) (·.reconciled time)
          (Assignment.id_reconciled time) := rfl
    rw [first, Table.find_update, Option.map_map]
    congr 1
    funext row
    simp only [Function.comp_apply, List.map_cons, List.mem_cons, decide_eq_true_eq]
    by_cases isIt : row.id = reconciled.id
    · have listed : row.id = reconciled.id ∨ row.id ∈ rest.map (·.id) := .inl isIt
      rw [if_pos listed, if_pos isIt]
      split
      · rfl
      · rfl
    · rw [if_neg isIt]
      simp only [isIt, false_or]

theorem find_reconcileExpiredLeases {tenant requestId : String} {time : Int} :
    (store.reconcileExpiredLeases libraries tenant time requestId).assignments.find id =
      (store.assignments.find id).map (Assignment.reconciledIn tenant time) := by
  rw [Store.reconcileExpiredLeases, find_reconcileLeases]
  apply Option.map_congr
  intro row isFound
  obtain ⟨isRow, _⟩ := Table.find_eq_some.mp isFound
  rw [Assignment.reconciledIn]
  congr 1
  rw [List.mem_map, eq_iff_iff]
  constructor
  · intro ⟨other, isOther, sameId⟩
    obtain ⟨isOther, isOverdue⟩ := Table.mem_select.mp isOther
    cases Table.eq_of_key isOther isRow sameId
    exact isOverdue
  · intro isOverdue
    exact ⟨row, Table.mem_select.mpr ⟨isRow, isOverdue⟩, rfl⟩

/-- Reconciling happens to overdue leases only. -/
theorem reaches_reconciledIn {tenant : String} (reconciles : call.1.reconciles = some tenant) :
    Reaches store call row (row.reconciledIn tenant (call.2.now 0)) := by
  rw [Assignment.reconciledIn]
  split
  · next overdue =>
      rw [Bool.and_eq_true, decide_eq_true_eq] at overdue
      obtain ⟨sameTenant, overdue⟩ := overdue
      cases sameTenant
      exact Reaches.refl.happens (.reconciled reconciles overdue) rfl rfl
  · exact .refl

theorem mem_reconcileExpiredLeases {tenant requestId : String} {time : Int} {found : Assignment}
    (isRow : row ∈ store.assignments)
    (isFound : found ∈ (store.reconcileExpiredLeases libraries tenant time requestId).assignments)
    (sameId : found.id = row.id) : found = row.reconciledIn tenant time := by
  have here : (store.reconcileExpiredLeases libraries tenant time requestId).assignments.find
      row.id = some (row.reconciledIn tenant time) := by
    rw [find_reconcileExpiredLeases, Table.find_eq_some.mpr ⟨isRow, rfl⟩, Option.map_some]
  rw [Table.find_eq_some.mpr ⟨isFound, sameId⟩] at here
  exact Option.some.inj here

theorem Assignment.id_reconciledIn (tenant : String) (time : Int) (row : Assignment) :
    (row.reconciledIn tenant time).id = row.id := by
  rw [reconciledIn]
  split
  · rfl
  · rfl

/-- A call that reconciles the leases of a tenant first. -/
theorem Advances.of_reconciled {tenant requestId : String} {condition : Assignment → Bool}
    (keepsKey : ∀ row, (change row).id = row.id)
    (reconciles : call.1.reconciles = some tenant)
    (updated : later.assignments = (store.reconcileExpiredLeases libraries tenant
      (call.2.now 0) requestId).assignments.update condition change keepsKey)
    (each : ∀ row ∈ store.assignments, condition (row.reconciledIn tenant (call.2.now 0)) = true →
      Reaches store call row (row.reconciledIn tenant (call.2.now 0)) →
      Reaches store call row (change (row.reconciledIn tenant (call.2.now 0)))) :
    Advances store call later id := by
  have mapped : later.assignments.find id = (store.assignments.find id).map fun row =>
      if condition (row.reconciledIn tenant (call.2.now 0))
        then change (row.reconciledIn tenant (call.2.now 0))
        else row.reconciledIn tenant (call.2.now 0) := by
    rw [updated, Table.find_update, find_reconcileExpiredLeases, Option.map_map]
    rfl
  refine .of_map mapped fun row isRow _ => ?_
  have reconciled : Reaches store call row (row.reconciledIn tenant (call.2.now 0)) :=
    reaches_reconciledIn reconciles
  split
  · next hit => exact each row isRow hit reconciled
  · exact reconciled

theorem advances_requeueAssignment {tenant project assignment reason : String} {actor : Actor} :
    Advances store (.requeueAssignment tenant project assignment reason actor, env)
      (requeueAssignment libraries env tenant project assignment reason actor store).2 id := by
  rw [requeueAssignment]
  refine .ofExcept_bind fun _ => ?_
  rw [mutate]
  split
  · next changed ran =>
      simp only [Store.requeueAssignment, bind_eq_ok, needed_eq_ok, ensure_eq_ok, pure_eq_ok,
        decide_eq_true_eq, Prod.mk.injEq] at ran
      obtain ⟨found, isFound, _, needsReconciliation, _, _, _, _, _, rfl⟩ := ran
      have isIt := List.find?_some isFound
      have isRow := List.mem_of_find?_eq_some isFound
      refine .of_reconciled ?keepsKey rfl rfl fun row isOld hit reconciled => ?_
      case keepsKey => exact fun _ => rfl
      simp only [Bool.and_eq_true, Assignment.isOf, decide_eq_true_eq] at hit isIt
      obtain ⟨⟨sameTenant, sameId⟩, sameProject⟩ := hit
      have same := mem_reconcileExpiredLeases isOld isRow
        (isIt.1.2.trans (sameId.symm.trans (row.id_reconciledIn tenant (env.now 0))))
      rw [same] at needsReconciliation
      have occurs := @Occurs.requeued store env reason actor _ needsReconciliation
      rw [sameTenant, sameProject, sameId] at occurs
      exact reconciled.happens occurs rfl rfl
  · exact .of_same rfl

theorem advances_storeLease {seconds : Int} {requestId : String}
    {result : Except StoreError (Option Lease)}
    (ran : Store.lease libraries worker seconds requestId (env.now 0) store = .ok (result, later)) :
    Advances store (.lease worker seconds requestId, env) later id := by
  simp only [Store.lease] at ran
  split at ran
  · next active =>
      split at ran
      · simp only [pure_eq_ok, Prod.mk.injEq] at ran
        obtain ⟨_, rfl⟩ := ran
        exact .of_map find_reconcileExpiredLeases fun row _ _ => reaches_reconciledIn rfl
      · next candidate isCandidate =>
          simp only [bind_eq_ok, pure_eq_ok, Prod.mk.injEq, Prod.exists, Store.leaseAssignment]
            at ran
          obtain ⟨lease, after, ⟨_, _, _, _, _, _, _, rfl⟩, _, rfl⟩ := ran
          have isCandidate := List.mem_of_head? isCandidate
          rw [List.mem_mergeSort, Table.mem_select] at isCandidate
          obtain ⟨isRow, canBeLeased⟩ := isCandidate
          simp only [Bool.and_eq_true, decide_eq_true_eq] at canBeLeased
          obtain ⟨⟨sameTenant, queued⟩, approved⟩ := canBeLeased
          rw [planStillApproved_congr (projects_reconcileExpiredLeases _ _ _)] at approved
          refine .of_reconciled ?keepsKey rfl rfl fun row isOld hit reconciled => ?_
          case keepsKey => exact fun _ => rfl
          simp only [Bool.and_eq_true, Assignment.isOf, decide_eq_true_eq] at hit
          have same := mem_reconcileExpiredLeases isOld isRow
            (hit.2.symm.trans (row.id_reconciledIn worker.tenant (env.now 0)))
          rw [same] at sameTenant queued approved
          exact reconciled.happens (.leased sameTenant queued active approved) rfl rfl
  · simp only [pure_eq_ok, Prod.mk.injEq] at ran
    obtain ⟨_, rfl⟩ := ran
    exact .of_same rfl

theorem advances_lease {seconds : Int} {requestId : String} :
    Advances store (.lease worker seconds requestId, env)
      (lease libraries env worker seconds requestId store).2 id := by
  rw [lease]
  refine .ofExcept_bind fun _ => ?_
  rw [Effect.bind_ofExcept_snd, Effect.transact]
  split
  · next ran => exact advances_storeLease ran
  · exact .of_same rfl

/-! ## New assignments -/

theorem find_insertAssignments {rows : List Assignment} (key : String)
    (ran : store.insertAssignments rows = .ok later) :
    later.assignments.find key = store.assignments.find key ∨
      (store.assignments.find key = none ∧ ∃ row ∈ rows,
        later.assignments.find key = some row) := by
  refine foldlM_invariant (motive := fun done (current : Store) =>
    current.assignments.find key = store.assignments.find key ∨
      (store.assignments.find key = none ∧ ∃ row ∈ done,
        current.assignments.find key = some row)) (.inl rfl) ?_ ran
  intro done row before after earlier inserted
  simp only [bind_eq_ok, pure_eq_ok, insertRow_eq_ok] at inserted
  obtain ⟨assignments, ⟨_, isInserted⟩, rfl⟩ := inserted
  dsimp only
  rw [Table.find_insert isInserted]
  split
  · next isId =>
      have absent : before.assignments.find key = none :=
        Table.find_eq_none.mpr fun other isOther sameId =>
          (Table.insert_eq_some isInserted).1 other isOther (sameId.trans isId.symm)
      cases earlier with
      | inl same =>
        exact .inr ⟨same.symm.trans absent, row, List.mem_append_right _
          (List.mem_singleton_self row), rfl⟩
      | inr isNew =>
        obtain ⟨_, _, _, found⟩ := isNew
        rw [found] at absent
        cases absent
  · cases earlier with
    | inl same => exact .inl same
    | inr isNew =>
      obtain ⟨wasAbsent, other, isDone, found⟩ := isNew
      exact .inr ⟨wasAbsent, other, List.mem_append_left _ isDone, found⟩

theorem advances_createAssignments {tenant project : String} {mailboxes : List String}
    {actor : Actor} :
    Advances store (.createAssignments tenant project mailboxes actor, env)
      (createAssignments libraries env tenant project mailboxes actor store).2 id := by
  rw [createAssignments]
  refine .ofExcept_bind fun _ => .ofExcept_bind fun labels => ?_
  rw [Effect.bind_reading_snd, mutate]
  split
  · next changed ran =>
      simp only [Store.createAssignments, bind_eq_ok, needed_eq_ok, ensure_eq_ok, pure_eq_ok,
        Prod.mk.injEq] at ran
      obtain ⟨found, _, _, _, created, inserted, _, rfl⟩ := ran
      cases find_insertAssignments id inserted with
      | inl same =>
        have mapped : created.assignments.find id =
            (store.assignments.find id).map fun row => row := by
          rw [same, Option.map_id']
        exact .of_map mapped fun _ _ _ => .refl
      | inr isNew =>
        obtain ⟨absent, row, isRow, isThere⟩ := isNew
        obtain ⟨_, _, rfl⟩ := List.mem_map.mp isRow
        refine ⟨[], ?_⟩
        change Passes _ _ _ _ (created.assignments.find id)
        rw [absent, isThere]
        exact .created ⟨_, _, _, _, rfl⟩ ⟨rfl, rfl⟩
  · exact .of_same rfl

end

/-! ## Calls that do not concern assignments -/

/-- The assignments stay the same. -/
def SameAssignments (store later : Store) : Prop := later.assignments = store.assignments

instance : IsPreorder Store SameAssignments where
  refl _ := rfl
  trans _ _ _ first second := Eq.trans second first

section

variable {libraries : Libraries} {env : Environment} {α : Type}

/-- A change of other tables. -/
theorem sameAssignments_mutate {change : Edit α} {time : Int} {actor : Actor}
    {tenant : Option String} {action resource detail : String}
    (same : ∀ store value changed, change store = .ok (value, changed) →
      SameAssignments store changed) :
    Effect.Keeps SameAssignments
      (mutate libraries time actor tenant action resource detail change) :=
  keeps_mutate libraries (fun _ _ => rfl) same

theorem sameAssignments_insertSession {userId method : String} {time : Int}
    {store changed : Store} {session : String × Int}
    (accepted : insertSession libraries env userId method time store = .ok (session, changed)) :
    SameAssignments store changed := by
  simp only [insertSession, bind_eq_ok, pure_eq_ok, Prod.mk.injEq] at accepted
  obtain ⟨sessions, _, _, rfl⟩ := accepted
  rfl

theorem sameAssignments_bootstrapAdministrator (email displayName password : String) :
    Effect.Keeps SameAssignments
      (bootstrapAdministrator libraries env email displayName password) := by
  refine .bind (.ofExcept _) fun email => .bind (.ofExcept _) fun displayName =>
    .bind (.ofExcept _) fun hash => .transact ?_
  intro store value changed accepted
  simp only [bind_eq_ok, pure_eq_ok, Prod.mk.injEq] at accepted
  obtain ⟨_, _, users, _, grants, _, _, rfl⟩ := accepted
  rfl

theorem sameAssignments_login (email password requestId : String) :
    Effect.Keeps SameAssignments (login libraries env email password requestId) := by
  refine .bind (.reading _) fun attempt store => ?_
  rw [commitLogin]
  split
  · rfl
  · dsimp only
    split
    · next ran => exact (sameAssignments_insertSession ran :)
    · rfl

theorem sameAssignments_openSession (userId method : String) (actor : Actor) :
    Effect.Keeps SameAssignments (openSession libraries env userId method actor) := by
  refine .transact ?_
  intro store value changed accepted
  simp only [bind_eq_ok, pure_eq_ok, Prod.mk.injEq, Prod.exists] at accepted
  obtain ⟨session, expiresAt, opened, inserted, _, rfl⟩ := accepted
  exact (sameAssignments_insertSession inserted :)

theorem sameAssignments_createUser (email displayName : String) (password : Option String)
    (actor : Actor) :
    Effect.Keeps SameAssignments
      (createUser libraries env email displayName password actor) := by
  refine .bind (.ofExcept _) fun email => .bind (.ofExcept _) fun displayName =>
    .bind (.ofExcept _) fun hash => .bind (sameAssignments_mutate ?_) fun _ => .pure _
  intro store value changed accepted
  simp only [bind_eq_ok, pure_eq_ok, Prod.mk.injEq] at accepted
  obtain ⟨users, _, _, rfl⟩ := accepted
  rfl

theorem sameAssignments_disableUser (userId : String) (actor : Actor) :
    Effect.Keeps SameAssignments (disableUser libraries env userId actor) := by
  refine sameAssignments_mutate ?_
  intro store value changed accepted
  simp only [Store.disableUser, bind_eq_ok, pure_eq_ok, Prod.mk.injEq] at accepted
  obtain ⟨_, _, _, rfl⟩ := accepted
  rfl

theorem sameAssignments_addGrant (userId : String) (role : Role) (tenant : Option String)
    (actor : Actor) :
    Effect.Keeps SameAssignments (addGrant libraries env userId role tenant actor) := by
  refine .bind (.ofExcept _) fun _ => sameAssignments_mutate ?_
  intro store value changed accepted
  simp only [Store.addGrant, bind_eq_ok, pure_eq_ok, Prod.mk.injEq] at accepted
  obtain ⟨_, _, grants, _, _, rfl⟩ := accepted
  rfl

theorem sameAssignments_removeGrant (userId : String) (role : Role) (tenant : Option String)
    (actor : Actor) :
    Effect.Keeps SameAssignments (removeGrant libraries env userId role tenant actor) := by
  refine sameAssignments_mutate ?_
  intro store value changed accepted
  simp only [Store.removeGrant, bind_eq_ok, pure_eq_ok, Prod.mk.injEq] at accepted
  obtain ⟨_, _, _, _, _, rfl⟩ := accepted
  rfl

theorem sameAssignments_createTenant (name : String) (actor : Actor) :
    Effect.Keeps SameAssignments (createTenant libraries env name actor) := by
  refine .bind (.ofExcept _) fun name => .bind (sameAssignments_mutate ?_) fun _ => .pure _
  intro store value changed accepted
  simp only [bind_eq_ok, pure_eq_ok, Prod.mk.injEq] at accepted
  obtain ⟨tenants, _, _, rfl⟩ := accepted
  rfl

theorem sameAssignments_createApiKey (caller : Principal) (tenant name : String)
    (scopes : List Permission) (lifetimeDays : Int) (actor : Actor) :
    Effect.Keeps SameAssignments
      (createApiKey libraries env caller tenant name scopes lifetimeDays actor) := by
  refine .bind (.ofExcept _) fun name => .bind (.ofExcept _) fun _ => .bind (.ofExcept _) fun _ =>
    .bind (.ofExcept _) fun _ => .bind (sameAssignments_mutate ?_) fun _ => .pure _
  intro store value changed accepted
  simp only [bind_eq_ok, pure_eq_ok, Prod.mk.injEq] at accepted
  obtain ⟨apiKeys, _, _, rfl⟩ := accepted
  rfl

theorem sameAssignments_revokeApiKey (keyId : String) (owner : Option String) (actor : Actor) :
    Effect.Keeps SameAssignments (revokeApiKey libraries env keyId owner actor) := by
  refine sameAssignments_mutate ?_
  intro store value changed accepted
  simp only [bind_eq_ok, pure_eq_ok, Prod.mk.injEq] at accepted
  obtain ⟨_, _, _, rfl⟩ := accepted
  rfl

theorem sameAssignments_createProject (tenant name : String) (plan : Json) (actor : Actor) :
    Effect.Keeps SameAssignments (createProject libraries env tenant name plan actor) := by
  refine .bind (.ofExcept _) fun name => .bind (.ofExcept _) fun text =>
    .bind (sameAssignments_mutate ?_) fun _ => .reading _
  intro store value changed accepted
  simp only [Store.createProject, bind_eq_ok, pure_eq_ok, Prod.mk.injEq] at accepted
  obtain ⟨projects, _, _, rfl⟩ := accepted
  rfl

theorem sameAssignments_updatePlan (tenant id : String) (plan : Json) (expectedRevision : Int)
    (actor : Actor) :
    Effect.Keeps SameAssignments
      (updatePlan libraries env tenant id plan expectedRevision actor) := by
  refine .bind (.ofExcept _) fun text => .bind (sameAssignments_mutate ?_) fun _ => .reading _
  intro store value changed accepted
  simp only [Store.updatePlan, bind_eq_ok, pure_eq_ok, Prod.mk.injEq] at accepted
  obtain ⟨_, _, _, rfl⟩ := accepted
  rfl

theorem sameAssignments_approveProject (tenant id : String) (revision : Int)
    (approverUserId : String) (actor : Actor) :
    Effect.Keeps SameAssignments
      (approveProject libraries env tenant id revision approverUserId actor) := by
  refine .bind (sameAssignments_mutate ?_) fun _ => .reading _
  intro store value changed accepted
  simp only [Store.approveProject, bind_eq_ok, pure_eq_ok, Prod.mk.injEq] at accepted
  obtain ⟨current, _, _, _, _, _, _, rfl⟩ := accepted
  rfl

theorem sameAssignments_savePending (state provider nonce verifier : String) :
    Effect.Keeps SameAssignments
      (savePending libraries env state provider nonce verifier) := by
  intro store
  simp only [savePending]
  split
  · rfl
  · split
    · rfl
    · rfl

theorem sameAssignments_userForIdentity (provider : Provider) (identity : Identity)
    (requestId : String) :
    Effect.Keeps SameAssignments
      (userForIdentity libraries env provider identity requestId) := by
  intro store
  simp only [userForIdentity]
  split
  · rfl
  · split
    · rfl
    · split
      · rfl
      · rfl

theorem sameAssignments_createEnrollment (tenant name : String) (minutes : Int) (actor : Actor) :
    Effect.Keeps SameAssignments
      (createEnrollment libraries env tenant name minutes actor) := by
  refine .bind (.ofExcept _) fun name => .bind (.ofExcept _) fun _ =>
    .bind (sameAssignments_mutate ?_) fun _ => .pure _
  intro store value changed accepted
  simp only [bind_eq_ok, pure_eq_ok, Prod.mk.injEq] at accepted
  obtain ⟨_, _, enrollments, _, _, rfl⟩ := accepted
  rfl

theorem sameAssignments_enrollWorker (enrollmentToken : String) (capabilities : List String)
    (requestId : String) :
    Effect.Keeps SameAssignments
      (enrollWorker libraries env enrollmentToken capabilities requestId) := by
  refine .bind (.ofExcept _) fun _ => .bind (.ofExcept _) fun _ => .transact ?_
  intro store value changed accepted
  simp only [bind_eq_ok, pure_eq_ok, Prod.mk.injEq] at accepted
  obtain ⟨enrollment, _, workers, _, _, rfl⟩ := accepted
  rfl

theorem sameAssignments_revokeWorker (tenant worker : String) (actor : Actor) :
    Effect.Keeps SameAssignments (revokeWorker libraries env tenant worker actor) := by
  refine sameAssignments_mutate ?_
  intro store value changed accepted
  simp only [bind_eq_ok, pure_eq_ok, Prod.mk.injEq] at accepted
  obtain ⟨_, _, _, rfl⟩ := accepted
  rfl

/-- Every call takes each assignment through some events. -/
theorem advances_perform (operation : StoreOperation) (store : Store) (id : String) :
    Advances store (operation, env) (perform libraries env operation store) id := by
  cases operation with
  | audit entry => exact .of_same rfl
  | auditEntries tenant before limit => exact .of_same rfl
  | verifyAuditChain => exact .of_same rfl
  | bootstrapAdministrator email displayName password =>
    exact .of_same (sameAssignments_bootstrapAdministrator email displayName password store)
  | login email password requestId =>
    exact .of_same (sameAssignments_login email password requestId store)
  | openSession userId method actor =>
    exact .of_same (sameAssignments_openSession userId method actor store)
  | logout token actor => exact .of_same rfl
  | principal token => exact .of_same rfl
  | user userId => exact .of_same rfl
  | users => exact .of_same rfl
  | createUser email displayName password actor =>
    exact .of_same (sameAssignments_createUser email displayName password actor store)
  | disableUser userId actor =>
    exact .of_same (sameAssignments_disableUser userId actor store)
  | addGrant userId role tenant actor =>
    exact .of_same (sameAssignments_addGrant userId role tenant actor store)
  | removeGrant userId role tenant actor =>
    exact .of_same (sameAssignments_removeGrant userId role tenant actor store)
  | createTenant name actor => exact .of_same (sameAssignments_createTenant name actor store)
  | tenants visible => exact .of_same rfl
  | tenantExists tenant => exact .of_same rfl
  | createApiKey caller tenant name scopes lifetimeDays actor =>
    exact .of_same
      (sameAssignments_createApiKey caller tenant name scopes lifetimeDays actor store)
  | apiKeys owner => exact .of_same rfl
  | revokeApiKey keyId owner actor =>
    exact .of_same (sameAssignments_revokeApiKey keyId owner actor store)
  | createProject tenant name plan actor =>
    exact .of_same (sameAssignments_createProject tenant name plan actor store)
  | projects tenant => exact .of_same rfl
  | project tenant id => exact .of_same rfl
  | updatePlan tenant id plan expectedRevision actor =>
    exact .of_same (sameAssignments_updatePlan tenant id plan expectedRevision actor store)
  | approveProject tenant id revision approverUserId actor =>
    exact .of_same
      (sameAssignments_approveProject tenant id revision approverUserId actor store)
  | savePending state provider nonce verifier =>
    exact .of_same (sameAssignments_savePending state provider nonce verifier store)
  | takePending state => exact .of_same rfl
  | userForIdentity provider identity requestId =>
    exact .of_same (sameAssignments_userForIdentity provider identity requestId store)
  | createEnrollment tenant name minutes actor =>
    exact .of_same (sameAssignments_createEnrollment tenant name minutes actor store)
  | enrollWorker enrollmentToken capabilities requestId =>
    exact .of_same
      (sameAssignments_enrollWorker enrollmentToken capabilities requestId store)
  | workerIdentity credential => exact .of_same rfl
  | workers tenant => exact .of_same rfl
  | revokeWorker tenant worker actor =>
    exact .of_same (sameAssignments_revokeWorker tenant worker actor store)
  | createAssignments tenant project mailboxes actor => exact advances_createAssignments
  | assignments tenant project => exact .of_same rfl
  | requeueAssignment tenant project assignment reason actor => exact advances_requeueAssignment
  | lease worker seconds requestId => exact advances_lease
  | renewLease worker assignment fencingToken seconds requestId => exact advances_renewLease
  | complete worker assignment fencingToken outcome result requestId => exact advances_complete

end

end MailSwiftSync.Control
