import MailSwiftSync.Ledger.Operations
import MailSwiftSync.Outbox.Deliveries

/-!
# Leases of the outbox

The table holds the current lease of a delivery only.  Runs are observed together with
all leases that were handed out, newest first, and with how each of them ended.
-/

namespace MailSwiftSync

open Foundation
open Ledger (require require_eq_ok)

/-- How a lease ended. -/
inductive LeaseFate where
  | delivered
  | failed
  | expired
deriving DecidableEq

/-- A lease that was handed out. -/
structure Lease where
  owner : String
  expiry : Nat
  fate : Option LeaseFate := none
deriving DecidableEq

namespace Lease

/-- Whether the worker still holds the lease: no outcome is recorded and it has not
expired. -/
def HeldAt (lease : Lease) (now : Nat) : Prop :=
  lease.fate ≠ some .delivered ∧ lease.fate ≠ some .failed ∧ now < lease.expiry

/-- Whether the lease ended without a delivery. -/
def isUnsuccessful (lease : Lease) : Bool :=
  lease.fate = some .failed || lease.fate = some .expired

end Lease

/-- The newest lease ends. -/
def endLease (fate : LeaseFate) : List Lease → List Lease
  | [] => []
  | lease :: earlier => { lease with fate := some fate } :: earlier

namespace Outbox

variable {before after : Outbox} {operation : OutboxOperation}

/-! ## Rows -/

/-- The table a claim selects due rows from. -/
def reclaimedBy (before : Outbox) (endpointDigest : String) (projectId : Option String)
    (later : Nat) : Outbox :=
  { before.reclaimExpired endpointDigest projectId with now := later }

/-- What the first statement of a claim makes of a row. -/
def reclaimedRow (before : Outbox) (endpointDigest : String) (projectId : Option String)
    (row : WebhookRow) : WebhookRow :=
  if row.isFor endpointDigest projectId && row.hasExpiredLease before.now
  then row.reclaimed before.now else row

/-- Whether an operation ends the lease of a row without a delivery. -/
def failsLease (before : Outbox) : OutboxOperation → WebhookRow → Bool
  | .claimWebhookDeliveries endpointDigest projectId _ _ _, row =>
    row.isFor endpointDigest projectId && row.hasExpiredLease before.now
  | .markWebhookFailed eventId leaseOwner _, row => row.isLeasedBy eventId leaseOwner
  | _, _ => false

/-- What an operation makes of a row. -/
def rowAfter (before : Outbox) : OutboxOperation → WebhookRow → WebhookRow
  | .bindUnboundWebhookDeliveries endpointDigest projectId, row =>
    if row.isFor "" projectId && row.status = .queued then { row with endpointDigest } else row
  | .claimWebhookDeliveries endpointDigest projectId leaseOwner limit later, row =>
    let reclaimed := before.reclaimedRow endpointDigest projectId row
    if reclaimed.eventId ∈ (before.reclaimedBy endpointDigest projectId later).dueEvents
        endpointDigest projectId limit then
      reclaimed.leased leaseOwner (later + webhookDeliveryLeaseSeconds)
    else reclaimed
  | .markWebhookDelivered eventId leaseOwner, row =>
    if row.isLeasedBy eventId leaseOwner then row.delivered before.now else row
  | .markWebhookFailed eventId leaseOwner error, row =>
    if row.isLeasedBy eventId leaseOwner then row.failed before.now error else row
  | _, row => row

/-- A row that was not there before. -/
structure IsNew (before : Outbox) (row : WebhookRow) : Prop where
  fresh : ∀ old ∈ before.deliveries, old.eventId ≠ row.eventId
  asInserted : row = before.newRow row.eventId row.projectId row.eventType row.payload
    row.endpointDigest

/-- What an operation does to the table. -/
structure Rewrites (before : Outbox) (operation : OutboxOperation) (after : Outbox) : Prop where
  clock : after.now = before.clockAfter operation
  forward : ∀ row ∈ before.deliveries, before.rowAfter operation row ∈ after.deliveries
  backward : ∀ row ∈ after.deliveries,
    (∃ old ∈ before.deliveries, row = before.rowAfter operation old) ∨ IsNew before row

/-- An update of the table is what it does to each row. -/
theorem Rewrites.of_rows (clock : after.now = before.clockAfter operation)
    (rows : after.deliveries.rows = before.deliveries.rows.map (before.rowAfter operation)) :
    Rewrites before operation after where
  clock := clock
  forward := by
    intro row isRow
    rw [← Table.mem_rows, rows]
    exact List.mem_map.mpr ⟨row, isRow, rfl⟩
  backward := by
    intro row isRow
    rw [← Table.mem_rows, rows] at isRow
    obtain ⟨old, isOld, rfl⟩ := List.mem_map.mp isRow
    exact .inl ⟨old, isOld, rfl⟩

theorem Rewrites.of_same (clock : after.now = before.clockAfter operation)
    (same : ∀ row, before.rowAfter operation row = row)
    (rows : after.deliveries = before.deliveries) : Rewrites before operation after := by
  refine .of_rows clock ?_
  rw [rows, funext same]
  exact (List.map_id _).symm

/-- An insertion keeps the other rows. -/
theorem Rewrites.of_insert {eventId projectId eventType payload endpointDigest : String}
    (same : ∀ row, before.rowAfter operation row = row)
    (clock : after.now = before.clockAfter operation)
    (inserted : before.deliveries.insert
      (before.newRow eventId projectId eventType payload endpointDigest) =
        some after.deliveries) : Rewrites before operation after where
  clock := clock
  forward := by
    intro row isRow
    rw [same]
    exact (Table.mem_insert inserted).mpr (.inl isRow)
  backward := by
    intro row isRow
    cases (Table.mem_insert inserted).mp isRow with
    | inl isOld => exact .inl ⟨row, isOld, (same row).symm⟩
    | inr isNew =>
      subst isNew
      exact .inr ⟨(Table.insert_eq_some inserted).1, rfl⟩

variable {eventId leaseOwner : String}

theorem settle_ok {change : WebhookRow → WebhookRow}
    {keepsKey : ∀ row, (change row).eventId = row.eventId}
    (accepted : before.settle eventId leaseOwner change keepsKey = .ok after) :
    (∃ row ∈ before.deliveries, row.isLeasedBy eventId leaseOwner = true) ∧
    after.now = before.now ∧
    after.deliveries.rows = before.deliveries.rows.map fun row =>
      if row.isLeasedBy eventId leaseOwner then change row else row := by
  simp only [settle, bind_eq_ok, require_eq_ok, exists_const, pure_eq_ok,
    Table.any_eq_true] at accepted
  obtain ⟨held, rfl⟩ := accepted
  exact ⟨held, rfl, rfl⟩

/-- What an accepted operation does to the table. -/
theorem Step.rewrites (step : Step before operation after) :
    Rewrites before operation after := by
  have accepted := step.2
  cases operation with
  | publish eventId projectId eventType payload =>
    cases accepted
    cases inserted : before.deliveries.insert
        (before.newRow eventId projectId eventType payload "") with
    | some deliveries =>
      refine .of_insert (fun _ => rfl) rfl (inserted.trans ?_)
      rw [publish, inserted, Option.getD_some]
    | none =>
      refine .of_same rfl (fun _ => rfl) ?_
      rw [publish, inserted, Option.getD_none]
  | enqueueWebhookDelivery eventId projectId eventType payload endpointDigest =>
    simp only [apply, enqueueWebhookDelivery, bind_eq_ok, require_eq_ok,
      exists_const] at accepted
    have accepted := accepted.2
    split at accepted
    · next deliveries inserted =>
        cases accepted
        exact .of_insert (fun _ => rfl) rfl inserted
    · simp only [bind_eq_ok, require_eq_ok, exists_const, pure_eq_ok] at accepted
      obtain ⟨_, rfl⟩ := accepted
      exact .of_same rfl (fun _ => rfl) rfl
  | bindUnboundWebhookDeliveries =>
    simp only [apply, bindUnboundWebhookDeliveries, bind_eq_ok, require_eq_ok, exists_const,
      pure_eq_ok] at accepted
    obtain ⟨_, rfl⟩ := accepted
    exact .of_rows rfl rfl
  | claimWebhookDeliveries =>
    simp only [apply, claimWebhookDeliveries, bind_eq_ok, require_eq_ok, exists_const,
      pure_eq_ok] at accepted
    obtain ⟨_, ⟨_, rfl⟩, rfl⟩ := accepted
    refine .of_rows rfl ?_
    refine List.map_map.trans (List.map_congr_left fun row _ => ?_)
    simp only [Function.comp_apply, rowAfter, decide_eq_true_eq]
    rfl
  | markWebhookDelivered =>
    obtain ⟨_, sameClock, rows⟩ := settle_ok accepted
    exact .of_rows sameClock rows
  | markWebhookFailed =>
    obtain ⟨_, sameClock, rows⟩ := settle_ok accepted
    exact .of_rows sameClock rows
  | setClock =>
    cases accepted
    exact .of_same rfl (fun _ => rfl) rfl

variable {row : WebhookRow} {projectId : Option String} {endpointDigest : String}

/-- A due row is queued, and its endpoint is known. -/
theorem queued_of_due {outbox : Outbox} {limit : Nat} (isRow : row ∈ outbox.deliveries)
    (isDue : row.eventId ∈ outbox.dueEvents endpointDigest projectId limit) :
    row.status = .queued ∧ row.endpointDigest = endpointDigest := by
  rw [dueEvents] at isDue
  obtain ⟨other, isOther, sameEvent⟩ := List.mem_map.mp isDue
  have selected := List.mem_mergeSort.mp (List.mem_of_mem_take isOther)
  rw [Table.mem_select] at selected
  obtain rfl : other = row := Table.eq_of_key selected.1 isRow sameEvent
  simp only [WebhookRow.isFor, Bool.and_eq_true, decide_eq_true_eq] at selected
  exact ⟨selected.2.1.2, selected.2.1.1.1⟩

/-! ## History -/

/-- The leases of every event, newest first. -/
abbrev LeaseHistory := String → List Lease

/-- The leases of a row after an operation. -/
def leasesAfter (before : Outbox) (operation : OutboxOperation) (row : WebhookRow)
    (leases : List Lease) : List Lease :=
  match operation with
  | .claimWebhookDeliveries endpointDigest projectId leaseOwner limit later =>
    let ended := if before.failsLease operation row then endLease .expired leases else leases
    if row.eventId ∈ (before.reclaimedBy endpointDigest projectId later).dueEvents
        endpointDigest projectId limit then
      { owner := leaseOwner, expiry := later + webhookDeliveryLeaseSeconds } :: ended
    else ended
  | .markWebhookDelivered eventId leaseOwner =>
    if row.isLeasedBy eventId leaseOwner then endLease .delivered leases else leases
  | .markWebhookFailed eventId leaseOwner _ =>
    if row.isLeasedBy eventId leaseOwner then endLease .failed leases else leases
  | _ => leases

/-- The history after one more operation. -/
def record (history : LeaseHistory) (before : Outbox) (operation : OutboxOperation) :
    LeaseHistory := fun eventId =>
  (before.deliveries.find eventId).elim (history eventId) fun row =>
    before.leasesAfter operation row (history eventId)

theorem record_row {history : LeaseHistory} (isRow : row ∈ before.deliveries) :
    record history before operation row.eventId =
      before.leasesAfter operation row (history row.eventId) := by
  rw [record, Table.find_eq_some.mpr ⟨isRow, rfl⟩, Option.elim_some]

theorem record_absent {history : LeaseHistory} {eventId : String}
    (absent : ∀ row ∈ before.deliveries, row.eventId ≠ eventId) :
    record history before operation eventId = history eventId := by
  rw [record, Table.find_eq_none.mpr absent, Option.elim_none]

/-- An accepted operation, with what it adds to the history. -/
def TrackedStep (before : Outbox × LeaseHistory) (operation : OutboxOperation)
    (after : Outbox × LeaseHistory) : Prop :=
  Step before.1 operation after.1 ∧ after.2 = record before.2 before.1 operation

/-- The newest lease is the current one, the others have ended; without a current lease
all have ended. -/
inductive Current (row : WebhookRow) : List Lease → Prop where
  | held (lease : Lease) (earlier : List Lease) (delivering : row.status = .delivering)
      (owner : row.leaseOwner = some lease.owner) (expiry : row.leaseUntil = some lease.expiry)
      (isOpen : lease.fate = none) (ended : ∀ other ∈ earlier, other.fate ≠ none) :
      Current row (lease :: earlier)
  | free (leases : List Lease) (notDelivering : row.status ≠ .delivering)
      (noOwner : row.leaseOwner = none) (noExpiry : row.leaseUntil = none)
      (ended : ∀ lease ∈ leases, lease.fate ≠ none) : Current row leases

/-- A row and the leases it ever had. -/
structure RowSound (now : Nat) (row : WebhookRow) (leases : List Lease) : Prop where
  current : Current row leases
  counted : row.attempts = leases.countP (·.isUnsuccessful)
  bounded : row.attempts ≤ maxWebhookAttempts
  retries : row.status.isFinal = false → row.attempts < maxWebhookAttempts
  expired : ∀ lease ∈ leases, lease.fate = some .expired → lease.expiry ≤ now

namespace RowSound

variable {now : Nat} {row : WebhookRow} {leases : List Lease}

theorem later (sound : RowSound now row leases) {later : Nat} (clock : now ≤ later) :
    RowSound later row leases :=
  { sound with
    expired := fun lease isLease fate => (sound.expired lease isLease fate).trans clock }

/-- The leases of a row in delivery. -/
theorem held (sound : RowSound now row leases) (delivering : row.status = .delivering) :
    ∃ lease earlier, leases = lease :: earlier ∧ row.leaseOwner = some lease.owner ∧
      row.leaseUntil = some lease.expiry ∧ lease.fate = none ∧
      ∀ other ∈ earlier, other.fate ≠ none := by
  cases sound.current with
  | held lease earlier _ owner expiry isOpen ended =>
    exact ⟨lease, earlier, rfl, owner, expiry, isOpen, ended⟩
  | free _ notDelivering => exact absurd delivering notDelivering

theorem final_statusAfterFailure :
    row.statusAfterFailure.isFinal = false ↔ row.attempts + 1 < maxWebhookAttempts := by
  rw [WebhookRow.statusAfterFailure, ← Nat.not_le]
  split
  · next exhausted => simp [DeliveryStatus.isFinal, exhausted]
  · next more => simp [DeliveryStatus.isFinal, more]

theorem statusAfterFailure_ne : row.statusAfterFailure ≠ .delivering := by
  rw [WebhookRow.statusAfterFailure]
  split <;> exact nofun

/-- A lease that ends without a delivery is one more attempt. -/
theorem unsettled (sound : RowSound now row leases) (delivering : row.status = .delivering)
    {fate : LeaseFate} (unsuccessful : fate = .failed ∨ fate = .expired)
    (expiry : fate = .expired → row.leaseUntil.any (· ≤ now) = true) (lastError : String)
    (nextAttemptAt : Nat) :
    RowSound now (row.unsettled lastError nextAttemptAt) (endLease fate leases) := by
  obtain ⟨lease, earlier, rfl, _, until', isOpen, ended⟩ := sound.held delivering
  have more : row.attempts < maxWebhookAttempts := by
    apply sound.retries
    rw [delivering]
    rfl
  have counted := sound.counted
  have notCounted : lease.isUnsuccessful = false := by
    rw [Lease.isUnsuccessful, isOpen]
    rfl
  rw [List.countP_cons_of_neg (by rw [notCounted]; exact nofun)] at counted
  refine ⟨.free _ statusAfterFailure_ne rfl rfl ?_, ?_, more, fun notFinal => ?_, ?_⟩
  · intro other isOther
    cases List.mem_cons.mp isOther with
    | inl same =>
      rw [same]
      exact nofun
    | inr isEarlier => exact ended other isEarlier
  · have isCounted : Lease.isUnsuccessful { lease with fate := some fate } = true := by
      cases unsuccessful with
      | inl isFailed => simp [Lease.isUnsuccessful, isFailed]
      | inr isExpired => simp [Lease.isUnsuccessful, isExpired]
    rw [endLease, List.countP_cons_of_pos isCounted, ← counted]
    rfl
  · exact final_statusAfterFailure.mp notFinal
  · intro other isOther isExpired
    cases List.mem_cons.mp isOther with
    | inl same =>
      subst same
      have passed := expiry (Option.some.inj isExpired)
      rw [until'] at passed
      exact of_decide_eq_true passed
    | inr isEarlier => exact sound.expired other (List.mem_cons_of_mem _ isEarlier) isExpired

/-- A delivery ends the lease, and counts as no further attempt. -/
theorem delivered (sound : RowSound now row leases) (delivering : row.status = .delivering) :
    RowSound now (row.delivered now) (endLease .delivered leases) := by
  obtain ⟨lease, earlier, rfl, _, _, isOpen, ended⟩ := sound.held delivering
  have counted := sound.counted
  have notCounted : lease.isUnsuccessful = false := by
    rw [Lease.isUnsuccessful, isOpen]
    rfl
  rw [List.countP_cons_of_neg (by rw [notCounted]; exact nofun)] at counted
  refine ⟨.free _ nofun rfl rfl ?_, ?_, sound.bounded, nofun, ?_⟩
  · intro other isOther
    cases List.mem_cons.mp isOther with
    | inl same =>
      rw [same]
      exact nofun
    | inr isEarlier => exact ended other isEarlier
  · rw [endLease, List.countP_cons_of_neg (by simp [Lease.isUnsuccessful]), ← counted]
    rfl
  · intro other isOther isExpired
    cases List.mem_cons.mp isOther with
    | inl same =>
      rw [same] at isExpired
      cases isExpired
    | inr isEarlier => exact sound.expired other (List.mem_cons_of_mem _ isEarlier) isExpired

/-- A queued row may be leased. -/
theorem leased (sound : RowSound now row leases) (queued : row.status = .queued)
    (owner : String) (expiry : Nat) :
    RowSound now (row.leased owner expiry) ({ owner, expiry } :: leases) := by
  cases sound.current with
  | held _ _ delivering =>
    rw [queued] at delivering
    cases delivering
  | free _ _ _ _ ended =>
    refine ⟨.held _ _ rfl rfl rfl rfl ended, ?_, sound.bounded, fun _ => ?_, ?_⟩
    · rw [List.countP_cons_of_neg (by simp [Lease.isUnsuccessful])]
      exact sound.counted
    · apply sound.retries
      rw [queued]
      rfl
    · intro lease isLease isExpired
      cases List.mem_cons.mp isLease with
      | inl same =>
        rw [same] at isExpired
        cases isExpired
      | inr isEarlier => exact sound.expired lease isEarlier isExpired

end RowSound

theorem reclaimedRow_eventId :
    (before.reclaimedRow endpointDigest projectId row).eventId = row.eventId := by
  rw [reclaimedRow]
  split <;> rfl

theorem reclaimedRow_mem (later : Nat) (isRow : row ∈ before.deliveries) :
    before.reclaimedRow endpointDigest projectId row ∈
      (before.reclaimedBy endpointDigest projectId later).deliveries :=
  List.mem_map.mpr ⟨row, isRow, rfl⟩

theorem delivering_of_isLeasedBy (held : row.isLeasedBy eventId leaseOwner = true) :
    row.eventId = eventId ∧ row.status = .delivering ∧ row.leaseOwner = some leaseOwner := by
  simpa [WebhookRow.isLeasedBy, and_assoc] using held

variable {leases : List Lease}

/-- One operation keeps rows and leases in step. -/
theorem Step.rowSound (step : Step before operation after) (isRow : row ∈ before.deliveries)
    (sound : RowSound before.now row leases) :
    RowSound after.now (before.rowAfter operation row)
      (before.leasesAfter operation row leases) := by
  rw [step.rewrites.clock]
  refine RowSound.later ?_ step.1
  cases operation with
  | publish => exact sound
  | enqueueWebhookDelivery => exact sound
  | setClock => exact sound
  | bindUnboundWebhookDeliveries =>
    rw [rowAfter]
    split
    · exact { sound with current := by cases sound.current with
        | held lease earlier delivering owner expiry isOpen ended =>
          exact .held lease earlier delivering owner expiry isOpen ended
        | free _ notDelivering noOwner noExpiry ended =>
          exact .free _ notDelivering noOwner noExpiry ended }
    · exact sound
  | claimWebhookDeliveries endpointDigest projectId leaseOwner limit later =>
    have between : RowSound before.now (before.reclaimedRow endpointDigest projectId row)
        (if row.isFor endpointDigest projectId && row.hasExpiredLease before.now
          then endLease .expired leases else leases) := by
      rw [reclaimedRow]
      split
      · next expired =>
          rw [Bool.and_eq_true, WebhookRow.hasExpiredLease, Bool.and_eq_true] at expired
          exact sound.unsettled (of_decide_eq_true expired.2.1) (.inr rfl)
            (fun _ => expired.2.2) _ _
      · exact sound
    simp only [rowAfter, leasesAfter, failsLease]
    rw [reclaimedRow_eventId]
    split
    · next isDue =>
        have rowIsDue : (before.reclaimedRow endpointDigest projectId row).eventId ∈
            (before.reclaimedBy endpointDigest projectId later).dueEvents endpointDigest
              projectId limit := by
          rw [reclaimedRow_eventId]
          exact isDue
        exact between.leased (queued_of_due (reclaimedRow_mem later isRow) rowIsDue).1 _ _
    · exact between
  | markWebhookDelivered =>
    simp only [rowAfter, leasesAfter]
    split
    · next held => exact sound.delivered (delivering_of_isLeasedBy held).2.1
    · exact sound
  | markWebhookFailed =>
    simp only [rowAfter, leasesAfter]
    split
    · next held =>
        exact sound.unsettled (delivering_of_isLeasedBy held).2.1 (.inl rfl) nofun _ _
    · exact sound

/-- What holds of the outbox and all leases ever handed out. -/
structure LeasesSound (outbox : Outbox) (history : LeaseHistory) : Prop where
  rows : ∀ row ∈ outbox.deliveries, RowSound outbox.now row (history row.eventId)
  absent : ∀ eventId, (∀ row ∈ outbox.deliveries, row.eventId ≠ eventId) → history eventId = []

theorem rowAfter_eventId : (before.rowAfter operation row).eventId = row.eventId := by
  cases operation with
  | claimWebhookDeliveries =>
    simp only [rowAfter]
    split
    · exact reclaimedRow_eventId
    · exact reclaimedRow_eventId
  | bindUnboundWebhookDeliveries | markWebhookDelivered | markWebhookFailed =>
    simp only [rowAfter]
    split <;> rfl
  | _ => rfl

theorem LeasesSound.step {history : LeaseHistory} (sound : LeasesSound before history)
    (step : Step before operation after) :
    LeasesSound after (record history before operation) where
  rows := by
    intro row isRow
    cases step.rewrites.backward row isRow with
    | inl known =>
      obtain ⟨old, isOld, rfl⟩ := known
      rw [rowAfter_eventId, record_row isOld]
      exact step.rowSound isOld (sound.rows old isOld)
    | inr isNew =>
      rw [record_absent isNew.fresh, sound.absent _ isNew.fresh, isNew.asInserted]
      exact
        ⟨.free _ nofun rfl rfl (by simp), rfl, Nat.zero_le _, fun _ => Nat.succ_pos 11, by simp⟩
  absent := by
    intro eventId absent
    have wasAbsent : ∀ row ∈ before.deliveries, row.eventId ≠ eventId := by
      intro row isRow
      have absentAfter := absent _ (step.rewrites.forward row isRow)
      rwa [rowAfter_eventId] at absentAfter
    rw [record_absent wasAbsent]
    exact sound.absent eventId wasAbsent

/-! ## Whole runs -/

/-- How a delivery may go on: its event stays as it was enqueued, a bound endpoint stays
bound, and nothing follows the end. -/
structure Continues (row next : WebhookRow) : Prop where
  sameEvent : next.eventId = row.eventId
  sameProject : next.projectId = row.projectId
  sameType : next.eventType = row.eventType
  samePayload : next.payload = row.payload
  sameEndpoint : row.endpointDigest ≠ "" → next.endpointDigest = row.endpointDigest
  attemptsGrow : row.attempts ≤ next.attempts
  isFinal : row.status.isFinal = true → next = row

namespace Continues

variable {row next last : WebhookRow}

theorem refl (row : WebhookRow) : Continues row row :=
  ⟨rfl, rfl, rfl, rfl, fun _ => rfl, Nat.le_refl _, fun _ => rfl⟩

theorem trans (first : Continues row next) (second : Continues next last) :
    Continues row last where
  sameEvent := second.sameEvent.trans first.sameEvent
  sameProject := second.sameProject.trans first.sameProject
  sameType := second.sameType.trans first.sameType
  samePayload := second.samePayload.trans first.samePayload
  sameEndpoint := by
    intro bound
    have same := first.sameEndpoint bound
    rw [second.sameEndpoint (by rw [same]; exact bound), same]
  attemptsGrow := first.attemptsGrow.trans second.attemptsGrow
  isFinal := by
    intro final
    have same := first.isFinal final
    rw [second.isFinal (by rw [same]; exact final), same]

/-- A change of a row that is not final. -/
theorem of_open (isOpen : row.status.isFinal = false) (sameEvent : next.eventId = row.eventId)
    (sameProject : next.projectId = row.projectId) (sameType : next.eventType = row.eventType)
    (samePayload : next.payload = row.payload)
    (sameEndpoint : row.endpointDigest ≠ "" → next.endpointDigest = row.endpointDigest)
    (attemptsGrow : row.attempts ≤ next.attempts) : Continues row next where
  sameEvent := sameEvent
  sameProject := sameProject
  sameType := sameType
  samePayload := samePayload
  sameEndpoint := sameEndpoint
  attemptsGrow := attemptsGrow
  isFinal := by
    intro final
    rw [isOpen] at final
    cases final

theorem unsettled (delivering : row.status = .delivering) (lastError : String)
    (nextAttemptAt : Nat) : Continues row (row.unsettled lastError nextAttemptAt) :=
  .of_open (by rw [delivering]; rfl) rfl rfl rfl rfl (fun _ => rfl) (Nat.le_succ _)

end Continues

/-- One operation and one row: how the delivery goes on, and when its attempts grow. -/
theorem Step.continues (step : Step before operation after) (isRow : row ∈ before.deliveries) :
    Continues row (before.rowAfter operation row) ∧
    (before.rowAfter operation row).attempts =
      row.attempts + if before.failsLease operation row then 1 else 0 := by
  cases operation with
  | publish | enqueueWebhookDelivery | setClock => exact ⟨.refl row, rfl⟩
  | bindUnboundWebhookDeliveries =>
    simp only [rowAfter, failsLease]
    split
    · next unbound =>
        simp only [WebhookRow.isFor, Bool.and_eq_true, decide_eq_true_eq] at unbound
        refine ⟨.of_open (by rw [unbound.2]; rfl) rfl rfl rfl rfl ?_ (Nat.le_refl _), rfl⟩
        intro bound
        exact absurd unbound.1.1 bound
    · exact ⟨.refl row, rfl⟩
  | claimWebhookDeliveries endpointDigest projectId leaseOwner limit later =>
    have between : Continues row (before.reclaimedRow endpointDigest projectId row) ∧
        (before.reclaimedRow endpointDigest projectId row).attempts = row.attempts +
          if row.isFor endpointDigest projectId && row.hasExpiredLease before.now
          then 1 else 0 := by
      rw [reclaimedRow]
      split
      · next expired =>
          rw [Bool.and_eq_true, WebhookRow.hasExpiredLease, Bool.and_eq_true] at expired
          exact ⟨.unsettled (of_decide_eq_true expired.2.1) _ _, rfl⟩
      · exact ⟨.refl row, rfl⟩
    simp only [rowAfter, failsLease]
    split
    · next isDue =>
        have queued := (queued_of_due (reclaimedRow_mem later isRow) isDue).1
        refine ⟨between.1.trans ?_, between.2⟩
        exact .of_open (by rw [queued]; rfl) rfl rfl rfl rfl (fun _ => rfl) (Nat.le_refl _)
    · exact between
  | markWebhookDelivered =>
    simp only [rowAfter, failsLease]
    split
    · next held =>
        have delivering := (delivering_of_isLeasedBy held).2.1
        refine ⟨.of_open ?_ rfl rfl rfl rfl (fun _ => rfl) (Nat.le_refl _), rfl⟩
        rw [delivering]
        rfl
    · exact ⟨.refl row, rfl⟩
  | markWebhookFailed eventId leaseOwner error =>
    cases held : row.isLeasedBy eventId leaseOwner with
    | true =>
      simp only [rowAfter, failsLease, held, if_true]
      exact ⟨.unsettled (delivering_of_isLeasedBy held).2.1 _ _, rfl⟩
    | false =>
      simp only [rowAfter, failsLease, held]
      exact ⟨.refl row, rfl⟩

/-- No delivery is lost, and each goes on as it may. -/
theorem continues_of_run {operations : List OutboxOperation}
    {start state : Outbox × LeaseHistory} (run : Trace TrackedStep start operations state)
    (isRow : row ∈ start.1.deliveries) : ∃ next ∈ state.1.deliveries, Continues row next := by
  induction run with
  | nil => exact ⟨row, isRow, .refl row⟩
  | snoc _ last ih =>
    obtain ⟨between, isBetween, first⟩ := ih
    exact ⟨_, last.1.rewrites.forward between isBetween,
      first.trans (last.1.continues isBetween).1⟩

theorem leasesSound_of_run {operations : List OutboxOperation}
    {state : Outbox × LeaseHistory}
    (run : Trace TrackedStep ({}, fun _ => []) operations state) :
    LeasesSound state.1 state.2 := by
  refine run.invariant (fun state => LeasesSound state.1 state.2) ?_ ?_
  · exact ⟨fun _ isRow => absurd isRow (Table.not_mem_empty _), fun _ _ => rfl⟩
  · intro before operation after step sound
    rw [step.2]
    exact sound.step step.1

/-- The event and the worker an outcome is recorded for. -/
def outcomeOf : OutboxOperation → Option (String × String)
  | .markWebhookDelivered eventId leaseOwner => some (eventId, leaseOwner)
  | .markWebhookFailed eventId leaseOwner _ => some (eventId, leaseOwner)
  | _ => none

/-- An outcome is recorded for a row in delivery, by the worker it is leased to. -/
theorem Step.outcome (step : Step before operation after)
    (records : outcomeOf operation = some (eventId, leaseOwner)) :
    ∃ row ∈ before.deliveries, row.isLeasedBy eventId leaseOwner = true := by
  have accepted := step.2
  cases operation with
  | markWebhookDelivered =>
    cases records
    exact (settle_ok accepted).1
  | markWebhookFailed =>
    cases records
    exact (settle_ok accepted).1
  | _ => cases records

theorem RowSound.lease_iff {now : Nat}
    (sound : RowSound now row leases) : row.status = .delivering ↔
      row.leaseOwner.isSome = true ∧ row.leaseUntil.isSome = true := by
  cases sound.current with
  | held _ _ delivering owner expiry => simp [delivering, owner, expiry]
  | free _ notDelivering noOwner _ => simp [notDelivering, noOwner]

theorem RowSound.no_lease {now : Nat}
    (sound : RowSound now row leases) (notDelivering : row.status ≠ .delivering) :
    row.leaseOwner = none ∧ row.leaseUntil = none := by
  cases sound.current with
  | held _ _ delivering => exact absurd delivering notDelivering
  | free _ _ noOwner noExpiry => exact ⟨noOwner, noExpiry⟩

/-- Two leases of one delivery that workers still hold are the same. -/
theorem RowSound.exclusive {now : Nat}
    (sound : RowSound now row leases) {lease other : Lease} (isLease : lease ∈ leases)
    (isOther : other ∈ leases) (held : lease.HeldAt now) (otherHeld : other.HeldAt now) :
    lease = other ∧ row.leaseOwner = some lease.owner := by
  have isOpen : ∀ lease ∈ leases, lease.HeldAt now → lease.fate = none := by
    intro lease isLease held
    cases fate : lease.fate with
    | none => rfl
    | some ended =>
      cases ended with
      | delivered => exact absurd fate held.1
      | failed => exact absurd fate held.2.1
      | expired =>
        have passed := sound.expired lease isLease fate
        exact absurd held.2.2 (Nat.not_lt.mpr passed)
  have leaseOpen := isOpen lease isLease held
  have otherOpen := isOpen other isOther otherHeld
  cases sound.current with
  | held newest earlier _ owner _ _ ended =>
    have isNewest : ∀ lease ∈ newest :: earlier, lease.fate = none → lease = newest := by
      intro lease isLease isOpen
      cases List.mem_cons.mp isLease with
      | inl same => exact same
      | inr isEarlier => exact absurd isOpen (ended lease isEarlier)
    rw [isNewest lease isLease leaseOpen, isNewest other isOther otherOpen]
    exact ⟨rfl, owner⟩
  | free _ _ _ _ ended => exact absurd leaseOpen (ended lease isLease)

theorem enqueued {eventId projectId eventType payload endpointDigest : String}
    (accepted : before.enqueueWebhookDelivery eventId projectId eventType payload
      endpointDigest = .ok after) :
    ∃ row ∈ after.deliveries, row.eventId = eventId ∧ row.projectId = projectId ∧
      row.eventType = eventType ∧ row.payload = payload ∧
      row.endpointDigest = endpointDigest := by
  simp only [enqueueWebhookDelivery, bind_eq_ok, require_eq_ok, exists_const] at accepted
  have accepted := accepted.2
  split at accepted
  · next deliveries inserted =>
      cases accepted
      exact ⟨_, (Table.mem_insert inserted).mpr (.inr rfl), rfl, rfl, rfl, rfl, rfl⟩
  · simp only [bind_eq_ok, require_eq_ok, exists_const, pure_eq_ok, Option.any_eq_true,
      Bool.and_eq_true, decide_eq_true_eq] at accepted
    obtain ⟨⟨row, found, ⟨⟨samePayload, sameEndpoint⟩, sameType⟩, sameProject⟩, rfl⟩ := accepted
    obtain ⟨isRow, sameEvent⟩ := Table.find_eq_some.mp found
    exact ⟨row, isRow, sameEvent, sameProject, sameType, samePayload, sameEndpoint⟩

/-- The protocol of the outbox.  Leases stand exactly while a row is delivering and are
held by one worker at a time; attempts count the leases that ended without a delivery, up
to the limit; outcomes come from the holder of the current lease; and what was enqueued
stays, with its payload, its bound endpoint and its final status. -/
theorem lease_protocol {operations : List OutboxOperation} {outbox : Outbox}
    {history : LeaseHistory}
    (run : Trace TrackedStep ({}, fun _ => []) operations (outbox, history)) :
    (∀ row ∈ outbox.deliveries,
      (row.status = .delivering ↔
        row.leaseOwner.isSome = true ∧ row.leaseUntil.isSome = true) ∧
      (row.status ≠ .delivering → row.leaseOwner = none ∧ row.leaseUntil = none) ∧
      (∀ lease ∈ history row.eventId, ∀ other ∈ history row.eventId,
        lease.HeldAt outbox.now → other.HeldAt outbox.now →
          lease = other ∧ row.leaseOwner = some lease.owner) ∧
      row.attempts = (history row.eventId).countP (·.isUnsuccessful) ∧
      row.attempts ≤ maxWebhookAttempts) ∧
    (∀ operation next, TrackedStep (outbox, history) operation next →
      (∀ eventId leaseOwner, outcomeOf operation = some (eventId, leaseOwner) →
        ∃ row ∈ outbox.deliveries, row.eventId = eventId ∧ row.status = .delivering ∧
          row.leaseOwner = some leaseOwner) ∧
      ∀ row ∈ outbox.deliveries, ∃ row' ∈ next.1.deliveries, row'.eventId = row.eventId ∧
        row'.attempts = row.attempts + if outbox.failsLease operation row then 1 else 0) ∧
    (∀ more later, Trace TrackedStep (outbox, history) more later →
      ∀ row ∈ outbox.deliveries, ∃ row' ∈ later.1.deliveries, Continues row row') ∧
    ∀ eventId projectId eventType payload endpointDigest next,
      outbox.enqueueWebhookDelivery eventId projectId eventType payload endpointDigest =
        .ok next →
      ∃ row ∈ next.deliveries, row.eventId = eventId ∧ row.projectId = projectId ∧
        row.eventType = eventType ∧ row.payload = payload ∧
        row.endpointDigest = endpointDigest := by
  have sound : LeasesSound outbox history := leasesSound_of_run run
  refine ⟨?_, ?_, fun _ _ continued _ isRow => continues_of_run continued isRow,
    fun _ _ _ _ _ _ accepted => enqueued accepted⟩
  · intro row isRow
    have rowSound := sound.rows row isRow
    refine ⟨rowSound.lease_iff, rowSound.no_lease, ?_, rowSound.counted, rowSound.bounded⟩
    intro lease isLease other isOther held otherHeld
    exact rowSound.exclusive isLease isOther held otherHeld
  · intro operation next step
    constructor
    · intro eventId leaseOwner records
      obtain ⟨row, isRow, held⟩ := step.1.outcome records
      exact ⟨row, isRow, delivering_of_isLeasedBy held⟩
    · intro row isRow
      exact ⟨_, step.1.rewrites.forward row isRow, rowAfter_eventId,
        (step.1.continues isRow).2⟩

/-- Apply an operation, and note what it adds to the history. -/
def track (state : Outbox × LeaseHistory) (operation : OutboxOperation) :
    Except LedgerError (Outbox × LeaseHistory) := do
  require (state.1.now ≤ state.1.clockAfter operation) .invalidQuery
  return (← state.1.apply operation, record state.2 state.1 operation)

theorem track_ok {state next : Outbox × LeaseHistory}
    (tracked : track state operation = .ok next) : TrackedStep state operation next := by
  simp only [track, bind_eq_ok, require_eq_ok, exists_const, pure_eq_ok,
    decide_eq_true_eq] at tracked
  obtain ⟨clock, after, applied, rfl⟩ := tracked
  exact ⟨⟨clock, applied⟩, rfl⟩

/-- The second worker gets the delivery after the lease of the first expired. -/
theorem lease_after_expiry : ∃ (operations : List OutboxOperation) (outbox : Outbox)
    (history : LeaseHistory) (row : WebhookRow),
      Trace TrackedStep ({}, fun _ => []) operations (outbox, history) ∧
      row ∈ outbox.deliveries ∧ row.leaseOwner = some "second" ∧ row.attempts = 1 ∧
      (history row.eventId).countP (·.isUnsuccessful) = 1 := by
  have replayed : (List.foldlM track ({}, fun _ => []) [
      .enqueueWebhookDelivery "event" "project" "migration.started" ""
        (String.ofList (List.replicate 64 'a')),
      .claimWebhookDeliveries (String.ofList (List.replicate 64 'a')) none "first" 1 5,
      .setClock 125,
      .claimWebhookDeliveries (String.ofList (List.replicate 64 'a')) none "second" 1
        126]).toOption.any (fun state => state.1.deliveries.any fun row =>
      decide (row.leaseOwner = some "second" ∧ row.attempts = 1)) = true := by
    decide +kernel
  obtain ⟨⟨outbox, history⟩, ran, leased⟩ := accepted_of_any replayed
  obtain ⟨row, isRow, leased⟩ := Table.any_eq_true.mp leased
  have leased := of_decide_eq_true leased
  have run := (Trace.of_foldlM ran).weaken track_ok
  have counted := ((lease_protocol run).1 row isRow).2.2.2.1
  exact ⟨_, outbox, history, row, run, isRow, leased.1, leased.2,
    counted.symm.trans leased.2⟩

end Outbox

end MailSwiftSync
