import MailSwiftSync.Foundation.Transition
import MailSwiftSync.Ledger.Completion

/-!
# The webhook outbox

Deliveries wait in a table until a worker leases them.  A worker that records no outcome
before its lease expires loses it to the next claim.
-/

namespace MailSwiftSync

open Foundation
open Ledger (require)

/-- States of a delivery. -/
inductive DeliveryStatus where
  | queued
  | delivering
  | delivered
  | deadLetter
deriving Repr, DecidableEq

namespace DeliveryStatus

/-- Statuses nothing leads out of. -/
def isFinal (status : DeliveryStatus) : Bool :=
  status = .delivered || status = .deadLetter

end DeliveryStatus

/-- What a worker gets to see of a delivery. -/
structure WebhookDelivery where
  eventId : String
  projectId : String
  eventType : String
  payload : String
  endpointDigest : String
  attempts : Nat := 0
  status : DeliveryStatus := .queued
  lastError : Option String := none
deriving Repr, DecidableEq

/-- A row of `webhook_deliveries`. -/
structure WebhookRow extends WebhookDelivery where
  nextAttemptAt : Nat
  createdAt : Nat
  deliveredAt : Option Nat := none
  leaseOwner : Option String := none
  leaseUntil : Option Nat := none
deriving Repr, DecidableEq

def maxWebhookPayloadBytes : Nat := 128 * 1024

def maxWebhookAttempts : Nat := 12

def webhookDeliveryLeaseSeconds : Nat := 120

/-- Characters of an endpoint digest. -/
def endpointDigestBytes : Nat := 64

namespace WebhookRow

/-- Whether a row is in the queue of an endpoint, of one project or of all. -/
def isFor (row : WebhookRow) (endpointDigest : String) (projectId : Option String) : Bool :=
  row.endpointDigest = endpointDigest && projectId.all (row.projectId = ·)

/-- The status after one more attempt without delivery. -/
def statusAfterFailure (row : WebhookRow) : DeliveryStatus :=
  if maxWebhookAttempts ≤ row.attempts + 1 then .deadLetter else .queued

/-- A row whose attempt did not deliver. -/
def unsettled (row : WebhookRow) (lastError : String) (nextAttemptAt : Nat) : WebhookRow :=
  { row with
    attempts := row.attempts + 1
    status := row.statusAfterFailure
    lastError := some lastError
    nextAttemptAt
    leaseOwner := none
    leaseUntil := none }

def hasExpiredLease (row : WebhookRow) (now : Nat) : Bool :=
  row.status = .delivering && row.leaseUntil.any (· ≤ now)

/-- A row whose lease expired. -/
def reclaimed (now : Nat) (row : WebhookRow) : WebhookRow :=
  row.unsettled "delivery lease expired before an outcome was recorded" now

def leased (owner : String) (leaseUntil : Nat) (row : WebhookRow) : WebhookRow :=
  { row with
    status := .delivering
    leaseOwner := some owner
    leaseUntil := some leaseUntil }

def delivered (now : Nat) (row : WebhookRow) : WebhookRow :=
  { row with
    status := .delivered
    deliveredAt := some now
    lastError := none
    leaseOwner := none
    leaseUntil := none }

/-- A row whose delivery failed, with its back-off. -/
def failed (now : Nat) (error : String) (row : WebhookRow) : WebhookRow :=
  row.unsettled (boundedEventDetail error) (now + 2 <<< (min (row.attempts + 1) 10 - 1))

def isLeasedBy (row : WebhookRow) (eventId leaseOwner : String) : Bool :=
  row.eventId = eventId && row.status = .delivering && row.leaseOwner = some leaseOwner

/-- `ORDER BY created_at,event_id`. -/
def isDueBefore (row other : WebhookRow) : Bool :=
  row.createdAt < other.createdAt ||
    (row.createdAt = other.createdAt && row.eventId ≤ other.eventId)

end WebhookRow

/-- The outbox and the clock of its store. -/
structure Outbox where
  now : Nat := 0
  deliveries : Table (fun row : WebhookRow => row.eventId) := .empty

namespace Outbox

variable (outbox : Outbox)

/-- A new row, as its columns default. -/
def newRow (eventId projectId eventType payload endpointDigest : String) : WebhookRow where
  eventId := eventId
  projectId := projectId
  eventType := eventType
  payload := payload
  endpointDigest := endpointDigest
  nextAttemptAt := outbox.now
  createdAt := outbox.now

/-- Insert one delivery exactly once. -/
def enqueueWebhookDelivery (eventId projectId eventType payload endpointDigest : String) :
    Except LedgerError Outbox := do
  require (eventId ≠ "" && projectId ≠ "" && eventType ≠ "" &&
    (endpointDigest = "" || endpointDigest.utf8ByteSize = endpointDigestBytes) &&
    payload.utf8ByteSize ≤ maxWebhookPayloadBytes) .invalidQuery
  match outbox.deliveries.insert
    (outbox.newRow eventId projectId eventType payload endpointDigest) with
  | some deliveries => return { outbox with deliveries }
  | none =>
    require ((outbox.deliveries.find eventId).any fun existing =>
      existing.payload = payload && existing.endpointDigest = endpointDigest &&
        existing.eventType = eventType && existing.projectId = projectId) .invalidQuery
    return outbox

/-- The trigger on events: an unbound delivery, unless there is one of that name. -/
def publish (eventId projectId eventType payload : String) : Outbox :=
  { outbox with
    deliveries := (outbox.deliveries.insert
      (outbox.newRow eventId projectId eventType payload "")).getD outbox.deliveries }

def bindUnboundWebhookDeliveries (endpointDigest : String) (projectId : Option String) :
    Except LedgerError Outbox := do
  require (endpointDigest.utf8ByteSize = endpointDigestBytes && projectId ≠ some "")
    .invalidQuery
  return { outbox with
    deliveries := outbox.deliveries.update
      (fun row => row.isFor "" projectId && row.status = .queued)
      (fun row => { row with endpointDigest }) }

/-- Count expired leases of an endpoint as attempts. -/
def reclaimExpired (endpointDigest : String) (projectId : Option String) : Outbox :=
  { outbox with
    deliveries := outbox.deliveries.update
      (fun row => row.isFor endpointDigest projectId && row.hasExpiredLease outbox.now)
      (WebhookRow.reclaimed outbox.now) }

/-- The events a claim leases. -/
def dueEvents (endpointDigest : String) (projectId : Option String) (limit : Nat) :
    List String :=
  (((outbox.deliveries.select fun row => row.isFor endpointDigest projectId &&
    row.status = .queued && row.nextAttemptAt ≤ outbox.now).mergeSort
      WebhookRow.isDueBefore).take (min limit 100)).map (·.eventId)

/-- Lease due rows of an endpoint.  The clock may move between the two statements. -/
def claimWebhookDeliveries (endpointDigest : String) (projectId : Option String)
    (leaseOwner : String) (limit later : Nat) :
    Except LedgerError (Outbox × List WebhookDelivery) := do
  require (endpointDigest.utf8ByteSize = endpointDigestBytes && leaseOwner ≠ "" &&
    projectId ≠ some "") .invalidQuery
  let reclaimed := { outbox.reclaimExpired endpointDigest projectId with now := later }
  let claimed := { reclaimed with
    deliveries := reclaimed.deliveries.update
      (fun row => row.eventId ∈ reclaimed.dueEvents endpointDigest projectId limit)
      (WebhookRow.leased leaseOwner (later + webhookDeliveryLeaseSeconds)) }
  return (claimed, (claimed.deliveries.select fun row =>
    row.eventId ∈ reclaimed.dueEvents endpointDigest projectId limit).map
      (·.toWebhookDelivery))

/-- Settle the row a worker holds. -/
def settle (eventId leaseOwner : String) (change : WebhookRow → WebhookRow)
    (keepsKey : ∀ row, (change row).eventId = row.eventId) : Except LedgerError Outbox := do
  require (outbox.deliveries.any (·.isLeasedBy eventId leaseOwner)) .invalidQuery
  return { outbox with
    deliveries := outbox.deliveries.update (·.isLeasedBy eventId leaseOwner) change keepsKey }

def markWebhookDelivered (eventId leaseOwner : String) : Except LedgerError Outbox :=
  outbox.settle eventId leaseOwner (WebhookRow.delivered outbox.now) fun _ => rfl

def markWebhookFailed (eventId leaseOwner error : String) : Except LedgerError Outbox :=
  outbox.settle eventId leaseOwner (WebhookRow.failed outbox.now error) fun _ => rfl

end Outbox

/-- A call on the outbox, or an event of the ledger it publishes. -/
inductive OutboxOperation where
  | publish (eventId projectId eventType payload : String)
  | enqueueWebhookDelivery (eventId projectId eventType payload endpointDigest : String)
  | bindUnboundWebhookDeliveries (endpointDigest : String) (projectId : Option String)
  | claimWebhookDeliveries (endpointDigest : String) (projectId : Option String)
      (leaseOwner : String) (limit later : Nat)
  | markWebhookDelivered (eventId leaseOwner : String)
  | markWebhookFailed (eventId leaseOwner error : String)
  | setClock (later : Nat)

namespace Outbox

/-- The outbox after an operation, or why it was refused. -/
def apply (outbox : Outbox) : OutboxOperation → Except LedgerError Outbox
  | .publish eventId projectId eventType payload =>
    .ok (outbox.publish eventId projectId eventType payload)
  | .enqueueWebhookDelivery eventId projectId eventType payload endpointDigest =>
    outbox.enqueueWebhookDelivery eventId projectId eventType payload endpointDigest
  | .bindUnboundWebhookDeliveries endpointDigest projectId =>
    outbox.bindUnboundWebhookDeliveries endpointDigest projectId
  | .claimWebhookDeliveries endpointDigest projectId leaseOwner limit later => do
      return (← outbox.claimWebhookDeliveries endpointDigest projectId leaseOwner limit later).1
  | .markWebhookDelivered eventId leaseOwner => outbox.markWebhookDelivered eventId leaseOwner
  | .markWebhookFailed eventId leaseOwner error =>
    outbox.markWebhookFailed eventId leaseOwner error
  | .setClock later => .ok { outbox with now := later }

/-- The clock an operation leaves behind. -/
def clockAfter (outbox : Outbox) : OutboxOperation → Nat
  | .claimWebhookDeliveries _ _ _ _ later => later
  | .setClock later => later
  | _ => outbox.now

/-- One accepted operation, while the clock does not go back. -/
def Step (before : Outbox) (operation : OutboxOperation) (after : Outbox) : Prop :=
  before.now ≤ before.clockAfter operation ∧ before.apply operation = .ok after

end Outbox

end MailSwiftSync
