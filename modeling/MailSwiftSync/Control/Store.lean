import MailSwiftSync.Control.Authn
import MailSwiftSync.Control.Authz
import MailSwiftSync.Foundation.Effects

/-!
# The store of the control plane

Tenants, users, grants, sessions, API keys, projects, workers and the audit log, as tables of
one database.  Every operation takes the lock of the database, so that it is one step; what
its random numbers and clock readings are is left open.
-/

namespace MailSwiftSync.Control

open Foundation

/-! ## Rows -/

/-- A row of `tenants`. -/
structure Tenant where
  id : String
  name : String
  createdAt : Int
deriving DecidableEq

/-- A row of `users`. -/
structure User where
  id : String
  email : String
  displayName : String
  passwordHash : Option String
  failedLogins : Nat := 0
  lockedUntil : Option Int := none
  disabledAt : Option Int := none
  createdAt : Int
deriving DecidableEq

/-- A row of `role_grants`. -/
structure RoleGrant where
  userId : String
  role : Role
  tenant : Option String
  grantedBy : String
  createdAt : Int
deriving DecidableEq

/-- The unique index of `role_grants`. -/
def RoleGrant.index (grant : RoleGrant) : String × Role × String :=
  (grant.userId, grant.role, grant.tenant.getD "")

/-- A row of `sessions`. -/
structure Session where
  tokenHash : Digest
  userId : String
  method : String
  createdAt : Int
  expiresAt : Int
  revokedAt : Option Int := none
deriving DecidableEq

/-- A row of `api_keys`. -/
structure ApiKey where
  id : String
  keyHash : Digest
  ownerUserId : String
  tenant : String
  name : String
  scopes : String
  createdAt : Int
  expiresAt : Int
  revokedAt : Option Int := none
  lastUsedAt : Option Int := none
deriving DecidableEq

/-- A row of `projects`. -/
structure Project where
  id : String
  tenant : String
  name : String
  plan : String
  planRevision : Int
  planChangedBy : String
  approvedRevision : Option Int := none
  approvedBy : Option String := none
  createdAt : Int
deriving DecidableEq

/-- A row of `worker_enrollments`. -/
structure Enrollment where
  tokenHash : Digest
  tenant : String
  name : String
  createdBy : String
  createdAt : Int
  expiresAt : Int
  usedAt : Option Int := none
deriving DecidableEq

/-- A row of `workers`. -/
structure Worker where
  id : String
  tenant : String
  name : String
  credentialHash : Digest
  capabilities : String
  enrolledAt : Int
  lastSeenAt : Option Int := none
  revokedAt : Option Int := none
deriving DecidableEq

/-- States of an assignment; a lease belongs to exactly the leased ones. -/
inductive AssignmentState where
  | queued
  | leased (worker : String) (expiresAt : Int)
  | needsReconciliation
  | completed
  | failed
  | cancelled
deriving DecidableEq

namespace AssignmentState

def asStr : AssignmentState → String
  | queued => "queued"
  | leased _ _ => "leased"
  | needsReconciliation => "needs_reconciliation"
  | completed => "completed"
  | failed => "failed"
  | cancelled => "cancelled"

end AssignmentState

/-- A row of `assignments`. -/
structure Assignment where
  id : String
  tenant : String
  projectId : String
  planRevision : Int
  mailbox : String
  state : AssignmentState := .queued
  fencingToken : Nat := 0
  attempts : Nat := 0
  result : Option String := none
  createdBy : String
  createdAt : Int
  updatedAt : Int
deriving DecidableEq

/-- A row of `oidc_identities`. -/
structure OidcIdentity where
  issuer : String
  subject : String
  userId : String
  linkedAt : Int
deriving DecidableEq

/-- A row of `oidc_pending`. -/
structure OidcPending where
  stateHash : Digest
  provider : String
  nonce : String
  verifier : String
  expiresAt : Int
deriving DecidableEq

/-- The database. -/
structure Store where
  tenants : Table Tenant.id := .empty
  users : Table User.id := .empty
  grants : Table RoleGrant.index := .empty
  sessions : Table Session.tokenHash := .empty
  apiKeys : Table ApiKey.id := .empty
  projects : Table Project.id := .empty
  enrollments : Table Enrollment.tokenHash := .empty
  workers : Table Worker.id := .empty
  assignments : Table Assignment.id := .empty
  identities : Table (fun identity : OidcIdentity => (identity.issuer, identity.subject)) := .empty
  pending : Table OidcPending.stateHash := .empty
  audit : AuditLog := .empty

/-! ## Errors -/

/-- Why an operation is refused. -/
inductive StoreError where
  | conflict (reason : String)
  | invalid (reason : String)
  | notFound
  | internal (reason : String)
deriving DecidableEq, Repr

namespace StoreError

/-- How a refusal is audited. -/
def reason : StoreError → String
  | conflict reason => reason
  | invalid reason => reason
  | notFound => "not found"
  | internal _ => "internal error"

/-- A violated constraint of the schema. -/
def constraintViolation : StoreError :=
  .conflict "the change conflicts with an existing record"

end StoreError

/-- Stop unless a condition holds. -/
def ensure (condition : Bool) (error : StoreError) : Except StoreError Unit :=
  if condition then .ok () else .error error

@[simp] theorem ensure_eq_ok {condition : Bool} {error : StoreError} {value : Unit} :
    ensure condition error = .ok value ↔ condition = true := by
  cases condition with
  | false => simp [ensure]
  | true => simp [ensure]

/-- The row that is needed. -/
def needed {α : Type} (row : Option α) (error : StoreError) : Except StoreError α :=
  row.elim (.error error) .ok

@[simp] theorem needed_eq_ok {α : Type} {row : Option α} {error : StoreError} {value : α} :
    needed row error = .ok value ↔ row = some value := by
  cases row with
  | none => simp [needed]
  | some found => simp [needed]

/-- `INSERT`, with the constraints of the table besides its key. -/
def insertRow {ρ κ : Type} [DecidableEq κ] {key : ρ → κ} (table : Table key) (row : ρ)
    (constraints : Bool) : Except StoreError (Table key) := do
  ensure constraints .constraintViolation
  needed (table.insert row) .constraintViolation

theorem insertRow_eq_ok {ρ κ : Type} [DecidableEq κ] {key : ρ → κ} {table table' : Table key}
    {row : ρ} {constraints : Bool} :
    insertRow table row constraints = .ok table' ↔
      constraints = true ∧ table.insert row = some table' := by
  simp only [insertRow, bind_eq_ok, ensure_eq_ok, needed_eq_ok, exists_const]

/-! ## Transactions -/

/-- Who is acting, for audit entries. -/
structure Actor where
  requestId : String
  label : String
deriving DecidableEq

/-- An operation of the store. -/
abbrev Operation := Effect Store StoreError

/-- The change of a transaction. -/
abbrev Edit := Change Store StoreError

section Operations

variable (libraries : Libraries) (env : Environment) {α : Type}

/-- Append an audit entry. -/
def Store.record (store : Store) (entry : AuditEntry) : Store :=
  { store with audit := appendAudit libraries.sha256 store.audit entry }

/-- An entry for an actor. -/
def Actor.entry (actor : Actor) (time : Int) (tenant : Option String)
    (action resource detail : String) (allowed : Bool) : AuditEntry where
  time := time
  requestId := actor.requestId
  actor := actor.label
  tenant := tenant
  action := action
  resource := resource
  allowed := allowed
  detail := detail

/-- Append one entry. -/
def audit (entry : AuditEntry) : Operation Unit :=
  .modify fun store => store.record libraries entry

/-- An audit entry as the service shows it. -/
structure AuditView where
  seq : Int
  entry : AuditEntry
  hash : Digest
deriving DecidableEq

/-- Audit entries, newest first, of one tenant or of all. -/
def auditEntries (tenant : Option String) (before : Option Int) (limit : Int) :
    Operation (List AuditView) := .reading fun store => .ok
  ((((ordered store.audit).reverse.filter fun row =>
    tenant.all (row.entry.tenant = some ·) && before.all (row.seq < ·)).take
      (max 1 (min limit 1000)).toNat).map fun row =>
        { seq := row.seq, entry := row.entry, hash := row.hash })

/-- Recompute the hash chain. -/
def verifyAudit : Effect Store String Nat :=
  .reading fun store => verifyAuditChain libraries.sha256 store.audit

/-- A change and its audit entry in one transaction; a failed change is audited as a refusal
instead. -/
def mutate (time : Int) (actor : Actor) (tenant : Option String)
    (action resource detail : String) (change : Edit α) : Operation α := fun store =>
  match change store with
  | .ok (value, changed) =>
    (.ok value, changed.record libraries
      (actor.entry time tenant action resource detail true))
  | .error error =>
    (.error error, store.record libraries
      (actor.entry time tenant action resource error.reason false))

/-- The store after a change that succeeds. -/
theorem mutate_of_ok {time : Int} {actor : Actor} {tenant : Option String}
    {action resource detail : String} {change : Edit α} {store changed : Store} {value : α}
    (accepted : change store = .ok (value, changed)) :
    (mutate libraries time actor tenant action resource detail change store).2 =
      changed.record libraries (actor.entry time tenant action resource detail true) := by
  rw [mutate, accepted]

/-- The store after a change that fails. -/
theorem mutate_of_error {time : Int} {actor : Actor} {tenant : Option String}
    {action resource detail : String} {change : Edit α} {store : Store} {error : StoreError}
    (refused : change store = .error error) :
    (mutate libraries time actor tenant action resource detail change store).2 =
      store.record libraries (actor.entry time tenant action resource error.reason false) := by
  rw [mutate, refused]

/-- What a change and audit entries keep, an operation keeps. -/
theorem keeps_mutate {relation : Store → Store → Prop} [IsPreorder Store relation] {time : Int}
    {actor : Actor} {tenant : Option String} {action resource detail : String} {change : Edit α}
    (recording : ∀ store entry, relation store (store.record libraries entry))
    (changes : ∀ store value changed, change store = .ok (value, changed) →
      relation store changed) :
    Effect.Keeps relation (mutate libraries time actor tenant action resource detail change) := by
  intro store
  rw [mutate]
  split
  · next ran => exact trans_of relation (changes _ _ _ ran) (recording _ _)
  · exact recording _ _

/-! ## Texts -/

def maxNameChars : Nat := 200

def maxPlanBytes : Nat := 256 * 1024

def validateName (value what : String) : Except StoreError String :=
  let value := trim value
  if value = "" || maxNameChars < value.length || value.toList.any isControl then
    .error (.invalid ("the " ++ what ++ " must be 1 to " ++ toString maxNameChars ++
      " characters without control characters"))
  else .ok value

/-- `split_once`. -/
def splitOnce (separator : Char) (text : List Char) : Option (List Char × List Char) :=
  match text.dropWhile (· ≠ separator) with
  | [] => none
  | _ :: rest => some (text.takeWhile (· ≠ separator), rest)

/-- `split`. -/
def splitText (separator : Char) (text : String) : List String :=
  (text.toList.splitOn separator).map String.ofList

def validateEmail (value : String) : Except StoreError String := do
  let value ← validateName value "email address"
  let valid := (splitOnce '@' value.toList).any (fun (name, domain) =>
    !name.isEmpty && domain.contains '.' && !domain.contains '@') &&
      !value.toList.any isWhitespace
  ensure valid (.invalid "the email address is not valid")
  return value

/-- `to_ascii_lowercase`, and how `NOCASE` columns compare. -/
def asciiLowercase (text : String) : String := text.map Char.toLower

def containsText (text part : String) : Bool :=
  text.toList.tails.any (part.toList.isPrefixOf ·)

def credentialMarkers : List String :=
  ["password", "passwd", "secret", "token", "credential", "private_key"]

/-- Whether the name of a field suggests a credential. -/
def looksLikeCredential (key : String) : Bool :=
  credentialMarkers.any (containsText (asciiLowercase key))

mutual

/-- The first field whose name suggests a credential. -/
def credentialField : Json → Option String
  | .object fields => credentialFieldOfFields fields
  | .array items => credentialFieldOfItems items
  | _ => none

def credentialFieldOfItems : List Json → Option String
  | [] => none
  | item :: items => credentialField item <|> credentialFieldOfItems items

def credentialFieldOfFields : List (String × Json) → Option String
  | [] => none
  | (key, value) :: fields =>
    (if looksLikeCredential key then some key else credentialField value) <|>
      credentialFieldOfFields fields

end

def Json.isObject : Json → Bool
  | .object _ => true
  | _ => false

/-- The text of a plan; fields that look like credentials are refused. -/
def validatePlan (plan : Json) : Except StoreError String := do
  ensure plan.isObject (.invalid "the plan must be a JSON object")
  match credentialField plan with
  | some field =>
    .error (.invalid ("the plan field " ++ libraries.debugText field ++
      " looks like a credential; mailbox credentials stay on the worker and are never " ++
      "sent to the control plane"))
  | none =>
    let text := libraries.jsonText plan
    ensure (text.utf8ByteSize ≤ maxPlanBytes)
      (.invalid ("the plan exceeds " ++ toString maxPlanBytes ++ " bytes"))
    return text

end Operations

end MailSwiftSync.Control
