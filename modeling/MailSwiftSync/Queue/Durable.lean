import MailSwiftSync.Ledger.Plans
import MailSwiftSync.Queue.Imports

/-!
# Durable queue rows

An import stores the settings of its jobs once, as a shared plan, and for every row the fields
that are its own.  Passwords stay in the session.  A row is read back by putting its own fields
into the shared plan.
-/

namespace MailSwiftSync.Queue

open Foundation

/-! ## Stored texts -/

/-- Mailbox-specific fields stored beside a shared durable batch plan. -/
structure DurableBatchRowOverrides where
  sourceHost : String
  sourceUser : String
  sourceRateTenant : Option String
  sourceCredentialId : String
  sourceOauthRefreshCredentialId : String
  destinationHost : String
  destinationUser : String
  destinationRateTenant : Option String
  destinationCredentialId : String
  destinationOauthRefreshCredentialId : String
  profileName : Option String
deriving DecidableEq, Repr

/-- The TOML writer and reader; the errors are their messages. -/
structure PlanCodec where
  encodeProfile : Profile → Except String String
  decodeProfile : String → Except String Profile
  encodeOverrides : DurableBatchRowOverrides → Except String String
  decodeOverrides : String → Except String DurableBatchRowOverrides

/-- What is written is read back. -/
structure PlanCodec.RoundTrips (codec : PlanCodec) : Prop where
  profile : ∀ profile text, codec.encodeProfile profile = .ok text →
    codec.decodeProfile text = .ok profile
  overrides : ∀ overrides text, codec.encodeOverrides overrides = .ok text →
    codec.decodeOverrides text = .ok overrides

/-- The fields of a row beside the plan it shares. -/
def rowOverrides (profile defaults : Profile) : DurableBatchRowOverrides where
  sourceHost := profile.sourceHost
  sourceUser := profile.sourceUser
  sourceRateTenant := otherThan defaults.sourceRateTenant profile.sourceRateTenant
  sourceCredentialId := profile.sourceCredentialId
  sourceOauthRefreshCredentialId := profile.sourceOauthRefreshCredentialId
  destinationHost := profile.destinationHost
  destinationUser := profile.destinationUser
  destinationRateTenant := otherThan defaults.destinationRateTenant profile.destinationRateTenant
  destinationCredentialId := profile.destinationCredentialId
  destinationOauthRefreshCredentialId := profile.destinationOauthRefreshCredentialId
  profileName := otherThan "" profile.name

/-- A profile without the fields that rows have of their own, and without expert options. -/
def Profile.blanked (profile : Profile) : Profile :=
  { profile with
    sourceHost := ""
    sourceUser := ""
    sourceCredentialId := ""
    sourceOauthRefreshCredentialId := ""
    destinationHost := ""
    destinationUser := ""
    destinationCredentialId := ""
    destinationOauthRefreshCredentialId := ""
    extraOptions := "" }

/-- Put the fields of a row into its plan. -/
def Profile.override (profile : Profile) (overrides : DurableBatchRowOverrides) : Profile :=
  { profile with
    sourceHost := overrides.sourceHost
    sourceUser := overrides.sourceUser
    sourceRateTenant := overrides.sourceRateTenant.getD profile.sourceRateTenant
    sourceCredentialId := overrides.sourceCredentialId
    sourceOauthRefreshCredentialId := overrides.sourceOauthRefreshCredentialId
    destinationHost := overrides.destinationHost
    destinationUser := overrides.destinationUser
    destinationRateTenant := overrides.destinationRateTenant.getD profile.destinationRateTenant
    destinationCredentialId := overrides.destinationCredentialId
    destinationOauthRefreshCredentialId := overrides.destinationOauthRefreshCredentialId
    name := overrides.profileName.getD profile.name }

variable (codec : PlanCodec)

def durableBatchRowOverrides (profile defaults : Profile) : Except String String :=
  (codec.encodeOverrides (rowOverrides profile defaults)).mapError
    ("Could not serialize mailbox identity delta: " ++ ·)

def durableBatchPlanConfig (profile : Profile) : Except String String :=
  (codec.encodeProfile profile.blanked).mapError
    ("Could not serialize shared batch plan: " ++ ·)

def applyDurableBatchRowOverrides (profile : Profile) (overrides : Option String)
    (jobId : JobId) : Except String Profile :=
  match overrides with
  | none => .ok profile
  | some text => do
      let overrides ← (codec.decodeOverrides text).mapError
        (("Saved batch mailbox " ++ jobId ++ " has corrupt identity deltas: ") ++ ·)
      return profile.override overrides

def decodePersistedBatchProfile (config : Option String) (jobId : JobId) :
    Except String Profile :=
  match config with
  | none => .error ("Saved batch mailbox " ++ jobId ++ " has no migration plan")
  | some config =>
    if config.utf8ByteSize > maxPersistedProfileBytes then
      .error ("Saved batch mailbox " ++ jobId ++ " migration plan exceeds the " ++
        toString maxPersistedProfileBytes ++ "-byte limit")
    else (codec.decodeProfile config).mapError
      (("Saved batch mailbox " ++ jobId ++ " is corrupt: ") ++ ·)

/-! ## Importing -/

/-- Session passwords of rows, keyed by their identifiers. -/
abbrev SessionSecrets : Type := List (JobId × String × String)

structure ImportedQueue where
  projectId : ProjectId
  len : Nat
  sessionSecrets : SessionSecrets

/-- Why a queue operation was refused: a message, or an error of the store that the message
quotes. -/
inductive QueueError where
  | refused (message : String)
  | store (error : LedgerError)

variable (platform : LedgerPlatform)

/-- The first row whose destination an earlier row has; rows are counted from one. -/
def duplicateFrom (destinations : List String) (index : Nat) :
    List BulkJob → Except String (Option String)
  | [] => .ok none
  | job :: rest => do
      let key ← platform.exactIdentity job.profile.destination
      if key ∈ destinations then
        return some ("Mailbox " ++ toString (index + 1) ++ " targets a destination mailbox " ++
          "already used by another batch row; concurrent writes to one mailbox are blocked.")
      else duplicateFrom (key :: destinations) (index + 1) rest

def duplicateDestination (jobs : List BulkJob) : Except String (Option String) :=
  duplicateFrom platform [] 0 jobs

/-- One row of the queue; equal texts of shared plans are one allocation. -/
def queueInsert (plans : List String) (job : BulkJob) (plan : String) :
    Except String Ledger.QueueInsert := do
  let profile := job.profile
  let rowOverrides ← durableBatchRowOverrides codec profile job.defaults.profile
  return {
    destinationMailbox := profile.destinationUser
    destinationIdentity := platform.destinationIdentityFromParts profile.destinationUser
      profile.destinationUser profile.destinationHost profile.destinationTls
      profile.destinationPort
    config := ""
    batchPlanConfig := some ⟨plans.idxOf plan, plan⟩
    rowOverrides := some rowOverrides }

/-- The rows an import writes. -/
def importedRows (jobs : List BulkJob) : Except String (List Ledger.QueueInsert) := do
  if jobs.isEmpty then .error "The mailbox file contains no migration rows."
  let duplicate ← duplicateDestination platform jobs
  duplicate.elim (.ok ()) .error
  let plans ← jobs.mapM fun job => durableBatchPlanConfig codec job.defaults.profile
  (jobs.zip plans).mapM fun planned => queueInsert codec platform plans planned.1 planned.2

/-- Write an imported mailbox file to the ledger as a new batch queue. -/
def persistImportedQueue (ledger : Ledger) (jobs : List BulkJob) (projectId : ProjectId)
    (newJobId : Nat → JobId) (newPlanId : Nat → String) :
    Except QueueError (ImportedQueue × Ledger) := do
  let rows ← (importedRows codec platform jobs).mapError .refused
  let next ← (ledger.createBatchQueue platform projectId rows newJobId newPlanId).mapError .store
  let ids := (List.range jobs.length).map newJobId
  return ({
    projectId
    len := jobs.length
    sessionSecrets := ((ids.zip jobs).filter fun stored =>
        stored.2.sourcePassword ≠ "" || stored.2.destinationPassword ≠ "").map fun stored =>
      (stored.1, stored.2.sourcePassword, stored.2.destinationPassword) }, next)

/-! ## Reading back -/

/-- A row of the queue with its plan.  Labels are presentation facts outside of this model. -/
structure QueuePlanRow where
  id : JobId
  state : PresentedState
  label : String
  config : Option String
  rowOverrides : Option String

/-- `COALESCE(m.config,p.config)` and the overrides of a row. -/
def queuePlanRow (ledger : Ledger) (labels : JobId → String) (projectId : ProjectId)
    (job : MailboxJob) : QueuePlanRow where
  id := job.id
  state := ledger.effectiveState projectId job
  label := labels job.id
  config := ledger.planText job
  rowOverrides := job.rowOverrides

/-- Plans of the given jobs, in the order first requested; missing ones are omitted. -/
def queuePlans (ledger : Ledger) (labels : JobId → String) (projectId : ProjectId)
    (jobIds : List JobId) : List QueuePlanRow :=
  jobIds.eraseDups.filterMap fun jobId =>
    (ledger.jobIn projectId jobId).map (queuePlanRow ledger labels projectId)

/-- Every row of a queue, in queue order. -/
def queuePlanScan (ledger : Ledger) (labels : JobId → String) (projectId : ProjectId) :
    List QueuePlanRow :=
  (ledger.projectJobs projectId).map (queuePlanRow ledger labels projectId)

/-- The profile of a row: its plan with its own fields. -/
def rowProfile (row : QueuePlanRow) : Except String Profile := do
  let profile ← decodePersistedBatchProfile codec row.config row.id
  applyDurableBatchRowOverrides codec profile row.rowOverrides row.id

/-- Rebuild the executable plan of one durable row. -/
def jobFromPlan (row : QueuePlanRow) (extraOptions : String) (secrets : Option (String × String))
    (dryRun : Bool) : Except String BulkJob := do
  let profile ← rowProfile codec row
  let destinationTls :=
    if profile.destinationTls = "" then defaultDestinationTls else profile.destinationTls
  let passwords := secrets.getD ("", "")
  return .fromForm row.label {
    profile := { profile with destinationTls, extraOptions }
    sourcePassword := passwords.1
    destinationPassword := passwords.2
    dryRun } row.state

/-! ## Keyring references -/

/-- The credential reference of one side. -/
def Profile.reference (profile : Profile) (source : Bool) : String :=
  if source then profile.sourceCredentialId else profile.destinationCredentialId

/-- Replace the credential reference of one side. -/
def Profile.refer (profile : Profile) (source : Bool) (credentialId : String) : Profile :=
  if source then { profile with sourceCredentialId := credentialId }
  else { profile with destinationCredentialId := credentialId }

/-- Whether the session has a password of a row on one side. -/
def sideHasPassword (secrets : SessionSecrets) (source : Bool) (jobId : JobId) : Bool :=
  (secrets.lookup jobId).any fun passwords =>
    if source then passwords.1 ≠ "" else passwords.2 ≠ ""

/-- The new fields of a row without a password and a reference on one side. -/
def keyringUpdate (credentialId : String) (source : Bool) (secrets : SessionSecrets)
    (row : QueuePlanRow) : Except String (Option (JobId × String)) := do
  let defaults ← decodePersistedBatchProfile codec row.config row.id
  let profile ← applyDurableBatchRowOverrides codec defaults row.rowOverrides row.id
  if sideHasPassword secrets source row.id || trim (profile.reference source) ≠ "" then
    return none
  else
    return some (row.id,
      ← durableBatchRowOverrides codec (profile.refer source credentialId) defaults)

/-- Give every row that has neither a session password nor a credential reference on one side
the keyring credential; the number of rows is returned. -/
def applyKeyringToQueue (ledger : Ledger) (labels : JobId → String) (projectId : ProjectId)
    (credentialId : String) (source : Bool) (secrets : SessionSecrets) :
    Except QueueError (Nat × Ledger) := do
  let found ← ((queuePlanScan ledger labels projectId).mapM
    (keyringUpdate codec credentialId source secrets)).mapError .refused
  let updates := found.reduceOption
  if updates.isEmpty then return (0, ledger)
  else
    let next ← (ledger.updateQueuePlans projectId updates).mapError .store
    return (updates.length, next)

end MailSwiftSync.Queue
