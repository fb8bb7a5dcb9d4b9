import MailSwiftSync.Message

/-!
# Lifecycle states

The durable vocabularies of the ledger: mailbox states and their legal edges, run
statuses, project phases, cutover stages and the reasons for operator review.
-/

namespace MailSwiftSync

/-! ## Mailboxes -/

/-- Durable mailbox states. -/
inductive MailboxState where
  | queued
  | preflight
  | ready
  | running
  | completed
  | verified
  | verifiedWithExceptions
  | failed
  | cancelled
  | attention
  | deltaRequired
  | verificationDifference
deriving DecidableEq, Repr

namespace MailboxState

def asStr : MailboxState → String
  | queued => "queued"
  | preflight => "preflight"
  | ready => "ready"
  | running => "running"
  | completed => "completed"
  | verified => "verified"
  | verifiedWithExceptions => "verified_with_exceptions"
  | failed => "failed"
  | cancelled => "cancelled"
  | attention => "attention"
  | deltaRequired => "delta_required"
  | verificationDifference => "verification_difference"

/-- The states a mailbox may move to. -/
def successors : MailboxState → List MailboxState
  | queued => [preflight, ready, running, failed, cancelled, attention]
  | preflight => [ready, running, failed, cancelled]
  | ready => [running, failed, cancelled]
  | running =>
    [ready, completed, deltaRequired, verificationDifference, failed, cancelled, attention]
  | deltaRequired | verificationDifference =>
    [running, failed, cancelled, attention, verifiedWithExceptions]
  | completed => [verified, deltaRequired, verificationDifference, running, attention]
  | failed | cancelled => [running, attention]
  | verified | verifiedWithExceptions => [ready, deltaRequired, running, attention]
  | attention => [running]

end MailboxState

/-- The only legal durable mailbox-state edges. -/
def validMailboxTransition (current next : MailboxState) : Bool :=
  next ∈ current.successors

/-- Durable operator-review categories. -/
inductive AttentionReason where
  | interrupted
  | verificationIncomplete
  | verificationLimitExceeded
  | verificationDifference
  | processIdentityUnverified
  | authenticationFailed
  | transportFailed
  | policyBlocked
  | configurationInvalid
  | capacityLimited
  | messageRejected
  | unknown
deriving DecidableEq, Repr

def AttentionReason.asStr : AttentionReason → String
  | interrupted => "interrupted"
  | verificationIncomplete => "verification_incomplete"
  | verificationLimitExceeded => "verification_limit_exceeded"
  | verificationDifference => "verification_difference"
  | processIdentityUnverified => "process_identity_unverified"
  | authenticationFailed => "authentication_failed"
  | transportFailed => "transport_failed"
  | policyBlocked => "policy_blocked"
  | configurationInvalid => "configuration_invalid"
  | capacityLimited => "capacity_limited"
  | messageRejected => "message_rejected"
  | unknown => "unknown"

/-- All categories, in the order of their declaration. -/
def AttentionReason.all : List AttentionReason :=
  [interrupted, verificationIncomplete, verificationLimitExceeded, verificationDifference,
    processIdentityUnverified, authenticationFailed, transportFailed, policyBlocked,
    configurationInvalid, capacityLimited, messageRejected, unknown]

def AttentionReason.parse (value : String) : Option AttentionReason :=
  all.find? (·.asStr = value)

/-- `str::contains` for a literal. -/
def containsText (text literal : List Char) : Bool :=
  text.tails.any literal.isPrefixOf

/-- The text between a prefix and the first closing bracket after it. -/
def bracketed (start : String) (text : String) : Option String :=
  if startsWith text start then
    let rest := text.toList.drop start.length
    if ']' ∈ rest then some (String.ofList (rest.takeWhile (· ≠ ']'))) else none
  else none

/-- The category of a row that needs review, from its state and the run's detail. -/
def attentionReasonFor (mailboxState : MailboxState) (detail : String) :
    Option AttentionReason :=
  if mailboxState = .verificationDifference then some .verificationDifference
  else if mailboxState ∉ [.attention, .failed, .cancelled] then none
  else
    match (bracketed "[attention_reason=" detail).bind AttentionReason.parse with
    | some reason => some reason
    | none =>
      let text := detail.toList.map Char.toLower
      let mentions (words : List String) : Bool :=
        words.any fun word => containsText text word.toList
      if mentions ["identity", "ownership", "unverified"] then
        some .processIdentityUnverified
      else if mentions ["restart", "interrupt"] then some .interrupted
      else if mentions ["verification", "evidence"] then some .verificationIncomplete
      else if mentions ["auth", "credential", "password"] then some .authenticationFailed
      else if mentions ["rate", "quota", "capacity"] then some .capacityLimited
      else if mentions ["policy"] then some .policyBlocked
      else if mentions ["config", "invalid"] then some .configurationInvalid
      else if mentions ["network", "timeout", "connection"] then some .transportFailed
      else if mailboxState = .cancelled then some .interrupted
      else some .unknown

/-! ## Runs -/

/-- Durable run statuses. -/
inductive RunStatus where
  | queued
  | running
  | completed
  | failed
  | cancelled
  | abandoned
  | verificationFailed
deriving DecidableEq, Repr

namespace RunStatus

def asStr : RunStatus → String
  | queued => "queued"
  | running => "running"
  | completed => "completed"
  | failed => "failed"
  | cancelled => "cancelled"
  | abandoned => "abandoned"
  | verificationFailed => "verification_failed"

/-- `status IN ('queued','running')`. -/
def isActive (status : RunStatus) : Bool :=
  status = queued || status = running

@[simp] theorem isActive_eq_true {status : RunStatus} :
    status.isActive = true ↔ status = queued ∨ status = running := by
  simp [isActive]

@[simp] theorem isActive_eq_false {status : RunStatus} :
    status.isActive = false ↔ status ≠ queued ∧ status ≠ running := by
  simp [isActive]

end RunStatus

/-- The engine of audit-only runs. -/
def imapVerification : String := "imap-verification"

/-- The engine of a transfer run. -/
structure TransferEngine where
  name : String
  transfers : name ≠ imapVerification

/-! ## Projects -/

/-- Project phases. -/
inductive Phase where
  | discovery
  | preflight
  | pilot
  | seed
  | catchUp
  | finalDelta
  | verification
  | complete
  | attention
deriving DecidableEq, Repr

def Phase.asStr : Phase → String
  | discovery => "discovery"
  | preflight => "preflight"
  | pilot => "pilot"
  | seed => "seed"
  | catchUp => "catch_up"
  | finalDelta => "final_delta"
  | verification => "verification"
  | complete => "complete"
  | attention => "attention"

def phaseRank : Phase → Nat
  | .discovery => 0
  | .preflight => 1
  | .pilot => 2
  | .seed => 3
  | .catchUp => 4
  | .finalDelta => 5
  | .verification => 6
  | .complete => 7
  | .attention => 255

/-- Stages of a managed cutover. -/
inductive CutoverStage where
  | seed
  | catchUp
  | finalDelta
  | verification
  | completed
deriving DecidableEq, Repr

namespace CutoverStage

def asStr : CutoverStage → String
  | seed => "seed"
  | catchUp => "catch_up"
  | finalDelta => "final_delta"
  | verification => "verification"
  | completed => "completed"

def next : CutoverStage → Option CutoverStage
  | seed => some catchUp
  | catchUp => some finalDelta
  | finalDelta => some verification
  | verification => some completed
  | completed => none

/-- The project phase that belongs to a stage. -/
def phase : CutoverStage → Phase
  | seed => .seed
  | catchUp => .catchUp
  | finalDelta => .finalDelta
  | verification => .verification
  | completed => .complete

end CutoverStage

/-! ## Audit text -/

/-- `char::is_control`: the Unicode category `Cc`. -/
def isControl (c : Char) : Bool :=
  c.toNat < 0x20 || (0x7F ≤ c.toNat && c.toNat ≤ 0x9F)

/-- Operator text for the audit trail: trimmed, one line, bounded. -/
def singleLineAuditText (value : String) (maxBytes : Nat) : Option String :=
  let value := trim value
  let containsLineBreak := value.toList.any fun c =>
    isControl c || c = Char.ofNat 0x2028 || c = Char.ofNat 0x2029
  if value ≠ "" && value.utf8ByteSize ≤ maxBytes && !containsLineBreak then some value
  else none

end MailSwiftSync
