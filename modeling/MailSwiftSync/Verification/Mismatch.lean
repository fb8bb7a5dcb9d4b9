import Mathlib.Algebra.BigOperators.Group.List.Basic
import Mathlib.Algebra.Order.Ring.Nat
import MailSwiftSync.Message

/-!
# Mismatch records and verifier budgets

A mismatch record names the messages it is about by folder, UIDVALIDITY and UID.
The verifier estimates the bytes of everything it keeps and fails closed, with a
tagged error, once an estimate passes its budget.
-/

namespace MailSwiftSync

/-! ## Structured limits -/

/-- One verifier safety limit. -/
inductive VerificationLimit where
  | folderInventory
  | responseSize
  | fetchedState
  | messageCount
  | bodyHashMessageCount
  | bodyHashMessageSize
  | bodyHashTotalSize
  | reconciliationState
  | stagingDiskSpace
  | deadline
deriving DecidableEq, Repr

namespace VerificationLimit

def code : VerificationLimit → String
  | folderInventory => "folder_inventory"
  | responseSize => "response_size"
  | fetchedState => "fetched_state"
  | messageCount => "message_count"
  | bodyHashMessageCount => "body_hash_message_count"
  | bodyHashMessageSize => "body_hash_message_size"
  | bodyHashTotalSize => "body_hash_total_size"
  | reconciliationState => "reconciliation_state"
  | stagingDiskSpace => "staging_disk_space"
  | deadline => "deadline"

/-- Prefix an error with the limit's tag. -/
def tag (limit : VerificationLimit) (error : String) : String :=
  "[verification_limit=" ++ limit.code ++ "] " ++ error

end VerificationLimit

def maxEstimatedVerifierStateBytes : Nat := 256 * 1024 * 1024

def estimatedReconciliationIndexBytesPerRecord : Nat := 128

def maxEstimatedMismatchDetailBytes : Nat := 64 * 1024 * 1024

/-! ## Records -/

/-- Mismatch classifications of the verifier. -/
inductive MismatchType where
  | messageIdOnly
  | presentWrongFolder
  | missing
  | extra
  | duplicated
deriving DecidableEq, Repr

def MismatchType.asStr : MismatchType → String
  | messageIdOnly => "message_id_only"
  | presentWrongFolder => "message_present_wrong_folder"
  | missing => "missing"
  | extra => "extra"
  | duplicated => "duplicated"

/-- What the verifier takes from outside: the date crate's parser, the random
UUID drawn for a record, and the `Debug` text of a key.  A reconciliation makes
at most one record per kind and pair of keys, so the draw is a function of them. -/
structure Platform where
  parseDate : DateParser
  newUuid : MismatchType → Option MailboxMessageKey → Option MailboxMessageKey → String
  debugKey : MailboxMessageKey → String

/-- Mismatch record to persist in the database. -/
structure MessageMismatch where
  id : String
  jobId : String
  runId : String
  mismatchType : MismatchType
  sourceFolder : Option String
  destinationFolder : Option String
  sourceUidvalidity : Option Nat
  destinationUidvalidity : Option Nat
  sourceUid : Option String
  destUid : Option String
  sourceMessageId : Option String
  destMessageId : Option String
  sourceSizeBytes : Option Nat
  destSizeBytes : Option Nat
  sourceDate : Option String
  destDate : Option String
  sourceFingerprint : Option String
  destinationFingerprint : Option String
deriving DecidableEq, Repr

def makeMismatch (platform : Platform) (jobId runId : String) (mismatchType : MismatchType)
    (sourceKey destKey : Option MailboxMessageKey)
    (source destination : Option ExtractedMessage) : MessageMismatch where
  id := runId ++ "-" ++ mismatchType.asStr ++ "-" ++
    platform.newUuid mismatchType sourceKey destKey
  jobId := jobId
  runId := runId
  mismatchType := mismatchType
  sourceFolder := sourceKey.map (·.mailbox)
  destinationFolder := destKey.map (·.mailbox)
  sourceUidvalidity := sourceKey.bind (·.uidvalidity)
  destinationUidvalidity := destKey.bind (·.uidvalidity)
  sourceUid := sourceKey.map (·.uid)
  destUid := destKey.map (·.uid)
  sourceMessageId := source.bind (·.messageId)
  destMessageId := destination.bind (·.messageId)
  sourceSizeBytes := source.bind (·.sizeBytes)
  destSizeBytes := destination.bind (·.sizeBytes)
  sourceDate := source.bind (·.internalDate)
  destDate := destination.bind (·.internalDate)
  sourceFingerprint := none
  destinationFingerprint := none

namespace MessageMismatch

/-- The source key a record names. -/
def sourceKey (mismatch : MessageMismatch) : Option MailboxMessageKey := do
  let uid ← mismatch.sourceUid
  let folder ← mismatch.sourceFolder
  return ⟨folder, mismatch.sourceUidvalidity, uid⟩

/-- The destination key a record names. -/
def destKey (mismatch : MessageMismatch) : Option MailboxMessageKey := do
  let uid ← mismatch.destUid
  let folder ← mismatch.destinationFolder
  return ⟨folder, mismatch.destinationUidvalidity, uid⟩

/-- Kind, source key and destination key of a record. -/
def classification (mismatch : MessageMismatch) :
    MismatchType × Option MailboxMessageKey × Option MailboxMessageKey :=
  (mismatch.mismatchType, mismatch.sourceKey, mismatch.destKey)

end MessageMismatch

section MakeMismatch

variable (platform : Platform) (jobId runId : String) (mismatchType : MismatchType)
  (sourceKey destKey : Option MailboxMessageKey)
  (source destination : Option ExtractedMessage)

@[simp] theorem makeMismatch_mismatchType :
    (makeMismatch platform jobId runId mismatchType sourceKey destKey source
      destination).mismatchType = mismatchType := rfl

@[simp] theorem makeMismatch_sourceKey :
    (makeMismatch platform jobId runId mismatchType sourceKey destKey source
      destination).sourceKey = sourceKey := by
  cases sourceKey <;> rfl

@[simp] theorem makeMismatch_destKey :
    (makeMismatch platform jobId runId mismatchType sourceKey destKey source
      destination).destKey = destKey := by
  cases destKey <;> rfl

@[simp] theorem makeMismatch_classification :
    (makeMismatch platform jobId runId mismatchType sourceKey destKey source
      destination).classification = (mismatchType, sourceKey, destKey) := by
  simp [MessageMismatch.classification]

end MakeMismatch

/-! ## Keys of a record -/

/-- The triples under which the keys of a map are found again. -/
def buildUidFolderIndex (messages : ExtractedMessages) :
    List ((Option Nat × String × String) × MailboxMessageKey) :=
  messages.keys.map fun key => ((key.uidvalidity, key.uid, key.mailbox), key)

def mismatchSourceKey (mismatch : MessageMismatch)
    (index : List ((Option Nat × String × String) × MailboxMessageKey)) :
    Option MailboxMessageKey := do
  let uid ← mismatch.sourceUid
  let folder ← mismatch.sourceFolder
  index.lookup (mismatch.sourceUidvalidity, uid, folder)

def mismatchDestinationKey (mismatch : MessageMismatch)
    (index : List ((Option Nat × String × String) × MailboxMessageKey)) :
    Option MailboxMessageKey := do
  let uid ← mismatch.destUid
  let folder ← mismatch.destinationFolder
  index.lookup (mismatch.destinationUidvalidity, uid, folder)

theorem lookup_buildUidFolderIndex (messages : ExtractedMessages)
    (key : MailboxMessageKey) :
    (buildUidFolderIndex messages).lookup (key.uidvalidity, key.uid, key.mailbox) =
      if key ∈ messages then some key else none := by
  simp only [AList.mem_keys, buildUidFolderIndex]
  induction messages.keys with
  | nil => simp
  | cons head rest ih =>
    by_cases same : key = head
    · subst same
      simp
    · have different : ((key.uidvalidity, key.uid, key.mailbox) ==
          (head.uidvalidity, head.uid, head.mailbox)) = false := by
        rw [beq_eq_false_iff_ne]
        intro equal
        simp only [Prod.mk.injEq] at equal
        apply same
        cases key
        cases head
        simp_all
      simp [List.lookup_cons, different, same, ih]

theorem mismatchSourceKey_eq (mismatch : MessageMismatch) (messages : ExtractedMessages) :
    mismatchSourceKey mismatch (buildUidFolderIndex messages) =
      mismatch.sourceKey.filter (· ∈ messages) := by
  cases uid : mismatch.sourceUid with
  | none => simp [mismatchSourceKey, MessageMismatch.sourceKey, uid]
  | some value =>
    cases folder : mismatch.sourceFolder with
    | none => simp [mismatchSourceKey, MessageMismatch.sourceKey, uid, folder]
    | some name =>
      have found := lookup_buildUidFolderIndex messages
        ⟨name, mismatch.sourceUidvalidity, value⟩
      simp [mismatchSourceKey, MessageMismatch.sourceKey, uid, folder, found,
        Option.filter]

theorem mismatchDestinationKey_eq (mismatch : MessageMismatch)
    (messages : ExtractedMessages) :
    mismatchDestinationKey mismatch (buildUidFolderIndex messages) =
      mismatch.destKey.filter (· ∈ messages) := by
  cases uid : mismatch.destUid with
  | none => simp [mismatchDestinationKey, MessageMismatch.destKey, uid]
  | some value =>
    cases folder : mismatch.destinationFolder with
    | none => simp [mismatchDestinationKey, MessageMismatch.destKey, uid, folder]
    | some name =>
      have found := lookup_buildUidFolderIndex messages
        ⟨name, mismatch.destinationUidvalidity, value⟩
      simp [mismatchDestinationKey, MessageMismatch.destKey, uid, folder, found,
        Option.filter]

/-! ## Budgets -/

/-- `str::len` of an optional text, zero when absent. -/
def optionLen (text : Option String) : Nat :=
  (text.map String.utf8ByteSize).getD 0

def estimatedVerifierRecordBytes (key : MailboxMessageKey) (message : ExtractedMessage) :
    Nat :=
  saturatingAdd (saturatingAdd (saturatingAdd (saturatingAdd 512 key.mailbox.utf8ByteSize)
    key.uid.utf8ByteSize) (optionLen message.messageId)) (optionLen message.internalDate)

/-- Saturating multiplication of `usize` values. -/
def saturatingMul (left right : Nat) : Nat :=
  min (left * right) (2 ^ 64 - 1)

def estimatedVerifierStateBytes (sourceMessages destMessages : ExtractedMessages) : Nat :=
  let recordBytes := (sourceMessages.entries ++ destMessages.entries).foldl
    (fun total entry => saturatingAdd total
      (saturatingMul (estimatedVerifierRecordBytes entry.1 entry.2) 2)) 0
  let recordCount := saturatingAdd sourceMessages.entries.length
    destMessages.entries.length
  saturatingAdd recordBytes
    (saturatingMul recordCount estimatedReconciliationIndexBytesPerRecord)

def verifierStateBudgetError : String :=
  VerificationLimit.reconciliationState.tag
    ("verification state exceeds the estimated " ++
      toString maxEstimatedVerifierStateBytes ++ "-byte aggregate verifier budget")

def enforceVerifierStateBudget (estimatedStateBytes : Nat) : Except String Unit :=
  if estimatedStateBytes > maxEstimatedVerifierStateBytes then
    .error verifierStateBudgetError
  else .ok ()

def estimatedMismatchBytes (mismatch : MessageMismatch) : Nat :=
  [mismatch.id.utf8ByteSize, mismatch.jobId.utf8ByteSize, mismatch.runId.utf8ByteSize,
    optionLen mismatch.sourceFolder, optionLen mismatch.destinationFolder,
    optionLen mismatch.sourceUid, optionLen mismatch.destUid,
    optionLen mismatch.sourceMessageId, optionLen mismatch.destMessageId,
    optionLen mismatch.sourceDate, optionLen mismatch.destDate,
    optionLen mismatch.sourceFingerprint,
    optionLen mismatch.destinationFingerprint].foldl saturatingAdd 384

def mismatchDetailBudgetError : String :=
  VerificationLimit.reconciliationState.tag
    ("verification mismatch detail exceeds the estimated " ++
      toString maxEstimatedMismatchDetailBytes ++ "-byte evidence budget")

/-- The check that follows a pass: its detail must fit the evidence budget. -/
def enforceMismatchDetailBudget (estimatedBytes : Nat) : Except String Unit :=
  if estimatedBytes > maxEstimatedMismatchDetailBytes then
    .error mismatchDetailBudgetError
  else .ok ()

/-- Mismatches gathered so far, with the running estimate of their size. -/
structure MismatchLog where
  mismatches : List MessageMismatch := []
  estimatedBytes : Nat := 0

def appendMismatchWithBudget (log : MismatchLog) (mismatch : MessageMismatch) :
    Except String MismatchLog :=
  let estimatedBytes := saturatingAdd log.estimatedBytes (estimatedMismatchBytes mismatch)
  if estimatedBytes > maxEstimatedMismatchDetailBytes then
    .error mismatchDetailBudgetError
  else .ok ⟨log.mismatches ++ [mismatch], estimatedBytes⟩

/-- The estimate for a whole list of records. -/
def mismatchDetailBytes (mismatches : List MessageMismatch) : Nat :=
  (mismatches.map estimatedMismatchBytes).sum

@[simp] theorem mismatchDetailBytes_append (left right : List MessageMismatch) :
    mismatchDetailBytes (left ++ right) =
      mismatchDetailBytes left + mismatchDetailBytes right := by
  simp [mismatchDetailBytes]

/-- Appending records one by one succeeds exactly when they all fit the budget. -/
theorem foldlM_appendMismatchWithBudget (mismatches : List MessageMismatch)
    (log : MismatchLog) (fits : log.estimatedBytes ≤ maxEstimatedMismatchDetailBytes) :
    mismatches.foldlM appendMismatchWithBudget log =
      if log.estimatedBytes + mismatchDetailBytes mismatches ≤
          maxEstimatedMismatchDetailBytes then
        .ok ⟨log.mismatches ++ mismatches,
          log.estimatedBytes + mismatchDetailBytes mismatches⟩
      else .error mismatchDetailBudgetError := by
  induction mismatches generalizing log with
  | nil =>
    simp [mismatchDetailBytes, fits]
    rfl
  | cons mismatch rest ih =>
    have total : mismatchDetailBytes (mismatch :: rest) =
        estimatedMismatchBytes mismatch + mismatchDetailBytes rest := by
      simp [mismatchDetailBytes]
    have bound : maxEstimatedMismatchDetailBytes < 2 ^ 64 - 1 := by decide
    rw [List.foldlM_cons, total]
    by_cases within : log.estimatedBytes + estimatedMismatchBytes mismatch ≤
        maxEstimatedMismatchDetailBytes
    · have exactSum : saturatingAdd log.estimatedBytes (estimatedMismatchBytes mismatch) =
          log.estimatedBytes + estimatedMismatchBytes mismatch := by
        rw [saturatingAdd]
        omega
      have step : appendMismatchWithBudget log mismatch = .ok
          ⟨log.mismatches ++ [mismatch],
            log.estimatedBytes + estimatedMismatchBytes mismatch⟩ := by
        rw [appendMismatchWithBudget, exactSum, if_neg (by omega)]
      rw [step]
      change rest.foldlM appendMismatchWithBudget _ = _
      rw [ih _ within]
      simp [Nat.add_assoc]
    · have tooMuch : saturatingAdd log.estimatedBytes (estimatedMismatchBytes mismatch) >
          maxEstimatedMismatchDetailBytes := by
        rw [saturatingAdd]
        omega
      have step : appendMismatchWithBudget log mismatch =
          .error mismatchDetailBudgetError := by
        rw [appendMismatchWithBudget, if_pos tooMuch]
      rw [step, if_neg (by omega)]
      rfl

end MailSwiftSync
