import MailSwiftSync.Foundation.HashJoin
import MailSwiftSync.Verification.Summary

/-!
# In-memory metadata reconciliation

Exact Message-ID, wrong-folder and fingerprint passes over two message maps.
IMAP UIDs are mailbox-local and never identify a message across the two maps.
Hash sets that the code iterates are duplicate-free lists in iteration order;
those it only queries are finite sets.
-/

namespace MailSwiftSync

open Foundation

/-- The arguments of one reconciliation. -/
structure ReconciliationInput where
  jobId : String
  runId : String
  sourceMessages : ExtractedMessages
  destMessages : ExtractedMessages
  folderMapping : FolderMapping

/-! ## Indexes -/

/-- Keys by trimmed RFC Message-ID, each group in key order. -/
def indexByMessageId (messages : ExtractedMessages) : Buckets String MailboxMessageKey :=
  (Buckets.index (fun key => (messages.at key).rfcIdentity) messages.keys).mapQueues
    sortUnstable

/-- Eligible keys by destination folder and metadata. -/
def indexByFingerprint (parseDate : DateParser) (messages : ExtractedMessages)
    (eligible : List MailboxMessageKey) (folderMapping : FolderMapping)
    (sourceSide : Bool) : Buckets (String × MetadataFingerprint) MailboxMessageKey :=
  Buckets.index (fun key =>
    (metadataFingerprint parseDate (messages.at key)).map fun fingerprint =>
      (if sourceSide then expectedDestinationFolder key folderMapping else key.mailbox,
        fingerprint)) eligible

/-- The Message-IDs both sides have, in order. -/
def commonMessageIds (sourceByMessageId destByMessageId : Buckets String MailboxMessageKey) :
    List String :=
  sortUnstable (sourceByMessageId.keys.filter (· ∈ destByMessageId))

namespace ReconciliationInput

variable (platform : Platform) (input : ReconciliationInput)

/-- The mismatch record for a pair or a single message. -/
def mismatch (mismatchType : MismatchType) (sourceKey destKey : Option MailboxMessageKey) :
    MessageMismatch :=
  makeMismatch platform input.jobId input.runId mismatchType sourceKey destKey
    (sourceKey.map input.sourceMessages.at) (destKey.map input.destMessages.at)

/-- Folder and metadata of a source message, when it has metadata. -/
def sourceFolderMetadata (key : MailboxMessageKey) : Option (String × MetadataFingerprint) :=
  (metadataFingerprint platform.parseDate (input.sourceMessages.at key)).map
    (Prod.mk (expectedDestinationFolder key input.folderMapping))

/-- Folder and metadata of a destination message, when it has metadata. -/
def destFolderMetadata (key : MailboxMessageKey) : Option (String × MetadataFingerprint) :=
  (metadataFingerprint platform.parseDate (input.destMessages.at key)).map
    (Prod.mk key.mailbox)

end ReconciliationInput

/-! ## Pass 1: Message-ID and exact metadata -/

/-- What pass 1 gathers. -/
structure Pass1Result where
  log : MismatchLog := {}
  matchedSource : Finset MailboxMessageKey := ∅
  matchedDest : Finset MailboxMessageKey := ∅
  cleanPairs : List (MailboxMessageKey × MailboxMessageKey) := []

/-- Pairs of one Message-ID group whose folder and metadata agree. -/
def cleanPairsOf (platform : Platform) (input : ReconciliationInput)
    (sourceUids destUids : List MailboxMessageKey) :
    List (MailboxMessageKey × MailboxMessageKey) :=
  popEach (input.sourceFolderMetadata platform) sourceUids
    (Buckets.index (input.destFolderMetadata platform) destUids)

/-- Remaining pairs of one Message-ID group in the expected folder. -/
def changedPairsOf (input : ReconciliationInput)
    (matchedSource matchedDest : Finset MailboxMessageKey)
    (sourceUids destUids : List MailboxMessageKey) :
    List (MailboxMessageKey × MailboxMessageKey) :=
  popEach
    (fun key => if key ∈ matchedSource then none
      else some (expectedDestinationFolder key input.folderMapping))
    sourceUids
    (Buckets.index (fun key => if key ∈ matchedDest then none else some key.mailbox)
      destUids)

/-- Pass 1 on one Message-ID. -/
def pass1Group (platform : Platform) (input : ReconciliationInput)
    (sourceByMessageId destByMessageId : Buckets String MailboxMessageKey)
    (state : Pass1Result) (messageId : String) : Except String Pass1Result := do
  let sourceUids := sourceByMessageId.get messageId
  let destUids := destByMessageId.get messageId
  let clean := cleanPairsOf platform input sourceUids destUids
  let matchedSource := state.matchedSource ∪ (clean.map Prod.fst).toFinset
  let matchedDest := state.matchedDest ∪ (clean.map Prod.snd).toFinset
  let changed := changedPairsOf input matchedSource matchedDest sourceUids destUids
  let log ← (changed.map fun pair =>
    input.mismatch platform .messageIdOnly (some pair.1) (some pair.2)).foldlM
      appendMismatchWithBudget state.log
  return {
    log
    matchedSource := matchedSource ∪ (changed.map Prod.fst).toFinset
    matchedDest := matchedDest ∪ (changed.map Prod.snd).toFinset
    cleanPairs := state.cleanPairs ++ clean }

def pass1MessageIdExactMetadata (platform : Platform) (input : ReconciliationInput)
    (sourceByMessageId destByMessageId : Buckets String MailboxMessageKey) :
    Except String Pass1Result :=
  (commonMessageIds sourceByMessageId destByMessageId).foldlM
    (pass1Group platform input sourceByMessageId destByMessageId) {}

/-! ## Pass 2: wrong folders -/

/-- What pass 2 gathers. -/
structure Pass2Result where
  log : MismatchLog := {}
  matchedSource : Finset MailboxMessageKey := ∅
  matchedDest : Finset MailboxMessageKey := ∅

/-- Pairs of one Message-ID group with equal metadata in another folder: the
greatest folder below the expected one, or else the smallest above it. -/
def wrongFolderPairsOf (platform : Platform) (input : ReconciliationInput)
    (unmatchedSource unmatchedDest : List MailboxMessageKey)
    (sourceUids destUids : List MailboxMessageKey) :
    List (MailboxMessageKey × MailboxMessageKey) :=
  shelfEach
    (fun key => if key ∉ unmatchedSource then none
      else some (metadataFingerprint platform.parseDate (input.sourceMessages.at key)))
    (fun key => expectedDestinationFolder key input.folderMapping)
    sourceUids
    (Shelves.index
      (fun key => if key ∉ unmatchedDest then none
        else some (metadataFingerprint platform.parseDate (input.destMessages.at key)))
      (fun key => key.mailbox) destUids)

/-- Pass 2 on one Message-ID. -/
def pass2Group (platform : Platform) (input : ReconciliationInput)
    (unmatchedSource unmatchedDest : List MailboxMessageKey)
    (sourceByMessageId destByMessageId : Buckets String MailboxMessageKey)
    (state : Pass2Result) (messageId : String) : Except String Pass2Result := do
  let pairs := wrongFolderPairsOf platform input unmatchedSource unmatchedDest
    (sourceByMessageId.get messageId) (destByMessageId.get messageId)
  let log ← (pairs.map fun pair =>
    input.mismatch platform .presentWrongFolder (some pair.1) (some pair.2)).foldlM
      appendMismatchWithBudget state.log
  return {
    log
    matchedSource := state.matchedSource ∪ (pairs.map Prod.fst).toFinset
    matchedDest := state.matchedDest ∪ (pairs.map Prod.snd).toFinset }

def pass2WrongFolderDetection (platform : Platform) (input : ReconciliationInput)
    (unmatchedSource unmatchedDest : List MailboxMessageKey)
    (sourceByMessageId destByMessageId : Buckets String MailboxMessageKey) :
    Except String Pass2Result :=
  (commonMessageIds sourceByMessageId destByMessageId).foldlM
    (pass2Group platform input unmatchedSource unmatchedDest sourceByMessageId
      destByMessageId) {}

/-! ## Pass 3: unique metadata -/

/-- What pass 3 gathers. -/
structure Pass3Result where
  probableMatches : Nat
  matchedSource : Finset MailboxMessageKey
  matchedDest : Finset MailboxMessageKey

/-- The one pair of a bucket, when both sides hold a single message. -/
def singletonPair : List MailboxMessageKey → List MailboxMessageKey →
    Option (MailboxMessageKey × MailboxMessageKey)
  | [source], [dest] => some (source, dest)
  | _, _ => none

/-- Pairs of messages that are alone in their bucket on both sides. -/
def probablePairsOf
    (sourceByFingerprint destByFingerprint :
      Buckets (String × MetadataFingerprint) MailboxMessageKey) :
    List (MailboxMessageKey × MailboxMessageKey) :=
  let fingerprints := (sourceByFingerprint.keys.filter (· ∈ destByFingerprint)).map toLex
  ((sortUnstable fingerprints).map ofLex).filterMap fun fingerprint =>
    singletonPair (sourceByFingerprint.get fingerprint) (destByFingerprint.get fingerprint)

def pass3FingerprintFallback (platform : Platform) (input : ReconciliationInput)
    (unmatchedSource unmatchedDest : List MailboxMessageKey) : Pass3Result :=
  let pairs := probablePairsOf
    (indexByFingerprint platform.parseDate input.sourceMessages unmatchedSource
      input.folderMapping true)
    (indexByFingerprint platform.parseDate input.destMessages unmatchedDest
      input.folderMapping false)
  { probableMatches := pairs.length
    matchedSource := (pairs.map Prod.fst).toFinset
    matchedDest := (pairs.map Prod.snd).toFinset }

/-! ## The whole reconciliation -/

/-- A validated metadata reconciliation with the exact pairs it established. -/
structure MetadataReconciliation where
  mismatches : List MessageMismatch
  summary : VerificationSummary
  membership : VerificationMembership
  cleanPairs : List (MailboxMessageKey × MailboxMessageKey)

/-- Unmatched destinations whose Message-ID exists on the source, but fewer times. -/
def duplicateDestUids (sourceByMessageId destByMessageId : Buckets String MailboxMessageKey)
    (unmatchedDest : List MailboxMessageKey) : List MailboxMessageKey :=
  sortUnstable (((destByMessageId.entries.filter fun group =>
    (sourceByMessageId.lookup group.1).any fun sourceUids =>
      group.2.length > sourceUids.length).flatMap fun group => group.2).filter
        (· ∈ unmatchedDest))

/-- Records of the given kinds. -/
def ofKinds (kinds : List MismatchType) (mismatches : List MessageMismatch) :
    List MessageMismatch :=
  mismatches.filter (·.mismatchType ∈ kinds)

/-- Source keys named by records. -/
def namedSources (input : ReconciliationInput) (mismatches : List MessageMismatch) :
    Finset MailboxMessageKey :=
  (mismatches.filterMap
    (mismatchSourceKey · (buildUidFolderIndex input.sourceMessages))).toFinset

/-- Destination keys named by records. -/
def namedDestinations (input : ReconciliationInput) (mismatches : List MessageMismatch) :
    Finset MailboxMessageKey :=
  (mismatches.filterMap
    (mismatchDestinationKey · (buildUidFolderIndex input.destMessages))).toFinset

/-- Counters and membership, read back from the records. -/
def summarize (input : ReconciliationInput) (pass1 : Pass1Result) (pass3 : Pass3Result)
    (totalMetadataMatches : Nat) (mismatches : List MessageMismatch) :
    MetadataReconciliation :=
  let changed := ofKinds [.messageIdOnly, .presentWrongFolder] mismatches
  let changedSource := namedSources input changed
  let changedDestination := namedDestinations input changed
  { mismatches
    summary := {
      totalSource := input.sourceMessages.entries.length
      totalDestination := input.destMessages.entries.length
      metadataMatches := totalMetadataMatches
      rfcMessageIdMatches := totalMetadataMatches
      probableMatches := pass3.probableMatches
      syntheticIdentityMatches := (pass3.matchedSource.filter fun key =>
        (input.sourceMessages.at key).identityProvenance =
          .syntheticHeaderFingerprint).card
      missingCount := (ofKinds [.missing] mismatches).length
      extraCount := (ofKinds [.extra] mismatches).length
      duplicatedCount := (ofKinds [.duplicated] mismatches).length
      changedCount := changed.length }
    membership := {
      matchedSource := pass1.matchedSource.filter (· ∉ changedSource)
      matchedDestination := pass1.matchedDest.filter (· ∉ changedDestination)
      probableSource := pass3.matchedSource
      probableDestination := pass3.matchedDest
      missingSource := namedSources input (ofKinds [.missing] mismatches)
      extraDestination := namedDestinations input (ofKinds [.extra] mismatches)
      duplicatedDestination := namedDestinations input (ofKinds [.duplicated] mismatches)
      changedSource
      changedDestination }
    cleanPairs := pass1.cleanPairs }

/-- Reconcile two message maps by metadata. -/
def reconcileMetadata (platform : Platform) (input : ReconciliationInput) :
    Except String MetadataReconciliation := do
  enforceVerifierStateBudget
    (estimatedVerifierStateBytes input.sourceMessages input.destMessages)
  let sourceByMessageId := indexByMessageId input.sourceMessages
  let destByMessageId := indexByMessageId input.destMessages
  let pass1 ← pass1MessageIdExactMetadata platform input sourceByMessageId destByMessageId
  let totalMetadataMatches := pass1.matchedSource.card - pass1.log.mismatches.length
  let pass1Bytes := saturatingAdd 0 (mismatchDetailBytes pass1.log.mismatches)
  enforceMismatchDetailBudget pass1Bytes
  let unmatchedSource := input.sourceMessages.keys.filter (· ∉ pass1.matchedSource)
  let unmatchedDest := input.destMessages.keys.filter (· ∉ pass1.matchedDest)
  let pass2 ← pass2WrongFolderDetection platform input unmatchedSource unmatchedDest
    sourceByMessageId destByMessageId
  let pass2Bytes := saturatingAdd pass1Bytes (mismatchDetailBytes pass2.log.mismatches)
  enforceMismatchDetailBudget pass2Bytes
  let unmatchedSource := unmatchedSource.filter (· ∉ pass2.matchedSource)
  let unmatchedDest := unmatchedDest.filter (· ∉ pass2.matchedDest)
  let pass3 := pass3FingerprintFallback platform input unmatchedSource unmatchedDest
  let unmatchedSource := unmatchedSource.filter (· ∉ pass3.matchedSource)
  let unmatchedDest := unmatchedDest.filter (· ∉ pass3.matchedDest)
  let log ← ((sortUnstable unmatchedSource).map fun key =>
    input.mismatch platform .missing (some key) none).foldlM appendMismatchWithBudget
      ⟨pass1.log.mismatches ++ pass2.log.mismatches, pass2Bytes⟩
  let duplicates := duplicateDestUids sourceByMessageId destByMessageId unmatchedDest
  let log ← (duplicates.map fun key =>
    input.mismatch platform .duplicated none (some key)).foldlM appendMismatchWithBudget log
  let unmatchedDest := unmatchedDest.filter (· ∉ duplicates)
  let log ← ((sortUnstable unmatchedDest).map fun key =>
    input.mismatch platform .extra none (some key)).foldlM appendMismatchWithBudget log
  let result := summarize input pass1 pass3 totalMetadataMatches log.mismatches
  validateVerificationSummary platform input.sourceMessages input.destMessages
    result.mismatches result.summary result.membership
  return result

end MailSwiftSync
