import MailSwiftSync.Staged.Stage
import MailSwiftSync.Verification.Summary

/-!
# Reconciliation on the stage

The passes of the in-memory reconciliation, carried out by SQLite: joins on row
numbers over the staged tables, and loops over pages of the rows that are still
unmatched.  The reconciler writes the keys it has matched and its mismatches to
tables of their own.
-/

namespace MailSwiftSync

open Foundation

namespace StagedRow

variable {parseDate : DateParser}

/-- `message_id IS NOT NULL AND identity_provenance='rfc_message_id'`. -/
def identity (row : StagedRow parseDate) : Option String :=
  if row.identityProvenance = .rfcMessageId then row.messageId else none

/-- `date_key IS NOT NULL AND size_bytes IS NOT NULL`. -/
def metadata (row : StagedRow parseDate) : Option (String × Nat) :=
  row.dateKey.bind fun dateKey => row.sizeBytes.map (Prod.mk dateKey)

/-- `PARTITION BY message_id,match_mailbox,date_key,size_bytes`. -/
def exactKey (folder : StagedRow parseDate → String) (row : StagedRow parseDate) :
    Option (String × String × String × Nat) :=
  row.identity.bind fun messageId =>
    (row.metadata.map (Prod.mk (folder row))).map (Prod.mk messageId)

/-- `PARTITION BY message_id,match_mailbox`. -/
def changedKey (folder : StagedRow parseDate → String) (row : StagedRow parseDate) :
    Option (String × String) :=
  row.identity.bind fun messageId => (some (folder row)).map (Prod.mk messageId)

/-- The columns the wrong-folder queries compare. -/
def placementKey (row : StagedRow parseDate) : Option (String × String × Nat) :=
  row.identity.bind fun messageId => row.metadata.map (Prod.mk messageId)

/-- `PARTITION BY match_mailbox,date_key,size_bytes`. -/
def probableKey (row : StagedRow parseDate) : Option (String × String × Nat) :=
  row.metadata.map (Prod.mk row.matchMailbox)

/-- `UPDATE staged_messages SET match_mailbox=COALESCE(…,mailbox) WHERE side=0`. -/
def mapFolder (folderMapping : FolderMapping) (row : StagedRow parseDate) :
    StagedRow parseDate :=
  if isSource : row.side = .source then
    { row with
      matchMailbox := (folderMapping.lookup row.mailbox).getD row.mailbox
      ownFolder := by simp [isSource] }
  else row

@[simp] theorem mapFolder_rowid (folderMapping : FolderMapping) (row : StagedRow parseDate) :
    (row.mapFolder folderMapping).rowid = row.rowid := by
  unfold mapFolder
  split <;> rfl

@[simp] theorem mapFolder_key (folderMapping : FolderMapping) (row : StagedRow parseDate) :
    (row.mapFolder folderMapping).key = row.key := by
  unfold mapFolder
  split <;> rfl

end StagedRow

/-- The stage once its source folders are mapped. -/
def MessageMetadataStage.mapFolders {parseDate : DateParser} (folderMapping : FolderMapping)
    (stage : MessageMetadataStage parseDate) : MessageMetadataStage parseDate :=
  { stage with
    rows := stage.rows.map (StagedRow.mapFolder folderMapping)
    rowidOrder := by
      rw [List.pairwise_map]
      simpa using stage.rowidOrder
    rowidPositive := by
      intro row membership
      obtain ⟨original, inRows, rfl⟩ := List.mem_map.mp membership
      simpa using stage.rowidPositive original inRows
    primaryKey := by
      rw [List.map_map]
      simpa [Function.comp_def] using stage.primaryKey }

/-- The arguments of one staged reconciliation. -/
structure StagedInput (platform : Platform) where
  jobId : String
  runId : String
  stage : MessageMetadataStage platform.parseDate
  folderMapping : FolderMapping

/-- The tables `staged_matched` and `staged_mismatches`, with the counters. -/
structure StagedProgress where
  matched : List StagedKey := []
  mismatches : List MessageMismatch := []
  missingCount : Nat := 0
  extraCount : Nat := 0
  duplicatedCount : Nat := 0
  changedCount : Nat := 0

namespace StagedProgress

/-- `INSERT INTO staged_matched`: the primary key allows every key once. -/
def insertMatched (context : String) (keys : List StagedKey) (progress : StagedProgress) :
    Except String StagedProgress :=
  if (progress.matched ++ keys).Nodup then
    .ok { progress with matched := progress.matched ++ keys }
  else .error (context ++ ": UNIQUE constraint failed: staged_matched.side, " ++
    "staged_matched.mailbox, staged_matched.uidvalidity, staged_matched.uid")

/-- The rows without an entry in `staged_matched`. -/
def unmatched {parseDate : DateParser} (progress : StagedProgress)
    (rows : List (StagedRow parseDate)) : List (StagedRow parseDate) :=
  rows.filter (·.key ∉ progress.matched)

/-- Stage one mismatch row. -/
def appendStageMismatch (progress : StagedProgress) (mismatch : MessageMismatch) :
    StagedProgress :=
  { progress with mismatches := progress.mismatches ++ [mismatch] }

end StagedProgress

def stageBatchSize : Nat := 512

/-- What `batch` selects: rows of one side that are unmatched and, on request, carry a
Message-ID or metadata. -/
def stageEligible {parseDate : DateParser} (side : StagedMessageSide)
    (onlyMessageId onlyMetadata : Bool) (progress : StagedProgress)
    (row : StagedRow parseDate) : Bool :=
  row.side = side && row.key ∉ progress.matched &&
    (!onlyMessageId || row.messageId.isSome) &&
    (!onlyMetadata || (row.dateKey.isSome && row.sizeBytes.isSome))

def sqliteStageSize {parseDate : DateParser} (row : StagedRow parseDate) :
    Except String Nat :=
  match row.sizeBytes with
  | some size => .ok size
  | none => .error "staged metadata is missing RFC822.SIZE"

namespace StagedInput

variable {platform : Platform} (input : StagedInput platform)

/-- The table `staged_messages` during reconciliation. -/
def rows : List (StagedRow platform.parseDate) :=
  (input.stage.mapFolders input.folderMapping).rows

/-- The source rows, in rowid order. -/
def sourceRows : List (StagedRow platform.parseDate) :=
  input.rows.filter (·.side = .source)

/-- The destination rows, in rowid order. -/
def destRows : List (StagedRow platform.parseDate) :=
  input.rows.filter (·.side = .destination)

/-- The mismatch record for a pair or a single row. -/
def mismatch (mismatchType : MismatchType)
    (source destination : Option (StagedRow platform.parseDate)) : MessageMismatch :=
  makeMismatch platform input.jobId input.runId mismatchType
    (source.map StagedRow.messageKey) (destination.map StagedRow.messageKey)
    (source.map StagedRow.message) (destination.map StagedRow.message)

/-- The keys of both members of every pair. -/
def pairKeys (pairs : List (StagedRow platform.parseDate × StagedRow platform.parseDate)) :
    List StagedKey :=
  pairs.map (fun pair => pair.1.key) ++ pairs.map fun pair => pair.2.key

/-- Read the unmatched rows of one side page by page.  Every page but the last moves
the cursor past a row, so the bound on the number of pages is never reached. -/
def forEachUnmatched (side : StagedMessageSide) (onlyMessageId onlyMetadata : Bool)
    (step : StagedProgress → StagedRow platform.parseDate → Except String StagedProgress)
    (progress : StagedProgress) : Except String StagedProgress :=
  pageLoop
    (page input.rows StagedRow.rowid (stageEligible side onlyMessageId onlyMetadata)
      stageBatchSize)
    StagedRow.rowid step "staged reconciliation did not finish" (input.rows.length + 1)
    progress 0

/-! ## The passes -/

/-- `staged_exact_pairs`. -/
def exactPairs : List (StagedRow platform.parseDate × StagedRow platform.parseDate) :=
  rankJoin (StagedRow.exactKey StagedRow.matchMailbox) StagedRow.rowid input.sourceRows
    (StagedRow.exactKey StagedRow.mailbox) StagedRow.orderKey input.destRows

/-- `staged_changed_pairs`, in the order of the source rows. -/
def changedPairs (progress : StagedProgress) :
    List (StagedRow platform.parseDate × StagedRow platform.parseDate) :=
  rankJoin (StagedRow.changedKey StagedRow.matchMailbox) StagedRow.rowid
    (progress.unmatched input.sourceRows)
    (StagedRow.changedKey StagedRow.mailbox) StagedRow.orderKey
    (progress.unmatched input.destRows)

/-- Record one changed pair. -/
def recordChanged (progress : StagedProgress)
    (pair : StagedRow platform.parseDate × StagedRow platform.parseDate) : StagedProgress :=
  { progress.appendStageMismatch
      (input.mismatch .messageIdOnly (some pair.1) (some pair.2)) with
    changedCount := progress.changedCount + 1 }

/-- The free destination row nearest to the folder a source row is expected in: the
query below that folder first, then the one above it. -/
def wrongFolderCandidate (progress : StagedProgress)
    (source : StagedRow platform.parseDate) (size : Nat) :
    Option (StagedRow platform.parseDate) :=
  (source.messageId.bind fun messageId => source.dateKey.map fun dateKey =>
    (messageId, dateKey, size)).bind fun columns =>
      nearestRow StagedRow.placementKey StagedRow.mailbox StagedRow.minorKey
        (progress.unmatched input.destRows) columns
        (expectedDestinationFolder source.messageKey input.folderMapping)

/-- Mark and record one message in a wrong folder. -/
def recordWrongFolder (progress : StagedProgress)
    (source destination : StagedRow platform.parseDate) : Except String StagedProgress := do
  let progress ← progress.insertMatched "could not mark staged message as matched"
    [source.key]
  let progress ← progress.insertMatched "could not mark staged message as matched"
    [destination.key]
  return { progress.appendStageMismatch
      (input.mismatch .presentWrongFolder (some source) (some destination)) with
    changedCount := progress.changedCount + 1 }

/-- The same Message-ID and metadata in a wrong folder. -/
def wrongFolderStep (progress : StagedProgress) (source : StagedRow platform.parseDate) :
    Except String StagedProgress :=
  if source.message.identityProvenance ≠ .rfcMessageId then .ok progress
  else do
    let size ← sqliteStageSize source
    match input.wrongFolderCandidate progress source size with
    | none => .ok progress
    | some destination => input.recordWrongFolder progress source destination

/-- `staged_probable_pairs`. -/
def probablePairs (progress : StagedProgress) :
    List (StagedRow platform.parseDate × StagedRow platform.parseDate) :=
  loneJoin StagedRow.probableKey (progress.unmatched input.sourceRows)
    StagedRow.probableKey (progress.unmatched input.destRows)

/-- Record a source row without a partner. -/
def missingStep (progress : StagedProgress) (source : StagedRow platform.parseDate) :
    Except String StagedProgress :=
  .ok { progress.appendStageMismatch (input.mismatch .missing (some source) none) with
    missingCount := progress.missingCount + 1 }

/-- Rows of one side with an RFC Message-ID. -/
def countId (rows : List (StagedRow platform.parseDate)) (messageId : String) : Nat :=
  (rows.filter fun row => row.identity = some messageId).length

/-- `staged_duplicate_ids`: Message-IDs the source has, but fewer times. -/
def duplicateIds : List String :=
  (input.destRows.filterMap StagedRow.identity).dedup.filter fun messageId =>
    countId input.sourceRows messageId < countId input.destRows messageId ∧
      0 < countId input.sourceRows messageId

/-- Record a destination row without a partner. -/
def surplusStep (progress : StagedProgress) (destination : StagedRow platform.parseDate) :
    Except String StagedProgress :=
  if destination.messageId.any (· ∈ input.duplicateIds) then
    .ok { progress.appendStageMismatch
        (input.mismatch .duplicated none (some destination)) with
      duplicatedCount := progress.duplicatedCount + 1 }
  else
    .ok { progress.appendStageMismatch (input.mismatch .extra none (some destination)) with
      extraCount := progress.extraCount + 1 }

end StagedInput

/-! ## The whole reconciliation -/

/-- The tables and the summary of a finished staged reconciliation.  The function's
mismatch count is the length of its mismatch table. -/
structure StagedReconciliation where
  matched : List StagedKey
  mismatches : List MessageMismatch
  stagedMismatches : Nat
  summary : VerificationSummary

/-- Counters of the classes must add up to both populations. -/
def VerificationSummary.partitions (summary : VerificationSummary) : Bool :=
  summary.totalSource = summary.metadataMatches + summary.probableMatches +
      summary.missingCount + summary.changedCount &&
    summary.totalDestination = summary.metadataMatches + summary.probableMatches +
      summary.extraCount + summary.duplicatedCount + summary.changedCount

/-- Reconcile staged metadata. -/
def reconcileStage {platform : Platform} (input : StagedInput platform) :
    Except String StagedReconciliation := do
  let progress ← ({} : StagedProgress).insertMatched
    "could not reconcile exact staged metadata" (StagedInput.pairKeys input.exactPairs)
  let metadataMatches := (progress.matched.filter (·.side = .source)).length
  let changedPairs := input.changedPairs progress
  let progress ← progress.insertMatched "could not reconcile changed staged IDs"
    (StagedInput.pairKeys changedPairs)
  let progress := changedPairs.foldl input.recordChanged progress
  let progress ← input.forEachUnmatched .source true true input.wrongFolderStep progress
  let probablePairs := input.probablePairs progress
  let progress ← progress.insertMatched "could not reconcile unique staged fingerprints"
    (StagedInput.pairKeys probablePairs)
  let syntheticIdentityMatches := (probablePairs.filter fun pair =>
    pair.1.identityProvenance = .syntheticHeaderFingerprint).length
  let progress ← input.forEachUnmatched .source false false input.missingStep progress
  let progress ← input.forEachUnmatched .destination false false input.surplusStep progress
  let summary : VerificationSummary := {
    totalSource := input.sourceRows.length
    totalDestination := input.destRows.length
    metadataMatches
    rfcMessageIdMatches := metadataMatches
    probableMatches := probablePairs.length
    syntheticIdentityMatches
    missingCount := progress.missingCount
    extraCount := progress.extraCount
    duplicatedCount := progress.duplicatedCount
    changedCount := progress.changedCount }
  if !summary.partitions then
    .error "staged reconciliation accounting did not partition both message populations"
  else return {
    matched := progress.matched
    mismatches := progress.mismatches
    stagedMismatches := progress.mismatches.length
    summary }

end MailSwiftSync
