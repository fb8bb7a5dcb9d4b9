import MailSwiftSync.Staged.Reconciliation

/-!
# Content fingerprints on the stage

The stage reconciles its metadata first and then refines the result by the staged
body fingerprints: a join of fingerprints that occur once resolves missing and extra
rows, and the exact pairs are ranked anew to find those whose bodies differ.
-/

namespace MailSwiftSync

open Foundation

/-- A row of `stage_fingerprints`. -/
abbrev FingerprintRow : Type := Sigma fun _ : StagedKey => String

/-- The fingerprint rows of one side. -/
def MessageMetadataStage.sideFingerprints {parseDate : DateParser}
    (stage : MessageMetadataStage parseDate) (side : StagedMessageSide) :
    List FingerprintRow :=
  stage.fingerprints.entries.filter (·.1.side = side)

/-- A pair of messages joined with the fingerprints of both. -/
structure FingerprintedPair (parseDate : DateParser) where
  source : StagedRow parseDate
  destination : StagedRow parseDate
  sourceFingerprint : String
  destinationFingerprint : String

namespace StagedRow

variable {parseDate : DateParser}

/-- The `missing` record of a source row, compared by its columns. -/
def namedMissing (row : StagedRow parseDate) (mismatch : MessageMismatch) : Bool :=
  mismatch.mismatchType = .missing && mismatch.sourceFolder = some row.mailbox &&
    mismatch.sourceUidvalidity = uidvalidityOf row.uidvalidity &&
    mismatch.sourceUid = some row.uid

/-- The `extra` record of a destination row, compared by its columns. -/
def namedExtra (row : StagedRow parseDate) (mismatch : MessageMismatch) : Bool :=
  mismatch.mismatchType = .extra && mismatch.destinationFolder = some row.mailbox &&
    mismatch.destinationUidvalidity = uidvalidityOf row.uidvalidity &&
    mismatch.destUid = some row.uid

end StagedRow

/-- Every value of a column with a unique index occurs once. -/
def uniqueIndex (column : String) (values : List Nat) : Except String Unit :=
  if values.Nodup then .ok ()
  else .error ("could not classify staged content fingerprints: UNIQUE constraint " ++
    "failed: staged_content_fallback_pairs." ++ column)

def contentBatchSize : Nat := 256

namespace StagedInput

variable {platform : Platform} (input : StagedInput platform)

/-- Staged messages and fingerprints of one side have the same keys. -/
def validateSideCoverage (sideName : String) (side : StagedMessageSide) :
    Except String Unit :=
  let messages := input.rows.filter (·.side = side)
  let fingerprints := input.stage.sideFingerprints side
  let missingOrOrphaned := messages.any (·.key ∉ fingerprints.map Sigma.fst) ||
    fingerprints.any (·.1 ∉ messages.map StagedRow.key)
  if messages.length ≠ fingerprints.length || missingOrOrphaned then
    .error ("content verification requires exact " ++ sideName ++
      " message/fingerprint key coverage")
  else .ok ()

def validateFingerprintCoverage : Except String Unit := do
  input.validateSideCoverage "source" .source
  input.validateSideCoverage "destination" .destination

/-- The fingerprint rows whose fingerprint occurs once on either side, joined. -/
def uniqueFingerprintPairs : List (FingerprintRow × FingerprintRow) :=
  loneJoin (fun row => some row.2) (input.stage.sideFingerprints .source)
    (fun row => some row.2) (input.stage.sideFingerprints .destination)

/-- The joins of `staged_content_fallback_pairs`. -/
def contentFallbackRows (mismatches : List MessageMismatch) :
    List (((((FingerprintRow × FingerprintRow) × StagedRow platform.parseDate) ×
      StagedRow platform.parseDate) × MessageMismatch) × MessageMismatch) :=
  let withSource := innerJoin (fun fingerprints row => row.key = fingerprints.1.1)
    input.uniqueFingerprintPairs input.rows
  let withDestination := innerJoin (fun joined row => row.key = joined.1.2.1)
    withSource input.rows
  let withMissing := innerJoin (fun joined mismatch => joined.1.2.namedMissing mismatch)
    withDestination mismatches
  innerJoin (fun joined mismatch => joined.1.2.namedExtra mismatch) withMissing mismatches

/-- `staged_content_fallback_pairs`. -/
def contentFallbackPairs (mismatches : List MessageMismatch) :
    List (StagedRow platform.parseDate × StagedRow platform.parseDate) :=
  ((input.contentFallbackRows mismatches).map fun joined =>
    (joined.1.1.1.2, joined.1.1.2)).filter fun pair => pair.2.mailbox = pair.1.matchMailbox

/-- Whether a mismatch row survives the resolution of the given pairs. -/
def retainedOnStage
    (pairs : List (StagedRow platform.parseDate × StagedRow platform.parseDate))
    (mismatch : MessageMismatch) : Bool :=
  !(pairs.any fun pair => pair.1.namedMissing mismatch) &&
    !(pairs.any fun pair => pair.2.namedExtra mismatch)

/-- Join pairs of messages with their fingerprints. -/
def withFingerprints
    (pairs : List (StagedRow platform.parseDate × StagedRow platform.parseDate)) :
    List (FingerprintedPair platform.parseDate) :=
  let withSource := innerJoin
    (fun (pair : StagedRow platform.parseDate × StagedRow platform.parseDate) row =>
      row.1 = pair.1.key) pairs input.stage.fingerprints.entries
  let withDestination := innerJoin (fun joined row => row.1 = joined.1.2.key) withSource
    input.stage.fingerprints.entries
  withDestination.map fun joined => {
    source := joined.1.1.1
    destination := joined.1.1.2
    sourceFingerprint := joined.1.2.2
    destinationFingerprint := joined.2.2 }

/-- `staged_content_exact_pairs`: the exact pairs, ranked as in the metadata pass, whose
members are matched and whose fingerprints differ. -/
def contentExactPairs (matched : List StagedKey) :
    List (StagedRow platform.parseDate × StagedRow platform.parseDate) :=
  ((input.withFingerprints input.exactPairs).filter fun pair =>
    pair.source.key ∈ matched ∧ pair.destination.key ∈ matched ∧
      pair.sourceFingerprint ≠ pair.destinationFingerprint).map fun pair =>
    (pair.source, pair.destination)

/-- The pairs with differing bodies, in the order of their source rows. -/
def contentDifferences (matched : List StagedKey) :
    List (FingerprintedPair platform.parseDate) :=
  orderBy (fun pair => pair.source.rowid)
    (input.withFingerprints (input.contentExactPairs matched))

/-- The mismatch of an exact pair whose bodies differ. -/
def contentMismatch (pair : FingerprintedPair platform.parseDate) : MessageMismatch :=
  { input.mismatch .messageIdOnly (some pair.source) (some pair.destination) with
    sourceFingerprint := some pair.sourceFingerprint
    destinationFingerprint := some pair.destinationFingerprint }

/-- Record one exact pair whose bodies differ. -/
def recordDifference (tables : StagedReconciliation)
    (pair : FingerprintedPair platform.parseDate) : Except String StagedReconciliation :=
  .ok {
    matched := tables.matched.filter fun key =>
      key ≠ pair.source.key ∧ key ≠ pair.destination.key
    mismatches := tables.mismatches ++ [input.contentMismatch pair]
    stagedMismatches := tables.stagedMismatches + 1
    summary := { tables.summary with
      metadataMatches := tables.summary.metadataMatches - 1
      changedCount := tables.summary.changedCount + 1 } }

/-- The tables once the fallback pairs are resolved. -/
def resolveFallback (tables : StagedReconciliation) : Except String StagedReconciliation := do
  let pairs := input.contentFallbackPairs tables.mismatches
  uniqueIndex "source_rowid" (pairs.map fun pair => pair.1.rowid)
  uniqueIndex "destination_rowid" (pairs.map fun pair => pair.2.rowid)
  let progress ← ({ matched := tables.matched } : StagedProgress).insertMatched
    "could not classify staged content fingerprints" (pairKeys pairs)
  return {
    matched := progress.matched
    mismatches := tables.mismatches.filter (retainedOnStage pairs)
    stagedMismatches := tables.stagedMismatches - pairs.length * 2
    summary := { tables.summary with
      missingCount := tables.summary.missingCount - pairs.length
      extraCount := tables.summary.extraCount - pairs.length
      metadataMatches := tables.summary.metadataMatches + pairs.length } }

/-- Read the differing pairs page by page.  Every page but the last moves the cursor, so
the bound on the number of pages is never reached. -/
def recordDifferences (tables : StagedReconciliation) : Except String StagedReconciliation :=
  pageLoop
    (page (input.contentDifferences tables.matched) (fun pair => pair.source.rowid)
      (fun (_ : StagedReconciliation) _ => true) contentBatchSize)
    (fun pair => pair.source.rowid) input.recordDifference
    "staged content reconciliation did not finish"
    ((input.contentDifferences tables.matched).length + 1) tables 0

end StagedInput

/-- Reconcile staged metadata, then refine its pairs by staged body fingerprints. -/
def reconcileStageWithContentFingerprints {platform : Platform}
    (input : StagedInput platform) : Except String StagedReconciliation := do
  let tables ← reconcileStage input
  input.validateFingerprintCoverage
  let tables ← input.resolveFallback tables
  let tables ← input.recordDifferences tables
  let summary := { tables.summary with
    totalSource := input.sourceRows.length
    totalDestination := input.destRows.length }
  if !summary.partitions then
    .error ("staged body-hash reconciliation accounting did not partition both " ++
      "message populations")
  else if tables.mismatches.length ≠ tables.stagedMismatches then
    .error "staged body-hash mismatch details do not agree with the summary count"
  else return tables

end MailSwiftSync
