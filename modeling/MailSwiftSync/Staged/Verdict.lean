import MailSwiftSync.Staged.Agreement
import MailSwiftSync.Staged.Content
import MailSwiftSync.Staged.FlagCoverage
import MailSwiftSync.Verification.Content

/-!
# The verdict of one verification run

A run reconciles the staged messages, compares their flags and assembles the counters
into evidence.  Evidence that amounts to an exact match stands for a bijection between
the messages of both endpoints.
-/

namespace MailSwiftSync

open Foundation

/-! ## Loading a stage into memory -/

namespace MessageMetadataStage

variable {parseDate : DateParser} (stage : MessageMetadataStage parseDate)

/-- All messages of one side, with their flags. -/
def allMessages (side : StagedMessageSide) : ExtractedMessages :=
  (stage.sideRows side).foldl (fun messages row =>
    messages.insert row.messageKey { row.message with flags := row.flags }) ∅

/-- All body fingerprints of one side. -/
def tryContentFingerprints (side : StagedMessageSide) : Fingerprints :=
  (stage.sideFingerprints side).foldl (fun fingerprints entry =>
    fingerprints.insert ⟨entry.1.mailbox, uidvalidityOf entry.1.uidvalidity, entry.1.uid⟩
      entry.2) ∅

/-- `COALESCE(SUM(size_bytes), 0)`, a signed 64-bit sum. -/
def sumBytes (side : StagedMessageSide) : Except String Nat :=
  let total := ((stage.sideRows side).map fun row => row.sizeBytes.getD 0).sum
  if total < 2 ^ 63 then .ok total else .error "integer overflow"

theorem allMessages_length (side : StagedMessageSide) :
    (stage.allMessages side).entries.length = (stage.sideRows side).length := by
  have distinct : ((stage.sideRows side).map StagedRow.messageKey).Nodup := by
    have keys : ((stage.sideRows side).map StagedRow.key).Nodup :=
      stage.primaryKey.sublist (List.filter_sublist.map _)
    refine List.Nodup.map_on ?_ (keys.of_map _)
    intro row isRow other isOther same
    have sideOf : ∀ row ∈ stage.sideRows side, row.side = side := by
      intro row isRow
      simpa using (List.mem_filter.mp isRow).2
    exact List.inj_on_of_nodup_map keys isRow isOther
      (StagedRow.key_eq_of_messageKey ((sideOf row isRow).trans (sideOf other isOther).symm)
        same)
  have inserted : ∀ (rows : List (StagedRow parseDate)) (messages : ExtractedMessages),
      (rows.map StagedRow.messageKey).Nodup →
      (∀ row ∈ rows, row.messageKey ∉ messages) →
      (rows.foldl (fun messages row =>
        messages.insert row.messageKey { row.message with flags := row.flags })
          messages).entries.length = messages.entries.length + rows.length := by
    intro rows
    induction rows with
    | nil => simp
    | cons row rest ih =>
      intro messages nodup fresh
      rw [List.map_cons, List.nodup_cons] at nodup
      rw [List.foldl_cons, ih _ nodup.2, AList.entries_insert_of_notMem
        (fresh row List.mem_cons_self), List.length_cons, List.length_cons]
      · omega
      · intro other isOther inserted
        rcases AList.mem_insert _ |>.mp inserted with same | earlier
        · exact nodup.1 (same ▸ List.mem_map_of_mem isOther)
        · exact fresh other (List.mem_cons_of_mem row isOther) earlier
  have total := inserted (stage.sideRows side) ∅ distinct (fun _ _ => AList.notMem_empty _)
  rwa [show (∅ : ExtractedMessages).entries.length = 0 from rfl, Nat.zero_add] at total

end MessageMetadataStage

/-! ## Reconciling -/

/-- One verification run over a finished stage. -/
structure VerificationRun (platform : Platform) extends StagedInput platform where
  bodyHashVerification : Bool
  durable : Bool
  sourceFolders : Nat
  destinationFolders : Nat

def maxBodyHashMessagesPerEndpoint : Nat := 100000

/-- The ephemeral forensic reconciler holds whole populations in memory. -/
def refuseLargeEndpoint (count : Nat) : Except String Unit :=
  if count > maxBodyHashMessagesPerEndpoint then
    .error (VerificationLimit.bodyHashMessageCount.tag
      ("body-hash verification refuses to load more than " ++
        toString maxBodyHashMessagesPerEndpoint ++
        " messages per endpoint into the ephemeral forensic reconciler (requested " ++
        toString count ++ ")"))
  else .ok ()

/-- Reconcile staged metadata and return its mismatches in memory. -/
def detectMismatchesFromStage {platform : Platform} (input : StagedInput platform) :
    Except String (List MessageMismatch × VerificationSummary) := do
  let tables ← reconcileStage input
  let log ← tables.mismatches.foldlM appendMismatchWithBudget {}
  return (log.mismatches, tables.summary)

namespace VerificationRun

variable {platform : Platform} (run : VerificationRun platform)

/-- The input of the in-memory reconciler. -/
def loaded : ContentInput where
  jobId := run.jobId
  runId := run.runId
  sourceMessages := run.stage.allMessages .source
  destMessages := run.stage.allMessages .destination
  folderMapping := run.folderMapping
  sourceFingerprints := run.stage.tryContentFingerprints .source
  destFingerprints := run.stage.tryContentFingerprints .destination

/-- The reconciliation a run's settings ask for. -/
def reconcile : Except String VerificationSummary :=
  match run.bodyHashVerification, run.durable with
  | true, true => do
      let tables ← reconcileStageWithContentFingerprints run.toStagedInput
      return tables.summary
  | true, false => do
      refuseLargeEndpoint (run.stage.sideRows .source).length
      refuseLargeEndpoint (run.stage.sideRows .destination).length
      let (_, summary) ← detectMismatchesWithContentFingerprints platform run.loaded
      return summary
  | false, true => do
      let tables ← reconcileStage run.toStagedInput
      return tables.summary
  | false, false => do
      let (_, summary) ← detectMismatchesFromStage run.toStagedInput
      return summary

/-- A label after body hashing and the flag pass. -/
def relabel (flags : FlagVerification) (outcome : VerificationOutcome) :
    VerificationOutcome :=
  let outcome :=
    if outcome = .exactMetadataMatch && run.bodyHashVerification then .exactBodyMatch
    else outcome
  if outcome.isExact && flags.mismatchedMessages > 0 then .flagsChanged else outcome

/-- The evidence of one run. -/
def evidence (summary : VerificationSummary) (flags : FlagVerification)
    (sourceBytes destinationBytes : Nat) : MailboxEvidence where
  verificationMethod :=
    if run.bodyHashVerification then .bodyHash else .metadataReconciliation
  verificationOutcome := some (run.relabel flags summary.verificationOutcome)
  sourceMessages := summary.totalSource
  destinationMessages := summary.totalDestination
  sourceBytes
  destinationBytes
  unmatchedMessages := some (saturatingAdd (saturatingAdd (saturatingAdd
    summary.missingCount summary.extraCount) summary.duplicatedCount) summary.changedCount)
  failedMessages := 0
  sourceFolders := run.sourceFolders
  destinationFolders := run.destinationFolders
  authoritative := false
  missingMessages := summary.missingCount
  extraMessages := saturatingAdd summary.extraCount summary.duplicatedCount
  modifiedMessages := summary.changedCount
  probableMessages := summary.probableMatches
  rfcMessageIdMatches := summary.rfcMessageIdMatches
  syntheticIdentityMatches := summary.syntheticIdentityMatches
  flagVerification := some flags

/-- The end of a verification run, once both endpoints are staged. -/
def runImapMessageVerification : Except String MailboxEvidence := do
  let summary ← run.reconcile
  let flags := run.stage.verifyStagedFlags run.folderMapping
  let sourceBytes ← run.stage.sumBytes .source
  let destinationBytes ← run.stage.sumBytes .destination
  return run.evidence summary flags sourceBytes destinationBytes

/-! ## Totals -/

theorem stagedTotals :
    run.toStagedInput.outcome.summary.totalSource = (run.stage.sideRows .source).length ∧
      run.toStagedInput.outcome.summary.totalDestination =
        (run.stage.sideRows .destination).length := by
  constructor
  · change run.toStagedInput.sourceRows.length = _
    rw [StagedAs.sourceRows_eq, List.length_map]
  · change run.toStagedInput.destRows.length = _
    rw [StagedAs.destRows_eq]

/-- Whatever reconciles them, the totals are the numbers of staged messages. -/
theorem reconcile_totals {summary : VerificationSummary}
    (returned : run.reconcile = .ok summary) :
    summary.totalSource = (run.stage.sideRows .source).length ∧
      summary.totalDestination = (run.stage.sideRows .destination).length := by
  rw [reconcile] at returned
  cases bodyHash : run.bodyHashVerification with
  | true =>
    cases durable : run.durable with
    | true =>
      simp only [bodyHash, durable] at returned
      obtain ⟨tables, reconciled, isSummary⟩ := bind_eq_ok.mp returned
      obtain ⟨_, rfl⟩ :=
        run.toStagedInput.reconcileStageWithContentFingerprints_ok_iff.mp reconciled
      obtain rfl := Except.ok.inj isSummary
      rw [run.toStagedInput.contentOutcome_summary]
      exact run.stagedTotals
    | false =>
      simp only [bodyHash, durable] at returned
      obtain ⟨_, _, returned⟩ := bind_eq_ok.mp returned
      obtain ⟨_, _, returned⟩ := bind_eq_ok.mp returned
      obtain ⟨result, detected, isSummary⟩ := bind_eq_ok.mp returned
      obtain ⟨_, _, rfl⟩ := (run.loaded.detect_ok_iff platform).mp detected
      obtain rfl := Except.ok.inj isSummary
      exact ⟨run.stage.allMessages_length .source,
        run.stage.allMessages_length .destination⟩
  | false =>
    cases durable : run.durable with
    | true =>
      simp only [bodyHash, durable] at returned
      obtain ⟨tables, reconciled, isSummary⟩ := bind_eq_ok.mp returned
      rw [StagedInput.reconcileStage_eq] at reconciled
      obtain rfl := Except.ok.inj reconciled
      obtain rfl := Except.ok.inj isSummary
      exact run.stagedTotals
    | false =>
      simp only [bodyHash, durable] at returned
      obtain ⟨result, detected, isSummary⟩ := bind_eq_ok.mp returned
      obtain ⟨tables, reconciled, detected⟩ := bind_eq_ok.mp detected
      obtain ⟨_, _, detected⟩ := bind_eq_ok.mp detected
      rw [StagedInput.reconcileStage_eq] at reconciled
      obtain rfl := Except.ok.inj reconciled
      obtain rfl := Except.ok.inj detected
      obtain rfl := Except.ok.inj isSummary
      exact run.stagedTotals

end VerificationRun

/-! ## Soundness -/

/-- What an exact verdict promises about a pair of staged messages. -/
structure MessagesAgree {parseDate : DateParser} (folderMapping : FolderMapping)
    (source destination : StagedRow parseDate) : Prop where
  isRfc : source.identityProvenance = .rfcMessageId ∧
    destination.identityProvenance = .rfcMessageId
  messageId : source.messageId = destination.messageId
  folder : destination.mailbox = expectedDestinationFolder source.messageKey folderMapping
  dated : source.internalDate.isSome
  internalDate : source.internalDate.map (normalizeInternalDate parseDate) =
    destination.internalDate.map (normalizeInternalDate parseDate)
  sized : source.sizeBytes.isSome
  sizeBytes : source.sizeBytes = destination.sizeBytes
  reported : source.flags.isSome
  flags : source.flags.map flagSet = destination.flags.map flagSet

theorem StagedRow.exactKey_eq_some {parseDate : DateParser}
    {folder : StagedRow parseDate → String} {row : StagedRow parseDate}
    {messageId mailbox dateKey : String} {size : Nat} :
    row.exactKey folder = some (messageId, mailbox, dateKey, size) ↔
      row.identityProvenance = .rfcMessageId ∧ row.messageId = some messageId ∧
        folder row = mailbox ∧ row.dateKey = some dateKey ∧ row.sizeBytes = some size := by
  unfold exactKey identity metadata
  by_cases isRfc : row.identityProvenance = .rfcMessageId
  · cases row.messageId with
    | none => simp [isRfc]
    | some value =>
      cases row.dateKey with
      | none => simp [isRfc]
      | some date =>
        cases row.sizeBytes with
        | none => simp [isRfc]
        | some bytes => simp [isRfc]
  · simp [isRfc]

/-- Rows of one identity with the same flag set agree. -/
theorem messagesAgree_of_identity {parseDate : DateParser} {folderMapping : FolderMapping}
    {source destination : StagedRow parseDate} {identity : String × String × String × Nat}
    (sourceIs : MessageMetadataStage.sourceIdentity folderMapping source = some identity)
    (destIs : MessageMetadataStage.destIdentity destination = some identity)
    (reported : source.flags.isSome)
    (flags : source.flags.map flagSet = destination.flags.map flagSet) :
    MessagesAgree folderMapping source destination := by
  obtain ⟨messageId, mailbox, dateKey, size⟩ := identity
  obtain ⟨sourceRfc, sourceId, sourceFolder, sourceDate, sourceSize⟩ :=
    StagedRow.exactKey_eq_some.mp sourceIs
  obtain ⟨destRfc, destId, destFolder, destDate, destSize⟩ :=
    StagedRow.exactKey_eq_some.mp destIs
  have dates : source.internalDate.map (metadataDateKey parseDate) =
      destination.internalDate.map (metadataDateKey parseDate) := by
    rw [← source.keyOfDate, ← destination.keyOfDate, sourceDate, destDate]
  have dated : source.internalDate.isSome := by
    have isDate := source.keyOfDate
    rw [sourceDate] at isDate
    rw [← Option.isSome_map (f := metadataDateKey parseDate), ← isDate]
    rfl
  constructor
  · exact ⟨sourceRfc, destRfc⟩
  · rw [sourceId, destId]
  · rw [destFolder, ← sourceFolder]
    rfl
  · exact dated
  · have columns : metadataDateKey parseDate =
        NormalizedInternalDate.column ∘ normalizeInternalDate parseDate :=
      funext (metadataDateKey_eq parseDate)
    rw [columns, ← Option.map_map, ← Option.map_map] at dates
    exact Option.map_injective NormalizedInternalDate.column_injective dates
  · rw [sourceSize]
    rfl
  · rw [sourceSize, destSize]
  · exact reported
  · exact flags

namespace VerificationRun

variable {platform : Platform} {run : VerificationRun platform}

/-- An exact verdict is a bijection between all staged messages of both endpoints that
preserves identity, folder, date, size and flags. -/
theorem exact_verdict_sound {evidence : MailboxEvidence}
    (returned : run.runImapMessageVerification = .ok evidence)
    (exact : evidence.isExactMatch = true) :
    ∃ partner : {row // row ∈ run.stage.sideRows .source} ≃
        {row // row ∈ run.stage.sideRows .destination},
      ∀ row, MessagesAgree run.folderMapping row.1 (partner row).1 := by
  obtain ⟨summary, reconciled, returned⟩ := bind_eq_ok.mp returned
  obtain ⟨sourceBytes, _, returned⟩ := bind_eq_ok.mp returned
  obtain ⟨destinationBytes, _, returned⟩ := bind_eq_ok.mp returned
  obtain rfl := Except.ok.inj returned
  obtain ⟨sourceTotal, destinationTotal⟩ := run.reconcile_totals reconciled
  have sameLength : (run.stage.sideRows .source).length =
      (run.stage.sideRows .destination).length := by
    rw [← sourceTotal, ← destinationTotal]
    exact MailboxEvidence.totals_of_isExactMatch exact
  obtain ⟨noMismatch, noException, compared⟩ :=
    MailboxEvidence.flags_of_isExactMatch exact rfl
  have balanced : ∀ row ∈ run.stage.sideRows .source, ∃ identity,
      MessageMetadataStage.sourceIdentity run.folderMapping row = some identity ∧
        run.stage.Balanced run.folderMapping identity := fun row isRow =>
    MessageMetadataStage.balanced_of_full_coverage (compared.trans sourceTotal) noMismatch
      noException isRow
  obtain ⟨partner, labels⟩ := exists_equiv_of_classes
    (fun row : StagedRow platform.parseDate => row.flags.map flagSet)
    (fun row : StagedRow platform.parseDate => row.flags.map flagSet) sameLength
    (fun row isRow => by
      obtain ⟨identity, isIdentity, isBalanced⟩ := balanced row isRow
      exact ⟨identity, isIdentity, isBalanced.flags⟩)
    (MessageMetadataStage.sideRows_nodup _) (MessageMetadataStage.sideRows_nodup _)
  refine ⟨partner, fun row => ?_⟩
  obtain ⟨identity, isIdentity, isBalanced⟩ := balanced row.1 row.2
  obtain ⟨sameIdentity, sameFlags⟩ := Prod.mk.inj (labels row)
  exact messagesAgree_of_identity isIdentity (sameIdentity.symm.trans isIdentity)
    (isBalanced.reported row.1 (mem_ofClass.mpr ⟨row.2, isIdentity⟩)) sameFlags

/-- Two copies of a flagged message in a renamed folder, on both endpoints. -/
def flaggedRun : VerificationRun plainPlatform where
  toStagedInput := stagedInput plainPlatform {
    jobId := "job"
    runId := "run"
    sourceMessages := [
      ⟨⟨"INBOX", none, "1"⟩, { comparableMessage with flags := some "\\Seen work" }⟩,
      ⟨⟨"INBOX", none, "2"⟩, { comparableMessage with flags := some "" }⟩].toAList
    destMessages := [
      ⟨⟨"Mail", none, "7"⟩, { comparableMessage with flags := some "" }⟩,
      ⟨⟨"Mail", none, "9"⟩, { comparableMessage with flags := some "\\Seen work" }⟩].toAList
    folderMapping := [⟨"INBOX", "Mail"⟩].toAList }
  bodyHashVerification := false
  durable := true
  sourceFolders := 1
  destinationFolders := 1

theorem flaggedRun_exact :
    (∃ evidence, flaggedRun.runImapMessageVerification = .ok evidence ∧
      evidence.isExactMatch = true) ∧
    ∃ partner : {row // row ∈ flaggedRun.stage.sideRows .source} ≃
        {row // row ∈ flaggedRun.stage.sideRows .destination},
      ∀ row, MessagesAgree flaggedRun.folderMapping row.1 (partner row).1 := by
  have verified : ∃ evidence, flaggedRun.runImapMessageVerification = .ok evidence ∧
      evidence.isExactMatch = true := by
    refine ⟨_, rfl, ?_⟩
    decide
  obtain ⟨evidence, returned, exact⟩ := verified
  exact ⟨⟨evidence, returned, exact⟩, exact_verdict_sound returned exact⟩

end VerificationRun

end MailSwiftSync
