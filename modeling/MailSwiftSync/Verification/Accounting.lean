import MailSwiftSync.Verification.Content
import MailSwiftSync.Verification.Exactness

/-!
# Every message has one class

Both verification functions place each message of either side in one class, and
their counters are the sizes of these classes.  The validation that follows can
therefore not fail.
-/

namespace MailSwiftSync

open Foundation

/-- Classes of the messages of one verification. -/
structure Classification where
  /-- Equal metadata, and equal bodies where bodies are compared. -/
  exact : List (MailboxMessageKey × MailboxMessageKey)
  /-- Paired by a unique body fingerprint alone. -/
  identified : List (MailboxMessageKey × MailboxMessageKey)
  /-- Same identity and folder, other metadata. -/
  changed : List (MailboxMessageKey × MailboxMessageKey)
  /-- Equal metadata, other body. -/
  differing : List (MailboxMessageKey × MailboxMessageKey)
  /-- Same identity and metadata, wrong folder. -/
  misplaced : List (MailboxMessageKey × MailboxMessageKey)
  /-- Unique metadata without a common identity. -/
  probable : List (MailboxMessageKey × MailboxMessageKey)
  missing : List MailboxMessageKey
  extra : List MailboxMessageKey
  duplicated : List MailboxMessageKey

namespace Classification

variable (classes : Classification)

/-- The classes of the source keys. -/
def sourceKeys : List MailboxMessageKey :=
  (classes.exact ++ classes.identified ++ classes.changed ++ classes.differing ++
    classes.misplaced ++ classes.probable).map Prod.fst ++ classes.missing

/-- The classes of the destination keys. -/
def destKeys : List MailboxMessageKey :=
  (classes.exact ++ classes.identified ++ classes.changed ++ classes.differing ++
    classes.misplaced ++ classes.probable).map Prod.snd ++ classes.extra ++
    classes.duplicated

/-- The record of every class that is reported. -/
def records : List (MismatchType × Option MailboxMessageKey × Option MailboxMessageKey) :=
  (classes.changed ++ classes.differing).map
      (fun pair => (.messageIdOnly, some pair.1, some pair.2)) ++
    classes.misplaced.map (fun pair => (.presentWrongFolder, some pair.1, some pair.2)) ++
    classes.missing.map (fun key => (.missing, some key, none)) ++
    classes.extra.map (fun key => (.extra, none, some key)) ++
    classes.duplicated.map (fun key => (.duplicated, none, some key))

/-- The size of every class, as a summary. -/
def summary (sourceMessages : ExtractedMessages) : VerificationSummary where
  totalSource := classes.sourceKeys.length
  totalDestination := classes.destKeys.length
  metadataMatches := (classes.exact ++ classes.identified).length
  rfcMessageIdMatches := (classes.exact ++ classes.differing).length
  probableMatches := classes.probable.length
  syntheticIdentityMatches := (classes.probable.filter fun pair =>
    (sourceMessages.at pair.1).identityProvenance = .syntheticHeaderFingerprint).length
  missingCount := classes.missing.length
  extraCount := classes.extra.length
  duplicatedCount := classes.duplicated.length
  changedCount := (classes.changed ++ classes.misplaced ++ classes.differing).length

/-- The key sets of the classes. -/
def membership : VerificationMembership where
  matchedSource := ((classes.exact ++ classes.identified).map Prod.fst).toFinset
  matchedDestination := ((classes.exact ++ classes.identified).map Prod.snd).toFinset
  probableSource := (classes.probable.map Prod.fst).toFinset
  probableDestination := (classes.probable.map Prod.snd).toFinset
  missingSource := classes.missing.toFinset
  extraDestination := classes.extra.toFinset
  duplicatedDestination := classes.duplicated.toFinset
  changedSource :=
    ((classes.changed ++ classes.misplaced ++ classes.differing).map Prod.fst).toFinset
  changedDestination :=
    ((classes.changed ++ classes.misplaced ++ classes.differing).map Prod.snd).toFinset

/-- The classes list each key of both maps exactly once, and mismatches, counters and
membership are read off them. -/
structure Accounts (input : ReconciliationInput) (mismatches : List MessageMismatch)
    (summary : VerificationSummary) (membership : VerificationMembership) : Prop where
  sources : input.sourceMessages.keys.Perm classes.sourceKeys
  destinations : input.destMessages.keys.Perm classes.destKeys
  records : (mismatches.map MessageMismatch.classification).Perm classes.records
  counters : summary = classes.summary input.sourceMessages
  members : membership = classes.membership

end Classification

/-- The classes of the metadata pass. -/
def ReconciliationInput.classes (platform : Platform) (input : ReconciliationInput) :
    Classification :=
  let r := input.reconciliation platform
  ⟨r.exact, [], r.changed, [], r.misplaced, r.probable, r.missing, r.extra, r.duplicated⟩

/-- The classes of the content pass. -/
def ContentInput.classes (platform : Platform) (input : ContentInput) : Classification :=
  let r := input.reconciliation platform
  ⟨r.confirmed input.sourceBody input.destBody, r.fallback input.sourceBody input.destBody,
    r.changed, r.differing input.sourceBody input.destBody, r.misplaced, r.probable,
    r.stillMissing input.sourceBody input.destBody,
    r.stillExtra input.sourceBody input.destBody, r.duplicated⟩

theorem ReconciliationInput.classes_accounts (platform : Platform)
    (input : ReconciliationInput) :
    (input.classes platform).Accounts input (input.outcome platform).mismatches
      (input.outcome platform).summary (input.outcome platform).membership := by
  have sources : input.sourceMessages.keys.Perm (input.classes platform).sourceKeys := by
    refine (sortUnstable_perm _).symm.trans
      (((input.reconciliation platform).sources_perm input.sources_nodup).trans ?_)
    simp [Classification.sourceKeys, ReconciliationInput.classes, List.append_assoc]
  have destinations : input.destMessages.keys.Perm (input.classes platform).destKeys := by
    refine (sortUnstable_perm _).symm.trans
      (((input.reconciliation platform).destinations_perm input.destinations_nodup).trans ?_)
    rw [List.perm_iff_count]
    intro key
    simp only [Classification.destKeys, ReconciliationInput.classes, List.map_append,
      List.count_append, List.map_nil, List.count_nil]
    omega
  have records : (input.outcome platform).mismatches.map MessageMismatch.classification =
      (input.reconciliation platform).records := by
    have each : MessageMismatch.classification ∘ input.ofRecord platform = id := by
      funext record
      simp [ofRecord, mismatch]
    rw [outcome, mismatchList, List.map_map, each, List.map_id]
  refine ⟨sources, destinations, ?_, ?_, ?_⟩
  · rw [records, List.perm_iff_count]
    intro record
    simp only [Classification.records, ReconciliationInput.classes, Reconciliation.records,
      List.map_append, List.count_append, List.map_nil, List.count_nil]
    omega
  · have sourceTotal := sources.length_eq
    have destTotal := destinations.length_eq
    rw [← entries_length_eq_keys] at sourceTotal destTotal
    simp only [Classification.summary, ← sourceTotal, ← destTotal]
    simp [outcome, ReconciliationInput.classes, List.filter_map, Function.comp_def]
  · simp [outcome, ReconciliationInput.classes, Classification.membership]

theorem ContentInput.classes_accounts (platform : Platform) (input : ContentInput) :
    (input.classes platform).Accounts input.toReconciliationInput
      (input.contentOutcome platform).log.mismatches (input.contentOutcome platform).summary
      (input.contentOutcome platform).membership := by
  have sources : input.sourceMessages.keys.Perm (input.classes platform).sourceKeys := by
    refine (sortUnstable_perm _).symm.trans
      (((input.reconciliation platform).contentSourceClasses_perm input.sourceBody
        input.destBody input.sources_nodup).trans ?_)
    rw [List.perm_iff_count]
    intro key
    simp only [Classification.sourceKeys, ContentInput.classes,
      Reconciliation.contentSourceClasses, List.flatten_cons, List.flatten_nil,
      List.map_append, List.count_append, List.count_nil]
    omega
  have destinations : input.destMessages.keys.Perm (input.classes platform).destKeys := by
    refine (sortUnstable_perm _).symm.trans
      (((input.reconciliation platform).contentDestinationClasses_perm input.sourceBody
        input.destBody input.sources_nodup input.destinations_nodup).trans ?_)
    rw [List.perm_iff_count]
    intro key
    simp only [Classification.destKeys, ContentInput.classes,
      Reconciliation.contentDestinationClasses, List.flatten_cons, List.flatten_nil,
      List.map_append, List.count_append, List.count_nil]
    omega
  have exactCount := ((input.reconciliation platform).exact_split input.sourceBody
    input.destBody).length_eq
  refine ⟨sources, destinations, ?_, ?_, ?_⟩
  · refine (input.contentMismatchList_classification platform).trans ?_
    rw [List.perm_iff_count]
    intro record
    simp only [Classification.records, ContentInput.classes, Reconciliation.contentRecords,
      Reconciliation.keptRecords, List.map_append, List.count_append]
    omega
  · have sourceTotal := sources.length_eq
    have destTotal := destinations.length_eq
    rw [← entries_length_eq_keys] at sourceTotal destTotal
    simp only [Classification.summary, ← sourceTotal, ← destTotal]
    simp only [contentOutcome, ReconciliationInput.outcome, ContentInput.classes,
      VerificationSummary.mk.injEq, List.length_append, List.filter_map, Function.comp_def,
      List.length_map, true_and, and_true] at exactCount ⊢
    exact exactCount
  · simp only [contentOutcome, ReconciliationInput.outcome, ContentInput.classes,
      Classification.membership]

/-- Within the budgets, both functions return, list every key of either side in exactly
one class, count each class, and pass the final validation. -/
theorem classes_partition_messages (platform : Platform) :
    (∀ input : ReconciliationInput, input.WithinBudgets platform →
      ∃ result classes, reconcileMetadata platform input = .ok result ∧
        Classification.Accounts classes input result.mismatches result.summary
          result.membership ∧
        validateVerificationSummary platform input.sourceMessages input.destMessages
          result.mismatches result.summary result.membership = .ok ()) ∧
      ∀ input : ContentInput, input.Covered → input.WithinBudgets platform →
        ∃ state classes, input.refineByContent platform = .ok state ∧
          Classification.Accounts classes input.toReconciliationInput state.log.mismatches
            state.summary state.membership ∧
          validateVerificationSummary platform input.sourceMessages input.destMessages
            state.log.mismatches state.summary state.membership = .ok () ∧
          detectMismatchesWithContentFingerprints platform input =
            .ok (state.log.mismatches, state.summary) := by
  constructor
  · intro input budgets
    exact ⟨input.outcome platform, input.classes platform,
      (input.reconcileMetadata_ok_iff platform).mpr ⟨budgets, rfl⟩,
      input.classes_accounts platform, input.validate_outcome platform⟩
  · intro input covered budgets
    exact ⟨input.contentOutcome platform, input.classes platform,
      (input.refineByContent_ok_iff platform).mpr ⟨covered, budgets, rfl⟩,
      input.classes_accounts platform, input.validate_contentOutcome platform,
      (input.detect_ok_iff platform).mpr ⟨covered, budgets, rfl⟩⟩

/-- The copies again, with bodies: one exact pair has equal bodies, the other has not. -/
def bodiesInput : ContentInput where
  toReconciliationInput := copiesInput
  sourceFingerprints :=
    [⟨⟨"INBOX", none, "1"⟩, "body 1"⟩, ⟨⟨"INBOX", none, "2"⟩, "body 2"⟩].toAList
  destFingerprints :=
    [⟨⟨"Mail", none, "7"⟩, "body 1"⟩, ⟨⟨"Mail", none, "8"⟩, "body 3"⟩,
      ⟨⟨"Mail", none, "9"⟩, "body 2"⟩].toAList

theorem bodiesInput_covered : bodiesInput.Covered :=
  ⟨.of_keys rfl, .of_keys rfl⟩

theorem bodiesInput_withinBudgets : bodiesInput.WithinBudgets plainPlatform :=
  ⟨copiesInput_withinBudgets, by decide⟩

theorem copies_and_bodies_partitioned :
    (∃ result classes, reconcileMetadata plainPlatform copiesInput = .ok result ∧
      Classification.Accounts classes copiesInput result.mismatches result.summary
        result.membership) ∧
      ∃ mismatches summary,
        detectMismatchesWithContentFingerprints plainPlatform bodiesInput =
          .ok (mismatches, summary) ∧
        summary.metadataMatches = 1 ∧ summary.changedCount = 1 ∧
        summary.duplicatedCount = 1 := by
  obtain ⟨metadata, content⟩ := classes_partition_messages plainPlatform
  obtain ⟨result, classes, returned, accounts, _⟩ :=
    metadata copiesInput copiesInput_withinBudgets
  obtain ⟨state, _, refined, _, _, detected⟩ :=
    content bodiesInput bodiesInput_covered bodiesInput_withinBudgets
  obtain ⟨_, _, rfl⟩ := (bodiesInput.refineByContent_ok_iff plainPlatform).mp refined
  exact ⟨⟨result, classes, returned, accounts⟩, _, _, detected, by decide, by decide,
    by decide⟩

end MailSwiftSync
