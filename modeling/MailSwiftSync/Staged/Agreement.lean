import Mathlib
import MailSwiftSync.Staged.Outcome
import MailSwiftSync.Verification.Exactness
import MailSwiftSync.Verification.Renaming

/-!
# The staged and the in-memory reconciliation agree

A stage whose rows stand in the key order of two message maps is reconciled like the
maps themselves.  The stage compares Message-IDs as they were fetched, the maps
compare them trimmed, so the fetched Message-IDs must not differ in surrounding
whitespace only.
-/

namespace MailSwiftSync

open Foundation

/-! ## The compared columns -/

/-- The date column of a normalized date. -/
def NormalizedInternalDate.column : NormalizedInternalDate → String
  | .epoch timestamp => "e:" ++ toString timestamp
  | .raw value => "r:" ++ value

theorem NormalizedInternalDate.column_injective :
    Function.Injective NormalizedInternalDate.column := by
  intro left right same
  cases left with
  | epoch timestamp =>
    cases right with
    | epoch timestamp' =>
      have digits : toString timestamp = toString timestamp' :=
        (String.append_right_inj "e:").mp same
      rw [Int.repr_injective digits]
    | raw value => simpa [column] using congrArg String.toList same
  | raw value =>
    cases right with
    | epoch timestamp => simpa [column] using congrArg String.toList same
    | raw value' => rw [(String.append_right_inj "r:").mp same]

theorem metadataDateKey_eq (parseDate : DateParser) (value : String) :
    metadataDateKey parseDate value = (normalizeInternalDate parseDate value).column := by
  rw [metadataDateKey, normalizeInternalDate]
  cases parseDate (trim value) <;> rfl

/-- The metadata columns of a fingerprint. -/
def MetadataFingerprint.columns (fingerprint : MetadataFingerprint) : String × Nat :=
  (fingerprint.internalDate.column, fingerprint.sizeBytes)

theorem MetadataFingerprint.columns_injective :
    Function.Injective MetadataFingerprint.columns := by
  rintro ⟨date, size⟩ ⟨date', size'⟩ same
  obtain ⟨sameDate, sameSize⟩ := Prod.mk.inj same
  obtain rfl := NormalizedInternalDate.column_injective sameDate
  exact congrArg _ sameSize

/-- The RFC Message-ID of a message, as fetched. -/
def ExtractedMessage.fetchedIdentity (message : ExtractedMessage) : Option String :=
  if message.identityProvenance = .rfcMessageId then message.messageId else none

theorem rfcIdentity_eq (message : ExtractedMessage) :
    message.rfcIdentity = message.fetchedIdentity.map trim := by
  by_cases isRfc : message.identityProvenance = .rfcMessageId
  · cases identified : message.messageId with
    | none => simp [ExtractedMessage.identityProvenance, identified] at isRfc
    | some value =>
      rw [rfcIdentity_eq_some.mpr ⟨isRfc, value, identified, rfl⟩,
        ExtractedMessage.fetchedIdentity, if_pos isRfc, identified]
      rfl
  · have absent : message.rfcIdentity = none := by
      rw [← Option.not_isSome_iff_eq_none, rfcIdentity_isSome]
      exact isRfc
    rw [absent, ExtractedMessage.fetchedIdentity, if_neg isRfc]
    rfl

/-- Two messages are not told apart by whitespace around their Message-IDs. -/
def SpelledAlike (message message' : ExtractedMessage) : Prop :=
  ∀ id ∈ message.fetchedIdentity, ∀ id' ∈ message'.fetchedIdentity,
    trim id = trim id' → id = id'

instance (message message' : ExtractedMessage) : Decidable (SpelledAlike message message') :=
  inferInstanceAs (Decidable (∀ id ∈ message.fetchedIdentity,
    ∀ id' ∈ message'.fetchedIdentity, trim id = trim id' → id = id'))

theorem rfcIdentity_eq_iff {message message' : ExtractedMessage}
    (alike : SpelledAlike message message') :
    message.rfcIdentity = message'.rfcIdentity ↔
      message.fetchedIdentity = message'.fetchedIdentity := by
  rw [rfcIdentity_eq, rfcIdentity_eq]
  cases fetched : message.fetchedIdentity with
  | none =>
    cases fetched' : message'.fetchedIdentity with
    | none => simp
    | some id' => simp
  | some id =>
    cases fetched' : message'.fetchedIdentity with
    | none => simp
    | some id' =>
      simp only [Option.map_some, Option.some.injEq]
      exact ⟨alike id fetched id' fetched', congrArg trim⟩

/-! ## Rows and messages -/

/-- A row stands for a message. -/
structure StagedRow.Stands {parseDate : DateParser} (row : StagedRow parseDate)
    (message : ExtractedMessage) : Prop where
  messageId : row.messageId = message.messageId
  internalDate : row.internalDate = message.internalDate
  sizeBytes : row.sizeBytes = message.sizeBytes

namespace StagedRow.Stands

variable {parseDate : DateParser} {row : StagedRow parseDate} {message : ExtractedMessage}

theorem provenance (stands : row.Stands message) :
    row.identityProvenance = message.identityProvenance := by
  rw [row.provenanceOfId, stands.messageId]
  rfl

theorem identity (stands : row.Stands message) :
    row.identity = message.fetchedIdentity := by
  rw [StagedRow.identity, stands.provenance, stands.messageId]
  rfl

theorem metadata (stands : row.Stands message) :
    row.metadata = (metadataFingerprint parseDate message).map
      MetadataFingerprint.columns := by
  rw [StagedRow.metadata, row.keyOfDate, stands.internalDate, stands.sizeBytes]
  cases dated : message.internalDate with
  | none => simp [metadataFingerprint, dated]
  | some date =>
    cases sized : message.sizeBytes with
    | none => simp [metadataFingerprint, dated, sized]
    | some size =>
      simp [metadataFingerprint, dated, sized, metadataDateKey_eq,
        MetadataFingerprint.columns]

end StagedRow.Stands

/-- Two descriptions of metadata by columns coincide when the metadata do. -/
theorem metadata_columns_eq_iff {left right : Option MetadataFingerprint} :
    left.map MetadataFingerprint.columns = right.map MetadataFingerprint.columns ↔
      left = right :=
  (Option.map_injective MetadataFingerprint.columns_injective).eq_iff

namespace MessageMetadataStage

variable {parseDate : DateParser} {stage : MessageMetadataStage parseDate}
  {side : StagedMessageSide} {messages : ExtractedMessages}

theorem stagedRow_messageKey (key : MailboxMessageKey) (message : ExtractedMessage) :
    (stagedRow parseDate side key message).messageKey = key := by
  simp only [StagedRow.messageKey, stagedRow, uidvalidityOf_column]

/-- The keys of the rows are the keys of the map. -/
theorem Holds.messageKeys (holds : stage.Holds side messages) :
    (stage.sideRows side).map StagedRow.messageKey = sortUnstable messages.keys := by
  have mapped := congrArg (List.map StagedRow.messageKey) holds
  simp only [List.map_map, Function.comp_def, stagedRow_messageKey, List.map_id'] at mapped
  exact mapped

/-- Every row stands for the message under its key. -/
theorem Holds.stands (holds : stage.Holds side messages) {row : StagedRow parseDate}
    (isRow : row ∈ stage.sideRows side) : row.Stands (messages.at row.messageKey) := by
  have staged : row.content ∈ (stage.sideRows side).map StagedRow.content :=
    List.mem_map_of_mem isRow
  rw [holds] at staged
  obtain ⟨key, _, isRowOf⟩ := List.mem_map.mp staged
  have sameKey : key = row.messageKey := by
    have keys := congrArg StagedRow.messageKey isRowOf
    rwa [stagedRow_messageKey] at keys
  subst sameKey
  exact ⟨(congrArg StagedRow.messageId isRowOf).symm,
    (congrArg StagedRow.internalDate isRowOf).symm,
    (congrArg StagedRow.sizeBytes isRowOf).symm⟩

end MessageMetadataStage

/-- Key columns are ordered like keys. -/
theorem StagedRow.messageKey_lt {parseDate : DateParser} {row other : StagedRow parseDate}
    (less : row.orderKey < other.orderKey) : row.messageKey < other.messageKey := by
  change row.messageKey.sortKey < other.messageKey.sortKey
  rw [StagedRow.orderKey, StagedRow.orderKey, Prod.Lex.toLex_lt_toLex] at less
  rw [MailboxMessageKey.sortKey, MailboxMessageKey.sortKey, Prod.Lex.toLex_lt_toLex]
  rcases less with below | ⟨sameFolder, less⟩
  · exact .inl below
  · refine .inr ⟨sameFolder, ?_⟩
    rw [StagedRow.minorKey, StagedRow.minorKey, Prod.Lex.toLex_lt_toLex] at less
    rw [Prod.Lex.toLex_lt_toLex]
    rcases less with below | ⟨sameColumn, less⟩
    · refine .inl ?_
      have range := row.uidvalidityRange
      simp only [StagedRow.messageKey, uidvalidityOf] at below ⊢
      by_cases absent : 0 ≤ row.uidvalidity
      · rw [if_pos absent, if_pos (by omega)]
        exact WithBot.coe_lt_coe.mpr (by omega)
      · rw [if_neg absent, if_pos (by omega)]
        exact WithBot.bot_lt_coe _
    · exact .inr ⟨congrArg uidvalidityOf sameColumn, less⟩

/-! ## The same messages, staged and in memory -/

/-- The stage holds the messages of the maps, in key order, and both reconciliations
use the same folder mapping. -/
structure StagedAs {platform : Platform} (memory : ReconciliationInput)
    (staged : StagedInput platform) : Prop where
  folderMapping : staged.folderMapping = memory.folderMapping
  source : staged.stage.Holds .source memory.sourceMessages
  destination : staged.stage.Holds .destination memory.destMessages

/-- Every message has an internal date and a size. -/
def ExtractedMessages.Complete (messages : ExtractedMessages) : Prop :=
  ∀ key ∈ messages.keys,
    (messages.at key).internalDate.isSome ∧ (messages.at key).sizeBytes.isSome

instance (messages : ExtractedMessages) : Decidable messages.Complete :=
  inferInstanceAs (Decidable (∀ key ∈ messages.keys,
    (messages.at key).internalDate.isSome ∧ (messages.at key).sizeBytes.isSome))

/-- The messages of both maps. -/
def ReconciliationInput.messages (input : ReconciliationInput) : List ExtractedMessage :=
  input.sourceMessages.keys.map input.sourceMessages.at ++
    input.destMessages.keys.map input.destMessages.at

namespace StagedAs

variable {platform : Platform} {memory : ReconciliationInput} {staged : StagedInput platform}

theorem mapFolder_messageKey (folderMapping : FolderMapping)
    (row : StagedRow platform.parseDate) :
    (row.mapFolder folderMapping).messageKey = row.messageKey := by
  unfold StagedRow.mapFolder
  split <;> rfl

theorem sourceRows_eq : staged.sourceRows =
    (staged.stage.sideRows .source).map (StagedRow.mapFolder staged.folderMapping) := by
  rw [StagedInput.sourceRows, StagedInput.rows, MessageMetadataStage.mapFolders,
    List.filter_map, MessageMetadataStage.sideRows]
  congr 1
  apply List.filter_congr
  intro row _
  have sameSide : (row.mapFolder staged.folderMapping).side = row.side :=
    congrArg StagedKey.side (row.mapFolder_key staged.folderMapping)
  rw [Function.comp_apply, sameSide]

theorem destRows_eq : staged.destRows = staged.stage.sideRows .destination := by
  rw [StagedInput.destRows, StagedInput.rows, MessageMetadataStage.mapFolders,
    List.filter_map, MessageMetadataStage.sideRows]
  have sameSide : ∀ row : StagedRow platform.parseDate,
      (row.mapFolder staged.folderMapping).side = row.side := fun row =>
    congrArg StagedKey.side (row.mapFolder_key staged.folderMapping)
  simp only [Function.comp_def, sameSide]
  conv_rhs => rw [← List.map_id (staged.stage.rows.filter _)]
  apply List.map_congr_left
  intro row membership
  have isDestination : row.side = .destination := by
    simpa using (List.mem_filter.mp membership).2
  rw [StagedRow.mapFolder, dif_neg (by simp [isDestination]), id]

theorem sourceKeys (agree : StagedAs memory staged) :
    staged.sourceRows.map StagedRow.messageKey = memory.sources := by
  rw [sourceRows_eq, List.map_map, ReconciliationInput.sources, ← agree.source.messageKeys]
  apply List.map_congr_left
  intro row _
  exact mapFolder_messageKey _ row

theorem destinationKeys (agree : StagedAs memory staged) :
    staged.destinations.map StagedRow.messageKey = memory.destinations := by
  have perm : (staged.destinations.map StagedRow.messageKey).Perm memory.destinations := by
    rw [ReconciliationInput.destinations, ← agree.destination.messageKeys, ← destRows_eq]
    exact staged.destinations_perm.map _
  have sorted : (staged.destinations.map StagedRow.messageKey).Pairwise (· ≤ ·) := by
    rw [List.pairwise_map]
    exact (orderBy_strict staged.destRows_orderKey_nodup).imp fun less =>
      le_of_lt (StagedRow.messageKey_lt less)
  rw [← sortUnstable_eq perm.symm sorted]
  exact sortUnstable_eq (List.Perm.refl _) (sortUnstable_sorted _)

variable {row : StagedRow platform.parseDate}

theorem sourceRow (agree : StagedAs memory staged) (isRow : row ∈ staged.sourceRows) :
    row.Stands (memory.sourceMessages.at row.messageKey) := by
  rw [sourceRows_eq] at isRow
  obtain ⟨original, inStage, rfl⟩ := List.mem_map.mp isRow
  have stands := agree.source.stands inStage
  rw [mapFolder_messageKey]
  unfold StagedRow.mapFolder
  split
  · exact ⟨stands.messageId, stands.internalDate, stands.sizeBytes⟩
  · exact stands

theorem destinationRow (agree : StagedAs memory staged) (isRow : row ∈ staged.destinations) :
    row.Stands (memory.destMessages.at row.messageKey) := by
  rw [StagedInput.mem_destinations, destRows_eq] at isRow
  exact agree.destination.stands isRow

theorem sourceKey_mem (agree : StagedAs memory staged)
    (isRow : row ∈ staged.sourceRows) : row.messageKey ∈ memory.sourceMessages.keys := by
  have membership := List.mem_map_of_mem (f := StagedRow.messageKey) isRow
  rw [agree.sourceKeys] at membership
  exact mem_sortUnstable.mp membership

theorem destinationKey_mem (agree : StagedAs memory staged) (isRow : row ∈ staged.destinations) :
    row.messageKey ∈ memory.destMessages.keys := by
  have membership := List.mem_map_of_mem (f := StagedRow.messageKey) isRow
  rw [agree.destinationKeys] at membership
  exact mem_sortUnstable.mp membership

/-- The rows are other names for the keys, and their columns compare like the
messages. -/
theorem names (agree : StagedAs memory staged)
    (alike : ∀ message ∈ memory.messages, ∀ message' ∈ memory.messages,
      SpelledAlike message message') :
    Renaming StagedRow.sourceProfile StagedRow.destProfile (memory.sourceProfile platform)
      (memory.destProfile platform) StagedRow.messageKey StagedRow.messageKey
      staged.sourceRows staged.destinations := by
  have sourceMessage : ∀ {row}, row ∈ staged.sourceRows →
      memory.sourceMessages.at row.messageKey ∈ memory.messages := fun isRow =>
    List.mem_append_left _ (List.mem_map_of_mem (agree.sourceKey_mem isRow))
  have destMessage : ∀ {row}, row ∈ staged.destinations →
      memory.destMessages.at row.messageKey ∈ memory.messages := fun isRow =>
    List.mem_append_right _ (List.mem_map_of_mem (agree.destinationKey_mem isRow))
  constructor
  case leftInjective =>
    intro row isRow other isOther same
    obtain ⟨inRows, side⟩ := staged.mem_sourceRows.mp isRow
    obtain ⟨inRows', side'⟩ := staged.mem_sourceRows.mp isOther
    exact staged.row_of_key inRows inRows'
      (StagedRow.key_eq_of_messageKey (side.trans side'.symm) same)
  case rightInjective =>
    intro row isRow other isOther same
    obtain ⟨inRows, side⟩ := staged.mem_destRows.mp (staged.mem_destinations.mp isRow)
    obtain ⟨inRows', side'⟩ := staged.mem_destRows.mp (staged.mem_destinations.mp isOther)
    exact staged.row_of_key inRows inRows'
      (StagedRow.key_eq_of_messageKey (side.trans side'.symm) same)
  case sourceFolder =>
    intro row isRow
    change expectedDestinationFolder row.messageKey memory.folderMapping = row.matchMailbox
    rw [staged.matchMailbox_eq isRow, agree.folderMapping]
  case destFolder =>
    intro row _
    rfl
  case identified =>
    intro row isRow
    change (memory.sourceMessages.at row.messageKey).rfcIdentity.isSome =
      row.identity.isSome
    rw [(agree.sourceRow isRow).identity, rfcIdentity_eq, Option.isSome_map]
  case described =>
    intro row isRow
    change (metadataFingerprint platform.parseDate
      (memory.sourceMessages.at row.messageKey)).isSome = row.metadata.isSome
    rw [(agree.sourceRow isRow).metadata, Option.isSome_map]
  case identityWithin =>
    intro row isRow other isOther
    change (memory.sourceMessages.at other.messageKey).rfcIdentity =
      (memory.sourceMessages.at row.messageKey).rfcIdentity ↔ other.identity = row.identity
    rw [(agree.sourceRow isRow).identity, (agree.sourceRow isOther).identity]
    exact rfcIdentity_eq_iff (alike _ (sourceMessage isOther) _ (sourceMessage isRow))
  case identityAcross =>
    intro row isRow other isOther
    change (memory.destMessages.at other.messageKey).rfcIdentity =
      (memory.sourceMessages.at row.messageKey).rfcIdentity ↔ other.identity = row.identity
    rw [(agree.sourceRow isRow).identity, (agree.destinationRow isOther).identity]
    exact rfcIdentity_eq_iff (alike _ (destMessage isOther) _ (sourceMessage isRow))
  case identityAmong =>
    intro row isRow other isOther
    change (memory.destMessages.at other.messageKey).rfcIdentity =
      (memory.destMessages.at row.messageKey).rfcIdentity ↔ other.identity = row.identity
    rw [(agree.destinationRow isRow).identity, (agree.destinationRow isOther).identity]
    exact rfcIdentity_eq_iff (alike _ (destMessage isOther) _ (destMessage isRow))
  case metadataWithin =>
    intro row isRow other isOther
    change metadataFingerprint platform.parseDate
        (memory.sourceMessages.at other.messageKey) =
      metadataFingerprint platform.parseDate (memory.sourceMessages.at row.messageKey) ↔
        other.metadata = row.metadata
    rw [(agree.sourceRow isRow).metadata, (agree.sourceRow isOther).metadata,
      metadata_columns_eq_iff]
  case metadataAcross =>
    intro row isRow other isOther
    change metadataFingerprint platform.parseDate (memory.destMessages.at other.messageKey) =
      metadataFingerprint platform.parseDate (memory.sourceMessages.at row.messageKey) ↔
        other.metadata = row.metadata
    rw [(agree.sourceRow isRow).metadata, (agree.destinationRow isOther).metadata,
      metadata_columns_eq_iff]

section Agreement

variable (agree : StagedAs memory staged)
  (alike : ∀ message ∈ memory.messages, ∀ message' ∈ memory.messages,
    SpelledAlike message message')
  (complete : memory.sourceMessages.Complete)

include agree in
theorem sourceRows_complete (complete : memory.sourceMessages.Complete)
    (isRow : row ∈ staged.sourceRows) : row.sourceProfile.metadata.isSome := by
  change row.metadata.isSome = true
  rw [(agree.sourceRow isRow).metadata, Option.isSome_map, metadataFingerprint_isSome]
  exact complete _ (agree.sourceKey_mem isRow)

/-- The staged result in terms of message keys. -/
def inMemory : Reconciliation Profile.looseClass (memory.sourceProfile platform)
    (memory.destProfile platform) memory.sources memory.destinations :=
  (staged.reconciliation.rename (agree.names alike)
    ((agree.names alike).placementPattern fun _ isRow =>
      agree.sourceRows_complete complete isRow)).relist agree.sourceKeys
        agree.destinationKeys

theorem inMemory_records : (agree.inMemory alike complete).records =
    staged.reconciliation.records.map fun record =>
      (record.1, record.2.1.map StagedRow.messageKey,
        record.2.2.map StagedRow.messageKey) := by
  rw [inMemory, Reconciliation.relist_records, Reconciliation.rename_records]

include agree alike complete

/-- Both mismatch lists have the same kinds and keys. -/
theorem classification_perm :
    (staged.mismatchList.map MessageMismatch.classification).Perm
      ((memory.mismatchList platform).map MessageMismatch.classification) := by
  have stagedRecords : (staged.reconciliation.records.map staged.ofRecord).map
      MessageMismatch.classification = (agree.inMemory alike complete).records := by
    rw [inMemory_records, List.map_map]
    apply List.map_congr_left
    intro record _
    exact makeMismatch_classification ..
  have memoryRecords : (memory.mismatchList platform).map MessageMismatch.classification =
      (memory.reconciliation platform).records := by
    rw [ReconciliationInput.mismatchList, List.map_map]
    conv_rhs => rw [← List.map_id (memory.reconciliation platform).records]
    apply List.map_congr_left
    intro record _
    exact makeMismatch_classification ..
  rw [memoryRecords]
  refine (staged.mismatchList_perm.map _).trans ?_
  rw [stagedRecords]
  exact (agree.inMemory alike complete).records_perm (memory.reconciliation platform)

/-- Both summaries have the same counters. -/
theorem summary_eq : staged.outcome.summary = (memory.outcome platform).summary := by
  have exactLength : staged.exactPairs.length =
      (memory.reconciliation platform).exact.length := by
    rw [← ((agree.inMemory alike complete).exact_perm _).length_eq]
    exact (List.length_map _).symm
  have changedLength : staged.changed.length =
      (memory.reconciliation platform).changed.length := by
    rw [← ((agree.inMemory alike complete).changed_perm _).length_eq]
    exact (List.length_map _).symm
  have misplacedLength : staged.misplaced.length =
      (memory.reconciliation platform).misplaced.length := by
    rw [← ((agree.inMemory alike complete).misplaced_perm _).length_eq]
    exact (List.length_map _).symm
  have probablePerm := (agree.inMemory alike complete).probable_perm
    (memory.reconciliation platform)
  have probableLength : staged.probable.length =
      (memory.reconciliation platform).probable.length := by
    rw [← probablePerm.length_eq]
    exact (List.length_map _).symm
  have missingLength : staged.reconciliation.missing.length =
      (memory.reconciliation platform).missing.length := by
    rw [← (agree.inMemory alike complete).missing_eq (memory.reconciliation platform),
      inMemory, Reconciliation.relist_missing, Reconciliation.rename_missing,
      List.length_map]
  have extraLength : staged.reconciliation.extra.length =
      (memory.reconciliation platform).extra.length := by
    rw [← (agree.inMemory alike complete).extra_eq (memory.reconciliation platform),
      inMemory, Reconciliation.relist_extra, Reconciliation.rename_extra, List.length_map]
  have duplicatedLength : staged.reconciliation.duplicated.length =
      (memory.reconciliation platform).duplicated.length := by
    rw [← (agree.inMemory alike complete).duplicated_eq (memory.reconciliation platform),
      inMemory, Reconciliation.relist_duplicated, Reconciliation.rename_duplicated,
      List.length_map]
  have sourceLength : staged.sourceRows.length = memory.sourceMessages.entries.length := by
    have lengths := congrArg List.length agree.sourceKeys
    rw [List.length_map, ReconciliationInput.sources,
      (sortUnstable_perm _).length_eq] at lengths
    rw [lengths]
    exact List.length_map _
  have destLength : staged.destRows.length = memory.destMessages.entries.length := by
    have lengths := congrArg List.length agree.destinationKeys
    rw [List.length_map, ReconciliationInput.destinations,
      (sortUnstable_perm _).length_eq, staged.destinations_perm.length_eq] at lengths
    rw [lengths]
    exact List.length_map _
  have syntheticLength : (staged.probable.filter fun pair =>
      pair.1.identityProvenance = .syntheticHeaderFingerprint).length =
      (((memory.reconciliation platform).probable.map Prod.fst).filter fun key =>
        (memory.sourceMessages.at key).identityProvenance =
          .syntheticHeaderFingerprint).length := by
    rw [← ((probablePerm.map Prod.fst).filter _).length_eq]
    change _ = (List.filter _ (List.map Prod.fst (staged.probable.map
      (Prod.map StagedRow.messageKey StagedRow.messageKey)))).length
    rw [List.map_map, List.filter_map, List.length_map]
    congr 1
    apply List.filter_congr
    intro pair membership
    have isRow : pair.1 ∈ staged.sourceRows :=
      (mem_unpairedLeft.mp (staged.classwise_probable.mem_left membership)).1
    rw [(agree.sourceRow isRow).provenance]
    rfl
  simp only [StagedInput.outcome, ReconciliationInput.outcome, exactLength, changedLength,
    misplacedLength, probableLength, missingLength, extraLength, duplicatedLength,
    sourceLength, destLength, syntheticLength]

end Agreement

end StagedAs

/-- The staged reconciliation refines the in-memory one: it always returns, and where
the in-memory reconciliation stays within its budgets both have the same counters and
the same mismatches. -/
theorem reconcileStage_refines {platform : Platform} {memory : ReconciliationInput}
    {staged : StagedInput platform} (agree : StagedAs memory staged)
    (complete : memory.sourceMessages.Complete)
    (alike : ∀ message ∈ memory.messages, ∀ message' ∈ memory.messages,
      SpelledAlike message message') :
    ∃ tables, reconcileStage staged = .ok tables ∧
      ∀ result, reconcileMetadata platform memory = .ok result →
        tables.summary = result.summary ∧
          (tables.mismatches.map MessageMismatch.classification).Perm
            (result.mismatches.map MessageMismatch.classification) := by
  refine ⟨staged.outcome, staged.reconcileStage_eq, ?_⟩
  intro result returned
  obtain ⟨_, rfl⟩ := (memory.reconcileMetadata_ok_iff platform).mp returned
  exact ⟨agree.summary_eq alike complete, agree.classification_perm alike complete⟩

/-! ## Message-IDs that differ in whitespace -/

/-- Both maps of an input, each staged as one page. -/
def stagedPages (platform : Platform) (memory : ReconciliationInput) :
    MessageMetadataStage platform.parseDate :=
  (MessageMetadataStage.insertPages [⟨.source, memory.sourceMessages, ∅⟩,
    ⟨.destination, memory.destMessages, ∅⟩] .empty).toOption.getD .empty

/-- The staged form of an input. -/
def stagedInput (platform : Platform) (memory : ReconciliationInput) :
    StagedInput platform where
  jobId := memory.jobId
  runId := memory.runId
  stage := stagedPages platform memory
  folderMapping := memory.folderMapping

theorem copiesInput_staged : StagedAs copiesInput (stagedInput plainPlatform copiesInput) where
  folderMapping := rfl
  source := by
    unfold MessageMetadataStage.Holds
    decide
  destination := by
    unfold MessageMetadataStage.Holds
    decide

theorem copiesInput_refined :
    ∃ tables result, reconcileStage (stagedInput plainPlatform copiesInput) = .ok tables ∧
      reconcileMetadata plainPlatform copiesInput = .ok result ∧
      tables.summary = result.summary ∧ result.summary.duplicatedCount = 1 := by
  have returned := (copiesInput.reconcileMetadata_ok_iff plainPlatform).mpr
    ⟨copiesInput_withinBudgets, rfl⟩
  obtain ⟨tables, reconciled, same⟩ := reconcileStage_refines copiesInput_staged
    (by decide) (by decide)
  exact ⟨tables, _, reconciled, returned, (same _ returned).1, by decide⟩

/-- One message whose fetched Message-ID starts with a blank on the source only. -/
def paddedInput : ReconciliationInput where
  jobId := "job"
  runId := "run"
  sourceMessages :=
    [⟨⟨"INBOX", none, "1"⟩,
      { comparableMessage with messageId := some " <a@example.org>" }⟩].toAList
  destMessages := [⟨⟨"INBOX", none, "1"⟩, comparableMessage⟩].toAList
  folderMapping := ∅

theorem paddedInput_staged :
    StagedAs paddedInput (stagedInput plainPlatform paddedInput) where
  folderMapping := rfl
  source := by
    unfold MessageMetadataStage.Holds
    decide
  destination := by
    unfold MessageMetadataStage.Holds
    decide

/-- The maps match the two messages exactly, the stage only by their metadata. -/
theorem paddedInput_not_refined :
    StagedAs paddedInput (stagedInput plainPlatform paddedInput) ∧
      paddedInput.sourceMessages.Complete ∧ paddedInput.destMessages.Complete ∧
      ∃ tables result, reconcileStage (stagedInput plainPlatform paddedInput) = .ok tables ∧
        reconcileMetadata plainPlatform paddedInput = .ok result ∧
        result.summary.metadataMatches = 1 ∧ tables.summary.metadataMatches = 0 ∧
        tables.summary.probableMatches = 1 := by
  refine ⟨paddedInput_staged, by decide, by decide, _, _,
    (stagedInput plainPlatform paddedInput).reconcileStage_eq,
    (paddedInput.reconcileMetadata_ok_iff plainPlatform).mpr ⟨⟨by decide, by decide⟩, rfl⟩,
    by decide, by decide, by decide⟩

end MailSwiftSync
