import MailSwiftSync.Staged.Outcome
import MailSwiftSync.Verification.Exactness
import MailSwiftSync.Verification.Reordering

/-!
# How the scan was paged

Two stages with the same rows in another order are reconciled to the same counters,
unless copies of one Message-ID that differ in metadata or folder compete for too few
destination copies.  Which of them is served first is then decided by the rowid, and
with it by the pages the scan happened to use.
-/

namespace MailSwiftSync

open Foundation

namespace StagedInput

variable {platform : Platform} (input : StagedInput platform)

theorem mapFolder_content (folderMapping : FolderMapping)
    (row : StagedRow platform.parseDate) :
    (row.mapFolder folderMapping).content = row.content.mapFolder folderMapping := by
  by_cases isSource : row.side = .source
  · have isSource' : row.content.side = .source := isSource
    rw [StagedRow.mapFolder, StagedRow.mapFolder, dif_pos isSource, dif_pos isSource']
    rfl
  · have isDestination : ¬row.content.side = .source := isSource
    rw [StagedRow.mapFolder, StagedRow.mapFolder, dif_neg isSource, dif_neg isDestination]

/-- Rows are known by their content. -/
theorem content_injective {row other : StagedRow platform.parseDate}
    (isRow : row ∈ input.rows) (isOther : other ∈ input.rows)
    (same : row.content = other.content) : row = other := by
  apply input.row_of_key isRow isOther
  have keys := congrArg StagedRow.key same
  exact keys

/-- Contents are other names for the rows. -/
theorem contentNames : Renaming StagedRow.sourceProfile StagedRow.destProfile
    StagedRow.sourceProfile StagedRow.destProfile StagedRow.content StagedRow.content
    input.sourceRows input.destinations where
  leftInjective := fun _ isRow _ isOther =>
    input.content_injective (input.mem_sourceRows.mp isRow).1
      (input.mem_sourceRows.mp isOther).1
  rightInjective := fun _ isRow _ isOther =>
    input.content_injective (input.mem_destRows.mp (input.mem_destinations.mp isRow)).1
      (input.mem_destRows.mp (input.mem_destinations.mp isOther)).1
  sourceFolder := fun _ _ => rfl
  destFolder := fun _ _ => rfl
  identified := fun _ _ => rfl
  described := fun _ _ => rfl
  identityWithin := fun _ _ _ _ => Iff.rfl
  identityAcross := fun _ _ _ _ => Iff.rfl
  identityAmong := fun _ _ _ _ => Iff.rfl
  metadataWithin := fun _ _ _ _ => Iff.rfl
  metadataAcross := fun _ _ _ _ => Iff.rfl

theorem contentPlaced : SamePattern
    (fun row : StagedRow platform.parseDate => row.sourceProfile.strictClass)
    (fun row : StagedRow platform.parseDate => row.destProfile.strictClass)
    (fun row : StagedRow platform.parseDate => row.content.sourceProfile.strictClass)
    (fun row : StagedRow platform.parseDate => row.content.destProfile.strictClass)
    input.sourceRows input.destinations where
  classified := fun _ _ => rfl
  within := fun _ _ _ _ _ => Iff.rfl
  across := fun _ _ _ _ _ => Iff.rfl

/-- The result in terms of row contents. -/
def contentReconciliation : Reconciliation Profile.strictClass StagedRow.sourceProfile
    StagedRow.destProfile (input.sourceRows.map StagedRow.content)
    (input.destinations.map StagedRow.content) :=
  input.reconciliation.rename input.contentNames input.contentPlaced

/-- Both stages have the same rows, up to their order. -/
structure SameRows (input other : StagedInput platform) : Prop where
  folderMapping : input.folderMapping = other.folderMapping
  rows : (input.stage.rows.map StagedRow.content).Perm
    (other.stage.rows.map StagedRow.content)

section Order

variable {input} {other : StagedInput platform}

theorem SameRows.mappedRows (same : SameRows input other) :
    (input.rows.map StagedRow.content).Perm (other.rows.map StagedRow.content) := by
  have mapped : ∀ staged : StagedInput platform, staged.rows.map StagedRow.content =
      (staged.stage.rows.map StagedRow.content).map
        (StagedRow.mapFolder staged.folderMapping) := by
    intro staged
    rw [StagedInput.rows, MessageMetadataStage.mapFolders, List.map_map, List.map_map]
    apply List.map_congr_left
    intro row _
    exact mapFolder_content staged.folderMapping row
  rw [mapped, mapped, same.folderMapping]
  exact same.rows.map _

theorem SameRows.sideRows (same : SameRows input other) (side : StagedMessageSide) :
    ((input.rows.filter (·.side = side)).map StagedRow.content).Perm
      ((other.rows.filter (·.side = side)).map StagedRow.content) := by
  have filtered : ∀ staged : StagedInput platform,
      (staged.rows.filter (·.side = side)).map StagedRow.content =
        (staged.rows.map StagedRow.content).filter (·.side = side) := by
    intro staged
    rw [List.filter_map]
    rfl
  rw [filtered, filtered]
  exact same.mappedRows.filter _

/-- The destinations stand in the order of their keys on both stages. -/
theorem SameRows.destinations (same : SameRows input other) :
    input.destinations.map StagedRow.content = other.destinations.map StagedRow.content := by
  have ordered : ∀ staged : StagedInput platform,
      (staged.destinations.map StagedRow.content).Pairwise
        fun left right => left.orderKey < right.orderKey := by
    intro staged
    rw [List.pairwise_map]
    exact orderBy_strict staged.destRows_orderKey_nodup
  have perm : (input.destinations.map StagedRow.content).Perm
      (other.destinations.map StagedRow.content) :=
    (input.destinations_perm.map _).trans
      ((same.sideRows .destination).trans (other.destinations_perm.map _).symm)
  rw [← orderBy_eq (List.Perm.refl _) (ordered input)]
  exact orderBy_eq perm (ordered other)

theorem SameRows.reordered (same : SameRows input other) :
    Reconciliation.Reordered StagedRow.sourceProfile StagedRow.identityProvenance
      (input.sourceRows.map StagedRow.content) (other.sourceRows.map StagedRow.content)
      (input.destinations.map StagedRow.content) where
  perm := (same.sideRows .source).map _
  tagged := by
    have rfc : ∀ row : StagedRow platform.parseDate, row.identity.isSome →
        row.identityProvenance = .rfcMessageId := by
      intro row identified
      by_contra other
      simp [StagedRow.identity, other] at identified
    intro row row' identified profiles
    have identities : row.identity = row'.identity := congrArg Profile.identity profiles
    rw [rfc row identified, rfc row' (identities ▸ identified)]
  nodup := input.sourceRows_nodup.map_on input.contentNames.leftInjective
  nodup' := other.sourceRows_nodup.map_on other.contentNames.leftInjective
  destNodup := input.destinations_nodup.map_on input.contentNames.rightInjective

/-- The result for the rows of the other stage, over the same destinations. -/
def SameRows.otherReconciliation (same : SameRows input other) :
    Reconciliation Profile.strictClass StagedRow.sourceProfile StagedRow.destProfile
      (other.sourceRows.map StagedRow.content) (input.destinations.map StagedRow.content) :=
  other.contentReconciliation.relist rfl same.destinations.symm

/-- The counters do not depend on the order of the rows. -/
theorem SameRows.summary_eq (same : SameRows input other)
    (repeatable : Repeatable StagedRow.sourceProfile StagedRow.destProfile input.sourceRows
      input.destinations) : input.outcome.summary = other.outcome.summary := by
  have reordered := same.reordered
  have repeatable' : Repeatable StagedRow.sourceProfile StagedRow.destProfile
      (input.sourceRows.map StagedRow.content) (input.destinations.map StagedRow.content) :=
    repeatable.map (fun _ => rfl) (fun _ => rfl) input.contentNames.rightInjective
  have exactSame := input.contentReconciliation.exact_sameUpToKind
    same.otherReconciliation reordered
  have changedSame := input.contentReconciliation.changed_sameUpToKind
    same.otherReconciliation reordered repeatable'
  have misplacedSame := input.contentReconciliation.misplaced_sameUpToKind
    same.otherReconciliation reordered repeatable'
  have probableSame := input.contentReconciliation.probable_sameUpToKind
    same.otherReconciliation reordered repeatable'
  have lengthOf : ∀ pairs pairs' :
      List (StagedRow platform.parseDate × StagedRow platform.parseDate),
      SameUpToKind (Reconciliation.kind StagedRow.sourceProfile StagedRow.identityProvenance)
        (pairs.map (Prod.map StagedRow.content StagedRow.content))
        (pairs'.map (Prod.map StagedRow.content StagedRow.content)) →
      pairs.length = pairs'.length := by
    intro pairs pairs' sameKinds
    simpa using sameKinds.length_eq
  have exactLength := lengthOf input.exactPairs other.exactPairs exactSame
  have changedLength := lengthOf input.changed other.changed changedSame
  have misplacedLength := lengthOf input.misplaced other.misplaced misplacedSame
  have probableLength := lengthOf input.probable other.probable probableSame
  have missingLength : input.reconciliation.missing.length =
      other.reconciliation.missing.length := by
    have lengths := (input.contentReconciliation.missing_kinds same.otherReconciliation
      reordered repeatable').length_eq
    rwa [List.length_map, List.length_map, contentReconciliation, otherReconciliation,
      contentReconciliation, Reconciliation.relist_missing, Reconciliation.rename_missing,
      Reconciliation.rename_missing, List.length_map, List.length_map] at lengths
  have duplicatedLength : input.reconciliation.duplicated.length =
      other.reconciliation.duplicated.length := by
    have lengths := congrArg List.length (input.contentReconciliation.duplicated_reordered
      same.otherReconciliation reordered repeatable')
    rwa [contentReconciliation, otherReconciliation, contentReconciliation,
      Reconciliation.relist_duplicated, Reconciliation.rename_duplicated,
      Reconciliation.rename_duplicated, List.length_map, List.length_map] at lengths
  have extraLength : input.reconciliation.extra.length =
      other.reconciliation.extra.length := by
    have lengths := congrArg List.length (input.contentReconciliation.extra_reordered
      same.otherReconciliation reordered repeatable')
    rwa [contentReconciliation, otherReconciliation, contentReconciliation,
      Reconciliation.relist_extra, Reconciliation.rename_extra,
      Reconciliation.rename_extra, List.length_map, List.length_map] at lengths
  have sourceLength : input.sourceRows.length = other.sourceRows.length := by
    simpa [sourceRows] using (same.sideRows .source).length_eq
  have destLength : input.destRows.length = other.destRows.length := by
    simpa [destRows] using (same.sideRows .destination).length_eq
  have syntheticLength : (input.probable.filter fun pair =>
      pair.1.identityProvenance = .syntheticHeaderFingerprint).length =
      (other.probable.filter fun pair =>
        pair.1.identityProvenance = .syntheticHeaderFingerprint).length := by
    have lengths := (probableSame.kinds.filter fun k =>
      k.2 = MessageIdentityProvenance.syntheticHeaderFingerprint).length_eq
    rw [List.filter_map, List.filter_map, List.length_map, List.length_map] at lengths
    rw [contentReconciliation, otherReconciliation, contentReconciliation,
      Reconciliation.relist, Reconciliation.rename, Reconciliation.rename, List.filter_map,
      List.filter_map, List.length_map, List.length_map] at lengths
    exact lengths
  simp only [outcome, exactLength, changedLength, misplacedLength, probableLength,
    missingLength, duplicatedLength, extraLength, sourceLength, destLength, syntheticLength]

end Order

end StagedInput

/-- Stages with the same messages have the same counters, however their rows were paged,
when the copies that compete for destinations are interchangeable. -/
theorem reconcileStage_repeatable {platform : Platform}
    {staged staged' : StagedInput platform} (same : StagedInput.SameRows staged staged')
    (repeatable : Repeatable StagedRow.sourceProfile StagedRow.destProfile staged.sourceRows
      staged.destinations) :
    ∃ tables tables', reconcileStage staged = .ok tables ∧
      reconcileStage staged' = .ok tables' ∧ tables.summary = tables'.summary :=
  ⟨_, _, staged.reconcileStage_eq, staged'.reconcileStage_eq, same.summary_eq repeatable⟩

/-! ## Pages that change the verdict -/

/-- Two copies of one Message-ID with different sizes in one source folder, and two
destination copies: one changed in that folder, one unchanged in another. -/
def competingSource (uid : String) (sizeBytes : Nat) :
    Sigma fun _ : MailboxMessageKey => ExtractedMessage :=
  ⟨⟨"INBOX", some 1, uid⟩, { comparableMessage with sizeBytes := some sizeBytes }⟩

def competingDestinations : ExtractedMessages :=
  [⟨⟨"INBOX", some 1, "1"⟩, { comparableMessage with sizeBytes := some 7 }⟩,
    ⟨⟨"Other", some 1, "1"⟩, { comparableMessage with sizeBytes := some 5 }⟩].toAList

/-- The source scanned as one page: UID 10 sorts before UID 2. -/
def onePage : List MessageMetadataStage.Page :=
  [⟨.source, [competingSource "2" 5, competingSource "10" 6].toAList, ∅⟩,
    ⟨.destination, competingDestinations, ∅⟩]

/-- The source scanned in pages of one message. -/
def twoPages : List MessageMetadataStage.Page :=
  [⟨.source, [competingSource "2" 5].toAList, ∅⟩,
    ⟨.source, [competingSource "10" 6].toAList, ∅⟩,
    ⟨.destination, competingDestinations, ∅⟩]

/-- A stage filled from pages. -/
def pagedInput (pages : List MessageMetadataStage.Page) : StagedInput plainPlatform where
  jobId := "job"
  runId := "run"
  stage := (MessageMetadataStage.insertPages pages .empty).toOption.getD .empty
  folderMapping := ∅

theorem insertPages_pagedInput {pages : List MessageMetadataStage.Page}
    (staged : (MessageMetadataStage.insertPages pages (.empty :
      MessageMetadataStage plainPlatform.parseDate)).toOption.isSome) :
    MessageMetadataStage.insertPages pages .empty = .ok (pagedInput pages).stage := by
  rw [pagedInput]
  cases inserted : MessageMetadataStage.insertPages pages (.empty :
      MessageMetadataStage plainPlatform.parseDate) with
  | ok stage => rfl
  | error error =>
    rw [inserted] at staged
    cases staged

/-- One message on one side is a surplus or not, depending on the page size. -/
theorem page_size_changes_counters :
    MessageMetadataStage.insertPages onePage .empty = .ok (pagedInput onePage).stage ∧
      MessageMetadataStage.insertPages twoPages .empty = .ok (pagedInput twoPages).stage ∧
      StagedInput.SameRows (pagedInput onePage) (pagedInput twoPages) ∧
      ∃ tables tables', reconcileStage (pagedInput onePage) = .ok tables ∧
        reconcileStage (pagedInput twoPages) = .ok tables' ∧
        tables.summary.changedCount = 2 ∧ tables'.summary.changedCount = 1 ∧
        tables.summary.missingCount = 0 ∧ tables'.summary.missingCount = 1 := by
  refine ⟨insertPages_pagedInput (by decide), insertPages_pagedInput (by decide),
    ⟨rfl, by decide⟩, _, _, (pagedInput onePage).reconcileStage_eq,
    (pagedInput twoPages).reconcileStage_eq, by decide, by decide, by decide, by decide⟩

/-- The same scans with two interchangeable copies. -/
def onePageOfCopies : List MessageMetadataStage.Page :=
  [⟨.source, [competingSource "2" 5, competingSource "10" 5].toAList, ∅⟩,
    ⟨.destination, competingDestinations, ∅⟩]

def twoPagesOfCopies : List MessageMetadataStage.Page :=
  [⟨.source, [competingSource "2" 5].toAList, ∅⟩,
    ⟨.source, [competingSource "10" 5].toAList, ∅⟩,
    ⟨.destination, competingDestinations, ∅⟩]

theorem copies_repeatable :
    ∃ tables tables', reconcileStage (pagedInput onePageOfCopies) = .ok tables ∧
      reconcileStage (pagedInput twoPagesOfCopies) = .ok tables' ∧
      tables.summary = tables'.summary :=
  reconcileStage_repeatable ⟨rfl, by decide⟩ ⟨by decide, by decide⟩

end MailSwiftSync
