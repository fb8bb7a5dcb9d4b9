import MailSwiftSync.Staged.Reconciliation
import MailSwiftSync.Verification.Specification

/-!
# The staged passes are the specified matchings

Rank joins, the paged wrong-folder loop and the join of lone rows compute the four
classwise matchings of the specification, over the source rows in rowid order and
the destination rows in key order.
-/

namespace MailSwiftSync

open Foundation

namespace StagedRow

variable {parseDate : DateParser}

/-- What matching compares of a source row. -/
def sourceProfile (row : StagedRow parseDate) : Profile String String (String × Nat) where
  identity := row.identity
  folder := row.matchMailbox
  metadata := row.metadata

/-- What matching compares of a destination row. -/
def destProfile (row : StagedRow parseDate) : Profile String String (String × Nat) where
  identity := row.identity
  folder := row.mailbox
  metadata := row.metadata

theorem probableKey_destination {row : StagedRow parseDate}
    (isDestination : row.side = .destination) :
    row.probableKey = row.destProfile.probableClass := by
  rw [probableKey, row.ownFolder isDestination]
  rfl

/-- Rows with an RFC Message-ID are found by that Message-ID alone. -/
theorem identity_of_messageId {row other : StagedRow parseDate} {messageId : String}
    (identified : other.identity = some messageId)
    (same : row.messageId = some messageId) : row.identity = some messageId := by
  simp only [identity] at identified ⊢
  split_ifs at identified with isRfc
  rw [if_pos, same]
  rw [row.provenanceOfId, same, ← identified, ← other.provenanceOfId]
  exact isRfc

theorem messageId_of_identity {row : StagedRow parseDate} {messageId : String}
    (identified : row.identity = some messageId) : row.messageId = some messageId := by
  simp only [identity] at identified
  split_ifs at identified
  exact identified

end StagedRow

namespace StagedInput

variable {platform : Platform} (input : StagedInput platform)

/-! ## The two row lists -/

/-- The destination rows in the order of their keys. -/
def destinations : List (StagedRow platform.parseDate) :=
  orderBy StagedRow.orderKey input.destRows

theorem rows_sorted : input.rows.Pairwise fun left right => left.rowid < right.rowid :=
  (input.stage.mapFolders input.folderMapping).rowidOrder

theorem rows_key_nodup : (input.rows.map StagedRow.key).Nodup :=
  (input.stage.mapFolders input.folderMapping).primaryKey

variable {row : StagedRow platform.parseDate}

theorem mem_sourceRows : row ∈ input.sourceRows ↔ row ∈ input.rows ∧ row.side = .source := by
  rw [sourceRows, List.mem_filter, decide_eq_true_eq]

theorem mem_destRows : row ∈ input.destRows ↔ row ∈ input.rows ∧ row.side = .destination := by
  rw [destRows, List.mem_filter, decide_eq_true_eq]

theorem mem_destinations : row ∈ input.destinations ↔ row ∈ input.destRows :=
  mem_orderBy

theorem destinations_perm : input.destinations.Perm input.destRows :=
  orderBy_perm _ _

theorem rows_nodup : input.rows.Nodup :=
  input.rows_key_nodup.of_map _

theorem sourceRows_nodup : input.sourceRows.Nodup :=
  input.rows_nodup.filter _

theorem destRows_nodup : input.destRows.Nodup :=
  input.rows_nodup.filter _

theorem destinations_nodup : input.destinations.Nodup :=
  input.destinations_perm.nodup_iff.mpr input.destRows_nodup

theorem sourceRows_sorted :
    input.sourceRows.Pairwise fun left right => left.rowid < right.rowid :=
  input.rows_sorted.filter _

/-- A key names one row. -/
theorem row_of_key {row other : StagedRow platform.parseDate} (isRow : row ∈ input.rows)
    (isOther : other ∈ input.rows) (same : row.key = other.key) : row = other :=
  List.inj_on_of_nodup_map input.rows_key_nodup isRow isOther same

theorem destRows_orderKey_nodup : (input.destRows.map StagedRow.orderKey).Nodup := by
  refine List.Nodup.map_on ?_ input.destRows_nodup
  intro row isRow other isOther same
  obtain ⟨inRows, side⟩ := input.mem_destRows.mp isRow
  obtain ⟨inRows', side'⟩ := input.mem_destRows.mp isOther
  apply input.row_of_key inRows inRows'
  exact (StagedRow.orderKey_eq_iff (side.trans side'.symm)).mp same

/-- A source row's mapped folder is the folder its messages are expected in. -/
theorem matchMailbox_eq (isSource : row ∈ input.sourceRows) :
    row.matchMailbox = expectedDestinationFolder row.messageKey input.folderMapping := by
  obtain ⟨inRows, side⟩ := input.mem_sourceRows.mp isSource
  obtain ⟨original, _, rfl⟩ := List.mem_map.mp inRows
  have originalSide : original.side = .source := by
    have sameSide := congrArg StagedKey.side (original.mapFolder_key input.folderMapping)
    exact sameSide.symm.trans side
  simp only [StagedRow.mapFolder, originalSide, dite_true]
  rfl

/-! ## The pairs of the passes -/

/-- Pairs of changed messages. -/
def changed : List (StagedRow platform.parseDate × StagedRow platform.parseDate) :=
  rankJoin (StagedRow.changedKey StagedRow.matchMailbox) StagedRow.rowid
    (unpairedLeft input.exactPairs input.sourceRows)
    (StagedRow.changedKey StagedRow.mailbox) StagedRow.orderKey
    (unpairedRight input.exactPairs input.destRows)

/-- Pairs of messages in a wrong folder. -/
def misplaced : List (StagedRow platform.parseDate × StagedRow platform.parseDate) :=
  nearestEach StagedRow.placementKey StagedRow.matchMailbox
    ((unpairedLeft (input.exactPairs ++ input.changed) input.sourceRows).filter fun row =>
      row.messageId.isSome && (row.dateKey.isSome && row.sizeBytes.isSome))
    StagedRow.placementKey StagedRow.mailbox StagedRow.minorKey
    (unpairedRight (input.exactPairs ++ input.changed) input.destRows)

/-- Pairs by unique metadata. -/
def probable : List (StagedRow platform.parseDate × StagedRow platform.parseDate) :=
  loneJoin StagedRow.probableKey
    (unpairedLeft (input.exactPairs ++ input.changed ++ input.misplaced) input.sourceRows)
    StagedRow.probableKey
    (unpairedRight (input.exactPairs ++ input.changed ++ input.misplaced) input.destRows)

theorem orderBy_unpairedRight
    (pairs : List (StagedRow platform.parseDate × StagedRow platform.parseDate)) :
    orderBy StagedRow.orderKey (unpairedRight pairs input.destRows) =
      unpairedRight pairs input.destinations :=
  orderBy_filter input.destRows_orderKey_nodup _

theorem classwise_exactPairs :
    Classwise Matcher.fifo
      (fun row : StagedRow platform.parseDate => row.sourceProfile.exactClass)
      (fun row : StagedRow platform.parseDate => row.destProfile.exactClass)
      input.sourceRows input.destinations input.exactPairs :=
  classwise_rankJoin _ _ input.sourceRows_sorted _ _ input.destRows_orderKey_nodup

theorem classwise_changed :
    Classwise Matcher.fifo
      (fun row : StagedRow platform.parseDate => row.sourceProfile.changedClass)
      (fun row : StagedRow platform.parseDate => row.destProfile.changedClass)
      (unpairedLeft input.exactPairs input.sourceRows)
      (unpairedRight input.exactPairs input.destinations) input.changed := by
  rw [← orderBy_unpairedRight]
  exact classwise_rankJoin _ _ (input.sourceRows_sorted.filter _) _ _
    (input.destRows_orderKey_nodup.sublist (List.filter_sublist.map _))

theorem classwise_misplaced :
    Classwise
      (Matcher.nearest (fun row : StagedRow platform.parseDate => row.sourceProfile.folder)
        fun row : StagedRow platform.parseDate => row.destProfile.folder)
      (fun row => row.sourceProfile.strictClass) (fun row => row.destProfile.strictClass)
      (unpairedLeft (input.exactPairs ++ input.changed) input.sourceRows)
      (unpairedRight (input.exactPairs ++ input.changed) input.destinations)
      input.misplaced := by
  rw [← orderBy_unpairedRight]
  refine Classwise.ofFilter (classwise_nearestEach StagedRow.placementKey
    StagedRow.matchMailbox _ StagedRow.placementKey StagedRow.mailbox StagedRow.minorKey
    (input.destRows_orderKey_nodup.sublist (List.filter_sublist.map _))) ?_
  intro row _ incomplete
  change row.placementKey = none
  cases id : row.messageId with
  | none => simp [StagedRow.placementKey, StagedRow.identity, id]
  | some messageId =>
    cases date : row.dateKey with
    | none => simp [StagedRow.placementKey, StagedRow.metadata, date]
    | some dateKey =>
      cases size : row.sizeBytes with
      | none => simp [StagedRow.placementKey, StagedRow.metadata, size]
      | some sizeBytes => simp [id, date, size] at incomplete

theorem classwise_probable :
    Classwise Matcher.single
      (fun row : StagedRow platform.parseDate => row.sourceProfile.probableClass)
      (fun row : StagedRow platform.parseDate => row.destProfile.probableClass)
      (unpairedLeft (input.exactPairs ++ input.changed ++ input.misplaced) input.sourceRows)
      (unpairedRight (input.exactPairs ++ input.changed ++ input.misplaced)
        input.destinations)
      input.probable := by
  refine ((classwise_loneJoin _ _ _ _).permute (List.Perm.refl _)
    ((input.destinations_perm.filter _).symm) Matcher.single_run_perm).reclassify ?_ ?_ ?_
  · intro row _
    rfl
  · intro row _ other _ _
    rfl
  · intro row _ other isOther _
    have isDestination := (input.mem_destRows.mp
      (input.mem_destinations.mp (mem_unpairedRight.mp isOther).1)).2
    rw [StagedRow.probableKey_destination isDestination]
    rfl

/-- The staged passes as an instance of the specification. -/
def reconciliation : Reconciliation Profile.strictClass StagedRow.sourceProfile
    StagedRow.destProfile input.sourceRows input.destinations where
  exact := input.exactPairs
  changed := input.changed
  misplaced := input.misplaced
  probable := input.probable
  exactPairs := input.classwise_exactPairs
  changedPairs := input.classwise_changed
  misplacedPairs := input.classwise_misplaced
  probablePairs := input.classwise_probable

end StagedInput

end MailSwiftSync
