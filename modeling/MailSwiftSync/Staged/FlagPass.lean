import MailSwiftSync.Staged.FlagCounts
import MailSwiftSync.Verification.Exactness

/-!
# The flag pass on the stage

The pass keeps the folder mapping in a table of its own, which it drops before and after.  It
leaves the rest of the stage alone and can be run again.
-/

namespace MailSwiftSync

open Foundation

/-- A stage with the table `staged_flag_folder_mapping`, which an interrupted pass leaves. -/
structure FlagStage (parseDate : DateParser) where
  stage : MessageMetadataStage parseDate
  folderMapping : Option FolderMapping

/-- `INSERT INTO staged_flag_folder_mapping`: the primary key allows every source once. -/
def insertFolderMapping (mapping : FolderMapping) (row : Sigma fun _ : String => String) :
    Except String FolderMapping :=
  if row.1 ∈ mapping then
    .error ("could not stage folder mapping: UNIQUE constraint failed: " ++
      "staged_flag_folder_mapping.source")
  else .ok (mapping.insert row.1 row.2)

namespace FlagStage

variable {parseDate : DateParser}

/-- Drop and create the table, fill it, compare, and drop it again. -/
def verifyStagedFlags (folderMapping : FolderMapping) (state : FlagStage parseDate) :
    Except String (FlagVerification × FlagStage parseDate) := do
  let dropped := { state with folderMapping := none }
  let filled ← folderMapping.entries.foldlM insertFolderMapping ∅
  let created := { dropped with folderMapping := some filled }
  let result := created.stage.verifyStagedFlags filled
  return (result, { created with folderMapping := none })

end FlagStage

/-- Filling a table with rows of new sources adds them all. -/
theorem foldlM_insertFolderMapping {rows : List (Sigma fun _ : String => String)}
    {mapping : FolderMapping} (distinct : (rows.map Sigma.fst ++ mapping.keys).Nodup) :
    ∃ filled, rows.foldlM insertFolderMapping mapping = .ok filled ∧
      filled.entries.Perm (rows ++ mapping.entries) := by
  induction rows generalizing mapping with
  | nil => exact ⟨mapping, rfl, .refl _⟩
  | cons row rows ih =>
    rw [List.map_cons, List.cons_append, List.nodup_cons, List.mem_append, not_or] at distinct
    obtain ⟨⟨notLater, isNew⟩, distinct⟩ := distinct
    rw [← AList.mem_keys] at isNew
    have inserted : insertFolderMapping mapping row = .ok (mapping.insert row.1 row.2) := by
      rw [insertFolderMapping, if_neg isNew]
    have entries := AList.insert_of_notMem (b := row.2) isNew
    have later : (rows.map Sigma.fst ++ (mapping.insert row.1 row.2).keys).Nodup := by
      have moved : (rows.map Sigma.fst ++ (mapping.insert row.1 row.2).keys).Perm
          (row.1 :: (rows.map Sigma.fst ++ mapping.keys)) := by
        rw [AList.keys, entries]
        exact List.perm_middle
      rw [moved.nodup_iff, List.nodup_cons, List.mem_append, not_or]
      exact ⟨⟨notLater, isNew⟩, distinct⟩
    obtain ⟨filled, returned, perm⟩ := ih later
    refine ⟨filled, ?_, ?_⟩
    · rw [List.foldlM_cons, inserted]
      exact returned
    · rw [entries] at perm
      exact perm.trans List.perm_middle

/-- The comparison reads only which folder a folder is mapped to. -/
theorem verifyStagedFlags_congr {parseDate : DateParser} (stage : MessageMetadataStage parseDate)
    {mapping other : FolderMapping} (same : mapping.entries.Perm other.entries) :
    stage.verifyStagedFlags mapping = stage.verifyStagedFlags other := by
  have identities : @MessageMetadataStage.sourceIdentity parseDate mapping =
      MessageMetadataStage.sourceIdentity other := by
    funext row
    rw [MessageMetadataStage.sourceIdentity, MessageMetadataStage.sourceIdentity]
    congr 1
    funext row
    rw [MessageMetadataStage.expectedMailbox, MessageMetadataStage.expectedMailbox,
      AList.perm_lookup same]
  have groups : stage.sourceGroup mapping = stage.sourceGroup other := by
    funext identity
    rw [MessageMetadataStage.sourceGroup, MessageMetadataStage.sourceGroup, identities]
  have frequencies : stage.groupFrequencies mapping = stage.groupFrequencies other := by
    funext identity
    rw [MessageMetadataStage.groupFrequencies, MessageMetadataStage.groupFrequencies, groups]
  simp only [MessageMetadataStage.verifyStagedFlags, MessageMetadataStage.compareStagedFlagPairs,
    MessageMetadataStage.flagPairs, MessageMetadataStage.compareStagedDuplicateFlagGroups,
    MessageMetadataStage.flagFrequencies, MessageMetadataStage.duplicateGroups, identities, groups,
    frequencies]

namespace FlagStage

variable {parseDate : DateParser}

/-- The pass returns what the comparison counts and leaves no table of its own. -/
theorem verifyStagedFlags_returns (folderMapping : FolderMapping) (state : FlagStage parseDate) :
    state.verifyStagedFlags folderMapping =
      .ok (state.stage.verifyStagedFlags folderMapping, ⟨state.stage, none⟩) := by
  have distinct : (folderMapping.entries.map Sigma.fst ++ (∅ : FolderMapping).keys).Nodup := by
    rw [AList.keys_empty, List.append_nil]
    exact folderMapping.nodupKeys
  obtain ⟨filled, returned, perm⟩ := foldlM_insertFolderMapping distinct
  rw [AList.empty_entries, List.append_nil] at perm
  rw [verifyStagedFlags, returned]
  simp only [bind, Except.bind, pure, Except.pure]
  rw [verifyStagedFlags_congr state.stage perm]

/-- The counts of the pass are those of its groups, differing messages are compared ones, and no
more messages are compared than either side has.  Running the pass again gives the same counts,
and the stage stays as it is. -/
theorem flags_counted_by_group {folderMapping : FolderMapping} {state : FlagStage parseDate}
    (fit : state.stage.RowidsFit) (canonical : state.stage.CanonicalFlags) :
    ∃ result after, state.verifyStagedFlags folderMapping = .ok (result, after) ∧
      result = state.stage.flagCounts folderMapping ∧
      result.mismatchedMessages + result.exceptedMessages ≤ result.comparedMessages ∧
      result.comparedMessages ≤ (state.stage.sideRows .source).length ∧
      result.comparedMessages ≤ (state.stage.sideRows .destination).length ∧
      after.stage = state.stage ∧
      after.verifyStagedFlags folderMapping = .ok (result, after) := by
  have counts := @MessageMetadataStage.verifyStagedFlags_eq _ _ folderMapping fit canonical
  refine ⟨state.stage.flagCounts folderMapping, ⟨state.stage, none⟩, ?_, rfl,
    state.stage.differing_le_compared folderMapping, ?_,
    state.stage.compared_le_destination folderMapping, rfl, ?_⟩
  · rw [verifyStagedFlags_returns, counts]
  · exact List.length_filter_le _ _
  · rw [verifyStagedFlags_returns, counts]

end FlagStage

/-- A message with flags. -/
def flaggedMessage (messageId flags : String) : ExtractedMessage :=
  { messageId := some messageId, internalDate := some "d", sizeBytes := some 5
    flags := some flags }

/-- One message and two copies of another; the destination has lost their flags, and could not
store any. -/
def unflaggedStage : MessageMetadataStage plainPlatform.parseDate :=
  let stage := (MessageMetadataStage.insertPages [
    ⟨.source, [⟨⟨"INBOX", none, "1"⟩, flaggedMessage "<a@example.org>" "\\Seen"⟩,
      ⟨⟨"INBOX", none, "2"⟩, flaggedMessage "<b@example.org>" "\\Seen"⟩,
      ⟨⟨"INBOX", none, "3"⟩, flaggedMessage "<b@example.org>" ""⟩].toAList, ∅⟩,
    ⟨.destination, [⟨⟨"INBOX", none, "1"⟩, flaggedMessage "<a@example.org>" ""⟩,
      ⟨⟨"INBOX", none, "2"⟩, flaggedMessage "<b@example.org>" ""⟩,
      ⟨⟨"INBOX", none, "3"⟩, flaggedMessage "<b@example.org>" ""⟩].toAList, ∅⟩]
    .empty).toOption.getD .empty
  { stage with permanentFlags := [⟨(.destination, "INBOX"), some ""⟩].toAList }

theorem unflaggedStage_fit : unflaggedStage.RowidsFit := by
  unfold MessageMetadataStage.RowidsFit
  decide +kernel

theorem unflaggedStage_canonical : unflaggedStage.CanonicalFlags := by
  have onlyFlags : ∀ row ∈ unflaggedStage.rows, ∀ flags ∈ row.flags,
      flags = "\\Seen" ∨ flags = "" := by
    decide +kernel
  intro row isRow flags isFlags
  rcases onlyFlags row isRow flags isFlags with rfl | rfl
  · exact ⟨"\\Seen".toList, by decide +kernel⟩
  · exact ⟨[], by decide +kernel⟩

theorem unflaggedStage_counted :
    ∃ after, (⟨unflaggedStage, none⟩ : FlagStage plainPlatform.parseDate).verifyStagedFlags ∅ =
      .ok (⟨3, 2, 1⟩, after) := by
  have counts : unflaggedStage.flagCounts ∅ = ⟨3, 2, 1⟩ := by decide +kernel
  obtain ⟨result, after, returned, counted, -⟩ :=
    @FlagStage.flags_counted_by_group _ ∅ ⟨unflaggedStage, none⟩ unflaggedStage_fit
      unflaggedStage_canonical
  refine ⟨after, ?_⟩
  rw [returned, counted, counts]

end MailSwiftSync
