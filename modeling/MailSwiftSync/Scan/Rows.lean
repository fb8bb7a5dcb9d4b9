import MailSwiftSync.Scan.Cursors

/-!
# Rows of folders

What the transactions of a stage do to the rows and the cursor of each folder.
-/

namespace MailSwiftSync.Scan

open Foundation

namespace DurableStage

variable {parseDate : DateParser} {stage next : DurableStage parseDate}
  {tables after : MessageMetadataStage parseDate} {folder : StagedFolder}
  {side : StagedMessageSide} {messages : ExtractedMessages}

/-! ## Pages -/

/-- The row of a message. -/
def rowOf (parseDate : DateParser) (side : StagedMessageSide) (messages : ExtractedMessages)
    (key : MailboxMessageKey) : StagedRow parseDate :=
  stagedRow parseDate side key (messages.at key)

/-- A row as it was fetched, without its position and the folder it is mapped to. -/
def asFetched (row : StagedRow parseDate) : StagedRow parseDate :=
  { row with
    rowid := 0
    matchMailbox := row.mailbox
    ownFolder := fun _ => rfl }

/-- What was fetched of a folder. -/
def contents (tables : MessageMetadataStage parseDate) (folder : StagedFolder) :
    List (StagedRow parseDate) :=
  (rowsIn tables folder).map asFetched

theorem contents_insertRow (row : StagedRow parseDate) :
    contents (tables.insertRow row) folder =
      (contents tables folder).filter (·.key ≠ row.key) ++
        if row.side = folder.1 ∧ row.mailbox = folder.2 then [asFetched row] else [] := by
  rw [contents, rowsIn, MessageMetadataStage.insertRow, List.filter_append, List.map_append,
    contents, rowsIn]
  congr 1
  · rw [List.filter_comm, List.filter_map]
    rfl
  · by_cases inFolder : row.side = folder.1 ∧ row.mailbox = folder.2
    · simp [inFolder, asFetched]
    · rw [if_neg inFolder, List.filter_cons_of_neg (by simpa using inFolder), List.filter_nil,
        List.map_nil]

/-- The rows of other folders stay. -/
theorem contents_insertRow_other {row : StagedRow parseDate}
    (other : (row.side, row.mailbox) ≠ folder) :
    contents (tables.insertRow row) folder = contents tables folder := by
  have notHere : ¬(row.side = folder.1 ∧ row.mailbox = folder.2) :=
    fun ⟨sameSide, sameMailbox⟩ => other (Prod.ext sameSide sameMailbox)
  rw [contents_insertRow, if_neg notHere, List.append_nil, List.filter_eq_self]
  intro present isPresent
  obtain ⟨original, isOriginal, rfl⟩ := List.mem_map.mp isPresent
  have inFolder : original.side = folder.1 ∧ original.mailbox = folder.2 := by
    simpa using (List.mem_filter.mp isOriginal).2
  apply decide_eq_true
  intro same
  have sameSide := congrArg StagedKey.side same
  have sameMailbox := congrArg StagedKey.mailbox same
  exact notHere ⟨sameSide.symm.trans inFolder.1, sameMailbox.symm.trans inFolder.2⟩

/-- Messages of one folder leave the rows of others. -/
theorem contents_insertMessages_other {mailbox : String} {todo : List MailboxMessageKey}
    (ofMailbox : ∀ key ∈ todo, key.mailbox = mailbox) (other : folder ≠ (side, mailbox))
    (returned : todo.foldlM (MessageMetadataStage.insertMessage side messages) tables =
      .ok after) : contents after folder = contents tables folder := by
  induction todo generalizing tables with
  | nil =>
    obtain rfl := Except.ok.inj returned
    rfl
  | cons key rest ih =>
    rw [List.foldlM_cons, bind_eq_ok] at returned
    obtain ⟨next, inserted, returned⟩ := returned
    obtain rfl := MessageMetadataStage.insertMessage_eq inserted
    rw [ih (fun key isKey => ofMailbox key (List.mem_cons_of_mem _ isKey)) returned,
      contents_insertRow_other]
    intro same
    exact other (same.symm.trans (Prod.ext rfl (ofMailbox key List.mem_cons_self)))

/-- Messages of a folder, none of which is staged, are added to its rows. -/
theorem contents_insertMessages {mailbox : String} {todo : List MailboxMessageKey}
    (ofMailbox : ∀ key ∈ todo, key.mailbox = mailbox) (distinct : todo.Nodup)
    (fresh : ∀ key ∈ todo, ∀ row ∈ contents tables (side, mailbox),
      row.key ≠ (rowOf parseDate side messages key).key)
    (returned : todo.foldlM (MessageMetadataStage.insertMessage side messages) tables =
      .ok after) :
    contents after (side, mailbox) =
      contents tables (side, mailbox) ++ todo.map (rowOf parseDate side messages) := by
  induction todo generalizing tables with
  | nil =>
    obtain rfl := Except.ok.inj returned
    rw [List.map_nil, List.append_nil]
  | cons key rest ih =>
    rw [List.foldlM_cons, bind_eq_ok] at returned
    obtain ⟨next, inserted, returned⟩ := returned
    obtain rfl := MessageMetadataStage.insertMessage_eq inserted
    have inFolder := ofMailbox key List.mem_cons_self
    have here : contents (tables.insertRow (rowOf parseDate side messages key)) (side, mailbox) =
        contents tables (side, mailbox) ++ [rowOf parseDate side messages key] := by
      rw [contents_insertRow, List.filter_eq_self.mpr, if_pos ⟨rfl, inFolder⟩]
      · rfl
      · intro row isRow
        exact decide_eq_true (fresh key List.mem_cons_self row isRow)
    rw [List.nodup_cons] at distinct
    have later := ih (fun key isKey => ofMailbox key (List.mem_cons_of_mem _ isKey)) distinct.2
      (fun other isOther row isRow => by
        rw [← rowOf, here, List.mem_append, List.mem_singleton] at isRow
        cases isRow with
        | inl isOld => exact fresh other (List.mem_cons_of_mem _ isOther) row isOld
        | inr isNew =>
          rw [isNew]
          intro same
          have sameKey := MessageMetadataStage.stagedRow_key_injective same
          exact distinct.1 (sameKey ▸ isOther)) returned
    rw [later, ← rowOf, here, List.append_assoc, List.singleton_append, List.map_cons]

/-- A staged page is the messages of the page, and then their fingerprints, which leave the rows. -/
theorem contents_of_insertPage {fingerprints : AList fun _ : MailboxMessageKey => String}
    (returned : tables.insertPageWithFingerprints side messages fingerprints = .ok after) :
    ∃ staged, (sortUnstable messages.keys).foldlM
        (MessageMetadataStage.insertMessage side messages) tables = .ok staged ∧
      ∀ folder, contents after folder = contents staged folder := by
  rw [MessageMetadataStage.insertPageWithFingerprints] at returned
  split at returned
  · cases returned
  · obtain ⟨staged, inserted, returned⟩ := bind_eq_ok.mp returned
    have sameRows := MessageMetadataStage.rows_foldlM_insertFingerprint returned
    refine ⟨staged, inserted, fun folder => ?_⟩
    rw [contents, rowsIn, sameRows, contents, rowsIn]

/-- A page of one folder leaves the rows of others. -/
theorem contents_insertPage_other {mailbox : String}
    {fingerprints : AList fun _ : MailboxMessageKey => String}
    (ofMailbox : ∀ key ∈ messages.keys, key.mailbox = mailbox) (other : folder ≠ (side, mailbox))
    (returned : tables.insertPageWithFingerprints side messages fingerprints = .ok after) :
    contents after folder = contents tables folder := by
  obtain ⟨staged, inserted, same⟩ := contents_of_insertPage returned
  rw [same]
  exact contents_insertMessages_other
    (fun key isKey => ofMailbox key ((sortUnstable_perm _).mem_iff.mp isKey)) other inserted

/-- A page of one folder, none of whose messages is staged, adds their rows. -/
theorem contents_insertPage {mailbox : String}
    {fingerprints : AList fun _ : MailboxMessageKey => String}
    (ofMailbox : ∀ key ∈ messages.keys, key.mailbox = mailbox)
    (fresh : ∀ key ∈ messages.keys, ∀ row ∈ contents tables (side, mailbox),
      row.key ≠ (rowOf parseDate side messages key).key)
    (returned : tables.insertPageWithFingerprints side messages fingerprints = .ok after) :
    (contents after (side, mailbox)).Perm (contents tables (side, mailbox) ++
      messages.keys.map (rowOf parseDate side messages)) := by
  obtain ⟨staged, inserted, same⟩ := contents_of_insertPage returned
  have isSorted := sortUnstable_perm messages.keys
  rw [same, contents_insertMessages (fun key isKey => ofMailbox key (isSorted.mem_iff.mp isKey))
    (sortUnstable_nodup messages.keys_nodup)
    (fun key isKey => fresh key (isSorted.mem_iff.mp isKey)) inserted]
  exact (isSorted.map _).append_left _

/-! ## Deletions -/

theorem rowsIn_deleteRows (condition : StagedRow parseDate → Bool)
    (ofFolder : ∀ row ∈ rowsIn tables folder, condition row = false) :
    rowsIn (deleteRows tables condition) folder = rowsIn tables folder := by
  rw [rowsIn, deleteRows, List.filter_comm, ← rowsIn, List.filter_eq_self]
  intro row isRow
  rw [ofFolder row isRow]
  rfl

/-- What is left of a folder after a deletion on its side or on the other. -/
theorem folderRows_deleteFolders (stage : DurableStage parseDate) (side : StagedMessageSide)
    (condition : String → Bool) (folder : StagedFolder) :
    (stage.deleteFolders side condition).folderRows folder =
      if folder.1 = side && condition folder.2 then [] else stage.folderRows folder := by
  have inFolder : ∀ row ∈ rowsIn stage.tables folder,
      row.side = folder.1 ∧ row.mailbox = folder.2 := by
    intro row isRow
    simpa using (List.mem_filter.mp isRow).2
  change rowsIn (deleteRows stage.tables _) folder = _
  split
  · next deleted =>
      rw [rowsIn, deleteRows, List.filter_comm, ← rowsIn, List.filter_eq_nil_iff]
      intro row isRow
      rw [(inFolder row isRow).1, (inFolder row isRow).2, deleted]
      simp
  · next kept =>
      apply rowsIn_deleteRows
      intro row isRow
      rw [(inFolder row isRow).1, (inFolder row isRow).2]
      exact Bool.eq_false_iff.mpr kept

theorem cursor_deleteFolders (stage : DurableStage parseDate) (side : StagedMessageSide)
    (condition : String → Bool) (folder : StagedFolder) :
    (stage.deleteFolders side condition).cursors.lookup folder =
      if folder.1 = side && condition folder.2 then none else stage.cursors.lookup folder :=
  lookup_discard _ _ _

/-! ## Cursors -/

/-- An updated cursor was there, with the snapshot it should have. -/
theorem updateCursor_ok {snapshot : FolderSnapshot} {change : FolderCursor → FolderCursor}
    (updated : stage.updateCursor folder snapshot change = .ok next) :
    ∃ cursor, stage.cursors.lookup folder = some cursor ∧ cursor.snapshot = snapshot ∧
      next = { stage with cursors := stage.cursors.insert folder (change cursor) } := by
  rw [updateCursor] at updated
  split at updated
  · cases updated
  · next cursor found =>
      split at updated
      · next same =>
          cases updated
          exact ⟨cursor, found, same, rfl⟩
      · cases updated

end DurableStage

end MailSwiftSync.Scan
