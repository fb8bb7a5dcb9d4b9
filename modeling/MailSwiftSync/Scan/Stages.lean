import MailSwiftSync.Scan.Answers

/-!
# Sound stages

A stage is sound when every folder of it has either nothing, or the rows of messages that were told
to be the first ones of the folder, and a cursor that says how many of them there are.  Every
transaction of a stage keeps it sound.
-/

namespace MailSwiftSync.Scan

open Foundation Imap DurableStage

variable {parseDate : DateParser} {testimony : Testimony} {now later : Nat}
  {stage next : DurableStage parseDate} {folder : StagedFolder} {side : StagedMessageSide}
  {mailbox : String} {snapshot : FolderSnapshot} {log : Log} {completed : Bool}

/-- The row of a message of a log. -/
def entryRow (parseDate : DateParser) (folder : StagedFolder) (uidvalidity : Nat)
    (entry : Nat × ExtractedMessage) : StagedRow parseDate :=
  stagedRow parseDate folder.1 (uidKey folder.2 uidvalidity entry.1) entry.2

/-- A folder has the messages of a log, and a cursor that fits them. -/
structure StagedAs (testimony : Testimony) (now : Nat) (stage : DurableStage parseDate)
    (folder : StagedFolder) (snapshot : FolderSnapshot) (log : Log) (completed : Bool) : Prop where
  backs : testimony.Backs now folder snapshot log
  rows : (contents stage.tables folder).Perm
    (log.map (entryRow parseDate folder snapshot.uidvalidity))
  cursor : ∃ cursor, stage.cursors.lookup folder = some cursor ∧ cursor.snapshot = snapshot ∧
    cursor.completed = completed ∧ (completed = false → cursor.lastUid = log.lastUid)
  all : completed = true → log.length = snapshot.existsCount

/-- A folder has nothing, or messages that were told. -/
def SoundFolder (testimony : Testimony) (now : Nat) (stage : DurableStage parseDate)
    (folder : StagedFolder) : Prop :=
  (stage.cursors.lookup folder = none ∧ contents stage.tables folder = []) ∨
    ∃ snapshot log completed, StagedAs testimony now stage folder snapshot log completed

def SoundStage (testimony : Testimony) (now : Nat) (stage : DurableStage parseDate) : Prop :=
  ∀ folder, SoundFolder testimony now stage folder

/-! ## Frames -/

/-- What a cursor says of the rows. -/
def position (cursor : FolderCursor) : FolderSnapshot × Nat × Bool :=
  (cursor.snapshot, cursor.lastUid, cursor.completed)

/-- Two stages have the same of a folder, but for times and fingerprints. -/
structure Alike (stage next : DurableStage parseDate) (folder : StagedFolder) : Prop where
  rows : contents next.tables folder = contents stage.tables folder
  cursor : (next.cursors.lookup folder).map position = (stage.cursors.lookup folder).map position

theorem Alike.trans {last : DurableStage parseDate} (first : Alike stage next folder)
    (second : Alike next last folder) : Alike stage last folder :=
  ⟨second.rows.trans first.rows, second.cursor.trans first.cursor⟩

theorem StagedAs.of_alike (staged : StagedAs testimony now stage folder snapshot log completed)
    (alike : Alike stage next folder) :
    StagedAs testimony now next folder snapshot log completed := by
  obtain ⟨cursor, isCursor, isSnapshot, isCompleted, isLast⟩ := staged.cursor
  have here := alike.cursor
  rw [isCursor, Option.map_some, Option.map_eq_some_iff] at here
  obtain ⟨other, isOther, same⟩ := here
  have sameSnapshot : other.snapshot = cursor.snapshot := congrArg Prod.fst same
  have sameLast : other.lastUid = cursor.lastUid := congrArg (·.2.1) same
  have sameCompleted : other.completed = cursor.completed := congrArg (·.2.2) same
  constructor
  · exact staged.backs
  · rw [alike.rows]
    exact staged.rows
  · exact ⟨other, isOther, sameSnapshot.trans isSnapshot, sameCompleted.trans isCompleted,
      fun isOpen => sameLast.trans (isLast isOpen)⟩
  · exact staged.all

theorem SoundFolder.of_alike (sound : SoundFolder testimony now stage folder)
    (alike : Alike stage next folder) : SoundFolder testimony now next folder := by
  cases sound with
  | inl nothing =>
    have here := alike.cursor
    rw [nothing.1, Option.map_none, Option.map_eq_none_iff] at here
    exact .inl ⟨here, alike.rows.trans nothing.2⟩
  | inr something =>
    obtain ⟨snapshot, log, completed, staged⟩ := something
    exact .inr ⟨snapshot, log, completed, staged.of_alike alike⟩

theorem StagedAs.mono (staged : StagedAs testimony now stage folder snapshot log completed)
    (passes : now ≤ later) : StagedAs testimony later stage folder snapshot log completed where
  backs := staged.backs.mono passes
  rows := staged.rows
  cursor := staged.cursor
  all := staged.all

theorem SoundStage.mono (sound : SoundStage testimony now stage) (passes : now ≤ later) :
    SoundStage testimony later stage := by
  intro folder
  cases sound folder with
  | inl nothing => exact .inl nothing
  | inr something =>
    obtain ⟨snapshot, log, completed, staged⟩ := something
    exact .inr ⟨snapshot, log, completed, staged.mono passes⟩

/-- A change to one folder leaves the stage sound when it leaves that folder so. -/
theorem SoundStage.of_folder (sound : SoundStage testimony now stage)
    (here : SoundFolder testimony now next folder)
    (others : ∀ other, other ≠ folder → Alike stage next other) :
    SoundStage testimony now next := by
  intro other
  by_cases same : other = folder
  · rw [same]
    exact here
  · exact (sound other).of_alike (others other same)

theorem soundStage_of_alike (sound : SoundStage testimony now stage)
    (alike : ∀ folder, Alike stage next folder) : SoundStage testimony now next :=
  fun folder => (sound folder).of_alike (alike folder)

theorem soundStage_empty (testimony : Testimony) (now : Nat) :
    SoundStage testimony now (empty : DurableStage parseDate) :=
  fun _ => .inl ⟨rfl, rfl⟩

/-! ## Folders go -/

/-- A folder is deleted, or stays as it was. -/
theorem SoundStage.deleteFolders (sound : SoundStage testimony now stage)
    (side : StagedMessageSide) (condition : String → Bool) :
    SoundStage testimony now (stage.deleteFolders side condition) := by
  intro folder
  have rows : contents (stage.deleteFolders side condition).tables folder =
      ((stage.deleteFolders side condition).folderRows folder).map asFetched := rfl
  rw [folderRows_deleteFolders] at rows
  have cursor := cursor_deleteFolders stage side condition folder
  by_cases deleted : (folder.1 = side && condition folder.2) = true
  · rw [if_pos deleted] at rows cursor
    exact .inl ⟨cursor, rows⟩
  · rw [if_neg deleted] at rows cursor
    exact (sound folder).of_alike ⟨rows, congrArg _ cursor⟩

/-- A scan begins with nothing. -/
theorem SoundStage.beginMailboxScan {begun : String} (sound : SoundStage testimony now stage)
    (begins : stage.beginMailboxScan side mailbox snapshot begun = .ok next) :
    SoundStage testimony now next ∧
      StagedAs testimony now next (side, mailbox) snapshot [] false := by
  rw [DurableStage.beginMailboxScan] at begins
  obtain ⟨_, -, begins⟩ := bind_eq_ok.mp begins
  split at begins
  · cases begins
  · obtain rfl := Except.ok.inj begins
    have isDeleted : (side = side && decide (mailbox = mailbox)) = true := by simp
    have rows := folderRows_deleteFolders stage side (· = mailbox) (side, mailbox)
    rw [if_pos isDeleted] at rows
    have begun : StagedAs testimony now
        { stage.deleteMailbox side mailbox with
          cursors := (stage.deleteMailbox side mailbox).cursors.insert (side, mailbox)
            ⟨snapshot, 0, false, some begun, none, none, none⟩ }
        (side, mailbox) snapshot [] false :=
      { backs := testimony.backs_nil now _ _
        rows := .of_eq (congrArg (List.map asFetched) rows)
        cursor := ⟨_, AList.lookup_insert _, rfl, rfl, fun _ => rfl⟩
        all := nofun }
    refine ⟨(sound.deleteFolders side (· = mailbox)).of_folder (.inr ⟨_, _, _, begun⟩) ?_, begun⟩
    intro other isOther
    exact ⟨rfl, congrArg _ (AList.lookup_insert_ne isOther)⟩

/-! ## Pages -/

/-- The messages of a page. -/
def pageLog (messages : ExtractedMessages) (mailbox : String) (uidvalidity : Nat)
    (uids : List Nat) : Log :=
  uids.map fun uid => (uid, messages.at (uidKey mailbox uidvalidity uid))

theorem pageLog_uids {messages : ExtractedMessages} {uidvalidity : Nat} {uids : List Nat} :
    (pageLog messages mailbox uidvalidity uids).map Prod.fst = uids := by
  rw [pageLog, List.map_map]
  exact List.map_id uids

/-- The rows of distinct UIDs have distinct keys. -/
theorem entryRow_key {uidvalidity : Nat} {entry : Nat × ExtractedMessage} {uid : Nat}
    {message : ExtractedMessage}
    (same : (entryRow parseDate folder uidvalidity entry).key =
      (stagedRow parseDate folder.1 (uidKey folder.2 uidvalidity uid) message).key) :
    entry.1 = uid :=
  uidKey_injective (MessageMetadataStage.stagedRow_key_injective same)

/-- A page of new messages is added. -/
theorem SoundStage.insertPage {messages : ExtractedMessages} {uids : List Nat}
    {fingerprints : AList fun _ : MailboxMessageKey => String}
    (sound : SoundStage testimony now stage)
    (staged : StagedAs testimony now stage folder snapshot log false)
    (areKeys : messages.keys.Perm (uids.map (uidKey folder.2 snapshot.uidvalidity)))
    (above : ∀ entry ∈ log, ∀ uid ∈ uids, entry.1 < uid)
    (backs : testimony.Backs now folder snapshot (log ++
      pageLog messages folder.2 snapshot.uidvalidity uids))
    (nonempty : uids ≠ [])
    (inserted : stage.insertPageWithFingerprints folder.1 messages fingerprints
      (some (folder.2, snapshot, uids.getLast?.getD 0)) = .ok next) :
    SoundStage testimony now next ∧
      StagedAs testimony now next folder snapshot (log ++
        pageLog messages folder.2 snapshot.uidvalidity uids) false := by
  rw [DurableStage.insertPageWithFingerprints] at inserted
  obtain ⟨tables, isTables, inserted⟩ := bind_eq_ok.mp inserted
  obtain ⟨_, -, inserted⟩ := bind_eq_ok.mp inserted
  obtain ⟨_, -, updated⟩ := bind_eq_ok.mp inserted
  obtain ⟨cursor, isCursor, isSnapshot, rfl⟩ := updateCursor_ok updated
  have ofMailbox : ∀ key ∈ messages.keys, key.mailbox = folder.2 := by
    intro key isKey
    obtain ⟨uid, -, rfl⟩ := List.mem_map.mp (areKeys.mem_iff.mp isKey)
    rfl
  have own := contents_insertPage ofMailbox (fun key isKey row isRow => by
      obtain ⟨uid, isUid, rfl⟩ := List.mem_map.mp (areKeys.mem_iff.mp isKey)
      obtain ⟨entry, isEntry, rfl⟩ := List.mem_map.mp (staged.rows.mem_iff.mp isRow)
      intro same
      exact (above entry isEntry uid isUid).ne (entryRow_key same)) isTables
  have added : StagedAs testimony now
      { stage with
        tables
        cursors := stage.cursors.insert folder
          { cursor with lastUid := uids.getLast?.getD 0, completed := false } }
      folder snapshot (log ++ pageLog messages folder.2 snapshot.uidvalidity uids) false :=
    { backs
      rows := by
        refine own.trans ?_
        rw [List.map_append, pageLog, List.map_map]
        refine staged.rows.append ((areKeys.map _).trans ?_)
        rw [List.map_map]
        exact .rfl
      cursor := by
        refine ⟨_, AList.lookup_insert _, isSnapshot, rfl, fun _ => ?_⟩
        rw [Log.lastUid, List.getLast?_append_of_ne_nil _ (by simpa [pageLog] using nonempty),
          ← List.getLast?_map, pageLog_uids]
      all := nofun }
  refine ⟨sound.of_folder (.inr ⟨_, _, _, added⟩) ?_, added⟩
  intro other isOther
  exact ⟨contents_insertPage_other ofMailbox isOther isTables,
    congrArg _ (AList.lookup_insert_ne isOther)⟩

/-! ## The end of a scan -/

theorem length_folderRows (stage : DurableStage parseDate) (folder : StagedFolder) :
    (stage.folderRows folder).length = (contents stage.tables folder).length := by
  rw [contents, List.length_map, folderRows]

/-- All rows of a folder have the UIDVALIDITY of its snapshot. -/
theorem StagedAs.countRows (staged : StagedAs testimony now stage folder snapshot log completed) :
    stage.countRows folder snapshot.uidvalidity = log.length := by
  rw [DurableStage.countRows, List.filter_eq_self.mpr, length_folderRows, staged.rows.length_eq,
    List.length_map]
  intro row isRow
  have isContent : asFetched row ∈ contents stage.tables folder := List.mem_map_of_mem isRow
  obtain ⟨entry, -, same⟩ := List.mem_map.mp (staged.rows.mem_iff.mp isContent)
  have sameValidity := congrArg StagedRow.uidvalidity same
  exact decide_eq_true sameValidity.symm

/-- A folder is completed when it has all of its messages. -/
theorem SoundStage.completeMailbox {lastUid : Nat} {ended : String}
    (sound : SoundStage testimony now stage)
    (staged : StagedAs testimony now stage (side, mailbox) snapshot log completed)
    (completes : stage.completeMailbox side mailbox snapshot lastUid ended = .ok next) :
    SoundStage testimony now next ∧
      StagedAs testimony now next (side, mailbox) snapshot log true := by
  rw [DurableStage.completeMailbox] at completes
  obtain ⟨count, counted, completes⟩ := bind_eq_ok.mp completes
  obtain ⟨_, -, counted⟩ := bind_eq_ok.mp counted
  obtain rfl := Except.ok.inj counted
  split at completes
  · cases completes
  · next isAll =>
      rw [staged.countRows, not_not] at isAll
      obtain ⟨_, -, completes⟩ := bind_eq_ok.mp completes
      obtain ⟨_, -, updated⟩ := bind_eq_ok.mp completes
      obtain ⟨cursor, isCursor, isSnapshot, rfl⟩ := updateCursor_ok updated
      have done : StagedAs testimony now
          { stage with
            cursors := stage.cursors.insert (side, mailbox)
              { cursor with lastUid, completed := true, scanCompletedAt := some ended } }
          (side, mailbox) snapshot log true :=
        { backs := staged.backs
          rows := staged.rows
          cursor := ⟨_, AList.lookup_insert _, isSnapshot, rfl, nofun⟩
          all := fun _ => isAll }
      refine ⟨sound.of_folder (.inr ⟨_, _, _, done⟩) ?_, done⟩
      intro other isOther
      exact ⟨rfl, congrArg _ (AList.lookup_insert_ne isOther)⟩

end MailSwiftSync.Scan
