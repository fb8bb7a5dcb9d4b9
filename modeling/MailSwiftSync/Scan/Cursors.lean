import MailSwiftSync.Staged.Reconciliation

/-!
# Folder cursors

A durable stage keeps a cursor for every folder it scans: the SELECT snapshot the scan began with,
how far it came and whether it was completed.  What an earlier attempt staged is used again only
where rows and cursor prove that it belongs to an unchanged snapshot.
-/

namespace MailSwiftSync.Scan

open Foundation

/-! ## Tables -/

/-- The SELECT state that produced a folder's staged pages.  There is a watermark only where the
server supplied one. -/
structure FolderSnapshot where
  uidvalidity : Nat
  uidnext : Nat
  existsCount : Nat
  highestModseq : Option Nat
deriving DecidableEq, Repr

/-- The columns of a snapshot are signed 64-bit integers. -/
def FolderSnapshot.toSql (snapshot : FolderSnapshot) : Except String Unit := do
  MessageMetadataStage.sqliteI64 snapshot.uidvalidity
  MessageMetadataStage.sqliteI64 snapshot.uidnext
  MessageMetadataStage.sqliteI64 snapshot.existsCount
  MessageMetadataStage.sqliteI64 snapshot.highestModseq

/-- A row of `stage_cursors`, beside its key. -/
structure FolderCursor where
  snapshot : FolderSnapshot
  lastUid : Nat
  completed : Bool
  scanStartedAt : Option String
  scanCompletedAt : Option String
  sourceRevalidatedAt : Option String
  destinationRevalidatedAt : Option String
deriving DecidableEq, Repr

/-- A folder of an endpoint. -/
abbrev StagedFolder : Type := StagedMessageSide × String

/-- The tables of a durable stage. -/
structure DurableStage (parseDate : DateParser) where
  tables : MessageMetadataStage parseDate
  cursors : AList fun _ : StagedFolder => FolderCursor
  identity : Option String

/-- `DELETE FROM` a table of entries. -/
def discard {κ : Type} {ν : κ → Type} (condition : κ → Bool) (entries : AList ν) : AList ν where
  entries := entries.entries.filter fun entry => !condition entry.1
  nodupKeys := entries.nodupKeys.sublist List.filter_sublist

theorem lookup_discard {κ : Type} {ν : Type} [DecidableEq κ] (condition : κ → Bool)
    (entries : AList fun _ : κ => ν) (key : κ) :
    (discard condition entries).lookup key =
      if condition key then none else entries.lookup key := by
  apply Option.ext
  intro value
  rw [← Option.mem_def, AList.mem_lookup_iff, discard, List.mem_filter]
  cases discarded : condition key with
  | true => simp
  | false => simp [← Option.mem_def, AList.mem_lookup_iff]

/-- Change the value of every entry. -/
def mapValues {κ ν ν' : Type} (change : ν → ν') (entries : AList fun _ : κ => ν) :
    AList fun _ : κ => ν' where
  entries := entries.entries.map fun entry => ⟨entry.1, change entry.2⟩
  nodupKeys := by
    rw [List.NodupKeys, List.keys, List.map_map]
    exact entries.nodupKeys

theorem lookup_mapValues {κ ν ν' : Type} [DecidableEq κ] (change : ν → ν')
    (entries : AList fun _ : κ => ν) (key : κ) :
    (mapValues change entries).lookup key = (entries.lookup key).map change := by
  apply Option.ext
  intro value
  rw [← Option.mem_def, AList.mem_lookup_iff, mapValues, List.mem_map, Option.map_eq_some_iff]
  constructor
  · intro ⟨entry, isEntry, same⟩
    cases same
    exact ⟨entry.2, AList.mem_lookup_iff.mpr isEntry, rfl⟩
  · intro ⟨old, isOld, same⟩
    exact ⟨⟨key, old⟩, AList.mem_lookup_iff.mp isOld, by rw [same]⟩

namespace DurableStage

variable {parseDate : DateParser}

def empty : DurableStage parseDate where
  tables := .empty
  cursors := ∅
  identity := none

/-- The rows of a folder in the tables. -/
def rowsIn (tables : MessageMetadataStage parseDate) (folder : StagedFolder) :
    List (StagedRow parseDate) :=
  tables.rows.filter fun row => row.side = folder.1 && row.mailbox = folder.2

/-- The rows of a folder. -/
def folderRows (stage : DurableStage parseDate) (folder : StagedFolder) :
    List (StagedRow parseDate) :=
  rowsIn stage.tables folder

/-- `DELETE FROM staged_messages WHERE …`. -/
def deleteRows (stage : MessageMetadataStage parseDate) (condition : StagedRow parseDate → Bool) :
    MessageMetadataStage parseDate :=
  { stage with
    rows := stage.rows.filter fun row => !condition row
    rowidOrder := stage.rowidOrder.filter _
    rowidPositive := fun row isRow => stage.rowidPositive row (List.mem_of_mem_filter isRow)
    primaryKey := stage.primaryKey.sublist (List.filter_sublist.map _) }

/-- Everything that is staged for the folders of one side with some property. -/
def deleteFolders (stage : DurableStage parseDate) (side : StagedMessageSide)
    (condition : String → Bool) : DurableStage parseDate :=
  { stage with
    tables :=
      { deleteRows stage.tables fun row => row.side = side && condition row.mailbox with
        fingerprints := discard (fun key => key.side = side && condition key.mailbox)
          stage.tables.fingerprints
        permanentFlags := discard (fun key => key.1 = side && condition key.2)
          stage.tables.permanentFlags }
    cursors := discard (fun key => key.1 = side && condition key.2) stage.cursors }

/-! ## Writes -/

def stageFreeSpaceReserveBytes : Nat := 512 * 1024 * 1024

def validateStageFreeSpace (available : Nat) : Except String Unit :=
  if available < stageFreeSpaceReserveBytes then
    .error ("[verification_limit=staging_disk_space] verification staging stopped with " ++
      toString available ++ " bytes available; it preserves a minimum free-space reserve of " ++
      toString stageFreeSpaceReserveBytes ++ " bytes")
  else .ok ()

def cursorMismatch (mailbox : String) : String :=
  "folder " ++ mailbox ++ ": verification cursor does not belong to the current snapshot"

/-- `UPDATE stage_cursors SET … WHERE` the row is that of a folder and a snapshot; it must be
there. -/
def updateCursor (stage : DurableStage parseDate) (folder : StagedFolder)
    (snapshot : FolderSnapshot) (change : FolderCursor → FolderCursor) :
    Except String (DurableStage parseDate) :=
  match stage.cursors.lookup folder with
  | none => .error (cursorMismatch folder.2)
  | some cursor =>
    if cursor.snapshot = snapshot then
      .ok { stage with cursors := stage.cursors.insert folder (change cursor) }
    else .error (cursorMismatch folder.2)

/-- Stage a page with its body fingerprints, and the cursor that goes with it. -/
def insertPageWithFingerprints (side : StagedMessageSide) (messages : ExtractedMessages)
    (fingerprints : AList fun _ : MailboxMessageKey => String)
    (checkpoint : Option (String × FolderSnapshot × Nat)) (stage : DurableStage parseDate) :
    Except String (DurableStage parseDate) := do
  let tables ← stage.tables.insertPageWithFingerprints side messages fingerprints
  match checkpoint with
  | none => return { stage with tables }
  | some (mailbox, snapshot, lastUid) =>
    snapshot.toSql
    MessageMetadataStage.sqliteI64 lastUid
    { stage with tables }.updateCursor (side, mailbox) snapshot
      ({ · with lastUid, completed := false })

def recordPermanentFlags (side : StagedMessageSide) (mailbox : String)
    (permanentFlags : Option String) (stage : DurableStage parseDate) : DurableStage parseDate :=
  { stage with
    tables := { stage.tables with
      permanentFlags := stage.tables.permanentFlags.insert (side, mailbox) permanentFlags } }

def deleteMailbox (side : StagedMessageSide) (mailbox : String) (stage : DurableStage parseDate) :
    DurableStage parseDate :=
  stage.deleteFolders side (· = mailbox)

/-- Start a new folder scan: what earlier scans staged goes, and the cursor is that of the new
snapshot. -/
def beginMailboxScan (side : StagedMessageSide) (mailbox : String) (snapshot : FolderSnapshot)
    (now : String) (stage : DurableStage parseDate) : Except String (DurableStage parseDate) := do
  snapshot.toSql
  if snapshot.highestModseq = some 0 then
    .error "CHECK constraint failed: highest_modseq IS NULL OR highest_modseq > 0"
  let cleared := stage.deleteMailbox side mailbox
  return { cleared with
    cursors := cleared.cursors.insert (side, mailbox) {
      snapshot
      lastUid := 0
      completed := false
      scanStartedAt := some now
      scanCompletedAt := none
      sourceRevalidatedAt := none
      destinationRevalidatedAt := none } }

def advanceCursor (side : StagedMessageSide) (mailbox : String) (snapshot : FolderSnapshot)
    (lastUid : Nat) (completed : Bool) (now : String) (stage : DurableStage parseDate) :
    Except String (DurableStage parseDate) := do
  snapshot.toSql
  MessageMetadataStage.sqliteI64 lastUid
  stage.updateCursor (side, mailbox) snapshot fun cursor =>
    { cursor with
      lastUid
      completed
      scanCompletedAt := if completed then some now else cursor.scanCompletedAt }

/-- How many rows a folder has under a UIDVALIDITY. -/
def countRows (stage : DurableStage parseDate) (folder : StagedFolder) (uidvalidity : Nat) : Nat :=
  ((stage.folderRows folder).filter (·.uidvalidity = Int.ofNat uidvalidity)).length

def countMailbox (side : StagedMessageSide) (mailbox : String) (uidvalidity : Nat)
    (stage : DurableStage parseDate) : Except String Nat := do
  MessageMetadataStage.sqliteI64 uidvalidity
  return stage.countRows (side, mailbox) uidvalidity

/-- Mark a folder as fully staged, when it has as many rows as the snapshot has messages. -/
def completeMailbox (side : StagedMessageSide) (mailbox : String) (snapshot : FolderSnapshot)
    (lastUid : Nat) (now : String) (stage : DurableStage parseDate) :
    Except String (DurableStage parseDate) := do
  let staged ← stage.countMailbox side mailbox snapshot.uidvalidity
  if staged ≠ snapshot.existsCount then
    .error ("folder " ++ mailbox ++ ": staged rows (" ++ toString staged ++
      ") differ from snapshot EXISTS " ++ toString snapshot.existsCount)
  stage.advanceCursor side mailbox snapshot lastUid true now

def sideName : StagedMessageSide → String
  | .source => "source"
  | .destination => "destination"

/-- `UPDATE stage_cursors SET source_revalidated_at=… WHERE` the folder is completed, or the
column of the destination. -/
def revalidateFolder (side : StagedMessageSide) (stage : DurableStage parseDate)
    (observation : String × String) : Except String (DurableStage parseDate) :=
  match (stage.cursors.lookup (side, observation.1)).filter (·.completed) with
  | none => .error (sideName side ++ " revalidation observation has no completed " ++
      sideName side ++ " folder " ++ observation.1)
  | some cursor =>
    let cursor := match side with
      | .source => { cursor with sourceRevalidatedAt := some observation.2 }
      | .destination => { cursor with destinationRevalidatedAt := some observation.2 }
    .ok { stage with cursors := stage.cursors.insert (side, observation.1) cursor }

/-- Record when each completed folder of an endpoint was selected again and found unchanged. -/
def recordRevalidation (side : StagedMessageSide) (available : Nat)
    (observations : List (String × String)) (stage : DurableStage parseDate) :
    Except String (DurableStage parseDate) := do
  validateStageFreeSpace available
  let expected := (stage.cursors.entries.filter fun entry =>
    entry.1.1 = side && entry.2.completed).length
  if expected = 0 || expected ≠ observations.length then
    .error (sideName side ++ " revalidation did not cover every completed " ++ sideName side ++
      " folder")
  observations.foldlM (revalidateFolder side) stage

/-- Reconciliation maps the folders of the source in the rows. -/
def mapFolders (folderMapping : FolderMapping) (stage : DurableStage parseDate) :
    DurableStage parseDate :=
  { stage with tables := stage.tables.mapFolders folderMapping }

/-- Begin a verification attempt: body proofs and revalidation times do not outlive one. -/
def beginVerificationAttempt (stage : DurableStage parseDate) : DurableStage parseDate :=
  { stage with
    tables := { stage.tables with fingerprints := ∅ }
    cursors := mapValues
      ({ · with sourceRevalidatedAt := none, destinationRevalidatedAt := none }) stage.cursors }

/-- Keep only what is staged for folders of the current inventory. -/
def retainMailboxes (side : StagedMessageSide) (currentMailboxes : List String)
    (stage : DurableStage parseDate) : DurableStage parseDate :=
  stage.deleteFolders side (· ∉ currentMailboxes)

/-- Bind a stage to the plan it is for; that of another plan is emptied. -/
def bindIdentity (identity : String) (stage : DurableStage parseDate) :
    Except String (DurableStage parseDate) :=
  if 256 < identity.utf8ByteSize then .error "Query is not read-only"
  else if stage.identity = some identity then .ok stage
  else .ok { DurableStage.empty with identity := some identity }

/-! ## What may be used again -/

/-- The number of body fingerprints of a folder. -/
def fingerprintCount (stage : DurableStage parseDate) (folder : StagedFolder) : Nat :=
  (stage.tables.fingerprints.entries.filter fun entry =>
    entry.1.side = folder.1 && entry.1.mailbox = folder.2).length

/-- How many messages a completed scan of the same tracked snapshot staged. -/
def reusableCompletedMailbox (side : StagedMessageSide) (mailbox : String)
    (snapshot : FolderSnapshot) (stage : DurableStage parseDate) : Except String (Option Nat) :=
  if snapshot.highestModseq.isNone then .ok none
  else do
    snapshot.toSql
    match stage.cursors.lookup (side, mailbox) with
    | none => return none
    | some cursor =>
      let totalRows := (stage.folderRows (side, mailbox)).length
      let snapshotRows := stage.countRows (side, mailbox) cursor.snapshot.uidvalidity
      return if cursor.snapshot = snapshot && cursor.completed &&
          cursor.scanCompletedAt.isSome && totalRows = snapshot.existsCount &&
          snapshotRows = snapshot.existsCount && stage.fingerprintCount (side, mailbox) = 0 then
        some snapshot.existsCount
      else none

/-- `CAST(uid AS INTEGER)` of the digits of a UID. -/
def castUid (uid : String) : Nat :=
  (uid.toList.takeWhile Char.isDigit).foldl (fun value digit => value * 10 + (digit.toNat - 48)) 0

/-- The greatest UID of a folder. -/
def maxUid (stage : DurableStage parseDate) (folder : StagedFolder) : Option Nat :=
  ((stage.folderRows folder).map fun row => castUid row.uid).max?

/-- The committed prefix of an unfinished scan of the same tracked snapshot: how many messages,
and the UID of the last of them. -/
def resumableMailboxPrefix (side : StagedMessageSide) (mailbox : String)
    (snapshot : FolderSnapshot) (stage : DurableStage parseDate) :
    Except String (Option (Nat × Nat)) :=
  if snapshot.highestModseq.isNone then .ok none
  else do
    snapshot.toSql
    match stage.cursors.lookup (side, mailbox) with
    | none => return none
    | some cursor =>
      let totalRows := (stage.folderRows (side, mailbox)).length
      let snapshotRows := stage.countRows (side, mailbox) cursor.snapshot.uidvalidity
      return if cursor.snapshot = snapshot && !cursor.completed &&
          cursor.scanStartedAt.isSome && cursor.scanCompletedAt.isNone &&
          totalRows = snapshotRows && 0 < snapshotRows && snapshotRows ≤ snapshot.existsCount &&
          0 < cursor.lastUid && cursor.lastUid < 2 ^ 32 && cursor.lastUid < snapshot.uidnext &&
          stage.maxUid (side, mailbox) = some cursor.lastUid &&
          stage.fingerprintCount (side, mailbox) = 0 then
        some (snapshotRows, cursor.lastUid)
      else none

end DurableStage

end MailSwiftSync.Scan
