import MailSwiftSync.Foundation.Metered
import MailSwiftSync.Foundation.Paging
import MailSwiftSync.Foundation.Relational
import MailSwiftSync.Verification.Mismatch

/-!
# The message stage

Fetched messages are staged in a private SQLite file, page by page, before they are
reconciled.  A table is the list of its rows in rowid order; a stage carries the
constraints of its tables.  Scan cursors and the free-space guard of the file do
not take part in reconciliation and are left out.
-/

namespace MailSwiftSync

open Foundation

/-- The endpoint a staged row belongs to. -/
inductive StagedMessageSide where
  | source
  | destination
deriving DecidableEq, Repr

/-- Primary key of the stage's tables.  An absent UIDVALIDITY is stored as `-1`. -/
structure StagedKey where
  side : StagedMessageSide
  mailbox : String
  uidvalidity : Int
  uid : String
deriving DecidableEq, Repr

def uidvalidityColumn : Option Nat → Int
  | none => -1
  | some value => value

theorem uidvalidityColumn_range (value : Option Nat) : -1 ≤ uidvalidityColumn value := by
  cases value with
  | none => rfl
  | some value => simp only [uidvalidityColumn]; omega

/-- Reading the column back. -/
def uidvalidityOf (column : Int) : Option Nat :=
  if 0 ≤ column then some column.toNat else none

theorem uidvalidityOf_column (value : Option Nat) :
    uidvalidityOf (uidvalidityColumn value) = value := by
  cases value with
  | none => rfl
  | some value => simp [uidvalidityOf, uidvalidityColumn]

theorem column_uidvalidityOf {column : Int} (range : -1 ≤ column) :
    uidvalidityColumn (uidvalidityOf column) = column := by
  by_cases absent : 0 ≤ column
  · simp [uidvalidityOf, absent, uidvalidityColumn]
  · simp only [uidvalidityOf, absent, if_false, uidvalidityColumn]
    omega

/-- The comparable form of an internal date. -/
def metadataDateKey (parseDate : DateParser) (value : String) : String :=
  match parseDate (trim value) with
  | some timestamp => "e:" ++ toString timestamp
  | none => "r:" ++ value

/-- A row of `staged_messages`.  `match_mailbox` starts as the mailbox and is rewritten
for source rows only; the provenance and date columns are written from the message. -/
structure StagedRow (parseDate : DateParser) where
  rowid : Nat
  side : StagedMessageSide
  mailbox : String
  matchMailbox : String
  uidvalidity : Int
  uid : String
  messageId : Option String
  identityProvenance : MessageIdentityProvenance
  internalDate : Option String
  dateKey : Option String
  sizeBytes : Option Nat
  flags : Option String
  uidvalidityRange : -1 ≤ uidvalidity
  ownFolder : side = .destination → matchMailbox = mailbox
  provenanceOfId : identityProvenance =
    ({ messageId } : ExtractedMessage).identityProvenance
  keyOfDate : dateKey = internalDate.map (metadataDateKey parseDate)
deriving DecidableEq

namespace StagedRow

variable {parseDate : DateParser}

def key (row : StagedRow parseDate) : StagedKey where
  side := row.side
  mailbox := row.mailbox
  uidvalidity := row.uidvalidity
  uid := row.uid

/-- The message key a row stands for. -/
def messageKey (row : StagedRow parseDate) : MailboxMessageKey where
  mailbox := row.mailbox
  uidvalidity := uidvalidityOf row.uidvalidity
  uid := row.uid

/-- The message read back from a row, without its flags. -/
def message (row : StagedRow parseDate) : ExtractedMessage where
  messageId := row.messageId
  uid := some row.uid
  sizeBytes := row.sizeBytes
  internalDate := row.internalDate
  flags := none

/-- `ORDER BY mailbox,uidvalidity,uid`: the folder first. -/
def minorKey (row : StagedRow parseDate) : Int ×ₗ String :=
  toLex (row.uidvalidity, row.uid)

/-- `ORDER BY mailbox,uidvalidity,uid`. -/
def orderKey (row : StagedRow parseDate) : String ×ₗ Int ×ₗ String :=
  toLex (row.mailbox, row.minorKey)

/-- The row without its position in the table. -/
def content (row : StagedRow parseDate) : StagedRow parseDate :=
  { row with rowid := 0 }

theorem message_identityProvenance (row : StagedRow parseDate) :
    row.message.identityProvenance = row.identityProvenance := by
  rw [row.provenanceOfId]
  rfl

theorem key_eq_of_messageKey {row other : StagedRow parseDate}
    (side : row.side = other.side) (same : row.messageKey = other.messageKey) :
    row.key = other.key := by
  have folder := congrArg MailboxMessageKey.mailbox same
  have validity := congrArg (fun key => uidvalidityColumn key.uidvalidity) same
  have uid := congrArg MailboxMessageKey.uid same
  simp only [messageKey, column_uidvalidityOf row.uidvalidityRange,
    column_uidvalidityOf other.uidvalidityRange] at folder validity uid
  simp only [key, side, folder, validity, uid]

theorem orderKey_eq_iff {row other : StagedRow parseDate} (side : row.side = other.side) :
    row.orderKey = other.orderKey ↔ row.key = other.key := by
  simp only [orderKey, minorKey, key, StagedKey.mk.injEq, side, true_and, toLex_inj,
    Prod.mk.injEq]

end StagedRow

/-- The row that one message is staged as. -/
def stagedRow (parseDate : DateParser) (side : StagedMessageSide) (key : MailboxMessageKey)
    (message : ExtractedMessage) : StagedRow parseDate where
  rowid := 0
  side := side
  mailbox := key.mailbox
  matchMailbox := key.mailbox
  uidvalidity := uidvalidityColumn key.uidvalidity
  uid := key.uid
  messageId := message.messageId
  identityProvenance := message.identityProvenance
  internalDate := message.internalDate
  dateKey := message.internalDate.map (metadataDateKey parseDate)
  sizeBytes := message.sizeBytes
  flags := message.flags
  uidvalidityRange := uidvalidityColumn_range _
  ownFolder := fun _ => rfl
  provenanceOfId := rfl
  keyOfDate := rfl

/-- The tables of a stage that verification reads. -/
structure MessageMetadataStage (parseDate : DateParser) where
  rows : List (StagedRow parseDate)
  fingerprints : AList fun _ : StagedKey => String
  permanentFlags : AList fun _ : StagedMessageSide × String => Option String
  rowidOrder : rows.Pairwise fun left right => left.rowid < right.rowid
  rowidPositive : ∀ row ∈ rows, 0 < row.rowid
  primaryKey : (rows.map StagedRow.key).Nodup

namespace MessageMetadataStage

variable {parseDate : DateParser}

/-- A stage without rows. -/
def empty : MessageMetadataStage parseDate where
  rows := []
  fingerprints := ∅
  permanentFlags := ∅
  rowidOrder := List.Pairwise.nil
  rowidPositive := by simp
  primaryKey := List.nodup_nil

/-- The rows of one side, in rowid order. -/
def sideRows (stage : MessageMetadataStage parseDate) (side : StagedMessageSide) :
    List (StagedRow parseDate) :=
  stage.rows.filter (·.side = side)

/-! ## Inserting pages -/

/-- The rowid SQLite gives to the next row. -/
def nextRowid (stage : MessageMetadataStage parseDate) : Nat :=
  (stage.rows.map StagedRow.rowid).foldr max 0 + 1

theorem rowid_lt_nextRowid (stage : MessageMetadataStage parseDate)
    {row : StagedRow parseDate} (membership : row ∈ stage.rows) :
    row.rowid < stage.nextRowid := by
  have bounded : ∀ rowids : List Nat, ∀ rowid ∈ rowids, rowid ≤ rowids.foldr max 0 := by
    intro rowids
    induction rowids with
    | nil => simp
    | cons head rest ih =>
      intro rowid inRowids
      rcases List.mem_cons.mp inRowids with rfl | inRest
      · exact le_max_left _ _
      · exact (ih rowid inRest).trans (le_max_right _ _)
  exact Nat.lt_succ_of_le (bounded _ _ (List.mem_map_of_mem membership))

/-- `INSERT OR REPLACE INTO staged_messages`: a row with the same key goes, the new one
is the last. -/
def insertRow (stage : MessageMetadataStage parseDate) (row : StagedRow parseDate) :
    MessageMetadataStage parseDate :=
  { stage with
    rows := stage.rows.filter (·.key ≠ row.key) ++ [{ row with rowid := stage.nextRowid }]
    rowidOrder := by
      rw [List.pairwise_append]
      refine ⟨stage.rowidOrder.filter _, List.pairwise_singleton _ _, ?_⟩
      intro earlier membership last isLast
      rw [List.mem_singleton.mp isLast]
      exact stage.rowid_lt_nextRowid (List.mem_filter.mp membership).1
    rowidPositive := by
      intro other membership
      rcases List.mem_append.mp membership with earlier | last
      · exact stage.rowidPositive other (List.mem_filter.mp earlier).1
      · rw [List.mem_singleton.mp last]
        exact Nat.succ_pos _
    primaryKey := by
      rw [List.map_append, List.nodup_append]
      refine ⟨stage.primaryKey.sublist (List.filter_sublist.map _), by simp, ?_⟩
      intro earlierKey inEarlier lastKey inLast
      obtain ⟨earlier, membership, rfl⟩ := List.mem_map.mp inEarlier
      obtain ⟨last, isLast, rfl⟩ := List.mem_map.mp inLast
      rw [List.mem_singleton.mp isLast]
      exact of_decide_eq_true (List.mem_filter.mp membership).2 }

/-- Numbers are stored as signed 64-bit integers. -/
def sqliteI64 (value : Option Nat) : Except String Unit :=
  if value.all (· < 2 ^ 63) then .ok () else .error "Query is not read-only"

/-- Stage one message. -/
def insertMessage (side : StagedMessageSide) (messages : ExtractedMessages)
    (stage : MessageMetadataStage parseDate) (key : MailboxMessageKey) :
    Except String (MessageMetadataStage parseDate) := do
  sqliteI64 key.uidvalidity
  sqliteI64 (messages.at key).sizeBytes
  return stage.insertRow (stagedRow parseDate side key (messages.at key))

/-- Stage one body fingerprint. -/
def insertFingerprint (side : StagedMessageSide)
    (fingerprints : AList fun _ : MailboxMessageKey => String)
    (stage : MessageMetadataStage parseDate) (key : MailboxMessageKey) :
    Except String (MessageMetadataStage parseDate) := do
  sqliteI64 key.uidvalidity
  return { stage with
    fingerprints := stage.fingerprints.insert
      ⟨side, key.mailbox, uidvalidityColumn key.uidvalidity, key.uid⟩
      ((fingerprints.lookup key).getD "") }

/-- Stage a page of messages, in key order, with its body fingerprints. -/
def insertPageWithFingerprints (side : StagedMessageSide) (messages : ExtractedMessages)
    (fingerprints : AList fun _ : MailboxMessageKey => String)
    (stage : MessageMetadataStage parseDate) :
    Except String (MessageMetadataStage parseDate) := do
  if fingerprints.keys.any (· ∉ messages) then
    .error "body fingerprint did not have a matching staged message"
  let stage ← (sortUnstable messages.keys).foldlM (insertMessage side messages) stage
  fingerprints.keys.foldlM (insertFingerprint side fingerprints) stage

/-- A page: its side, its messages and their body fingerprints. -/
structure Page where
  side : StagedMessageSide
  messages : ExtractedMessages
  fingerprints : AList fun _ : MailboxMessageKey => String := ∅

/-- Stage pages one after the other. -/
def insertPages (pages : List Page) (stage : MessageMetadataStage parseDate) :
    Except String (MessageMetadataStage parseDate) :=
  pages.foldlM (fun stage page =>
    insertPageWithFingerprints page.side page.messages page.fingerprints stage) stage

/-! ## Rows as they were staged -/

/-- One side of a stage holds the messages of a map, in key order. -/
def Holds (stage : MessageMetadataStage parseDate) (side : StagedMessageSide)
    (messages : ExtractedMessages) : Prop :=
  (stage.sideRows side).map StagedRow.content =
    (sortUnstable messages.keys).map fun key => stagedRow parseDate side key (messages.at key)

theorem sideRows_insertRow (stage : MessageMetadataStage parseDate)
    (row : StagedRow parseDate) (side : StagedMessageSide) :
    ((stage.insertRow row).sideRows side).map StagedRow.content =
      ((stage.sideRows side).map StagedRow.content).filter (·.key ≠ row.key) ++
        if row.side = side then [row.content] else [] := by
  rw [sideRows, insertRow, List.filter_append, List.map_append, sideRows]
  congr 1
  · rw [List.filter_comm, List.filter_map]
    rfl
  · by_cases same : row.side = side
    · simp [same, StagedRow.content]
    · simp [same]

variable {side : StagedMessageSide}

theorem stagedRow_key_injective {key other : MailboxMessageKey}
    {message message' : ExtractedMessage} (same : (stagedRow parseDate side key message).key =
      (stagedRow parseDate side other message').key) : key = other := by
  simp only [StagedRow.key, stagedRow, StagedKey.mk.injEq, true_and] at same
  obtain ⟨folder, validity, uid⟩ := same
  have validity' := congrArg uidvalidityOf validity
  rw [uidvalidityOf_column, uidvalidityOf_column] at validity'
  cases key
  cases other
  simp_all

variable {stage stage' : MessageMetadataStage parseDate}

theorem insertMessage_eq {messages : ExtractedMessages} {key : MailboxMessageKey}
    (inserted : insertMessage side messages stage key = .ok stage') :
    stage' = stage.insertRow (stagedRow parseDate side key (messages.at key)) := by
  obtain ⟨_, _, rest⟩ := bind_eq_ok.mp inserted
  obtain ⟨_, _, returned⟩ := bind_eq_ok.mp rest
  exact (Except.ok.inj returned).symm

/-- Staging distinct new messages appends their rows and leaves the other side alone. -/
theorem foldlM_insertMessage {messages : ExtractedMessages}
    {todo : List MailboxMessageKey} (done : List MailboxMessageKey) (nodup : (done ++ todo).Nodup)
    (staged : (stage.sideRows side).map StagedRow.content =
      done.map fun key => stagedRow parseDate side key (messages.at key))
    (returned : todo.foldlM (insertMessage side messages) stage = .ok stage') :
    (stage'.sideRows side).map StagedRow.content =
        (done ++ todo).map (fun key => stagedRow parseDate side key (messages.at key)) ∧
      ∀ other, other ≠ side → (stage'.sideRows other).map StagedRow.content =
        (stage.sideRows other).map StagedRow.content := by
  induction todo generalizing stage done with
  | nil =>
    obtain rfl := Except.ok.inj returned
    simpa using staged
  | cons key rest ih =>
    rw [List.foldlM_cons, bind_eq_ok] at returned
    obtain ⟨next, inserted, returned⟩ := returned
    obtain rfl := insertMessage_eq inserted
    have fresh : ((stage.sideRows side).map StagedRow.content).filter
        (·.key ≠ (stagedRow parseDate side key (messages.at key)).key) =
        (stage.sideRows side).map StagedRow.content := by
      rw [staged, List.filter_eq_self]
      intro row membership
      obtain ⟨earlier, isDone, rfl⟩ := List.mem_map.mp membership
      simp only [ne_eq, decide_not, Bool.not_eq_true', decide_eq_false_iff_not]
      intro same
      obtain rfl := stagedRow_key_injective same
      exact (List.nodup_append.mp nodup).2.2 earlier isDone earlier (by simp) rfl
    have staged' : ((stage.insertRow
        (stagedRow parseDate side key (messages.at key))).sideRows side).map
          StagedRow.content =
        (done ++ [key]).map fun key => stagedRow parseDate side key (messages.at key) := by
      rw [sideRows_insertRow, fresh, staged, List.map_append]
      simp [stagedRow, StagedRow.content]
    obtain ⟨own, others⟩ := ih (done ++ [key]) (by simpa using nodup) staged' returned
    refine ⟨by simpa using own, fun other different => ?_⟩
    have notOther : (stagedRow parseDate side key (messages.at key)).side ≠ other :=
      Ne.symm different
    rw [others other different, sideRows_insertRow, if_neg notOther, List.append_nil,
      List.filter_eq_self]
    intro row membership
    obtain ⟨original, inRows, rfl⟩ := List.mem_map.mp membership
    have isOther : original.side = other := by
      simpa using (List.mem_filter.mp inRows).2
    simp only [ne_eq, decide_not, Bool.not_eq_true', decide_eq_false_iff_not]
    intro same
    have sameSide := congrArg StagedKey.side same
    exact different (isOther.symm.trans sameSide)

theorem rows_foldlM_insertFingerprint {fingerprints : AList fun _ : MailboxMessageKey => String}
    {keys : List MailboxMessageKey}
    (returned : keys.foldlM (insertFingerprint side fingerprints) stage = .ok stage') :
    stage'.rows = stage.rows := by
  induction keys generalizing stage with
  | nil =>
    obtain rfl := Except.ok.inj returned
    rfl
  | cons key rest ih =>
    rw [List.foldlM_cons, bind_eq_ok] at returned
    obtain ⟨next, inserted, returned⟩ := returned
    obtain ⟨_, _, isNext⟩ := bind_eq_ok.mp inserted
    obtain rfl := Except.ok.inj isNext
    have sameRows := ih returned
    exact sameRows

/-- A page staged on a side without rows leaves the messages of the page there, in key
order, and does not touch the other side. -/
theorem insertPage_holds {messages : ExtractedMessages}
    {fingerprints : AList fun _ : MailboxMessageKey => String} (unused : stage.sideRows side = [])
    (returned : insertPageWithFingerprints side messages fingerprints stage = .ok stage') :
    stage'.Holds side messages ∧
      ∀ other, other ≠ side → (stage'.sideRows other).map StagedRow.content =
        (stage.sideRows other).map StagedRow.content := by
  rw [insertPageWithFingerprints] at returned
  split_ifs at returned with orphaned
  · cases returned
  cases inserted : (sortUnstable messages.keys).foldlM (insertMessage side messages)
      stage with
  | error error =>
    rw [inserted] at returned
    cases returned
  | ok staged =>
    rw [inserted] at returned
    have sameRows : stage'.rows = staged.rows := rows_foldlM_insertFingerprint returned
    have folded := foldlM_insertMessage []
      (by simpa using sortUnstable_nodup messages.keys_nodup) (by simp [unused]) inserted
    simpa only [Holds, sideRows, sameRows, List.nil_append] using folded

end MessageMetadataStage

end MailSwiftSync
