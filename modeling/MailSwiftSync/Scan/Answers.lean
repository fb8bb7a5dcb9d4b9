import MailSwiftSync.Foundation.Mapping
import MailSwiftSync.Imap.FetchRoundTrip
import MailSwiftSync.Scan.Folder
import MailSwiftSync.Scan.Rows

/-!
# What answers say

A scan believes what the accepted answers of a server say: the snapshot in a SELECT, the UIDs of a
window, the metadata of a page.  A log is a list of messages each of which was told so.
-/

namespace MailSwiftSync.Scan

open Foundation Imap

/-! ## Windows -/

/-- The UIDs of an accepted window. -/
structure WindowUids (sequenceStart sequenceEnd : Nat) (uids : List Nat) : Prop where
  positive : 1 ≤ sequenceStart
  length : uids.length = sequenceEnd - sequenceStart + 1
  increasing : uids.Pairwise (· < ·)
  valid : ∀ uid ∈ uids, 1 ≤ uid ∧ uid < 2 ^ 32

theorem windowUids_of_parsed {host mailbox : String} {sequenceStart sequenceEnd : Nat}
    {response : Text} {uids : List Nat}
    (isRead : parseUidFetchResponse host mailbox sequenceStart sequenceEnd response = .ok uids) :
    WindowUids sequenceStart sequenceEnd uids := by
  obtain ⟨state, account, isPositive, isRange, isFull, isUids, increasing⟩ :=
    parseUidFetchResponse_accepts isRead
  constructor
  · exact isPositive
  · rw [isUids, List.length_map, (orderBy_perm _ _).length_eq, isFull]
  · exact increasing
  · intro uid isUid
    rw [isUids] at isUid
    obtain ⟨pair, isPair, rfl⟩ := List.mem_map.mp isUid
    obtain ⟨record, -, reads⟩ :=
      Foundation.exists_of_forall₂ account.reads.flip pair (mem_orderBy.mp isPair)
    exact reads.valid

/-! ## Pages -/

/-- The key of a message. -/
def uidKey (mailbox : String) (uidvalidity uid : Nat) : MailboxMessageKey :=
  ⟨mailbox, some uidvalidity, toString uid⟩

theorem uidKey_injective {mailbox : String} {uidvalidity uid other : Nat}
    (same : uidKey mailbox uidvalidity uid = uidKey mailbox uidvalidity other) : uid = other :=
  Nat.repr_injective (congrArg MailboxMessageKey.uid same)

theorem parseU64_uid {uid : Nat} (fits : uid < 2 ^ 32) :
    parseU64 (toString uid).toList = some uid := by
  have digits : (toString uid).toList = Nat.toDigits 10 uid := String.toList_ofList
  rw [digits]
  exact parseU64_toDigits (lt_trans fits (by decide))

/-- The keys of a parsed page. -/
theorem uidKey_of_parsed {sha256 : Bytes → Bytes} {response : Bytes} {mailbox : String}
    {uidvalidity : Nat} {messages : ExtractedMessages}
    (parsed : parseMessageFetchMetadataResponse sha256 response mailbox (some uidvalidity) =
      .ok messages) :
    ∀ key ∈ messages.keys, ∃ uid, key = uidKey mailbox uidvalidity uid ∧ uid < 2 ^ 32 := by
  rw [parseMessageFetchMetadataResponse] at parsed
  refine foldlM_invariant (motive := fun _ messages => ∀ key ∈ messages.keys, ∃ uid,
    key = uidKey mailbox uidvalidity uid ∧ uid < 2 ^ 32) ?_ ?_ parsed
  · intro key isKey
    cases isKey
  · intro done record before after held stepped key isKey
    obtain ⟨record, -, stepped⟩ := bind_eq_ok.mp stepped
    obtain ⟨uid, isUid, stepped⟩ := bind_eq_ok.mp stepped
    dsimp only at stepped
    split at stepped
    · cases stepped
    · cases stepped
      rw [← AList.mem_keys, AList.mem_insert] at isKey
      cases isKey with
      | inl isNew =>
        have fits := (parsedFetchUid_eq_ok_iff.mp isUid).2.2
        exact ⟨uid, isNew, Nat.lt_succ_of_le fits⟩
      | inr isOld => exact held key (AList.mem_keys.mp isOld)

/-- A page that covers its UIDs has a record for each of them, and no other. -/
theorem keys_of_coverage {messages : ExtractedMessages} {uids : List Nat} {host mailbox : String}
    {uidvalidity : Nat}
    (areKeys : ∀ key ∈ messages.keys, ∃ uid, key = uidKey mailbox uidvalidity uid ∧ uid < 2 ^ 32)
    (increasing : uids.Pairwise (· < ·))
    (covers : validateFetchPageCoverage messages uids host mailbox = .ok ()) :
    messages.keys.Perm (uids.map (uidKey mailbox uidvalidity)) := by
  obtain ⟨parsedUids, areParsed, covers⟩ := bind_eq_ok.mp covers
  have sameUids : parsedUids.toFinset = uids.toFinset := by
    by_contra differ
    rw [if_pos differ] at covers
    cases covers
  have areMapped : messages.keys = parsedUids.map (uidKey mailbox uidvalidity) := by
    have related := mapM_eq_ok.mp areParsed
    clear areParsed covers sameUids
    generalize messages.keys = keys at areKeys related
    induction related with
    | nil => rfl
    | cons isParsed _ ih =>
      obtain ⟨uid, isKey, fits⟩ := areKeys _ List.mem_cons_self
      have isUid : parseU64 (uidKey mailbox uidvalidity uid).uid.toList = some uid :=
        parseU64_uid fits
      rw [isKey, isUid, uidKey, if_neg (not_not.mpr rfl)] at isParsed
      cases isParsed
      rw [List.map_cons, ← ih fun key later => areKeys key (List.mem_cons_of_mem _ later),
        isKey]
  rw [areMapped]
  apply List.Perm.map
  apply (List.perm_ext_iff_of_nodup _ (increasing.imp fun less => less.ne)).mpr
  · intro uid
    rw [← List.mem_toFinset, sameUids, List.mem_toFinset]
  · have distinct := messages.keys_nodup
    rw [areMapped] at distinct
    exact distinct.of_map

/-! ## Testimony -/

/-- What may be said about folders, and when: that a folder had a snapshot, that a UID had a place
in it, and that a message had a UID, with its flags or without them. -/
structure Testimony where
  seen : Nat → StagedFolder → FolderSnapshot → Prop
  placed : Nat → StagedFolder → Nat → Nat → Prop
  described : Nat → StagedFolder → Bool → Nat → ExtractedMessage → Prop

/-- A server says what the testimony has. -/
structure Answers (wire : Wire) (scan : FolderScan) (testimony : Testimony) : Prop where
  seen : ∀ {time : Nat} {tag quoted : Text} {condstoreEnabled : Bool} {operation : String}
    {rawResponse : Bytes} {selection : Selection} {snapshot : FolderSnapshot},
    imapQuote scan.mailbox = .ok quoted →
    wire.answer time (selectCommand tag quoted condstoreEnabled) = .ok rawResponse →
    readSelection scan tag condstoreEnabled operation rawResponse = .ok selection →
    demandIdentity scan selection = .ok snapshot →
    testimony.seen time scan.folder snapshot
  placed : ∀ {time : Nat} {tag : Text} {sequenceStart sequenceEnd : Nat} {rawResponse : Bytes}
    {uids : List Nat} {index uid : Nat},
    wire.answer time (windowCommand tag sequenceStart sequenceEnd) = .ok rawResponse →
    readWindow scan tag sequenceStart sequenceEnd rawResponse = .ok uids →
    uids[index]? = some uid →
    testimony.placed time scan.folder (sequenceStart + index) uid
  described : ∀ {time : Nat} {tag uidSet : Text} {snapshot : FolderSnapshot} {flags body : Bool}
    {uidPage : List Nat} {rawResponse : Bytes} {messages : ExtractedMessages} {uid : Nat},
    wire.answer time (metadataCommand tag uidSet flags body) = .ok rawResponse →
    readPage scan tag snapshot flags uidPage rawResponse = .ok messages →
    uid ∈ uidPage →
    testimony.described time scan.folder flags uid
      (messages.at (uidKey scan.mailbox snapshot.uidvalidity uid))

/-- Messages with their UIDs, in the order of a folder. -/
abbrev Log : Type := List (Nat × ExtractedMessage)

/-- The UID of the last message, or zero. -/
def Log.lastUid (log : Log) : Nat := (log.getLast?.map Prod.fst).getD 0

/-- A message was told to be at a place of a folder after the folder had the snapshot. -/
def Testimony.Told (testimony : Testimony) (now : Nat) (folder : StagedFolder)
    (snapshot : FolderSnapshot) (position : Nat) (entry : Nat × ExtractedMessage) : Prop :=
  ∃ start located fetched, testimony.seen start folder snapshot ∧
    testimony.placed located folder position entry.1 ∧
    testimony.described fetched folder snapshot.highestModseq.isSome entry.1 entry.2 ∧
    start ≤ located ∧ start ≤ fetched ∧ located < now ∧ fetched < now

/-- The messages of a log are the first ones of a folder, as far as it was told. -/
structure Testimony.Backs (testimony : Testimony) (now : Nat) (folder : StagedFolder)
    (snapshot : FolderSnapshot) (log : Log) : Prop where
  increasing : (log.map Prod.fst).Pairwise (· < ·)
  valid : ∀ entry ∈ log, 1 ≤ entry.1 ∧ entry.1 < 2 ^ 32
  fits : log.length ≤ snapshot.existsCount
  told : ∀ index entry, log[index]? = some entry →
    testimony.Told now folder snapshot (index + 1) entry

namespace Testimony

variable {testimony : Testimony} {now later : Nat} {folder : StagedFolder}
  {snapshot : FolderSnapshot} {log page : Log}

theorem Told.mono {position : Nat} {entry : Nat × ExtractedMessage}
    (told : testimony.Told now folder snapshot position entry) (passes : now ≤ later) :
    testimony.Told later folder snapshot position entry := by
  obtain ⟨start, located, fetched, seen, placed, described, first, second, isPlaced, isFetched⟩ :=
    told
  exact ⟨start, located, fetched, seen, placed, described, first, second,
    isPlaced.trans_le passes, isFetched.trans_le passes⟩

theorem Backs.mono (backs : testimony.Backs now folder snapshot log) (passes : now ≤ later) :
    testimony.Backs later folder snapshot log where
  increasing := backs.increasing
  valid := backs.valid
  fits := backs.fits
  told index entry isEntry := (backs.told index entry isEntry).mono passes

theorem backs_nil (testimony : Testimony) (now : Nat) (folder : StagedFolder)
    (snapshot : FolderSnapshot) : testimony.Backs now folder snapshot [] where
  increasing := .nil
  valid := nofun
  fits := Nat.zero_le _
  told := nofun

/-- More messages, which follow those of the log. -/
theorem Backs.append (backs : testimony.Backs now folder snapshot log)
    (increasing : (page.map Prod.fst).Pairwise (· < ·))
    (above : ∀ entry ∈ log, ∀ uid ∈ page.map Prod.fst, entry.1 < uid)
    (valid : ∀ uid ∈ page.map Prod.fst, 1 ≤ uid ∧ uid < 2 ^ 32)
    (fits : log.length + page.length ≤ snapshot.existsCount)
    (told : ∀ index entry, page[index]? = some entry →
      testimony.Told now folder snapshot (log.length + 1 + index) entry) :
    testimony.Backs now folder snapshot (log ++ page) := by
  constructor
  · rw [List.map_append, List.pairwise_append]
    refine ⟨backs.increasing, increasing, ?_⟩
    intro uid isUid other isOther
    obtain ⟨entry, isEntry, rfl⟩ := List.mem_map.mp isUid
    exact above entry isEntry other isOther
  · intro entry isEntry
    cases List.mem_append.mp isEntry with
    | inl isOld => exact backs.valid entry isOld
    | inr isNew => exact valid entry.1 (List.mem_map_of_mem isNew)
  · rw [List.length_append]
    exact fits
  · intro index entry isEntry
    by_cases isOld : index < log.length
    · rw [List.getElem?_append_left isOld] at isEntry
      exact backs.told index entry isEntry
    · have isNew := Nat.le_of_not_lt isOld
      rw [List.getElem?_append_right isNew] at isEntry
      have here := told (index - log.length) entry isEntry
      have position : log.length + 1 + (index - log.length) = index + 1 := by omega
      rwa [position] at here

/-- The last UID of a log is the greatest. -/
theorem Backs.le_lastUid (backs : testimony.Backs now folder snapshot log) :
    ∀ entry ∈ log, entry.1 ≤ log.lastUid := by
  intro entry isEntry
  cases log.eq_nil_or_concat' with
  | inl isNil =>
    rw [isNil] at isEntry
    cases isEntry
  | inr isConcat =>
    obtain ⟨front, last, isLog⟩ := isConcat
    have increasing := backs.increasing
    rw [isLog, List.map_append, List.pairwise_append] at increasing
    rw [isLog] at isEntry ⊢
    rw [Log.lastUid, List.getLast?_concat]
    cases List.mem_append.mp isEntry with
    | inl isFront =>
      exact (increasing.2.2 entry.1 (List.mem_map_of_mem isFront) last.1 (by simp)).le
    | inr isLast =>
      rw [List.mem_singleton.mp isLast]
      exact le_rfl

end Testimony

end MailSwiftSync.Scan
