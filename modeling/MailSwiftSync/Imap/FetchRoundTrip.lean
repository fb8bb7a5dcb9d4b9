import Mathlib.Data.List.Perm.Subperm
import Std.Data.String.ToNat
import MailSwiftSync.Foundation.Collecting
import MailSwiftSync.Imap.FetchFraming

/-!
# The FETCH round trip

What the parser makes of rendered records: each message with its shadows in the place of the
values.  The messages are read back as they are when the shadows change nothing.
-/

namespace MailSwiftSync.Imap

open Foundation

section RoundTrip

variable (sha256 : Bytes → Bytes) (mailbox : String) (uidvalidity : Option Nat)

/-! ## Entries -/

/-- The entry of a record: the message under its key. -/
def readEntry (record : FetchRecord) : Except String (MailboxMessageKey × ExtractedMessage) := do
  let uid ← parsedFetchUid record.protocolText mailbox "IMAP FETCH"
  return (⟨mailbox, uidvalidity, toString uid⟩, messageOf sha256 record)

/-- The entry of a record, if it has one. -/
def entryOf (record : FetchRecord) : MailboxMessageKey × ExtractedMessage :=
  (⟨mailbox, uidvalidity, toString ((fetchNumber record.protocolText "UID").getD 0)⟩,
    messageOf sha256 record)

/-- Reading metadata collects the entries of the records. -/
theorem addMetadata_eq_collect (messages : ExtractedMessages) (record : FetchRecord) :
    addMetadata sha256 mailbox uidvalidity messages (.ok record) =
      collect (readEntry sha256 mailbox uidvalidity)
        (fun key => "duplicate FETCH UID " ++ key.uid) messages record := by
  rw [collect, readEntry, addMetadata, ok_bind]
  cases parsedFetchUid record.protocolText mailbox "IMAP FETCH" with
  | error message => rfl
  | ok uid => rfl

variable {sha256 mailbox uidvalidity}

theorem parsedFetchUid_eq_ok_iff {text : Text} {context : String} {uid : Nat} :
    parsedFetchUid text mailbox context = .ok uid ↔
      fetchNumber text "UID" = some uid ∧ 0 < uid ∧ uid ≤ maxImapUid := by
  rw [parsedFetchUid]
  cases fetchNumber text "UID" with
  | none => simp
  | some found =>
    simp only [validateImapUid, Bool.or_eq_true, decide_eq_true_eq]
    by_cases outside : found = 0 ∨ maxImapUid < found
    · rw [if_pos outside]
      simp only [reduceCtorEq, Option.some.injEq, false_iff]
      rintro ⟨rfl, positive, fits⟩
      omega
    · rw [if_neg outside]
      simp only [Except.ok.injEq, Option.some.injEq]
      constructor
      · rintro rfl
        exact ⟨rfl, by omega, by omega⟩
      · exact fun both => both.1

theorem readEntry_eq_ok {record : FetchRecord} {pair : MailboxMessageKey × ExtractedMessage} :
    readEntry sha256 mailbox uidvalidity record = .ok pair ↔
      pair = entryOf sha256 mailbox uidvalidity record ∧
        ∃ uid, fetchNumber record.protocolText "UID" = some uid ∧ 0 < uid ∧ uid ≤ maxImapUid := by
  rw [readEntry, bind_eq_ok]
  simp only [parsedFetchUid_eq_ok_iff, pure_eq_ok]
  constructor
  · rintro ⟨uid, ⟨isUid, fits⟩, rfl⟩
    rw [entryOf, isUid]
    exact ⟨rfl, uid, rfl, fits⟩
  · rintro ⟨rfl, uid, isUid, fits⟩
    refine ⟨uid, ⟨isUid, fits⟩, ?_⟩
    rw [entryOf, isUid]
    rfl

/-! ## What the parser returns -/

namespace FetchedMessage

/-- The key under which a message is found. -/
def keyOf (mailbox : String) (uidvalidity : Option Nat) (reading : FetchReading) :
    MailboxMessageKey :=
  ⟨mailbox, uidvalidity, toString (reading.1.getD 0)⟩

/-- What an entry says of a message. -/
def Tells (entry : ExtractedMessage) (reading : FetchReading) : Prop :=
  entry.sizeBytes = reading.2.1 ∧ entry.internalDate = reading.2.2.1.map String.ofList ∧
    entry.flags = some reading.2.2.2

variable {message : FetchedMessage} {messages : List FetchedMessage}

/-- The number found for the UID. -/
theorem fetchUid_eq (legal : message.IsLegal) :
    fetchNumber message.protocolText "UID" = message.shadowedReading.1 := by
  have fits : message.uid < 2 ^ 64 := lt_of_le_of_lt legal.uidFits (by decide)
  exact fetchNumber_eq legal (by decide : FetchItem.uid ≠ .header) rfl fits rfl

/-- What the parser makes of the record of a message. -/
theorem messageOf_tells (legal : message.IsLegal) {record : FetchRecord}
    (isText : record.protocolText = message.protocolText) :
    Tells (messageOf sha256 record) message.shadowedReading := by
  refine ⟨?_, ?_, ?_⟩
  · rw [messageOf, isText]
    exact fetchNumber_eq legal (by decide : FetchItem.size ≠ .header) rfl legal.sizeFits rfl
  · rw [messageOf, isText]
    refine (fetchQuoted_eq legal).trans ?_
    rw [shadowedReading]
    cases message.shadow .internalDate with
    | none => rfl
    | some next => rfl
  · rw [messageOf, isText]
    exact fetchFlags_eq legal

/-- The parser collects the entries of the records. -/
theorem parse_eq_collect {response : Bytes} {records : List FetchRecord}
    (areRecords : fetchRecords response = records.map .ok) :
    parseMessageFetchMetadataResponse sha256 response mailbox uidvalidity =
      records.foldlM (collect (readEntry sha256 mailbox uidvalidity)
        fun key => "duplicate FETCH UID " ++ key.uid) ∅ := by
  rw [parseMessageFetchMetadataResponse, areRecords, List.foldlM_map]
  simp only [addMetadata_eq_collect]

/-- The parser reads a response when the UIDs that it finds are valid and distinct. -/
theorem parse_ok_iff (legal : ∀ message ∈ messages, message.IsLegal) :
    (∃ extracted, parseMessageFetchMetadataResponse sha256 (messages.flatMap record) mailbox
        uidvalidity = .ok extracted) ↔
      (∀ message ∈ messages, ∃ uid, message.shadowedReading.1 = some uid ∧ 0 < uid ∧
        uid ≤ maxImapUid) ∧
        (messages.map fun message => keyOf mailbox uidvalidity message.shadowedReading).Nodup := by
  obtain ⟨records, areRecords, texts⟩ := fetchRecords_records legal
  have valid : (∀ record ∈ records, readEntry sha256 mailbox uidvalidity record =
      .ok (entryOf sha256 mailbox uidvalidity record)) ↔
      ∀ text ∈ records.map (·.protocolText), ∃ uid, fetchNumber text "UID" = some uid ∧
        0 < uid ∧ uid ≤ maxImapUid := by
    simp only [readEntry_eq_ok, true_and, List.forall_mem_map]
  have keys : (records.map fun record => (entryOf sha256 mailbox uidvalidity record).1) =
      (records.map (·.protocolText)).map fun text =>
        ⟨mailbox, uidvalidity, toString ((fetchNumber text "UID").getD 0)⟩ := by
    rw [List.map_map]
    rfl
  have shadowed : (messages.map protocolText).map (fun text =>
      (⟨mailbox, uidvalidity, toString ((fetchNumber text "UID").getD 0)⟩ : MailboxMessageKey)) =
        messages.map fun message => keyOf mailbox uidvalidity message.shadowedReading := by
    rw [List.map_map]
    refine List.map_congr_left fun message isMessage => ?_
    rw [Function.comp_apply, fetchUid_eq (legal message isMessage), keyOf]
  rw [parse_eq_collect areRecords, exists_collect_iff fun record _ pair isRead =>
    (readEntry_eq_ok.mp isRead).1, valid, keys, texts, shadowed, List.forall_mem_map]
  refine and_congr_left fun _ => forall₂_congr fun message isMessage => ?_
  rw [fetchUid_eq (legal message isMessage)]

/-- Each entry is that of a message. -/
theorem of_lookup_parse (legal : ∀ message ∈ messages, message.IsLegal)
    {extracted : ExtractedMessages}
    (parsed : parseMessageFetchMetadataResponse sha256 (messages.flatMap record) mailbox
      uidvalidity = .ok extracted) {key : MailboxMessageKey} {entry : ExtractedMessage}
    (isEntry : extracted.lookup key = some entry) :
    ∃ message ∈ messages, key = keyOf mailbox uidvalidity message.shadowedReading ∧
      Tells entry message.shadowedReading := by
  obtain ⟨records, areRecords, texts⟩ := fetchRecords_records legal
  rw [parse_eq_collect areRecords] at parsed
  obtain ⟨record, isRecord, isPair⟩ := (lookup_collect (fun record _ pair isRead =>
    (readEntry_eq_ok.mp isRead).1) parsed key entry).mp isEntry
  have isText := List.mem_map_of_mem (f := (·.protocolText)) isRecord
  rw [texts] at isText
  obtain ⟨message, isMessage, sameText⟩ := List.mem_map.mp isText
  rw [entryOf, ← sameText, fetchUid_eq (legal message isMessage)] at isPair
  obtain ⟨rfl, rfl⟩ := Prod.mk.inj isPair
  exact ⟨message, isMessage, rfl, messageOf_tells (legal message isMessage) sameText.symm⟩

/-- Each message has an entry. -/
theorem lookup_parse (legal : ∀ message ∈ messages, message.IsLegal)
    {extracted : ExtractedMessages}
    (parsed : parseMessageFetchMetadataResponse sha256 (messages.flatMap record) mailbox
      uidvalidity = .ok extracted) (isMessage : message ∈ messages) :
    ∃ entry, extracted.lookup (keyOf mailbox uidvalidity message.shadowedReading) = some entry ∧
      Tells entry message.shadowedReading := by
  obtain ⟨records, areRecords, texts⟩ := fetchRecords_records legal
  rw [parse_eq_collect areRecords] at parsed
  have isText := List.mem_map_of_mem (f := protocolText) isMessage
  rw [← texts] at isText
  obtain ⟨record, isRecord, sameText⟩ := List.mem_map.mp isText
  refine ⟨messageOf sha256 record, ?_, messageOf_tells (legal message isMessage) sameText⟩
  refine (lookup_collect (fun record _ pair isRead => (readEntry_eq_ok.mp isRead).1) parsed
    _ _).mpr ⟨record, isRecord, ?_⟩
  rw [entryOf, sameText, fetchUid_eq (legal message isMessage), keyOf]

/-! ## The round trip -/

/-- A message is told by one reading alone. -/
theorem Tells.unique {entry : ExtractedMessage} {first second : FetchReading}
    (isFirst : Tells entry first) (isSecond : Tells entry second) : first.2 = second.2 := by
  obtain ⟨size, date, flags⟩ := isFirst
  obtain ⟨size', date', flags'⟩ := isSecond
  have sameDate : first.2.2.1 = second.2.2.1 := by
    apply Option.map_injective fun left right same => String.ofList_injective same
    rw [← date, ← date']
  exact Prod.ext (size.symm.trans size')
    (Prod.ext sameDate (Option.some.inj (flags.symm.trans flags')))

variable (sha256 mailbox uidvalidity) in
/-- Each message is read back as it is, and nothing else. -/
def ReadsBack (messages : List FetchedMessage) : Prop :=
  ∃ extracted, parseMessageFetchMetadataResponse sha256 (messages.flatMap record) mailbox
      uidvalidity = .ok extracted ∧
    (∀ key, key ∈ extracted ↔ ∃ message ∈ messages, key = message.key mailbox uidvalidity) ∧
    ∀ message ∈ messages, ∃ entry,
      extracted.lookup (message.key mailbox uidvalidity) = some entry ∧
        entry.sizeBytes = some message.size ∧
        entry.internalDate = some (String.ofList message.internalDate.text) ∧
        entry.flags = some (canonicalFlagSet message.flags)

theorem reading_nodup (distinct : (messages.map (·.uid)).Nodup) :
    (messages.map reading).Nodup := by
  have uids : messages.map (·.uid) = (messages.map reading).map fun reading =>
      reading.1.getD 0 := by
    rw [List.map_map]
    rfl
  rw [uids] at distinct
  exact distinct.of_map _

/-- What is read back is what the shadows leave. -/
theorem shadows_of_readsBack (legal : ∀ message ∈ messages, message.IsLegal)
    (distinct : (messages.map (·.uid)).Nodup)
    (readsBack : ReadsBack sha256 mailbox uidvalidity messages) :
    (messages.map shadowedReading).Perm (messages.map reading) := by
  obtain ⟨extracted, parsed, -, entries⟩ := readsBack
  obtain ⟨valid, -⟩ := (parse_ok_iff legal).mp ⟨extracted, parsed⟩
  have isShadowed : messages.map reading ⊆ messages.map shadowedReading := by
    intro reading isReading
    obtain ⟨message, isMessage, rfl⟩ := List.mem_map.mp isReading
    obtain ⟨entry, isEntry, tells⟩ := entries message isMessage
    obtain ⟨other, isOther, sameKey, otherTells⟩ := of_lookup_parse legal parsed isEntry
    obtain ⟨uid, isUid, -⟩ := valid other isOther
    rw [key, keyOf, isUid] at sameKey
    have sameUid : message.uid = uid := Nat.repr_injective (MailboxMessageKey.mk.inj sameKey).2.2
    have same : other.shadowedReading = message.reading := by
      refine Prod.ext ?_ (otherTells.unique tells)
      rw [isUid, ← sameUid]
      rfl
    exact same ▸ List.mem_map_of_mem isOther
  have subperm := List.subperm_of_subset (reading_nodup distinct) isShadowed
  exact (subperm.perm_of_length_le (by simp)).symm

/-- When the shadows change no more than the order, the messages are read back. -/
theorem readsBack_of_shadows (legal : ∀ message ∈ messages, message.IsLegal)
    (distinct : (messages.map (·.uid)).Nodup)
    (shadows : (messages.map shadowedReading).Perm (messages.map reading)) :
    ReadsBack sha256 mailbox uidvalidity messages := by
  have isReading : ∀ message ∈ messages, ∃ other ∈ messages,
      message.shadowedReading = other.reading := by
    intro message isMessage
    have isMember := shadows.mem_iff.mp (List.mem_map_of_mem (f := shadowedReading) isMessage)
    obtain ⟨other, isOther, same⟩ := List.mem_map.mp isMember
    exact ⟨other, isOther, same.symm⟩
  have isShadowed : ∀ message ∈ messages, ∃ other ∈ messages,
      other.shadowedReading = message.reading := by
    intro message isMessage
    have isMember := shadows.mem_iff.mpr (List.mem_map_of_mem (f := reading) isMessage)
    exact List.mem_map.mp isMember
  have valid : ∀ message ∈ messages, ∃ uid, message.shadowedReading.1 = some uid ∧ 0 < uid ∧
      uid ≤ maxImapUid := by
    intro message isMessage
    obtain ⟨other, isOther, same⟩ := isReading message isMessage
    exact ⟨other.uid, by rw [same]; rfl, (legal other isOther).uidPositive,
      (legal other isOther).uidFits⟩
  have keys :
      (messages.map fun message => keyOf mailbox uidvalidity message.shadowedReading).Nodup := by
    have permuted := shadows.map (keyOf mailbox uidvalidity)
    rw [List.map_map, List.map_map] at permuted
    refine permuted.nodup_iff.mpr ?_
    have uids : messages.map (keyOf mailbox uidvalidity ∘ reading) =
        (messages.map (·.uid)).map fun uid => ⟨mailbox, uidvalidity, toString uid⟩ := by
      rw [List.map_map]
      rfl
    rw [uids]
    refine distinct.map fun uid other sameKey => ?_
    exact Nat.repr_injective (MailboxMessageKey.mk.inj sameKey).2.2
  obtain ⟨extracted, parsed⟩ :=
    (@parse_ok_iff sha256 mailbox uidvalidity messages legal).mpr ⟨valid, keys⟩
  have entries : ∀ message ∈ messages, ∃ entry,
      extracted.lookup (message.key mailbox uidvalidity) = some entry ∧
        Tells entry message.reading := by
    intro message isMessage
    obtain ⟨other, isOther, same⟩ := isShadowed message isMessage
    have isEntry := lookup_parse legal parsed isOther
    rw [same] at isEntry
    exact isEntry
  refine ⟨extracted, parsed, fun key => ⟨fun isKey => ?_, ?_⟩, entries⟩
  · obtain ⟨entry, isEntry⟩ := Option.isSome_iff_exists.mp (AList.lookup_isSome.mpr isKey)
    obtain ⟨message, isMessage, rfl, -⟩ := of_lookup_parse legal parsed isEntry
    obtain ⟨other, isOther, same⟩ := isReading message isMessage
    exact ⟨other, isOther, by rw [same]; rfl⟩
  · rintro ⟨message, isMessage, rfl⟩
    obtain ⟨entry, isEntry, -⟩ := entries message isMessage
    exact AList.lookup_isSome.mp (Option.isSome_iff_exists.mpr ⟨entry, isEntry⟩)

/-- The messages of a response are read back exactly when the readings that the shadows leave
are those of the messages. -/
theorem readsBack_iff (legal : ∀ message ∈ messages, message.IsLegal)
    (distinct : (messages.map (·.uid)).Nodup) :
    ReadsBack sha256 mailbox uidvalidity messages ↔
      (messages.map shadowedReading).Perm (messages.map reading) :=
  ⟨shadows_of_readsBack legal distinct, readsBack_of_shadows legal distinct⟩

end FetchedMessage

/-! ### Flags that are named like items -/

/-- Noon of the first day of a year. -/
def someDate : InternalDate where
  day := 1
  month := 0
  year := 2024
  hour := 12
  minute := 0
  second := 0
  west := false
  zone := 0
  dayFits := by decide
  yearFits := by decide
  timeFits := by decide
  zoneFits := by decide

/-- A message whose flags are written first. -/
def flaggedMessage (flags : List String) : FetchedMessage where
  sequence := 1
  uid := 7
  size := 42
  internalDate := someDate
  flags := flags.map String.toList
  header := []
  order := [.flags, .uid, .size, .internalDate, .header]

theorem flaggedMessage_isLegal {flags : List String}
    (areAtoms : ∀ flag ∈ flags, IsAtom flag.toList) : (flaggedMessage flags).IsLegal where
  sequenceFits := (by decide : 1 < 2 ^ 64)
  uidPositive := (by decide : 0 < 7)
  uidFits := (by decide : 7 ≤ maxImapUid)
  sizeFits := (by decide : 42 < 2 ^ 64)
  areFlags := by
    intro flag isFlag
    obtain ⟨name, isName, rfl⟩ := List.mem_map.mp isFlag
    exact .inl (areAtoms name isName)
  headerFits := (by decide : 0 < 2 ^ 64)
  isOrder := (by decide :
    [FetchItem.flags, .uid, .size, .internalDate, .header].Perm allItems)

theorem isAtom_of_all {text : Text} (nonempty : text ≠ [])
    (each : text.all (fun c => isAsciiGraphic c && !"()\x7b%*\"\\]".toList.contains c) = true) :
    IsAtom text := by
  refine ⟨nonempty, fun c isMember => ?_⟩
  have holds := List.all_eq_true.mp each c isMember
  rw [Bool.and_eq_true, Bool.not_eq_true', ← Bool.not_eq_true, List.contains_iff_mem] at holds
  exact holds

/-- A keyword that is named like an item, but is the last, is only a flag. -/
theorem last_keyword_readsBack :
    FetchedMessage.ReadsBack (fun _ => []) "INBOX" (some 1) [flaggedMessage ["seen", "UID"]] := by
  apply (FetchedMessage.readsBack_iff _ _).mpr
  · decide
  · rw [List.forall_mem_singleton]
    exact flaggedMessage_isLegal (List.forall_mem_cons.mpr
      ⟨isAtom_of_all (by decide) (by decide), List.forall_mem_singleton.mpr
        (isAtom_of_all (by decide) (by decide))⟩)
  · decide

/-- A keyword that is named like an item and is not the last hides the item. -/
theorem keyword_hides_uid :
    ¬∀ (sha256 : Bytes → Bytes) (mailbox : String) (uidvalidity : Option Nat)
      (messages : List FetchedMessage), (∀ message ∈ messages, message.IsLegal) →
        (messages.map (·.uid)).Nodup →
          FetchedMessage.ReadsBack sha256 mailbox uidvalidity messages := by
  intro always
  have isLegal : ∀ message ∈ [flaggedMessage ["UID", "seen"]], message.IsLegal := by
    rw [List.forall_mem_singleton]
    exact flaggedMessage_isLegal (List.forall_mem_cons.mpr
      ⟨isAtom_of_all (by decide) (by decide), List.forall_mem_singleton.mpr
        (isAtom_of_all (by decide) (by decide))⟩)
  obtain ⟨extracted, parsed, -⟩ := always (fun _ => []) "INBOX" (some 1)
    [flaggedMessage ["UID", "seen"]] isLegal (by decide)
  obtain ⟨valid, -⟩ := (FetchedMessage.parse_ok_iff isLegal).mp ⟨extracted, parsed⟩
  obtain ⟨uid, isUid, -⟩ := valid _ (List.mem_singleton.mpr rfl)
  have unread : (flaggedMessage ["UID", "seen"]).shadowedReading.1 = none := by decide
  rw [unread] at isUid
  cases isUid

end RoundTrip

end MailSwiftSync.Imap
