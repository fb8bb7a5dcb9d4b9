import MailSwiftSync.Verification.Metadata

/-!
# Exact metadata matches as a multiset intersection

Every message with an RFC identity, a date and a size stands for one tuple.  The
exact pass pairs as many messages of each tuple as both sides have, and the
outcome is exact just when every message has a tuple and both sides have the same
tuples equally often.
-/

namespace MailSwiftSync

open Foundation

/-- RFC Message-ID, destination folder, normalized date and size. -/
structure MessageTuple where
  messageId : String
  folder : String
  internalDate : NormalizedInternalDate
  sizeBytes : Nat
deriving DecidableEq, Repr

/-- The tuple of a message that has an RFC identity and the compared metadata. -/
def messageTuple (parseDate : DateParser) (folder : String) (message : ExtractedMessage) :
    Option MessageTuple := do
  let messageId ← message.rfcIdentity
  let internalDate ← message.internalDate
  let sizeBytes ← message.sizeBytes
  return ⟨messageId, folder, normalizeInternalDate parseDate internalDate, sizeBytes⟩

/-- A message carries an RFC identity and both compared metadata fields. -/
def ExtractedMessage.Comparable (message : ExtractedMessage) : Prop :=
  message.identityProvenance = .rfcMessageId ∧ message.internalDate.isSome ∧
    message.sizeBytes.isSome

theorem messageTuple_isSome (parseDate : DateParser) (folder : String)
    (message : ExtractedMessage) :
    (messageTuple parseDate folder message).isSome ↔ message.Comparable := by
  rw [ExtractedMessage.Comparable, ← rfcIdentity_isSome]
  cases identified : message.rfcIdentity with
  | none => simp [messageTuple, identified]
  | some messageId =>
    cases dated : message.internalDate with
    | none => simp [messageTuple, identified, dated]
    | some date =>
      cases sized : message.sizeBytes with
      | none => simp [messageTuple, identified, dated, sized]
      | some size => simp [messageTuple, identified, dated, sized]

namespace ReconciliationInput

variable (platform : Platform) (input : ReconciliationInput)

/-- The tuple of a source message, in its expected destination folder. -/
def sourceTuple (key : MailboxMessageKey) : Option MessageTuple :=
  messageTuple platform.parseDate (expectedDestinationFolder key input.folderMapping)
    (input.sourceMessages.at key)

/-- The tuple of a destination message, in its own folder. -/
def destTuple (key : MailboxMessageKey) : Option MessageTuple :=
  messageTuple platform.parseDate key.mailbox (input.destMessages.at key)

/-- The tuples of the source messages. -/
def sourceTuples : List MessageTuple :=
  input.sourceMessages.keys.filterMap (input.sourceTuple platform)

/-- The tuples of the destination messages. -/
def destTuples : List MessageTuple :=
  input.destMessages.keys.filterMap (input.destTuple platform)

/-- Exact classes and tuples are the same thing in two shapes. -/
def tupleOfClass (exactClass : String × String × MetadataFingerprint) : MessageTuple :=
  ⟨exactClass.1, exactClass.2.1, exactClass.2.2.internalDate, exactClass.2.2.sizeBytes⟩

theorem tupleOfClass_injective : Function.Injective tupleOfClass := by
  rintro ⟨messageId, folder, date, size⟩ ⟨messageId', folder', date', size'⟩ equal
  simp only [tupleOfClass, MessageTuple.mk.injEq] at equal
  obtain ⟨rfl, rfl, rfl, rfl⟩ := equal
  rfl

theorem sourceTuple_eq (key : MailboxMessageKey) :
    input.sourceTuple platform key =
      ((input.sourceProfile platform key).exactClass).map tupleOfClass := by
  simp only [sourceTuple, messageTuple, sourceProfile, Profile.exactClass,
    metadataFingerprint]
  cases (input.sourceMessages.at key).rfcIdentity with
  | none => rfl
  | some messageId =>
    cases (input.sourceMessages.at key).internalDate with
    | none => rfl
    | some date => cases (input.sourceMessages.at key).sizeBytes <;> rfl

theorem destTuple_eq (key : MailboxMessageKey) :
    input.destTuple platform key =
      ((input.destProfile platform key).exactClass).map tupleOfClass := by
  simp only [destTuple, messageTuple, destProfile, Profile.exactClass, metadataFingerprint]
  cases (input.destMessages.at key).rfcIdentity with
  | none => rfl
  | some messageId =>
    cases (input.destMessages.at key).internalDate with
    | none => rfl
    | some date => cases (input.destMessages.at key).sizeBytes <;> rfl

/-- The exact pass is a first come, first served matching by tuple. -/
theorem classwise_tuples :
    Classwise Matcher.fifo (input.sourceTuple platform) (input.destTuple platform)
      input.sources input.destinations (input.cleanPairs platform) := by
  apply (input.classwise_cleanPairs platform).reclassify
  · intro key _
    rw [sourceTuple_eq, Option.isSome_map]
  · intro key _ other _ _
    rw [sourceTuple_eq, sourceTuple_eq]
    exact (Option.map_injective tupleOfClass_injective).eq_iff
  · intro key _ other _ _
    rw [sourceTuple_eq, destTuple_eq]
    exact (Option.map_injective tupleOfClass_injective).eq_iff

theorem sourceTuples_perm :
    (input.sourceTuples platform).Perm
      (input.sources.filterMap (input.sourceTuple platform)) :=
  (sortUnstable_perm _).symm.filterMap _

theorem destTuples_perm :
    (input.destTuples platform).Perm
      (input.destinations.filterMap (input.destTuple platform)) :=
  (sortUnstable_perm _).symm.filterMap _

/-- Exact pairs per tuple: the smaller of the two multiplicities. -/
theorem cleanPairs_length :
    (input.cleanPairs platform).length =
      ∑ tuple ∈ (input.sourceTuples platform ++ input.destTuples platform).toFinset,
        min ((input.sourceTuples platform).count tuple)
          ((input.destTuples platform).count tuple) := by
  rw [(input.classwise_tuples platform).length_eq_sum_min
    (input.sourceTuples platform ++ input.destTuples platform).toFinset]
  · apply Finset.sum_congr rfl
    intro tuple _
    rw [(input.sourceTuples_perm platform).count_eq, (input.destTuples_perm platform).count_eq]
  · intro tuple membership
    rw [List.mem_toFinset, List.mem_append, (input.sourceTuples_perm platform).mem_iff]
    exact .inl membership

theorem sources_length : input.sources.length = input.sourceMessages.entries.length := by
  rw [sources, (sortUnstable_perm _).length_eq]
  simp [AList.keys, List.keys]

theorem destinations_length :
    input.destinations.length = input.destMessages.entries.length := by
  rw [destinations, (sortUnstable_perm _).length_eq]
  simp [AList.keys, List.keys]

/-- The counters of the outcome add up to both totals. -/
theorem outcome_totals :
    (input.outcome platform).summary.totalSource =
        (input.outcome platform).summary.metadataMatches +
          (input.outcome platform).summary.changedCount +
          (input.outcome platform).summary.probableMatches +
          (input.outcome platform).summary.missingCount ∧
      (input.outcome platform).summary.totalDestination =
        (input.outcome platform).summary.metadataMatches +
          (input.outcome platform).summary.changedCount +
          (input.outcome platform).summary.probableMatches +
          (input.outcome platform).summary.duplicatedCount +
          (input.outcome platform).summary.extraCount := by
  have sources := ((input.reconciliation platform).sources_perm input.sources_nodup).length_eq
  have destinations := ((input.reconciliation platform).destinations_perm
    input.destinations_nodup).length_eq
  rw [sources_length] at sources
  rw [destinations_length] at destinations
  simp only [List.length_append, List.length_map] at sources destinations
  simp only [outcome]
  omega

/-- An exact outcome is one without records and probable pairs. -/
theorem outcome_exact_iff :
    (input.outcome platform).summary.verificationOutcome = .exactMetadataMatch ↔
      (input.outcome platform).summary.metadataMatches =
          (input.outcome platform).summary.totalSource ∧
        (input.outcome platform).summary.metadataMatches =
          (input.outcome platform).summary.totalDestination := by
  obtain ⟨sourceTotal, destTotal⟩ := input.outcome_totals platform
  rw [verificationOutcome_eq_exact]
  omega

theorem outcome_exact_iff_no_records :
    (input.outcome platform).summary.verificationOutcome = .exactMetadataMatch ↔
      (input.outcome platform).mismatches = [] ∧
        (input.outcome platform).summary.probableMatches = 0 := by
  obtain ⟨sourceTotal, destTotal⟩ := input.outcome_totals platform
  have records : (input.outcome platform).mismatches = [] ↔
      (input.outcome platform).summary.changedCount = 0 ∧
        (input.outcome platform).summary.missingCount = 0 ∧
        (input.outcome platform).summary.duplicatedCount = 0 ∧
        (input.outcome platform).summary.extraCount = 0 := by
    rw [← List.length_eq_zero_iff]
    simp only [outcome, mismatchList, Reconciliation.records, List.length_map,
      List.length_append]
    omega
  rw [outcome_exact_iff, records]
  omega

/-- All source and destination messages are paired exactly when their tuples agree. -/
theorem cleanPairs_cover_iff :
    (input.cleanPairs platform).length = input.sources.length ∧
        (input.cleanPairs platform).length = input.destinations.length ↔
      (∀ key ∈ input.sources, (input.sourceTuple platform key).isSome) ∧
        (∀ key ∈ input.destinations, (input.destTuple platform key).isSome) ∧
        (input.sourceTuples platform).Perm (input.destTuples platform) := by
  have matching := input.classwise_tuples platform
  constructor
  · rintro ⟨allSources, allDestinations⟩
    have sourcesPaired : ((input.cleanPairs platform).map Prod.fst).Perm input.sources :=
      (matching.subperm_left input.sources_nodup).perm_of_length_le (by simp [allSources])
    have destsPaired : ((input.cleanPairs platform).map Prod.snd).Perm input.destinations :=
      (matching.subperm_right input.destinations_nodup).perm_of_length_le
        (by simp [allDestinations])
    have pairTuples : ((input.cleanPairs platform).map Prod.fst).filterMap
        (input.sourceTuple platform) =
        ((input.cleanPairs platform).map Prod.snd).filterMap (input.destTuple platform) := by
      rw [List.filterMap_map, List.filterMap_map]
      exact List.filterMap_congr fun pair membership => matching.agree membership
    refine ⟨?_, ?_, ?_⟩
    · intro key membership
      obtain ⟨pair, inPairs, rfl⟩ := List.mem_map.mp (sourcesPaired.mem_iff.mpr membership)
      exact matching.classified pair inPairs
    · intro key membership
      obtain ⟨pair, inPairs, rfl⟩ := List.mem_map.mp (destsPaired.mem_iff.mpr membership)
      rw [← matching.agree inPairs]
      exact matching.classified pair inPairs
    · calc input.sourceTuples platform
        _ |>.Perm (input.sources.filterMap (input.sourceTuple platform)) :=
          input.sourceTuples_perm platform
        _ |>.Perm (((input.cleanPairs platform).map Prod.fst).filterMap
            (input.sourceTuple platform)) := sourcesPaired.symm.filterMap _
        _ |>.Perm (((input.cleanPairs platform).map Prod.snd).filterMap
            (input.destTuple platform)) := .of_eq pairTuples
        _ |>.Perm (input.destinations.filterMap (input.destTuple platform)) :=
          destsPaired.filterMap _
        _ |>.Perm (input.destTuples platform) := (input.destTuples_perm platform).symm
  · rintro ⟨sourcesHave, destsHave, perm⟩
    have sourceCount : (input.sourceTuples platform).length = input.sources.length := by
      rw [(input.sourceTuples_perm platform).length_eq]
      exact List.filterMap_length_eq_length.mpr sourcesHave
    have destCount : (input.destTuples platform).length = input.destinations.length := by
      rw [(input.destTuples_perm platform).length_eq]
      exact List.filterMap_length_eq_length.mpr destsHave
    have allPaired : (input.cleanPairs platform).length =
        (input.sourceTuples platform).length := by
      rw [matching.length_eq_sum_min (input.sourceTuples platform).toFinset,
        ← List.sum_toFinset_count_eq_length]
      · apply Finset.sum_congr rfl
        intro tuple _
        rw [← (input.sourceTuples_perm platform).count_eq,
          ← (input.destTuples_perm platform).count_eq, perm.count_eq, Nat.min_self]
      · intro tuple membership
        rw [List.mem_toFinset, (input.sourceTuples_perm platform).mem_iff]
        exact membership
    have lengths := perm.length_eq
    omega

/-- Within the budgets, exact matches are counted by the multiset intersection of the
tuples, and the outcome is exact just when every message is comparable and the
two multisets of tuples are equal, which is when no record and no probable pair is
produced. -/
theorem reconcileMetadata_multiset (budgets : input.WithinBudgets platform) :
    ∃ result, reconcileMetadata platform input = .ok result ∧
      result.summary.metadataMatches =
        ∑ tuple ∈ (input.sourceTuples platform ++ input.destTuples platform).toFinset,
          min ((input.sourceTuples platform).count tuple)
            ((input.destTuples platform).count tuple) ∧
      (result.summary.verificationOutcome = .exactMetadataMatch ↔
        (∀ key ∈ input.sourceMessages, (input.sourceMessages.at key).Comparable) ∧
          (∀ key ∈ input.destMessages, (input.destMessages.at key).Comparable) ∧
          (input.sourceTuples platform : Multiset MessageTuple) =
            input.destTuples platform) ∧
      (result.summary.verificationOutcome = .exactMetadataMatch ↔
        result.mismatches = [] ∧ result.summary.probableMatches = 0) := by
  refine ⟨input.outcome platform,
    (input.reconcileMetadata_ok_iff platform).mpr ⟨budgets, rfl⟩,
    input.cleanPairs_length platform, ?_, input.outcome_exact_iff_no_records platform⟩
  have covered := input.cleanPairs_cover_iff platform
  rw [sources_length, destinations_length] at covered
  simp only [mem_sources, mem_destinations, sourceTuple, destTuple, messageTuple_isSome]
    at covered
  rw [outcome_exact_iff, Multiset.coe_eq_coe]
  exact covered

end ReconciliationInput

/-! ## A message without metadata is never an exact match -/

/-- A platform for fixed inputs: no date parses. -/
def plainPlatform : Platform where
  parseDate _ := none
  newUuid _ _ _ := "00000000-0000-4000-8000-000000000000"
  debugKey key := key.mailbox ++ "/" ++ key.uid

/-- One message with a Message-ID and nothing else. -/
def bareMessages : ExtractedMessages :=
  [⟨⟨"INBOX", none, "1"⟩, { messageId := some "<a@example.org>" }⟩].toAList

/-- The same single message, without date and size, on both sides. -/
def bareInput : ReconciliationInput where
  jobId := "job"
  runId := "run"
  sourceMessages := bareMessages
  destMessages := bareMessages
  folderMapping := ∅

/-- All messages of both sides carry an RFC identity and both sides have the same
tuples, yet the outcome is `changed`. -/
theorem bareInput_not_exact :
    (∀ key ∈ bareInput.sourceMessages,
        (bareInput.sourceMessages.at key).identityProvenance = .rfcMessageId) ∧
      (∀ key ∈ bareInput.destMessages,
        (bareInput.destMessages.at key).identityProvenance = .rfcMessageId) ∧
      (bareInput.sourceTuples plainPlatform : Multiset MessageTuple) =
        bareInput.destTuples plainPlatform ∧
      ∃ result, reconcileMetadata plainPlatform bareInput = .ok result ∧
        result.summary.verificationOutcome = .changed := by
  refine ⟨by decide, by decide, by decide, bareInput.outcome plainPlatform, ?_, by decide⟩
  exact (bareInput.reconcileMetadata_ok_iff plainPlatform).mpr
    ⟨⟨by decide, by decide⟩, rfl⟩

/-- A message with everything the exact pass compares. -/
def comparableMessage : ExtractedMessage where
  messageId := some "<a@example.org>"
  internalDate := some "d"
  sizeBytes := some 5

/-- The same comparable message twice on the source, three times on the destination. -/
def copiesInput : ReconciliationInput where
  jobId := "job"
  runId := "run"
  sourceMessages :=
    [⟨⟨"INBOX", none, "1"⟩, comparableMessage⟩,
      ⟨⟨"INBOX", none, "2"⟩, comparableMessage⟩].toAList
  destMessages :=
    [⟨⟨"Mail", none, "7"⟩, comparableMessage⟩, ⟨⟨"Mail", none, "8"⟩, comparableMessage⟩,
      ⟨⟨"Mail", none, "9"⟩, comparableMessage⟩].toAList
  folderMapping := [⟨"INBOX", "Mail"⟩].toAList

theorem copiesInput_withinBudgets : copiesInput.WithinBudgets plainPlatform :=
  ⟨by decide, by decide⟩

theorem copiesInput_multiset :
    ∃ result, reconcileMetadata plainPlatform copiesInput = .ok result ∧
      result.summary.metadataMatches = 2 ∧
      result.summary.verificationOutcome ≠ .exactMetadataMatch := by
  obtain ⟨result, returned, count, _, records⟩ :=
    copiesInput.reconcileMetadata_multiset plainPlatform copiesInput_withinBudgets
  refine ⟨result, returned, by rw [count]; decide, ?_⟩
  rw [ne_eq, records, ((copiesInput.reconcileMetadata_ok_iff plainPlatform).mp returned).2]
  decide

end MailSwiftSync
