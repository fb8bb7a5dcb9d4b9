import MailSwiftSync.Staged.Fingerprints
import MailSwiftSync.Staged.Outcome
import MailSwiftSync.Verification.ContentSpecification

/-!
# Staged content verification as a whole

With fingerprints for exactly the staged messages, the staged content pass succeeds
and leaves the tables and counters of its specification.  Without them it fails
before it changes anything.
-/

namespace MailSwiftSync

open Foundation

namespace StagedInput

variable {platform : Platform} (input : StagedInput platform)

/-! ## Coverage -/

/-- The messages and fingerprints of one side have the same keys. -/
def SideCovered (side : StagedMessageSide) : Prop :=
  ∀ key : StagedKey, key.side = side →
    (key ∈ input.stage.fingerprints ↔ key ∈ input.rows.map StagedRow.key)

/-- Messages and fingerprints have the same keys. -/
structure Covered : Prop where
  source : input.SideCovered .source
  destination : input.SideCovered .destination

/-- The body fingerprint of a row. -/
def body (row : StagedRow platform.parseDate) : String :=
  (input.stage.fingerprints.lookup row.key).getD ""

/-- The fingerprint row of a message. -/
def fingerprintRow (row : StagedRow platform.parseDate) : FingerprintRow :=
  ⟨row.key, input.body row⟩

variable {side : StagedMessageSide}

theorem mem_sideFingerprints {entry : FingerprintRow} :
    entry ∈ input.stage.sideFingerprints side ↔
      entry ∈ input.stage.fingerprints.entries ∧ entry.1.side = side := by
  rw [MessageMetadataStage.sideFingerprints, List.mem_filter, decide_eq_true_eq]

theorem sideFingerprints_keys_nodup (side : StagedMessageSide) :
    ((input.stage.sideFingerprints side).map Sigma.fst).Nodup :=
  input.stage.fingerprints.keys_nodup.sublist (List.filter_sublist.map _)

theorem mem_sideFingerprints_keys {key : StagedKey} :
    key ∈ (input.stage.sideFingerprints side).map Sigma.fst ↔
      key ∈ input.stage.fingerprints ∧ key.side = side := by
  rw [AList.mem_keys, AList.keys, List.keys, List.mem_map, List.mem_map]
  constructor
  · rintro ⟨entry, membership, rfl⟩
    obtain ⟨isEntry, onSide⟩ := input.mem_sideFingerprints.mp membership
    exact ⟨⟨entry, isEntry, rfl⟩, onSide⟩
  · rintro ⟨⟨entry, isEntry, rfl⟩, onSide⟩
    exact ⟨entry, input.mem_sideFingerprints.mpr ⟨isEntry, onSide⟩, rfl⟩

theorem mem_sideRow_keys {key : StagedKey} :
    key ∈ (input.rows.filter (·.side = side)).map StagedRow.key ↔
      key ∈ input.rows.map StagedRow.key ∧ key.side = side := by
  rw [List.mem_map, List.mem_map]
  constructor
  · rintro ⟨row, membership, rfl⟩
    obtain ⟨isRow, onSide⟩ := List.mem_filter.mp membership
    exact ⟨⟨row, isRow, rfl⟩, of_decide_eq_true onSide⟩
  · rintro ⟨⟨row, isRow, rfl⟩, onSide⟩
    exact ⟨row, List.mem_filter.mpr ⟨isRow, decide_eq_true onSide⟩, rfl⟩

/-- The coverage check accepts exactly equal key sets. -/
theorem validateSideCoverage_eq (sideName : String) (side : StagedMessageSide)
    [Decidable (input.SideCovered side)] :
    input.validateSideCoverage sideName side =
      if input.SideCovered side then .ok ()
      else .error ("content verification requires exact " ++ sideName ++
        " message/fingerprint key coverage") := by
  have messagesNodup : ((input.rows.filter (·.side = side)).map StagedRow.key).Nodup :=
    input.rows_key_nodup.sublist (List.filter_sublist.map _)
  have accepted : (!((input.rows.filter (·.side = side)).length ≠
        (input.stage.sideFingerprints side).length ||
      ((input.rows.filter (·.side = side)).any
          (·.key ∉ (input.stage.sideFingerprints side).map Sigma.fst) ||
        (input.stage.sideFingerprints side).any
          (·.1 ∉ (input.rows.filter (·.side = side)).map StagedRow.key)))) = true ↔
      input.SideCovered side := by
    simp only [ne_eq, decide_not, Bool.not_or, Bool.not_not, Bool.and_eq_true,
      decide_eq_true_eq, Bool.not_eq_true', List.any_eq_false, Bool.not_eq_false]
    constructor
    · rintro ⟨_, staged, known⟩ key onSide
      constructor
      · intro isKey
        obtain ⟨entry, isEntry, rfl⟩ :=
          List.mem_map.mp (input.mem_sideFingerprints_keys.mpr ⟨isKey, onSide⟩)
        exact (input.mem_sideRow_keys.mp (known entry isEntry)).1
      · intro isKey
        obtain ⟨row, isRow, rfl⟩ :=
          List.mem_map.mp (input.mem_sideRow_keys.mpr ⟨isKey, onSide⟩)
        exact (input.mem_sideFingerprints_keys.mp (staged row isRow)).1
    · intro covered
      have same : ∀ key, key ∈ (input.rows.filter (·.side = side)).map StagedRow.key ↔
          key ∈ (input.stage.sideFingerprints side).map Sigma.fst := by
        intro key
        rw [input.mem_sideRow_keys, input.mem_sideFingerprints_keys]
        exact and_congr_left fun onSide => (covered key onSide).symm
      refine ⟨?_, ?_, ?_⟩
      · have perm := (List.perm_ext_iff_of_nodup messagesNodup
          (input.sideFingerprints_keys_nodup side)).mpr same
        simpa only [List.length_map] using perm.length_eq
      · intro row isRow
        exact (same row.key).mp (List.mem_map_of_mem isRow)
      · intro entry isEntry
        exact (same entry.1).mpr (List.mem_map_of_mem isEntry)
  rw [validateSideCoverage]
  split_ifs with rejected covered covered
  · rw [← accepted, rejected] at covered
    cases covered
  · rfl
  · rfl
  · rw [← accepted, Bool.eq_false_of_not_eq_true rejected] at covered
    exact absurd rfl covered

section Covered

variable {input} (covered : input.Covered)

include covered

theorem Covered.mem_fingerprints {key : StagedKey} :
    key ∈ input.stage.fingerprints ↔ key ∈ input.rows.map StagedRow.key := by
  cases side : key.side with
  | source => exact covered.source key side
  | destination => exact covered.destination key side

variable {row : StagedRow platform.parseDate}

theorem Covered.fingerprintRow_mem (isRow : row ∈ input.rows) :
    input.fingerprintRow row ∈ input.stage.fingerprints.entries := by
  have present : row.key ∈ input.stage.fingerprints :=
    covered.mem_fingerprints.mpr (List.mem_map_of_mem isRow)
  obtain ⟨value, found⟩ := Option.isSome_iff_exists.mp (AList.lookup_isSome.mpr present)
  rw [fingerprintRow, body, found]
  exact AList.mem_lookup_iff.mp found

/-- A fingerprint row belongs to one message. -/
theorem Covered.entry_eq {entry : FingerprintRow}
    (isEntry : entry ∈ input.stage.fingerprints.entries) (same : row.key = entry.1) :
    entry = input.fingerprintRow row := by
  have isRow : row.key ∈ input.rows.map StagedRow.key := by
    rw [← covered.mem_fingerprints, same]
    exact List.mem_map_of_mem isEntry
  obtain ⟨staged, inRows, sameKey⟩ := List.mem_map.mp isRow
  have own := covered.fingerprintRow_mem inRows
  have ownEq : input.fingerprintRow staged = input.fingerprintRow row := by
    rw [fingerprintRow, fingerprintRow, body, body, sameKey]
  rw [ownEq] at own
  exact input.stage.fingerprints.nodupKeys.eq_of_fst_eq isEntry own same.symm

theorem Covered.row_of_entry {entry : FingerprintRow}
    (isEntry : entry ∈ input.stage.fingerprints.entries) :
    ∃ row ∈ input.rows, entry = input.fingerprintRow row := by
  have isKey : entry.1 ∈ input.rows.map StagedRow.key :=
    covered.mem_fingerprints.mp (List.mem_map_of_mem isEntry)
  obtain ⟨row, isRow, same⟩ := List.mem_map.mp isKey
  exact ⟨row, isRow, covered.entry_eq isEntry same⟩

/-- A message finds exactly its own fingerprint row. -/
theorem Covered.filter_key (isRow : row ∈ input.rows) :
    input.stage.fingerprints.entries.filter (fun entry => entry.1 = row.key) =
      [input.fingerprintRow row] := by
  apply List.perm_singleton.mp
  rw [List.perm_ext_iff_of_nodup (input.stage.fingerprints.nodupKeys.nodup.filter _)
    (List.nodup_singleton _)]
  intro entry
  rw [List.mem_filter, decide_eq_true_eq, List.mem_singleton]
  constructor
  · intro ⟨isEntry, same⟩
    exact covered.entry_eq isEntry same.symm
  · intro same
    rw [same]
    exact ⟨covered.fingerprintRow_mem isRow, rfl⟩

/-- A fingerprint occurs once on a side exactly when its message is the only one with
that body. -/
theorem Covered.mem_lone (isRow : row ∈ input.rows.filter (·.side = side)) :
    input.fingerprintRow row ∈
        lone (fun entry => some entry.2) (input.stage.sideFingerprints side) ↔
      UniqueIn input.body (input.rows.filter (·.side = side)) row := by
  obtain ⟨inRows, onSide⟩ := List.mem_filter.mp isRow
  rw [decide_eq_true_eq] at onSide
  have own : input.fingerprintRow row ∈ input.stage.sideFingerprints side :=
    input.mem_sideFingerprints.mpr ⟨covered.fingerprintRow_mem inRows, onSide⟩
  have entriesNodup : (input.stage.sideFingerprints side).Nodup :=
    (input.sideFingerprints_keys_nodup side).of_map _
  rw [Foundation.mem_lone entriesNodup, and_iff_right own,
    and_iff_right Option.isSome_some]
  constructor
  · intro alone other isOther same
    obtain ⟨inRows', onSide'⟩ := List.mem_filter.mp isOther
    rw [decide_eq_true_eq] at onSide'
    have isEntry : input.fingerprintRow other ∈ input.stage.sideFingerprints side :=
      input.mem_sideFingerprints.mpr ⟨covered.fingerprintRow_mem inRows', onSide'⟩
    exact input.row_of_key inRows' inRows
      (congrArg Sigma.fst (alone _ isEntry (congrArg some same)))
  · intro unique entry isEntry same
    obtain ⟨inEntries, onSide'⟩ := input.mem_sideFingerprints.mp isEntry
    obtain ⟨other, inRows', rfl⟩ := covered.row_of_entry inEntries
    have isOther : other ∈ input.rows.filter (·.side = side) :=
      List.mem_filter.mpr ⟨inRows', decide_eq_true onSide'⟩
    rw [unique other isOther (Option.some.inj same)]

end Covered

/-! ## Resolved records -/

variable {row : StagedRow platform.parseDate} {mismatch : MessageMismatch}

theorem namedMissing_iff :
    row.namedMissing mismatch = true ↔
      mismatch.mismatchType = .missing ∧ mismatch.sourceKey = some row.messageKey := by
  cases mismatch with
  | mk id jobId runId mismatchType folder destinationFolder validity destinationValidity uid =>
    cases folder <;> cases uid <;>
      simp [StagedRow.namedMissing, MessageMismatch.sourceKey, StagedRow.messageKey,
        and_assoc]

theorem namedExtra_iff :
    row.namedExtra mismatch = true ↔
      mismatch.mismatchType = .extra ∧ mismatch.destKey = some row.messageKey := by
  cases mismatch with
  | mk id jobId runId mismatchType folder destinationFolder validity destinationValidity uid
      destUid =>
    cases destinationFolder <;> cases destUid <;>
      simp [StagedRow.namedExtra, MessageMismatch.destKey, StagedRow.messageKey,
        and_assoc]

/-- Source rows are known by their message keys. -/
theorem source_of_messageKey {row other : StagedRow platform.parseDate}
    (isRow : row ∈ input.sourceRows) (isOther : other ∈ input.sourceRows)
    (same : row.messageKey = other.messageKey) : row = other := by
  obtain ⟨inRows, side⟩ := input.mem_sourceRows.mp isRow
  obtain ⟨inRows', side'⟩ := input.mem_sourceRows.mp isOther
  exact input.row_of_key inRows inRows'
    (StagedRow.key_eq_of_messageKey (side.trans side'.symm) same)

/-- Destination rows are known by their message keys. -/
theorem destination_of_messageKey {row other : StagedRow platform.parseDate}
    (isRow : row ∈ input.destRows) (isOther : other ∈ input.destRows)
    (same : row.messageKey = other.messageKey) : row = other := by
  obtain ⟨inRows, side⟩ := input.mem_destRows.mp isRow
  obtain ⟨inRows', side'⟩ := input.mem_destRows.mp isOther
  exact input.row_of_key inRows inRows'
    (StagedRow.key_eq_of_messageKey (side.trans side'.symm) same)

/-- The `missing` rows of the mismatch table. -/
theorem mismatchList_missing :
    input.mismatchList.filter (fun mismatch => mismatch.mismatchType = .missing) =
      input.reconciliation.missing.map fun row => input.mismatch .missing (some row) none := by
  have surplus : (input.surplusRows.map fun row => input.mismatch
      (if input.isDuplicate row then .duplicated else .extra) none (some row)).filter
        (fun mismatch => mismatch.mismatchType = .missing) = [] := by
    rw [List.filter_eq_nil_iff]
    intro mismatch membership
    obtain ⟨row, _, rfl⟩ := List.mem_map.mp membership
    cases duplicate : input.isDuplicate row <;> simp [mismatch]
  rw [mismatchList, List.filter_append, surplus]
  simp [List.filter_append, List.filter_map, Function.comp_def, mismatch]

/-- The `extra` rows of the mismatch table. -/
theorem mismatchList_extra :
    input.mismatchList.filter (fun mismatch => mismatch.mismatchType = .extra) =
      (input.surplusRows.filter fun row => !input.isDuplicate row).map fun row =>
        input.mismatch .extra none (some row) := by
  have surplus : (input.surplusRows.map fun row => input.mismatch
      (if input.isDuplicate row then .duplicated else .extra) none (some row)).filter
        (fun mismatch => mismatch.mismatchType = .extra) =
      (input.surplusRows.filter fun row => !input.isDuplicate row).map fun row =>
        input.mismatch .extra none (some row) := by
    induction input.surplusRows with
    | nil => rfl
    | cons row rest ih =>
      cases duplicate : input.isDuplicate row with
      | true => simpa [duplicate, mismatch] using ih
      | false => simpa [duplicate, mismatch] using ih
  rw [mismatchList, List.filter_append, surplus]
  simp [List.filter_append, List.filter_map, Function.comp_def, mismatch]

theorem mem_extraRows :
    row ∈ input.surplusRows.filter (fun row => !input.isDuplicate row) ↔
      row ∈ input.reconciliation.extra := by
  rw [List.mem_filter, input.reconciliation.mem_extra, input.surplusRows_perm.mem_iff,
    Bool.not_eq_true', ← Bool.not_eq_true]
  exact and_congr_right fun isSurplus => not_congr
    (input.isDuplicate_iff (input.mem_destinations.mp (mem_unpairedRight.mp isSurplus).1))

/-- The mismatch table names a source row as missing in one record at most. -/
theorem mem_mismatchList_missing (isSource : row ∈ input.sourceRows) :
    mismatch ∈ input.mismatchList ∧ row.namedMissing mismatch = true ↔
      row ∈ input.reconciliation.missing ∧
        mismatch = input.mismatch .missing (some row) none := by
  rw [namedMissing_iff]
  constructor
  · intro ⟨membership, isMissing, named⟩
    have inMissing : mismatch ∈ input.mismatchList.filter
        (fun mismatch => mismatch.mismatchType = .missing) :=
      List.mem_filter.mpr ⟨membership, decide_eq_true isMissing⟩
    rw [input.mismatchList_missing] at inMissing
    obtain ⟨other, otherMissing, rfl⟩ := List.mem_map.mp inMissing
    have sameKey : some other.messageKey = some row.messageKey :=
      (makeMismatch_sourceKey ..).symm.trans named
    obtain rfl := input.source_of_messageKey
      (input.reconciliation.missing_subset otherMissing) isSource (Option.some.inj sameKey)
    exact ⟨otherMissing, rfl⟩
  · intro ⟨isMissing, same⟩
    rw [same]
    refine ⟨?_, rfl, makeMismatch_sourceKey ..⟩
    have inMissing := List.mem_map_of_mem
      (f := fun row => input.mismatch .missing (some row) none) isMissing
    rw [← input.mismatchList_missing] at inMissing
    exact (List.mem_filter.mp inMissing).1

/-- The mismatch table names a destination row as extra in one record at most. -/
theorem mem_mismatchList_extra (isDestination : row ∈ input.destRows) :
    mismatch ∈ input.mismatchList ∧ row.namedExtra mismatch = true ↔
      row ∈ input.reconciliation.extra ∧
        mismatch = input.mismatch .extra none (some row) := by
  rw [namedExtra_iff]
  constructor
  · intro ⟨membership, isExtra, named⟩
    have inExtra : mismatch ∈ input.mismatchList.filter
        (fun mismatch => mismatch.mismatchType = .extra) :=
      List.mem_filter.mpr ⟨membership, decide_eq_true isExtra⟩
    rw [input.mismatchList_extra] at inExtra
    obtain ⟨other, otherExtra, rfl⟩ := List.mem_map.mp inExtra
    rw [input.mem_extraRows] at otherExtra
    have sameKey : some other.messageKey = some row.messageKey :=
      (makeMismatch_destKey ..).symm.trans named
    obtain rfl := input.destination_of_messageKey
      (input.mem_destinations.mp (input.reconciliation.extra_subset otherExtra))
      isDestination (Option.some.inj sameKey)
    exact ⟨otherExtra, rfl⟩
  · intro ⟨isExtra, same⟩
    rw [same]
    refine ⟨?_, rfl, makeMismatch_destKey ..⟩
    have inExtra := List.mem_map_of_mem
      (f := fun row => input.mismatch .extra none (some row)) (input.mem_extraRows.mpr isExtra)
    rw [← input.mismatchList_extra] at inExtra
    exact (List.mem_filter.mp inExtra).1

/-! ## The fallback pairs -/

/-- The joined rows of one fallback pair. -/
def fallbackRow (source destination : StagedRow platform.parseDate) :
    ((((FingerprintRow × FingerprintRow) × StagedRow platform.parseDate) ×
      StagedRow platform.parseDate) × MessageMismatch) × MessageMismatch :=
  (((((input.fingerprintRow source, input.fingerprintRow destination), source),
    destination), input.mismatch .missing (some source) none),
    input.mismatch .extra none (some destination))

theorem contentFallbackRows_nodup :
    (input.contentFallbackRows input.mismatchList).Nodup := by
  have entriesNodup : ∀ side, (input.stage.sideFingerprints side).Nodup := fun side =>
    (input.sideFingerprints_keys_nodup side).of_map _
  have missingNodup : (input.mismatchList.filter
      (fun mismatch => mismatch.mismatchType = .missing)).Nodup := by
    rw [input.mismatchList_missing]
    refine List.Nodup.map_on ?_ (input.sourceRows_nodup.filter _)
    intro row isRow other isOther same
    have keys := congrArg MessageMismatch.sourceKey same
    simp only [mismatch, makeMismatch_sourceKey, Option.map_some] at keys
    exact input.source_of_messageKey (input.reconciliation.missing_subset isRow)
      (input.reconciliation.missing_subset isOther) (Option.some.inj keys)
  have extraNodup : (input.mismatchList.filter
      (fun mismatch => mismatch.mismatchType = .extra)).Nodup := by
    rw [input.mismatchList_extra]
    refine List.Nodup.map_on ?_ ((input.destRows_nodup.filter _).filter _)
    intro row isRow other isOther same
    have keys := congrArg MessageMismatch.destKey same
    simp only [mismatch, makeMismatch_destKey, Option.map_some] at keys
    exact input.destination_of_messageKey
      (mem_unpairedRight.mp (List.mem_filter.mp isRow).1).1
      (mem_unpairedRight.mp (List.mem_filter.mp isOther).1).1 (Option.some.inj keys)
  have pairsNodup : input.uniqueFingerprintPairs.Nodup :=
    (classwise_loneJoin ..).nodup (entriesNodup .source)
  refine nodup_innerJoin (nodup_innerJoin (nodup_innerJoin (nodup_innerJoin pairsNodup ?_)
    ?_) ?_) ?_
  · intro _ _
    exact input.rows_nodup.filter _
  · intro _ _
    exact input.rows_nodup.filter _
  · intro joined _
    refine missingNodup.sublist (List.monotone_filter_right _ ?_)
    intro mismatch named
    exact decide_eq_true (namedMissing_iff.mp named).1
  · intro joined _
    refine extraNodup.sublist (List.monotone_filter_right _ ?_)
    intro mismatch named
    exact decide_eq_true (namedExtra_iff.mp named).1

section Fallback

variable {input} (covered : input.Covered)

include covered

theorem Covered.uniqueDestination (isDestination : row ∈ input.destRows) :
    input.fingerprintRow row ∈
        lone (fun entry => some entry.2) (input.stage.sideFingerprints .destination) ↔
      UniqueIn input.body input.destinations row := by
  rw [covered.mem_lone isDestination]
  constructor
  · intro unique other isOther
    exact unique other (input.mem_destinations.mp isOther)
  · intro unique other isOther
    exact unique other (input.mem_destinations.mpr isOther)

/-- The joins find the missing and extra rows of every fingerprint that occurs once on
both sides. -/
theorem Covered.mem_contentFallbackRows
    {joined : ((((FingerprintRow × FingerprintRow) × StagedRow platform.parseDate) ×
      StagedRow platform.parseDate) × MessageMismatch) × MessageMismatch} :
    joined ∈ input.contentFallbackRows input.mismatchList ↔
      ∃ source ∈ input.reconciliation.missing, ∃ destination ∈ input.reconciliation.extra,
        input.body source = input.body destination ∧
        UniqueIn input.body input.sourceRows source ∧
        UniqueIn input.body input.destinations destination ∧
        joined = input.fallbackRow source destination := by
  obtain ⟨⟨⟨⟨⟨sourceEntry, destEntry⟩, source⟩, destination⟩, missing⟩, extra⟩ := joined
  simp only [contentFallbackRows, mem_innerJoin, decide_eq_true_eq, uniqueFingerprintPairs,
    mem_loneJoin]
  constructor
  · rintro ⟨⟨⟨⟨⟨sourceLone, destLone, sameBody⟩, isSource, sourceKey⟩, isDestination,
      destKey⟩, inMissing, isMissing⟩, inExtra, isExtra⟩
    obtain ⟨inEntries, onSide⟩ :=
      input.mem_sideFingerprints.mp (List.mem_filter.mp sourceLone).1
    obtain ⟨inEntries', onSide'⟩ :=
      input.mem_sideFingerprints.mp (List.mem_filter.mp destLone).1
    obtain rfl := covered.entry_eq inEntries sourceKey
    obtain rfl := covered.entry_eq inEntries' destKey
    have sourceRow : source ∈ input.sourceRows := input.mem_sourceRows.mpr ⟨isSource, onSide⟩
    have destRow : destination ∈ input.destRows :=
      input.mem_destRows.mpr ⟨isDestination, onSide'⟩
    obtain ⟨sourceMissing, rfl⟩ :=
      (input.mem_mismatchList_missing sourceRow).mp ⟨inMissing, isMissing⟩
    obtain ⟨destExtra, rfl⟩ :=
      (input.mem_mismatchList_extra destRow).mp ⟨inExtra, isExtra⟩
    exact ⟨source, sourceMissing, destination, destExtra, Option.some.inj sameBody,
      (covered.mem_lone sourceRow).mp sourceLone,
      (covered.uniqueDestination destRow).mp destLone, rfl⟩
  · rintro ⟨_, sourceMissing, _, destExtra, sameBody, uniqueSource, uniqueDest, same⟩
    simp only [fallbackRow, Prod.mk.injEq] at same
    obtain ⟨⟨⟨⟨⟨rfl, rfl⟩, rfl⟩, rfl⟩, rfl⟩, rfl⟩ := same
    have sourceRow : source ∈ input.sourceRows :=
      input.reconciliation.missing_subset sourceMissing
    have destRow : destination ∈ input.destRows :=
      input.mem_destinations.mp (input.reconciliation.extra_subset destExtra)
    have missingRecord := (input.mem_mismatchList_missing sourceRow).mpr ⟨sourceMissing, rfl⟩
    have extraRecord := (input.mem_mismatchList_extra destRow).mpr ⟨destExtra, rfl⟩
    exact ⟨⟨⟨⟨⟨(covered.mem_lone sourceRow).mpr uniqueSource,
      (covered.uniqueDestination destRow).mpr uniqueDest, congrArg some sameBody⟩,
      (input.mem_sourceRows.mp sourceRow).1, rfl⟩, (input.mem_destRows.mp destRow).1, rfl⟩,
      missingRecord⟩, extraRecord⟩

/-- The fallback pairs of the stage are those of the specification. -/
theorem Covered.contentFallbackPairs_perm :
    (input.contentFallbackPairs input.mismatchList).Perm
      (input.reconciliation.fallback input.body input.body) := by
  have nodup : (input.contentFallbackPairs input.mismatchList).Nodup := by
    refine (List.Nodup.map_on ?_ input.contentFallbackRows_nodup).filter _
    intro joined isJoined joined' isJoined' same
    obtain ⟨source, _, destination, _, _, _, _, rfl⟩ :=
      covered.mem_contentFallbackRows.mp isJoined
    obtain ⟨source', _, destination', _, _, _, _, rfl⟩ :=
      covered.mem_contentFallbackRows.mp isJoined'
    obtain ⟨sameSource, sameDestination⟩ := Prod.mk.inj same
    have sources : source = source' := sameSource
    have destinations : destination = destination' := sameDestination
    rw [sources, destinations]
  rw [List.perm_ext_iff_of_nodup nodup
    (input.reconciliation.fallback_nodup input.body input.body input.sourceRows_nodup)]
  intro ⟨source, destination⟩
  rw [input.reconciliation.mem_fallback, contentFallbackPairs, List.mem_filter, List.mem_map,
    decide_eq_true_eq]
  constructor
  · rintro ⟨⟨joined, isJoined, same⟩, folder⟩
    obtain ⟨_, sourceMissing, _, destExtra, sameBody, uniqueSource, uniqueDest, rfl⟩ :=
      covered.mem_contentFallbackRows.mp isJoined
    obtain ⟨rfl, rfl⟩ := Prod.mk.inj same
    exact ⟨sourceMissing, destExtra, folder.symm, sameBody, uniqueSource, uniqueDest⟩
  · intro identified
    refine ⟨⟨input.fallbackRow source destination, ?_, rfl⟩, identified.folder.symm⟩
    exact covered.mem_contentFallbackRows.mpr ⟨source, identified.missing, destination,
      identified.extra, identified.body, identified.uniqueSource, identified.uniqueDest, rfl⟩

/-- The fallback pairs may be marked after the pairs of the metadata passes. -/
theorem Covered.admissible_fallback :
    input.Admissible (input.reconciliation.paired ++
      input.contentFallbackPairs input.mismatchList) := by
  have perm := covered.contentFallbackPairs_perm
  have isFallback : ∀ pair ∈ input.contentFallbackPairs input.mismatchList,
      input.reconciliation.Identified input.body input.body pair.1 pair.2 := fun pair inPairs =>
    (input.reconciliation.mem_fallback input.body input.body).mp (perm.mem_iff.mp inPairs)
  have paired := input.admissible_paired
  constructor
  · rw [List.map_append]
    refine List.append_subset.mpr ⟨paired.sources, ?_⟩
    intro row membership
    obtain ⟨pair, inPairs, rfl⟩ := List.mem_map.mp membership
    exact input.reconciliation.missing_subset (isFallback pair inPairs).missing
  · rw [List.map_append]
    refine List.append_subset.mpr ⟨paired.destinations, ?_⟩
    intro row membership
    obtain ⟨pair, inPairs, rfl⟩ := List.mem_map.mp membership
    exact input.mem_destinations.mp
      (input.reconciliation.extra_subset (isFallback pair inPairs).extra)
  · refine nodup_append_left paired.sourcesNodup ?_ fun pair inPairs =>
      (isFallback pair inPairs).missing
    exact (perm.map Prod.fst).nodup_iff.mpr
      (input.reconciliation.fallback_sources_nodup _ _ input.sourceRows_nodup)
  · refine nodup_append_right paired.destinationsNodup ?_ fun pair inPairs =>
      (input.reconciliation.mem_extra.mp (isFallback pair inPairs).extra).1
    exact (perm.map Prod.snd).nodup_iff.mpr
      (input.reconciliation.fallback_destinations_nodup _ _ input.sourceRows_nodup)

end Fallback

/-- Distinct rows have distinct rowids. -/
theorem rowid_nodup {rows : List (StagedRow platform.parseDate)} (areRows : rows ⊆ input.rows)
    (nodup : rows.Nodup) : (rows.map StagedRow.rowid).Nodup := by
  have distinct : (input.rows.map StagedRow.rowid).Nodup := by
    rw [List.Nodup, List.pairwise_map]
    exact input.rows_sorted.imp fun less => ne_of_lt less
  refine nodup.map_on fun row isRow other isOther same => ?_
  exact List.inj_on_of_nodup_map distinct (areRows isRow) (areRows isOther) same

/-! ## The tables once the fallback pairs are resolved -/

/-- The mismatches that the fallback pairs leave. -/
def retainedList : List MessageMismatch :=
  input.mismatchList.filter
    (retainedOnStage (input.contentFallbackPairs input.mismatchList))

/-- The tables once the fallback pairs are resolved. -/
def resolved : StagedReconciliation where
  matched := input.outcome.matched ++
    pairKeys (input.contentFallbackPairs input.mismatchList)
  mismatches := input.retainedList
  stagedMismatches := input.retainedList.length
  summary := { input.outcome.summary with
    missingCount := (input.reconciliation.stillMissing input.body input.body).length
    extraCount := (input.reconciliation.stillExtra input.body input.body).length
    metadataMatches := (input.reconciliation.exact ++
      input.reconciliation.fallback input.body input.body).length }

/-- Which records the resolved pairs leave. -/
theorem retainedOnStage_ofRecord
    {pairs : List (StagedRow platform.parseDate × StagedRow platform.parseDate)}
    (admissible : input.Admissible pairs)
    {record : MismatchType × Option (StagedRow platform.parseDate) ×
      Option (StagedRow platform.parseDate)}
    (membership : record ∈ input.reconciliation.records) :
    retainedOnStage pairs (input.ofRecord record) = Reconciliation.survives pairs record := by
  have missing : ∀ row ∈ record.2.1, record.1 = .missing →
      (pairs.any fun pair => pair.1.namedMissing (input.ofRecord record)) =
        decide (row ∈ pairs.map Prod.fst) := by
    intro row named isMissing
    have isRow := input.reconciliation.source_of_record input.sourceRows_nodup membership named
    rw [Bool.eq_iff_iff, List.any_eq_true, decide_eq_true_eq, List.mem_map]
    refine exists_congr fun pair => and_congr_right fun inPairs => ?_
    rw [namedMissing_iff, ofRecord, mismatch, makeMismatch_sourceKey, named]
    constructor
    · intro ⟨_, same⟩
      exact input.source_of_messageKey (admissible.sources (List.mem_map_of_mem inPairs))
        isRow (Option.some.inj same).symm
    · intro same
      rw [same]
      exact ⟨isMissing, rfl⟩
  have extra : ∀ row ∈ record.2.2, record.1 = .extra →
      (pairs.any fun pair => pair.2.namedExtra (input.ofRecord record)) =
        decide (row ∈ pairs.map Prod.snd) := by
    intro row named isExtra
    have isRow := input.mem_destinations.mp (input.reconciliation.destination_of_record
      input.destinations_nodup membership named)
    rw [Bool.eq_iff_iff, List.any_eq_true, decide_eq_true_eq, List.mem_map]
    refine exists_congr fun pair => and_congr_right fun inPairs => ?_
    rw [namedExtra_iff, ofRecord, mismatch, makeMismatch_destKey, named]
    constructor
    · intro ⟨_, same⟩
      exact input.destination_of_messageKey
        (admissible.destinations (List.mem_map_of_mem inPairs)) isRow
        (Option.some.inj same).symm
    · intro same
      rw [same]
      exact ⟨isExtra, rfl⟩
  have notMissing : record.1 ≠ .missing → (pairs.any fun pair =>
      pair.1.namedMissing (input.ofRecord record)) = false := by
    intro other
    rw [List.any_eq_false]
    intro pair _ named
    exact other (namedMissing_iff.mp named).1
  have notExtra : record.1 ≠ .extra → (pairs.any fun pair =>
      pair.2.namedExtra (input.ofRecord record)) = false := by
    intro other
    rw [List.any_eq_false]
    intro pair _ named
    exact other (namedExtra_iff.mp named).1
  obtain ⟨kind, source, destination⟩ := record
  cases kind with
  | messageIdOnly =>
    rw [retainedOnStage, notMissing (by simp), notExtra (by simp)]
    rfl
  | presentWrongFolder =>
    rw [retainedOnStage, notMissing (by simp), notExtra (by simp)]
    rfl
  | duplicated =>
    rw [retainedOnStage, notMissing (by simp), notExtra (by simp)]
    rfl
  | missing =>
    cases source with
    | none =>
      have inMissing : (MismatchType.missing, none, destination) ∈
          input.reconciliation.records.filter (·.1 ∈ [.missing]) :=
        List.mem_filter.mpr ⟨membership, by simp⟩
      rw [Reconciliation.records_missing] at inMissing
      simp at inMissing
    | some row =>
      rw [retainedOnStage, notExtra (by simp), missing row rfl rfl]
      simp [Reconciliation.survives]
  | extra =>
    cases destination with
    | none =>
      have inExtra : (MismatchType.extra, source, none) ∈
          input.reconciliation.records.filter (·.1 ∈ [.extra]) :=
        List.mem_filter.mpr ⟨membership, by simp⟩
      rw [Reconciliation.records_extra] at inExtra
      simp at inExtra
    | some row =>
      rw [retainedOnStage, notMissing (by simp), extra row rfl rfl]
      simp [Reconciliation.survives]

section Resolved

variable {input} (covered : input.Covered)

include covered

theorem Covered.retainedList_perm : input.retainedList.Perm
    ((input.reconciliation.keptRecords input.body input.body).map input.ofRecord) := by
  have admissible := covered.admissible_fallback.of_sublist (List.sublist_append_right _ _)
  refine (input.mismatchList_perm.filter _).trans (List.Perm.of_eq ?_)
  rw [List.filter_map,
    ← input.reconciliation.filter_survives _ _ covered.contentFallbackPairs_perm]
  refine congrArg _ (List.filter_congr ?_)
  intro record membership
  exact input.retainedOnStage_ofRecord admissible membership

/-- The counters of missing and extra rows each give up one row per fallback pair. -/
theorem Covered.fallback_lengths :
    input.reconciliation.missing.length =
        (input.contentFallbackPairs input.mismatchList).length +
          (input.reconciliation.stillMissing input.body input.body).length ∧
      input.reconciliation.extra.length =
        (input.contentFallbackPairs input.mismatchList).length +
          (input.reconciliation.stillExtra input.body input.body).length := by
  have missing := (input.reconciliation.missing_perm input.body input.body
    input.sourceRows_nodup).length_eq
  have extra := (input.reconciliation.extra_perm input.body input.body
    input.sourceRows_nodup input.destinations_nodup).length_eq
  rw [List.length_append, List.length_map,
    ← covered.contentFallbackPairs_perm.length_eq] at missing extra
  exact ⟨missing, extra⟩

theorem Covered.retainedList_length : input.retainedList.length =
    input.mismatchList.length -
      (input.contentFallbackPairs input.mismatchList).length * 2 := by
  have lengths := covered.fallback_lengths
  rw [covered.retainedList_perm.length_eq, input.mismatchList_perm.length_eq]
  simp only [Reconciliation.keptRecords, Reconciliation.records, List.length_map,
    List.length_append, lengths.1, lengths.2]
  omega

theorem Covered.resolveFallback_eq :
    input.resolveFallback input.outcome = .ok input.resolved := by
  have admissible := covered.admissible_fallback
  have ownPairs := admissible.of_sublist (List.sublist_append_right _ _)
  have sourceRowids : ((input.contentFallbackPairs input.mismatchList).map
      fun pair => pair.1.rowid).Nodup := by
    have nodup := input.rowid_nodup (fun row isRow =>
      (input.mem_sourceRows.mp (ownPairs.sources isRow)).1) ownPairs.sourcesNodup
    rwa [List.map_map] at nodup
  have destRowids : ((input.contentFallbackPairs input.mismatchList).map
      fun pair => pair.2.rowid).Nodup := by
    have nodup := input.rowid_nodup (fun row isRow =>
      (input.mem_destRows.mp (ownPairs.destinations isRow)).1) ownPairs.destinationsNodup
    rwa [List.map_map] at nodup
  have marks : input.Marks input.reconciliation.paired { matched := input.outcome.matched } :=
    ⟨input.admissible_paired, input.marks_afterProbable.2.matched⟩
  have inserted := (marks.insertMatched admissible
    "could not classify staged content fingerprints" _ (List.Perm.refl _)).1
  obtain ⟨missing, extra⟩ := covered.fallback_lengths
  have fallback := covered.contentFallbackPairs_perm.length_eq
  have mismatches : input.outcome.mismatches = input.mismatchList := rfl
  have summary : ({ input.outcome.summary with
      missingCount := input.reconciliation.missing.length -
        (input.contentFallbackPairs input.mismatchList).length
      extraCount := input.reconciliation.extra.length -
        (input.contentFallbackPairs input.mismatchList).length
      metadataMatches := input.exactPairs.length +
        (input.contentFallbackPairs input.mismatchList).length } : VerificationSummary) =
      input.resolved.summary := by
    rw [missing, extra, Nat.add_sub_cancel_left, Nat.add_sub_cancel_left, fallback,
      resolved, List.length_append]
    rfl
  rw [resolveFallback]
  simp only [mismatches, uniqueIndex, if_pos sourceRowids, if_pos destRowids, ok_bind,
    inserted]
  have tables : input.resolved = {
      matched := input.outcome.matched ++
        pairKeys (input.contentFallbackPairs input.mismatchList)
      mismatches := input.retainedList
      stagedMismatches := input.mismatchList.length -
        (input.contentFallbackPairs input.mismatchList).length * 2
      summary := input.resolved.summary } := by
    rw [← covered.retainedList_length]
    rfl
  rw [tables, ← summary]
  rfl

end Resolved

/-! ## The differing pairs -/

/-- A pair with the fingerprints of its members. -/
def fingerprinted (pair : StagedRow platform.parseDate × StagedRow platform.parseDate) :
    FingerprintedPair platform.parseDate where
  source := pair.1
  destination := pair.2
  sourceFingerprint := input.body pair.1
  destinationFingerprint := input.body pair.2

/-- The pairs with differing bodies, in the order of their source rows. -/
def differences : List (FingerprintedPair platform.parseDate) :=
  orderBy (fun pair => pair.source.rowid)
    ((input.reconciliation.differing input.body input.body).map input.fingerprinted)

variable {input : StagedInput platform}

theorem Covered.withFingerprints_eq (covered : input.Covered)
    {pairs : List (StagedRow platform.parseDate × StagedRow platform.parseDate)}
    (admissible : input.Admissible pairs) :
    input.withFingerprints pairs = pairs.map input.fingerprinted := by
  have isSource : ∀ pair ∈ pairs, pair.1 ∈ input.rows := fun pair inPairs =>
    (input.mem_sourceRows.mp (admissible.sources (List.mem_map_of_mem inPairs))).1
  have isDestination : ∀ pair ∈ pairs, pair.2 ∈ input.rows := fun pair inPairs =>
    (input.mem_destRows.mp (admissible.destinations (List.mem_map_of_mem inPairs))).1
  rw [withFingerprints, innerJoin_eq_map (fun pair => input.fingerprintRow pair.1)
      fun pair inPairs => covered.filter_key (isSource pair inPairs),
    innerJoin_eq_map fun joined => input.fingerprintRow joined.1.2]
  · rw [List.map_map, List.map_map]
    rfl
  · intro joined isJoined
    obtain ⟨pair, inPairs, rfl⟩ := List.mem_map.mp isJoined
    exact covered.filter_key (isDestination pair inPairs)

/-- All members of exact pairs are matched, so the second ranking finds exactly the pairs
that content rejects. -/
theorem Covered.contentExactPairs_eq (covered : input.Covered) :
    input.contentExactPairs input.resolved.matched =
      input.reconciliation.differing input.body input.body := by
  have admissible : input.Admissible input.exactPairs := input.marks_afterExact.2.admissible
  have marked : ∀ key ∈ pairKeys input.exactPairs, key ∈ input.resolved.matched := by
    intro key isKey
    simp only [resolved, outcome, List.mem_append]
    exact .inl (.inl (.inl (.inl isKey)))
  rw [contentExactPairs, covered.withFingerprints_eq admissible, List.filter_map,
    List.map_map]
  have members : (fun pair : FingerprintedPair platform.parseDate =>
      (pair.source, pair.destination)) ∘ input.fingerprinted = id := by
    funext pair
    rfl
  rw [members, List.map_id, Reconciliation.differing]
  apply List.filter_congr
  intro pair inPairs
  rw [Function.comp_apply, decide_eq_decide]
  have sourceMarked := marked pair.1.key
    (mem_pairKeys.mpr (.inl ⟨pair.1, List.mem_map_of_mem inPairs, rfl⟩))
  have destMarked := marked pair.2.key
    (mem_pairKeys.mpr (.inr ⟨pair.2, List.mem_map_of_mem inPairs, rfl⟩))
  constructor
  · intro listed
    exact listed.2.2
  · intro different
    exact ⟨sourceMarked, destMarked, different⟩

theorem Covered.contentDifferences_eq (covered : input.Covered) :
    input.contentDifferences input.resolved.matched = input.differences := by
  have admissible : input.Admissible
      (input.reconciliation.differing input.body input.body) :=
    input.marks_afterExact.2.admissible.of_sublist List.filter_sublist
  rw [contentDifferences, covered.contentExactPairs_eq,
    covered.withFingerprints_eq admissible, differences]

/-- The tables once the given pairs are recorded. -/
def afterDifferences (tables : StagedReconciliation)
    (pairs : List (FingerprintedPair platform.parseDate)) : StagedReconciliation where
  matched := tables.matched.filter fun key =>
    ∀ pair ∈ pairs, key ≠ pair.source.key ∧ key ≠ pair.destination.key
  mismatches := tables.mismatches ++ pairs.map input.contentMismatch
  stagedMismatches := tables.stagedMismatches + pairs.length
  summary := { tables.summary with
    metadataMatches := tables.summary.metadataMatches - pairs.length
    changedCount := tables.summary.changedCount + pairs.length }

theorem foldlM_recordDifference (pairs : List (FingerprintedPair platform.parseDate))
    (tables : StagedReconciliation) :
    pairs.foldlM input.recordDifference tables = .ok (input.afterDifferences tables pairs) := by
  induction pairs generalizing tables with
  | nil => simp [afterDifferences, pure, Except.pure]
  | cons pair rest ih =>
    rw [List.foldlM_cons, recordDifference, ok_bind, ih]
    simp only [afterDifferences, List.filter_filter, List.append_assoc, List.map_cons,
      List.singleton_append, List.length_cons, List.forall_mem_cons, Bool.decide_and,
      Bool.and_comm, Nat.sub_sub, Nat.add_assoc, Nat.add_comm 1]

/-- The differing pairs stand in strictly increasing order of their source rows. -/
theorem differences_sorted : input.differences.Pairwise
    fun left right => left.source.rowid < right.source.rowid := by
  apply orderBy_strict
  have admissible : input.Admissible
      (input.reconciliation.differing input.body input.body) :=
    input.marks_afterExact.2.admissible.of_sublist List.filter_sublist
  have nodup := input.rowid_nodup (fun row isRow =>
    (input.mem_sourceRows.mp (admissible.sources isRow)).1) admissible.sourcesNodup
  rw [List.map_map] at nodup ⊢
  exact nodup

theorem Covered.recordDifferences_eq (covered : input.Covered) :
    input.recordDifferences input.resolved =
      .ok (input.afterDifferences input.resolved input.differences) := by
  have all : (input.differences.filter fun pair =>
      0 < pair.source.rowid ∧ (true : Bool) = true) = input.differences := by
    rw [List.filter_eq_self]
    intro pair membership
    obtain ⟨original, isDiffering, rfl⟩ := List.mem_map.mp (mem_orderBy.mp membership)
    have isSource := input.marks_afterExact.2.admissible.sources
      (List.mem_map_of_mem (List.mem_filter.mp isDiffering).1)
    have positive := (input.stage.mapFolders input.folderMapping).rowidPositive _
      (input.mem_sourceRows.mp isSource).1
    exact decide_eq_true ⟨positive, rfl⟩
  rw [recordDifferences, covered.contentDifferences_eq,
    pageLoop_eq input.differences_sorted (by decide), all, foldlM_recordDifference]
  · intro _ _ _ _ _ _ _ _
    rfl
  · rw [all]
    exact Nat.lt_succ_self _

/-! ## The result -/

/-- The tables after the content pass. -/
def contentOutcome : StagedReconciliation :=
  input.afterDifferences input.resolved input.differences

/-- The counters after the content pass. -/
def contentSummary : VerificationSummary :=
  let r := input.reconciliation
  { input.outcome.summary with
    metadataMatches := (r.confirmed input.body input.body ++
      r.fallback input.body input.body).length
    missingCount := (r.stillMissing input.body input.body).length
    extraCount := (r.stillExtra input.body input.body).length
    changedCount := (r.changed ++ r.misplaced ++ r.differing input.body input.body).length }

theorem differences_length : input.differences.length =
    (input.reconciliation.differing input.body input.body).length := by
  rw [differences, (orderBy_perm _ _).length_eq, List.length_map]

theorem contentOutcome_summary : input.contentOutcome.summary = input.contentSummary := by
  have exact := (input.reconciliation.exact_split input.body input.body).length_eq
  have metadataMatches : (input.reconciliation.exact ++
        input.reconciliation.fallback input.body input.body).length -
      input.differences.length = (input.reconciliation.confirmed input.body input.body ++
        input.reconciliation.fallback input.body input.body).length := by
    rw [List.length_append] at exact
    rw [input.differences_length, List.length_append, List.length_append, exact]
    omega
  have changedCount : input.outcome.summary.changedCount + input.differences.length =
      (input.reconciliation.changed ++ input.reconciliation.misplaced ++
        input.reconciliation.differing input.body input.body).length := by
    rw [input.differences_length, List.length_append, List.length_append]
    rfl
  rw [contentSummary, ← metadataMatches, ← changedCount]
  rfl

/-- The counters of the content pass still partition both populations. -/
theorem contentSummary_partitions : input.contentSummary.partitions = true := by
  have sources := (input.reconciliation.contentSourceClasses_perm input.body input.body
    input.sourceRows_nodup).length_eq
  have destinations := (input.reconciliation.contentDestinationClasses_perm input.body
    input.body input.sourceRows_nodup input.destinations_nodup).length_eq
  rw [input.destinations_perm.length_eq] at destinations
  simp only [Reconciliation.contentSourceClasses, Reconciliation.contentDestinationClasses,
    List.flatten_cons, List.flatten_nil, List.length_append, List.length_map,
    List.length_nil, Nat.add_zero] at sources destinations
  simp only [VerificationSummary.partitions, contentSummary, outcome, List.length_append,
    Bool.and_eq_true, decide_eq_true_eq]
  rw [sources, destinations]
  constructor
  · simp only [reconciliation, Nat.add_assoc]
  · simp only [reconciliation, Nat.add_assoc]

/-- The staged content pass succeeds exactly on covered stages, and fails with the name
of the first side that is not covered. -/
theorem reconcileStageWithContentFingerprints_eq
    [Decidable (input.SideCovered .source)] [Decidable (input.SideCovered .destination)] :
    reconcileStageWithContentFingerprints input =
      if input.SideCovered .source then
        if input.SideCovered .destination then .ok input.contentOutcome
        else .error
          "content verification requires exact destination message/fingerprint key coverage"
      else .error
        "content verification requires exact source message/fingerprint key coverage" := by
  rw [reconcileStageWithContentFingerprints, input.reconcileStage_eq, ok_bind,
    validateFingerprintCoverage, input.validateSideCoverage_eq, input.validateSideCoverage_eq]
  by_cases source : input.SideCovered .source
  · by_cases destination : input.SideCovered .destination
    · have covered : input.Covered := ⟨source, destination⟩
      have summary := input.contentOutcome_summary
      have counted : input.contentOutcome.mismatches.length =
          input.contentOutcome.stagedMismatches := by
        rw [contentOutcome, afterDifferences, List.length_append, List.length_map]
        rfl
      rw [contentOutcome] at summary counted
      rw [if_pos source, if_pos destination, if_pos source, if_pos destination, ok_bind,
        ok_bind, covered.resolveFallback_eq, ok_bind, covered.recordDifferences_eq, ok_bind,
        contentOutcome]
      simp only [summary, counted]
      change (if !input.contentSummary.partitions then _ else _) = _
      rw [input.contentSummary_partitions, if_neg (by simp), if_neg (not_not.mpr rfl)]
      rfl
    · rw [if_pos source, if_neg destination, if_pos source, if_neg destination, ok_bind]
      rfl
  · rw [if_neg source, if_neg source]
    rfl

theorem reconcileStageWithContentFingerprints_ok_iff {tables : StagedReconciliation} :
    reconcileStageWithContentFingerprints input = .ok tables ↔
      input.Covered ∧ tables = input.contentOutcome := by
  classical
  rw [input.reconcileStageWithContentFingerprints_eq]
  constructor
  · intro returned
    split_ifs at returned with source destination
    exact ⟨⟨source, destination⟩, (Except.ok.inj returned).symm⟩
  · intro ⟨covered, same⟩
    rw [if_pos covered.source, if_pos covered.destination, same]

end StagedInput

end MailSwiftSync
