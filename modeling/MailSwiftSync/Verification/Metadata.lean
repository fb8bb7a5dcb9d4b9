import MailSwiftSync.Verification.Passes

/-!
# Metadata reconciliation as a whole

Within its budgets the reconciliation returns the counters, classes and records
of the specification, and its own validation accepts them.
-/

namespace MailSwiftSync

open Foundation

namespace ReconciliationInput

variable (platform : Platform) (input : ReconciliationInput)

/-- The mismatch record of one entry of the specification. -/
def ofRecord (record : MismatchType × Option MailboxMessageKey × Option MailboxMessageKey) :
    MessageMismatch :=
  input.mismatch platform record.1 record.2.1 record.2.2

/-- All mismatch records, in the order the passes emit them. -/
def mismatchList : List MessageMismatch :=
  (input.reconciliation platform).records.map (input.ofRecord platform)

/-- What the reconciliation returns within its budgets. -/
def outcome : MetadataReconciliation :=
  let r := input.reconciliation platform
  { mismatches := input.mismatchList platform
    summary := {
      totalSource := input.sourceMessages.entries.length
      totalDestination := input.destMessages.entries.length
      metadataMatches := r.exact.length
      rfcMessageIdMatches := r.exact.length
      probableMatches := r.probable.length
      syntheticIdentityMatches := ((r.probable.map Prod.fst).filter fun key =>
        (input.sourceMessages.at key).identityProvenance =
          .syntheticHeaderFingerprint).length
      missingCount := r.missing.length
      extraCount := r.extra.length
      duplicatedCount := r.duplicated.length
      changedCount := r.changed.length + r.misplaced.length }
    membership := {
      matchedSource := (r.exact.map Prod.fst).toFinset
      matchedDestination := (r.exact.map Prod.snd).toFinset
      probableSource := (r.probable.map Prod.fst).toFinset
      probableDestination := (r.probable.map Prod.snd).toFinset
      missingSource := r.missing.toFinset
      extraDestination := r.extra.toFinset
      duplicatedDestination := r.duplicated.toFinset
      changedSource := ((r.changed ++ r.misplaced).map Prod.fst).toFinset
      changedDestination := ((r.changed ++ r.misplaced).map Prod.snd).toFinset }
    cleanPairs := r.exact }

/-- The budgets: the estimated verifier state and the estimated size of all
mismatch records stay within their bounds. -/
structure WithinBudgets : Prop where
  state : estimatedVerifierStateBytes input.sourceMessages input.destMessages ≤
    maxEstimatedVerifierStateBytes
  detail : mismatchDetailBytes (input.mismatchList platform) ≤
    maxEstimatedMismatchDetailBytes

/-! ## Leftovers -/

/-- Source keys left over by pass 3, in iteration order. -/
def unmatchedSource3 : List MailboxMessageKey :=
  (input.unmatchedSource2 platform).filter
    (· ∉ ((input.probablePairs platform).map Prod.fst).toFinset)

/-- Destination keys left over by pass 3, in iteration order. -/
def unmatchedDest3 : List MailboxMessageKey :=
  (input.unmatchedDest2 platform).filter
    (· ∉ ((input.probablePairs platform).map Prod.snd).toFinset)

theorem unmatchedSource3_perm :
    (input.unmatchedSource3 platform).Perm (input.reconciliation platform).missing := by
  have step := (input.unmatchedSource2_perm platform).filter
    (· ∉ ((input.probablePairs platform).map Prod.fst).toFinset)
  have merged : (unpairedLeft (input.cleanPairs platform ++ input.changedPairs platform ++
      input.misplacedPairs platform) input.sources).filter
      (· ∉ ((input.probablePairs platform).map Prod.fst).toFinset) =
      (input.reconciliation platform).missing := by
    rw [unpairedLeft, List.filter_filter, Reconciliation.missing, unpairedLeft]
    apply List.filter_congr
    intro key _
    simp only [Reconciliation.paired, reconciliation, List.map_append, List.mem_append,
      List.mem_toFinset, not_or, Bool.decide_and]
    exact Bool.and_comm _ _
  rw [← merged]
  exact step

theorem unmatchedDest3_perm :
    (input.unmatchedDest3 platform).Perm (input.reconciliation platform).surplus := by
  have step := (input.unmatchedDest2_perm platform).filter
    (· ∉ ((input.probablePairs platform).map Prod.snd).toFinset)
  have merged : (unpairedRight (input.cleanPairs platform ++ input.changedPairs platform ++
      input.misplacedPairs platform) input.destinations).filter
      (· ∉ ((input.probablePairs platform).map Prod.snd).toFinset) =
      (input.reconciliation platform).surplus := by
    rw [unpairedRight, List.filter_filter, Reconciliation.surplus, unpairedRight]
    apply List.filter_congr
    intro key _
    simp only [Reconciliation.paired, reconciliation, List.map_append, List.mem_append,
      List.mem_toFinset, not_or, Bool.decide_and]
    exact Bool.and_comm _ _
  rw [← merged]
  exact step

theorem missing_sorted : (input.reconciliation platform).missing.Pairwise (· ≤ ·) :=
  (sortUnstable_sorted _).filter _

theorem surplus_sorted : (input.reconciliation platform).surplus.Pairwise (· ≤ ·) :=
  (sortUnstable_sorted _).filter _

theorem sort_unmatchedSource3 :
    sortUnstable (input.unmatchedSource3 platform) = (input.reconciliation platform).missing :=
  sortUnstable_eq (input.unmatchedSource3_perm platform) (input.missing_sorted platform)

/-- The groups of destination keys that outnumber their source group. -/
def duplicateGroups : List (Sigma fun _ : String => List MailboxMessageKey) :=
  (indexByMessageId input.destMessages).entries.filter fun group =>
    ((indexByMessageId input.sourceMessages).lookup group.1).any fun sourceUids =>
      group.2.length > sourceUids.length

theorem queue_of_mem_entries {group : Sigma fun _ : String => List MailboxMessageKey}
    (membership : group ∈ (indexByMessageId input.destMessages).entries) :
    group.2 = input.destUids group.1 := by
  rw [← input.get_destUids, Buckets.get, AList.mem_lookup_iff.mpr membership]
  rfl

theorem sourceUids_pos {messageId : String} :
    0 < (input.sourceUids messageId).length ↔
      messageId ∈ indexByMessageId input.sourceMessages := by
  rw [List.length_pos_iff_exists_mem, mem_indexByMessageId]
  simp only [sourceUids, mem_ofClass]
  rfl

theorem mem_duplicateGroups (key : MailboxMessageKey) :
    key ∈ input.duplicateGroups.flatMap (fun group => group.2) ↔
      key ∈ input.destinations ∧ Reconciliation.Duplicate (input.sourceProfile platform)
        (input.destProfile platform) input.sources input.destinations key := by
  simp only [duplicateGroups, List.mem_flatMap, List.mem_filter, Option.any_eq_true,
    decide_eq_true_eq]
  constructor
  · rintro ⟨group, ⟨inEntries, queue, found, longer⟩, membership⟩
    have present : group.1 ∈ indexByMessageId input.sourceMessages :=
      AList.lookup_isSome.mp (by simp [found])
    have queueEq : queue = input.sourceUids group.1 := by
      rw [lookup_indexByMessageId _ _ present] at found
      exact (Option.some.inj found).symm
    rw [input.queue_of_mem_entries inEntries] at membership longer
    rw [queueEq] at longer
    obtain ⟨isDest, isGroup⟩ := mem_ofClass.mp membership
    exact ⟨isDest, group.1, isGroup, input.sourceUids_pos.mpr present, longer⟩
  · rintro ⟨isDest, messageId, isGroup, occurs, outnumbered⟩
    have inGroup : key ∈ input.destUids messageId := mem_ofClass.mpr ⟨isDest, isGroup⟩
    have destPresent : messageId ∈ indexByMessageId input.destMessages :=
      (mem_indexByMessageId _ _).mpr ⟨key, isDest, isGroup⟩
    have sourcePresent := input.sourceUids_pos.mp occurs
    refine ⟨⟨messageId, input.destUids messageId⟩, ⟨?_, input.sourceUids messageId, ?_, ?_⟩,
      inGroup⟩
    · exact AList.mem_lookup_iff.mp (lookup_indexByMessageId _ _ destPresent)
    · exact lookup_indexByMessageId _ _ sourcePresent
    · exact outnumbered

theorem duplicateGroups_nodup :
    (input.duplicateGroups.flatMap fun group => group.2).Nodup := by
  have inEntries : ∀ group ∈ input.duplicateGroups,
      group ∈ (indexByMessageId input.destMessages).entries :=
    fun group membership => (List.mem_filter.mp membership).1
  rw [List.nodup_flatMap]
  constructor
  · intro group membership
    rw [input.queue_of_mem_entries (inEntries group membership)]
    exact ofClass_nodup input.destinations_nodup
  · have keysDiffer : input.duplicateGroups.Pairwise fun group other => group.1 ≠ other.1 :=
      (List.nodupKeys_iff_pairwise.mp (indexByMessageId input.destMessages).nodupKeys).filter _
    apply keysDiffer.imp_of_mem
    intro group other inGroups inOthers different key inQueue inOtherQueue
    change key ∈ group.2 at inQueue
    change key ∈ other.2 at inOtherQueue
    rw [input.queue_of_mem_entries (inEntries group inGroups), destUids, mem_ofClass]
      at inQueue
    rw [input.queue_of_mem_entries (inEntries other inOthers), destUids, mem_ofClass]
      at inOtherQueue
    rw [inQueue.2] at inOtherQueue
    exact different (Option.some.inj inOtherQueue.2)

theorem duplicateDestUids_eq :
    duplicateDestUids (indexByMessageId input.sourceMessages)
        (indexByMessageId input.destMessages) (input.unmatchedDest3 platform) =
      (input.reconciliation platform).duplicated := by
  have perm : ((input.duplicateGroups.flatMap fun group => group.2).filter
      (· ∈ input.unmatchedDest3 platform)).Perm
      (input.reconciliation platform).duplicated := by
    rw [List.perm_ext_iff_of_nodup (input.duplicateGroups_nodup.filter _)
      ((input.reconciliation platform).duplicated_nodup input.destinations_nodup)]
    intro key
    rw [List.mem_filter, decide_eq_true_eq, input.mem_duplicateGroups platform,
      (input.unmatchedDest3_perm platform).mem_iff, Reconciliation.mem_duplicated]
    constructor
    · rintro ⟨⟨_, duplicate⟩, isSurplus⟩
      exact ⟨isSurplus, duplicate⟩
    · rintro ⟨isSurplus, duplicate⟩
      exact ⟨⟨(mem_unpairedRight.mp isSurplus).1, duplicate⟩, isSurplus⟩
  exact sortUnstable_eq perm ((input.surplus_sorted platform).filter _)

theorem sort_unmatchedDest3 :
    sortUnstable ((input.unmatchedDest3 platform).filter
        (· ∉ (input.reconciliation platform).duplicated)) =
      (input.reconciliation platform).extra := by
  apply sortUnstable_eq
  · have step := (input.unmatchedDest3_perm platform).filter
      (· ∉ (input.reconciliation platform).duplicated)
    have same : (input.reconciliation platform).surplus.filter
        (· ∉ (input.reconciliation platform).duplicated) =
        (input.reconciliation platform).extra := by
      apply List.filter_congr
      intro key isSurplus
      rw [decide_eq_decide, Reconciliation.mem_duplicated, and_iff_right isSurplus]
    rw [← same]
    exact step
  · exact (input.surplus_sorted platform).filter _

/-! ## Counters and classes -/

theorem mem_sources {key : MailboxMessageKey} :
    key ∈ input.sources ↔ key ∈ input.sourceMessages := by
  rw [sources, mem_sortUnstable, AList.mem_keys]

theorem mem_destinations {key : MailboxMessageKey} :
    key ∈ input.destinations ↔ key ∈ input.destMessages := by
  rw [destinations, mem_sortUnstable, AList.mem_keys]

theorem namedSources_map
    {records : List (MismatchType × Option MailboxMessageKey × Option MailboxMessageKey)}
    (known : ∀ record ∈ records, ∀ key, record.2.1 = some key →
      key ∈ input.sourceMessages) :
    namedSources input (records.map (input.ofRecord platform)) =
      (records.filterMap fun record => record.2.1).toFinset := by
  rw [namedSources, List.filterMap_map]
  congr 1
  apply List.filterMap_congr
  intro record membership
  rw [Function.comp_apply, mismatchSourceKey_eq, ofRecord, mismatch, makeMismatch_sourceKey]
  cases named : record.2.1 with
  | none => rfl
  | some key => simp [Option.filter, known record membership key named]

theorem namedDestinations_map
    {records : List (MismatchType × Option MailboxMessageKey × Option MailboxMessageKey)}
    (known : ∀ record ∈ records, ∀ key, record.2.2 = some key →
      key ∈ input.destMessages) :
    namedDestinations input (records.map (input.ofRecord platform)) =
      (records.filterMap fun record => record.2.2).toFinset := by
  rw [namedDestinations, List.filterMap_map]
  congr 1
  apply List.filterMap_congr
  intro record membership
  rw [Function.comp_apply, mismatchDestinationKey_eq, ofRecord, mismatch,
    makeMismatch_destKey]
  cases named : record.2.2 with
  | none => rfl
  | some key => simp [Option.filter, known record membership key named]

theorem ofKinds_mismatchList (kinds : List MismatchType) :
    ofKinds kinds (input.mismatchList platform) =
      ((input.reconciliation platform).records.filter (·.1 ∈ kinds)).map
        (input.ofRecord platform) := by
  rw [ofKinds, mismatchList, List.filter_map]
  rfl

theorem namedSources_ofKinds (kinds : List MismatchType) :
    namedSources input (ofKinds kinds (input.mismatchList platform)) =
      (((input.reconciliation platform).records.filter (·.1 ∈ kinds)).filterMap
        fun record => record.2.1).toFinset := by
  rw [ofKinds_mismatchList]
  apply namedSources_map
  intro record membership key named
  exact input.mem_sources.mp ((input.reconciliation platform).source_of_record
    input.sources_nodup (List.mem_filter.mp membership).1 named)

theorem namedDestinations_ofKinds (kinds : List MismatchType) :
    namedDestinations input (ofKinds kinds (input.mismatchList platform)) =
      (((input.reconciliation platform).records.filter (·.1 ∈ kinds)).filterMap
        fun record => record.2.2).toFinset := by
  rw [ofKinds_mismatchList]
  apply namedDestinations_map
  intro record membership key named
  exact input.mem_destinations.mp ((input.reconciliation platform).destination_of_record
    input.destinations_nodup (List.mem_filter.mp membership).1 named)

/-- What pass 3 returns after the first two passes. -/
theorem pass3_eq :
    pass3FingerprintFallback platform input (input.unmatchedSource2 platform)
        (input.unmatchedDest2 platform) =
      ⟨(input.probablePairs platform).length,
        ((input.probablePairs platform).map Prod.fst).toFinset,
        ((input.probablePairs platform).map Prod.snd).toFinset⟩ := rfl

theorem pass1_matchedSource_nodup :
    ((input.cleanPairs platform).map Prod.fst ++
      (input.changedPairs platform).map Prod.fst).Nodup := by
  have nodup := (input.reconciliation platform).paired_sources_nodup input.sources_nodup
  simp only [Reconciliation.paired, reconciliation, List.map_append] at nodup
  exact (List.nodup_append.mp (List.nodup_append.mp nodup).1).1

/-- Exact pairs are what pass 1 matched without a record. -/
theorem pass1_metadataMatches :
    (input.pass1After platform input.messageIds).matchedSource.card -
        (input.pass1After platform input.messageIds).log.mismatches.length =
      (input.cleanPairs platform).length := by
  have card : (input.pass1After platform input.messageIds).matchedSource.card =
      (input.cleanPairs platform).length + (input.changedPairs platform).length := by
    change ((input.cleanPairs platform).map Prod.fst ++
      (input.changedPairs platform).map Prod.fst).toFinset.card = _
    rw [List.toFinset_card_of_nodup (input.pass1_matchedSource_nodup platform)]
    simp
  have length : (input.pass1After platform input.messageIds).log.mismatches.length =
      (input.changedPairs platform).length := by
    simp [pass1After, changedRecords, changedPairs]
  rw [card, length, Nat.add_sub_cancel]

/-- Removing the changed keys from what pass 1 matched leaves the exact pairs. -/
theorem filter_matched {clean changed misplaced : List MailboxMessageKey}
    (nodup : (clean ++ (changed ++ misplaced)).Nodup) :
    (clean ++ changed).toFinset.filter (· ∉ (changed ++ misplaced).toFinset) =
      clean.toFinset := by
  obtain ⟨_, _, disjoint⟩ := List.nodup_append.mp nodup
  ext key
  simp only [Finset.mem_filter, List.mem_toFinset, List.mem_append]
  constructor
  · rintro ⟨isClean | isChanged, notChanged⟩
    · exact isClean
    · exact absurd (.inl isChanged) notChanged
  · intro isClean
    exact ⟨.inl isClean, fun changedToo =>
      disjoint key isClean key (List.mem_append.mpr changedToo) rfl⟩

theorem clean_changed_nodup_left :
    ((input.reconciliation platform).exact.map Prod.fst ++
      ((input.reconciliation platform).changed.map Prod.fst ++
        (input.reconciliation platform).misplaced.map Prod.fst)).Nodup := by
  have nodup := (input.reconciliation platform).paired_sources_nodup input.sources_nodup
  simp only [Reconciliation.paired, List.map_append, List.append_assoc] at nodup
  rw [← List.append_assoc, ← List.append_assoc] at nodup
  rw [← List.append_assoc]
  exact (List.nodup_append.mp nodup).1

theorem clean_changed_nodup_right :
    ((input.reconciliation platform).exact.map Prod.snd ++
      ((input.reconciliation platform).changed.map Prod.snd ++
        (input.reconciliation platform).misplaced.map Prod.snd)).Nodup := by
  have nodup := (input.reconciliation platform).paired_destinations_nodup
    input.destinations_nodup
  simp only [Reconciliation.paired, List.map_append, List.append_assoc] at nodup
  rw [← List.append_assoc, ← List.append_assoc] at nodup
  rw [← List.append_assoc]
  exact (List.nodup_append.mp nodup).1

/-- Reading counters and classes back from the records gives the outcome. -/
theorem summarize_eq :
    summarize input (input.pass1After platform input.messageIds)
        (pass3FingerprintFallback platform input (input.unmatchedSource2 platform)
          (input.unmatchedDest2 platform))
        ((input.pass1After platform input.messageIds).matchedSource.card -
          (input.pass1After platform input.messageIds).log.mismatches.length)
        (input.mismatchList platform) = input.outcome platform := by
  have probableNodup : ((input.probablePairs platform).map Prod.fst).Nodup :=
    (input.classwise_probablePairs platform).nodup_left (input.sources_nodup.filter _)
  have synthetic : (((input.probablePairs platform).map Prod.fst).toFinset.filter fun key =>
      (input.sourceMessages.at key).identityProvenance =
        .syntheticHeaderFingerprint).card =
      (((input.probablePairs platform).map Prod.fst).filter fun key =>
        (input.sourceMessages.at key).identityProvenance =
          .syntheticHeaderFingerprint).length := by
    rw [← List.toFinset_card_of_nodup (probableNodup.filter _), List.toFinset_filter]
    simp only [decide_eq_true_eq]
  have changedSource : namedSources input
      (ofKinds [.messageIdOnly, .presentWrongFolder] (input.mismatchList platform)) =
      (((input.reconciliation platform).changed ++
        (input.reconciliation platform).misplaced).map Prod.fst).toFinset := by
    rw [namedSources_ofKinds, Reconciliation.records_changed]
    simp [List.filterMap_append, List.filterMap_map]
  have changedDestination : namedDestinations input
      (ofKinds [.messageIdOnly, .presentWrongFolder] (input.mismatchList platform)) =
      (((input.reconciliation platform).changed ++
        (input.reconciliation platform).misplaced).map Prod.snd).toFinset := by
    rw [namedDestinations_ofKinds, Reconciliation.records_changed]
    simp [List.filterMap_append, List.filterMap_map]
  have missingSource : namedSources input
      (ofKinds [.missing] (input.mismatchList platform)) =
      (input.reconciliation platform).missing.toFinset := by
    rw [namedSources_ofKinds, Reconciliation.records_missing]
    simp [List.filterMap_map]
  have extraDestination : namedDestinations input
      (ofKinds [.extra] (input.mismatchList platform)) =
      (input.reconciliation platform).extra.toFinset := by
    rw [namedDestinations_ofKinds, Reconciliation.records_extra]
    simp [List.filterMap_map]
  have duplicatedDestination : namedDestinations input
      (ofKinds [.duplicated] (input.mismatchList platform)) =
      (input.reconciliation platform).duplicated.toFinset := by
    rw [namedDestinations_ofKinds, Reconciliation.records_duplicated]
    simp [List.filterMap_map]
  have matchedSource : (input.pass1After platform input.messageIds).matchedSource.filter
      (· ∉ (((input.reconciliation platform).changed ++
        (input.reconciliation platform).misplaced).map Prod.fst).toFinset) =
      ((input.reconciliation platform).exact.map Prod.fst).toFinset := by
    rw [List.map_append]
    exact filter_matched (input.clean_changed_nodup_left platform)
  have matchedDest : (input.pass1After platform input.messageIds).matchedDest.filter
      (· ∉ (((input.reconciliation platform).changed ++
        (input.reconciliation platform).misplaced).map Prod.snd).toFinset) =
      ((input.reconciliation platform).exact.map Prod.snd).toFinset := by
    rw [List.map_append]
    exact filter_matched (input.clean_changed_nodup_right platform)
  rw [summarize, changedSource, changedDestination, missingSource, extraDestination,
    duplicatedDestination, matchedSource, matchedDest, pass1_metadataMatches, pass3_eq,
    synthetic, ofKinds_mismatchList, ofKinds_mismatchList, ofKinds_mismatchList,
    ofKinds_mismatchList, Reconciliation.records_missing, Reconciliation.records_extra,
    Reconciliation.records_duplicated, Reconciliation.records_changed]
  simp only [List.length_map, List.length_append]
  rfl

/-- The outcome is a complete and consistent accounting of both maps. -/
theorem outcome_accounted :
    Accounted input.sourceMessages input.destMessages (input.outcome platform).mismatches
      (input.outcome platform).summary (input.outcome platform).membership where
  source := isPartition_of_perm ((sortUnstable_perm _).symm.trans
    ((input.reconciliation platform).sourceClasses_perm input.sources_nodup))
  destination := isPartition_of_perm ((sortUnstable_perm _).symm.trans
    ((input.reconciliation platform).destinationClasses_perm input.destinations_nodup))
  sourceNamedOnce := by
    have nodup := (input.reconciliation platform).records_sources_nodup input.sources_nodup
    simpa [outcome, mismatchList, List.filterMap_map, Function.comp_def, ofRecord, mismatch]
      using nodup
  destinationNamedOnce := by
    have nodup := (input.reconciliation platform).records_destinations_nodup
      input.destinations_nodup
    simpa [outcome, mismatchList, List.filterMap_map, Function.comp_def, ofRecord, mismatch]
      using nodup
  counters := by
    have sourceNodup := ((input.reconciliation platform).sourceClasses_perm
      input.sources_nodup).nodup input.sources_nodup
    have destNodup := ((input.reconciliation platform).destinationClasses_perm
      input.destinations_nodup).nodup input.destinations_nodup
    have sourceCard : ∀ keys ∈ (input.reconciliation platform).sourceClasses,
        keys.toFinset.card = keys.length := fun keys membership =>
      List.toFinset_card_of_nodup ((List.nodup_flatten.mp sourceNodup).1 keys membership)
    have destCard : ∀ keys ∈ (input.reconciliation platform).destinationClasses,
        keys.toFinset.card = keys.length := fun keys membership =>
      List.toFinset_card_of_nodup ((List.nodup_flatten.mp destNodup).1 keys membership)
    simp only [Reconciliation.sourceClasses, Reconciliation.destinationClasses,
      List.forall_mem_cons, List.length_map, List.length_append] at sourceCard destCard
    obtain ⟨exactS, probableS, missingS, changedS, -⟩ := sourceCard
    obtain ⟨exactD, probableD, extraD, duplicatedD, changedD, -⟩ := destCard
    simp only [expectedCounters, outcome, List.forall_mem_cons, exactS, probableS, missingS,
      changedS, exactD, probableD, extraD, duplicatedD, changedD, true_and]
    simp

/-- The validation never rejects what the passes produce. -/
theorem validate_outcome :
    validateVerificationSummary platform input.sourceMessages input.destMessages
      (input.outcome platform).mismatches (input.outcome platform).summary
      (input.outcome platform).membership = .ok () :=
  validateVerificationSummary_ok platform (input.outcome_accounted platform)

/-! ## The reconciliation -/

theorem mismatchList_eq :
    input.mismatchList platform =
      input.changedRecords platform input.messageIds ++
        input.misplacedRecords platform input.messageIds ++
        (input.reconciliation platform).missing.map
          (fun key => input.mismatch platform .missing (some key) none) ++
        (input.reconciliation platform).duplicated.map
          (fun key => input.mismatch platform .duplicated none (some key)) ++
        (input.reconciliation platform).extra.map
          (fun key => input.mismatch platform .extra none (some key)) := by
  simp only [mismatchList, Reconciliation.records, List.map_append, List.map_map]
  rfl

/-- The records that follow the passes: missing, duplicated and extra messages. -/
def leftoverRecords : List MessageMismatch :=
  (input.reconciliation platform).missing.map
      (fun key => input.mismatch platform .missing (some key) none) ++
    (input.reconciliation platform).duplicated.map
      (fun key => input.mismatch platform .duplicated none (some key)) ++
    (input.reconciliation platform).extra.map
      (fun key => input.mismatch platform .extra none (some key))

/-- After two passes within budget, the rest of the reconciliation appends the
leftover records. -/
theorem appendLeftovers_eq (log : MismatchLog)
    (fits : log.estimatedBytes ≤ maxEstimatedMismatchDetailBytes) :
    (do
      let log ← ((input.reconciliation platform).missing.map fun key =>
        input.mismatch platform .missing (some key) none).foldlM appendMismatchWithBudget log
      let log ← ((input.reconciliation platform).duplicated.map fun key =>
        input.mismatch platform .duplicated none (some key)).foldlM
          appendMismatchWithBudget log
      ((input.reconciliation platform).extra.map fun key =>
        input.mismatch platform .extra none (some key)).foldlM
          appendMismatchWithBudget log) =
      if log.estimatedBytes + mismatchDetailBytes (input.leftoverRecords platform) ≤
          maxEstimatedMismatchDetailBytes then
        .ok ⟨log.mismatches ++ input.leftoverRecords platform,
          log.estimatedBytes + mismatchDetailBytes (input.leftoverRecords platform)⟩
      else .error mismatchDetailBudgetError := by
  rw [← foldlM_appendMismatchWithBudget _ _ fits, leftoverRecords, List.foldlM_append,
    List.foldlM_append, bind_assoc]

/-- Without its budgets in the way, the reconciliation is its outcome; otherwise it
fails with the error of the budget it exceeds. -/
theorem reconcileMetadata_eq :
    reconcileMetadata platform input =
      if estimatedVerifierStateBytes input.sourceMessages input.destMessages >
          maxEstimatedVerifierStateBytes then .error verifierStateBudgetError
      else if mismatchDetailBytes (input.mismatchList platform) >
          maxEstimatedMismatchDetailBytes then .error mismatchDetailBudgetError
      else .ok (input.outcome platform) := by
  have listEq : input.mismatchList platform =
      input.changedRecords platform input.messageIds ++
        input.misplacedRecords platform input.messageIds ++
        input.leftoverRecords platform := by
    simp only [mismatchList_eq, leftoverRecords, List.append_assoc]
  have total : mismatchDetailBytes (input.mismatchList platform) =
      mismatchDetailBytes (input.changedRecords platform input.messageIds) +
        mismatchDetailBytes (input.misplacedRecords platform input.messageIds) +
        mismatchDetailBytes (input.leftoverRecords platform) := by
    rw [listEq, mismatchDetailBytes_append, mismatchDetailBytes_append]
  have bound : 2 * maxEstimatedMismatchDetailBytes < 2 ^ 64 - 1 := by decide
  by_cases overState : estimatedVerifierStateBytes input.sourceMessages input.destMessages >
      maxEstimatedVerifierStateBytes
  · simp only [reconcileMetadata, enforceVerifierStateBudget, if_pos overState, error_bind]
  rw [if_neg overState]
  by_cases fits1 : mismatchDetailBytes (input.changedRecords platform input.messageIds) ≤
      maxEstimatedMismatchDetailBytes
  swap
  · simp only [reconcileMetadata, enforceVerifierStateBudget, if_neg overState, ok_bind,
      pass1_eq, if_neg fits1, error_bind]
    rw [if_pos (by omega)]
  have bytes1 : saturatingAdd 0 (mismatchDetailBytes
      (input.pass1After platform input.messageIds).log.mismatches) =
      mismatchDetailBytes (input.changedRecords platform input.messageIds) := by
    simp only [saturatingAdd, pass1After]
    omega
  have check1 : enforceMismatchDetailBudget
      (mismatchDetailBytes (input.changedRecords platform input.messageIds)) = .ok () :=
    if_neg (by omega)
  have pass2 := input.pass2_eq platform
  simp only [unmatchedSource1, unmatchedDest1] at pass2
  by_cases fits2 : mismatchDetailBytes (input.misplacedRecords platform input.messageIds) ≤
      maxEstimatedMismatchDetailBytes
  swap
  · simp only [reconcileMetadata, enforceVerifierStateBudget, if_neg overState, ok_bind,
      pass1_eq, if_pos fits1, bytes1, check1, pass2, if_neg fits2, error_bind]
    rw [if_pos (by omega)]
  have bytes2 : saturatingAdd
      (mismatchDetailBytes (input.changedRecords platform input.messageIds))
      (mismatchDetailBytes (input.pass2After platform input.messageIds).log.mismatches) =
      mismatchDetailBytes (input.changedRecords platform input.messageIds) +
        mismatchDetailBytes (input.misplacedRecords platform input.messageIds) := by
    simp only [saturatingAdd, pass2After]
    omega
  by_cases fits12 : mismatchDetailBytes (input.changedRecords platform input.messageIds) +
      mismatchDetailBytes (input.misplacedRecords platform input.messageIds) ≤
      maxEstimatedMismatchDetailBytes
  swap
  · have check2 : enforceMismatchDetailBudget
        (mismatchDetailBytes (input.changedRecords platform input.messageIds) +
          mismatchDetailBytes (input.misplacedRecords platform input.messageIds)) =
        .error mismatchDetailBudgetError := if_pos (by omega)
    simp only [reconcileMetadata, enforceVerifierStateBudget, if_neg overState, ok_bind,
      pass1_eq, if_pos fits1, bytes1, check1, pass2, if_pos fits2, bytes2, check2,
      error_bind]
    rw [if_pos (by omega)]
  have check2 : enforceMismatchDetailBudget
      (mismatchDetailBytes (input.changedRecords platform input.messageIds) +
        mismatchDetailBytes (input.misplacedRecords platform input.messageIds)) = .ok () :=
    if_neg (by omega)
  have unfolded : reconcileMetadata platform input = (do
      let log ← (do
        let log ← ((input.reconciliation platform).missing.map fun key =>
          input.mismatch platform .missing (some key) none).foldlM appendMismatchWithBudget
            ⟨input.changedRecords platform input.messageIds ++
              input.misplacedRecords platform input.messageIds,
              mismatchDetailBytes (input.changedRecords platform input.messageIds) +
                mismatchDetailBytes (input.misplacedRecords platform input.messageIds)⟩
        let log ← ((input.reconciliation platform).duplicated.map fun key =>
          input.mismatch platform .duplicated none (some key)).foldlM
            appendMismatchWithBudget log
        ((input.reconciliation platform).extra.map fun key =>
          input.mismatch platform .extra none (some key)).foldlM
            appendMismatchWithBudget log)
      let result := summarize input (input.pass1After platform input.messageIds)
        (pass3FingerprintFallback platform input (input.unmatchedSource2 platform)
          (input.unmatchedDest2 platform))
        ((input.pass1After platform input.messageIds).matchedSource.card -
          (input.pass1After platform input.messageIds).log.mismatches.length) log.mismatches
      validateVerificationSummary platform input.sourceMessages input.destMessages
        result.mismatches result.summary result.membership
      return result) := by
    rw [← input.sort_unmatchedSource3 platform, ← input.sort_unmatchedDest3 platform,
      ← input.duplicateDestUids_eq platform]
    simp only [reconcileMetadata, enforceVerifierStateBudget, if_neg overState, ok_bind,
      pass1_eq, if_pos fits1, bytes1, check1, pass2, if_pos fits2, bytes2, check2,
      bind_assoc]
    rfl
  rw [unfolded, input.appendLeftovers_eq platform _ fits12, ← listEq]
  by_cases within : mismatchDetailBytes (input.mismatchList platform) ≤
      maxEstimatedMismatchDetailBytes
  · rw [if_pos (by simpa [total] using within), if_neg (by omega), ok_bind]
    simp only [input.summarize_eq platform, input.validate_outcome platform]
    rfl
  · rw [if_neg (by simpa [total] using within), if_pos (by omega), error_bind]

/-- The reconciliation succeeds exactly within its budgets. -/
theorem reconcileMetadata_ok_iff {result : MetadataReconciliation} :
    reconcileMetadata platform input = .ok result ↔
      input.WithinBudgets platform ∧ result = input.outcome platform := by
  rw [reconcileMetadata_eq]
  constructor
  · intro returned
    split_ifs at returned with overState overDetail
    exact ⟨⟨not_lt.mp overState, not_lt.mp overDetail⟩, (Except.ok.inj returned).symm⟩
  · rintro ⟨⟨state, detail⟩, rfl⟩
    rw [if_neg (not_lt.mpr state), if_neg (not_lt.mpr detail)]

end ReconciliationInput

end MailSwiftSync
