import Mathlib.Algebra.Order.BigOperators.Group.List
import MailSwiftSync.Verification.Fingerprints

/-!
# Content verification as a whole

With fingerprints for exactly the messages of both maps, and within the budgets,
the content pass returns the counters, classes and records of its specification,
and the validation accepts them.
-/

namespace MailSwiftSync

open Foundation

/-! ## Coverage -/

/-- Both maps have the same keys. -/
def SameKeys (messages : ExtractedMessages) (fingerprints : Fingerprints) : Prop :=
  ∀ key, key ∈ fingerprints ↔ key ∈ messages

theorem SameKeys.of_keys {messages : ExtractedMessages} {fingerprints : Fingerprints}
    (same : fingerprints.keys = messages.keys) : SameKeys messages fingerprints := by
  intro key
  rw [AList.mem_keys, AList.mem_keys, same]

theorem entries_length_eq_keys {β : Type} (map : AList fun _ : MailboxMessageKey => β) :
    map.entries.length = map.keys.length := by
  simp [AList.keys, List.keys]

/-- The coverage check accepts exactly equal key sets. -/
theorem checkCoverage_eq (side : String) (messages : ExtractedMessages)
    (fingerprints : Fingerprints) [Decidable (SameKeys messages fingerprints)] :
    checkCoverage side messages fingerprints =
      if SameKeys messages fingerprints then .ok ()
      else .error ("content verification requires exact " ++ side ++
        " message/fingerprint key coverage") := by
  have equivalent : (messages.entries.length ≠ fingerprints.entries.length ∨
      messages.keys.any (· ∉ fingerprints)) ↔ ¬SameKeys messages fingerprints := by
    rw [entries_length_eq_keys, entries_length_eq_keys, ← not_iff_not, not_not, not_or,
      not_not, List.any_eq_true]
    simp only [decide_eq_true_eq, not_exists, not_and, not_not]
    constructor
    · rintro ⟨sameLength, contained⟩ key
      have subperm : messages.keys.Subperm fingerprints.keys :=
        messages.keys_nodup.subperm fun other membership =>
          AList.mem_keys.mp (contained other membership)
      have perm := subperm.perm_of_length_le sameLength.ge
      rw [AList.mem_keys, AList.mem_keys, perm.mem_iff]
    · intro same
      have perm : messages.keys.Perm fingerprints.keys := by
        rw [List.perm_ext_iff_of_nodup messages.keys_nodup fingerprints.keys_nodup]
        intro key
        rw [← AList.mem_keys, ← AList.mem_keys, same key]
      refine ⟨perm.length_eq, fun key membership => ?_⟩
      exact AList.mem_keys.mpr (perm.mem_iff.mp membership)
  rw [checkCoverage]
  split_ifs with rejected covered covered
  · exact absurd covered (equivalent.mp rejected)
  · rfl
  · rfl
  · exact absurd (equivalent.mpr covered) rejected

namespace ContentInput

variable (platform : Platform) (input : ContentInput)

/-- Both endpoints have fingerprints for exactly their messages. -/
structure Covered : Prop where
  source : SameKeys input.sourceMessages input.sourceFingerprints
  dest : SameKeys input.destMessages input.destFingerprints

/-- Body of a source message. -/
abbrev sourceBody : MailboxMessageKey → String := input.sourceFingerprints.at

/-- Body of a destination message. -/
abbrev destBody : MailboxMessageKey → String := input.destFingerprints.at

/-- Pairs that content adds. -/
abbrev fallbackPairs : List (MailboxMessageKey × MailboxMessageKey) :=
  (input.reconciliation platform).fallback input.sourceBody input.destBody

/-- Exact pairs in the order they are compared. -/
def orderedPairs : List (MailboxMessageKey × MailboxMessageKey) :=
  (sortUnstable ((input.outcome platform).cleanPairs.map toLex)).map ofLex

/-- The compared pairs whose bodies differ. -/
def differingOf (pairs : List (MailboxMessageKey × MailboxMessageKey)) :
    List (MailboxMessageKey × MailboxMessageKey) :=
  pairs.filter fun pair => input.sourceBody pair.1 ≠ input.destBody pair.2

/-- The record of a differing pair. -/
def differingRecord (pair : MailboxMessageKey × MailboxMessageKey) : MessageMismatch :=
  input.contentMismatch platform pair (input.sourceBody pair.1) (input.destBody pair.2)

/-- Metadata records that the resolved pairs leave. -/
def retainedList : List MessageMismatch :=
  ((input.reconciliation platform).keptRecords input.sourceBody input.destBody).map
    (input.ofRecord platform)

/-- All records after the content pass. -/
def contentMismatchList : List MessageMismatch :=
  input.retainedList platform ++
    (input.differingOf (input.orderedPairs platform)).map (input.differingRecord platform)

/-- What the content pass holds before its validation. -/
def contentOutcome : ContentState :=
  let r := input.reconciliation platform
  { log := ⟨input.contentMismatchList platform,
      mismatchDetailBytes (input.contentMismatchList platform)⟩
    summary := { (input.outcome platform).summary with
      metadataMatches := (r.confirmed input.sourceBody input.destBody ++
        r.fallback input.sourceBody input.destBody).length
      missingCount := (r.stillMissing input.sourceBody input.destBody).length
      extraCount := (r.stillExtra input.sourceBody input.destBody).length
      changedCount := (r.changed ++ r.misplaced ++
        r.differing input.sourceBody input.destBody).length }
    membership := { (input.outcome platform).membership with
      matchedSource := ((r.confirmed input.sourceBody input.destBody ++
        r.fallback input.sourceBody input.destBody).map Prod.fst).toFinset
      matchedDestination := ((r.confirmed input.sourceBody input.destBody ++
        r.fallback input.sourceBody input.destBody).map Prod.snd).toFinset
      missingSource := (r.stillMissing input.sourceBody input.destBody).toFinset
      extraDestination := (r.stillExtra input.sourceBody input.destBody).toFinset
      changedSource := ((r.changed ++ r.misplaced ++
        r.differing input.sourceBody input.destBody).map Prod.fst).toFinset
      changedDestination := ((r.changed ++ r.misplaced ++
        r.differing input.sourceBody input.destBody).map Prod.snd).toFinset } }

/-- The budgets of the metadata pass, and the same bound on the final records. -/
structure WithinBudgets : Prop where
  metadata : input.toReconciliationInput.WithinBudgets platform
  detail : mismatchDetailBytes (input.contentMismatchList platform) ≤
    maxEstimatedMismatchDetailBytes

/-! ## Resolved pairs -/

theorem orderedPairs_perm :
    (input.orderedPairs platform).Perm (input.reconciliation platform).exact := by
  have sorted := (sortUnstable_perm ((input.outcome platform).cleanPairs.map toLex)).map ofLex
  have unsorted : (((input.outcome platform).cleanPairs.map toLex).map ofLex) =
      (input.reconciliation platform).exact := by
    simp [ReconciliationInput.outcome, List.map_map, Function.comp_def]
  rw [← unsorted]
  exact sorted

variable {pair : MailboxMessageKey × MailboxMessageKey}

theorem fingerprintPair_eq_some (covered : input.Covered)
    {entry : Sigma fun _ : String => MailboxMessageKey}
    (inIndex : entry ∈ (uniqueFingerprintIndex input.sourceFingerprints).entries) :
    input.fingerprintPair (input.outcome platform).membership entry = some pair ↔
      entry.2 = pair.1 ∧
        (input.reconciliation platform).Identified input.sourceBody input.destBody
          pair.1 pair.2 := by
  obtain ⟨sourceKey, destKey⟩ := pair
  obtain ⟨isSource, isBody, uniqueSource⟩ :=
    (lookup_uniqueFingerprintIndex _ _ _).mp (AList.mem_lookup_iff.mpr inIndex)
  have sourceKeys : ∀ {key}, key ∈ input.sources ↔ key ∈ input.sourceFingerprints.keys := by
    intro key
    rw [input.mem_sources, ← AList.mem_keys, covered.source]
  have destKeys : ∀ {key}, key ∈ input.destinations ↔ key ∈ input.destFingerprints.keys := by
    intro key
    rw [input.mem_destinations, ← AList.mem_keys, covered.dest]
  simp only [fingerprintPair, Option.bind_eq_bind, Option.bind_eq_some_iff,
    Option.guard_eq_some_iff, lookup_uniqueFingerprintIndex, decide_eq_true_eq,
    Prod.mk.injEq]
  constructor
  · rintro ⟨_, ⟨rfl, _⟩, _, ⟨_, ⟨_, sameBody, uniqueDest⟩, rfl, _⟩, ⟨rfl, rfl⟩,
      isMissing, isExtra, folder⟩
    refine ⟨rfl, List.mem_toFinset.mp isMissing, List.mem_toFinset.mp isExtra, folder, ?_,
      ?_, ?_⟩
    · rw [sourceBody, isBody, destBody, sameBody]
    · exact fun other membership => uniqueSource other (sourceKeys.mp membership)
    · exact fun other membership => uniqueDest other (destKeys.mp membership)
  · rintro ⟨rfl, identified⟩
    have isDest := (input.reconciliation platform).extra_subset identified.extra
    refine ⟨entry.2, ⟨rfl, (covered.source _).mp isSource⟩, destKey,
      ⟨destKey, ⟨?_, ?_, ?_⟩, rfl, input.mem_destinations.mp isDest⟩, ⟨rfl, rfl⟩,
      List.mem_toFinset.mpr identified.missing, List.mem_toFinset.mpr identified.extra,
      identified.folder⟩
    · exact AList.mem_keys.mpr (destKeys.mp isDest)
    · rw [← isBody]
      exact identified.body.symm
    · exact fun other membership => identified.uniqueDest other (destKeys.mpr membership)

theorem fingerprintPairs_perm (covered : input.Covered) :
    (input.fingerprintPairs (input.outcome platform).membership).Perm
      (input.fallbackPairs platform) := by
  have unsorted : (input.fingerprintPairs (input.outcome platform).membership).Perm
      ((uniqueFingerprintIndex input.sourceFingerprints).entries.filterMap
        (input.fingerprintPair (input.outcome platform).membership)) := by
    have sorted := (sortUnstable_perm
      (((uniqueFingerprintIndex input.sourceFingerprints).entries.filterMap
        (input.fingerprintPair (input.outcome platform).membership)).map toLex)).map ofLex
    simpa [fingerprintPairs, List.map_map, Function.comp_def] using sorted
  refine unsorted.trans ((List.perm_ext_iff_of_nodup ?_ ?_).mpr ?_)
  · rw [List.Nodup, List.pairwise_filterMap]
    have keysDiffer := List.nodupKeys_iff_pairwise.mp
      (uniqueFingerprintIndex input.sourceFingerprints).nodupKeys
    apply keysDiffer.imp_of_mem
    intro entry other inIndex inIndex' different pair found pair' found' same
    subst same
    rw [input.fingerprintPair_eq_some platform covered inIndex] at found
    rw [input.fingerprintPair_eq_some platform covered inIndex'] at found'
    have body := (lookup_uniqueFingerprintIndex _ _ _).mp (AList.mem_lookup_iff.mpr inIndex)
    have body' := (lookup_uniqueFingerprintIndex _ _ _).mp
      (AList.mem_lookup_iff.mpr inIndex')
    apply different
    rw [← body.2.1, ← body'.2.1, found.1, found'.1]
  · exact (input.reconciliation platform).fallback_nodup _ _ input.sources_nodup
  · intro pair
    rw [Reconciliation.mem_fallback, List.mem_filterMap]
    constructor
    · rintro ⟨entry, inIndex, found⟩
      exact ((input.fingerprintPair_eq_some platform covered inIndex).mp found).2
    · intro identified
      have isSource := (input.reconciliation platform).missing_subset identified.missing
      have inKeys : pair.1 ∈ input.sourceFingerprints :=
        (covered.source _).mpr (input.mem_sources.mp isSource)
      have unique : UniqueIn input.sourceFingerprints.at input.sourceFingerprints.keys
          pair.1 := by
        intro other membership
        apply identified.uniqueSource other
        rw [input.mem_sources, ← covered.source, AList.mem_keys]
        exact membership
      have inIndex := AList.mem_lookup_iff.mp ((lookup_uniqueFingerprintIndex
        input.sourceFingerprints _ pair.1).mpr ⟨inKeys, rfl, unique⟩)
      exact ⟨_, inIndex, (input.fingerprintPair_eq_some platform covered inIndex).mpr
        ⟨rfl, identified⟩⟩

/-- Resolving pairs one by one moves their members from missing and extra to
matched. -/
theorem foldl_resolvePair (pairs : List (MailboxMessageKey × MailboxMessageKey))
    (summary : VerificationSummary) (membership : VerificationMembership) :
    pairs.foldl resolvePair (summary, membership) =
      ({ summary with
          missingCount := summary.missingCount - pairs.length
          extraCount := summary.extraCount - pairs.length
          metadataMatches := summary.metadataMatches + pairs.length },
        { membership with
          missingSource := membership.missingSource \ (pairs.map Prod.fst).toFinset
          extraDestination := membership.extraDestination \ (pairs.map Prod.snd).toFinset
          matchedSource := membership.matchedSource ∪ (pairs.map Prod.fst).toFinset
          matchedDestination :=
            membership.matchedDestination ∪ (pairs.map Prod.snd).toFinset }) := by
  induction pairs generalizing summary membership with
  | nil => simp
  | cons pair rest ih =>
    rw [List.foldl_cons, resolvePair, ih]
    have erase : ∀ (keys others : Finset MailboxMessageKey) (key : MailboxMessageKey),
        keys.erase key \ others = keys \ insert key others := by
      intro keys others key
      ext other
      simp only [Finset.mem_sdiff, Finset.mem_erase, Finset.mem_insert]
      tauto
    simp only [List.length_cons, List.map_cons, List.toFinset_cons, erase,
      Finset.insert_union, Finset.union_insert, Nat.sub_sub, Nat.add_assoc, Nat.add_comm 1]

variable {pairs : List (MailboxMessageKey × MailboxMessageKey)}

/-- Which entries of the metadata records survive. -/
theorem retained_ofRecord
    {record : MismatchType × Option MailboxMessageKey × Option MailboxMessageKey}
    (membership : record ∈ (input.reconciliation platform).records) :
    input.retained pairs (input.ofRecord platform record) =
      Reconciliation.survives pairs record := by
  have source : mismatchSourceKey (input.ofRecord platform record)
      (buildUidFolderIndex input.sourceMessages) = record.2.1 := by
    rw [mismatchSourceKey_eq, ReconciliationInput.ofRecord, ReconciliationInput.mismatch,
      makeMismatch_sourceKey]
    cases named : record.2.1 with
    | none => rfl
    | some key =>
      have known := input.mem_sources.mp ((input.reconciliation platform).source_of_record
        input.sources_nodup membership named)
      simp [Option.filter, known]
  have dest : mismatchDestinationKey (input.ofRecord platform record)
      (buildUidFolderIndex input.destMessages) = record.2.2 := by
    rw [mismatchDestinationKey_eq, ReconciliationInput.ofRecord,
      ReconciliationInput.mismatch, makeMismatch_destKey]
    cases named : record.2.2 with
    | none => rfl
    | some key =>
      have known := input.mem_destinations.mp
        ((input.reconciliation platform).destination_of_record
          input.destinations_nodup membership named)
      simp [Option.filter, known]
  rw [retained, source, dest]
  rfl

theorem filter_retained (perm : pairs.Perm (input.fallbackPairs platform)) :
    (input.outcome platform).mismatches.filter (input.retained pairs) =
      input.retainedList platform := by
  rw [ReconciliationInput.outcome, ReconciliationInput.mismatchList, List.filter_map,
    retainedList, ← (input.reconciliation platform).filter_survives _ _ perm]
  refine congrArg _ (List.filter_congr ?_)
  intro record membership
  exact input.retained_ofRecord platform membership

/-- With no pair to resolve every record is retained, so the shortcut for an empty
list changes nothing. -/
theorem resolvePairs_eq (perm : pairs.Perm (input.fallbackPairs platform)) :
    input.resolvePairs pairs (input.outcome platform) =
      (input.retainedList platform, pairs.foldl resolvePair
        ((input.outcome platform).summary, (input.outcome platform).membership)) := by
  rw [resolvePairs, input.filter_retained platform perm]
  split_ifs with empty
  · obtain rfl := List.isEmpty_iff.mp empty
    rw [← input.filter_retained platform perm]
    have all : ∀ mismatch, input.retained [] mismatch = true := by
      intro mismatch
      unfold retained
      split <;> simp
    rw [List.filter_eq_self.mpr fun mismatch _ => all mismatch]
    rfl
  · rfl

/-! ## Comparing bodies -/

/-- The state once the pairs in `done` are compared. -/
def comparedAfter (start : ContentState)
    (done : List (MailboxMessageKey × MailboxMessageKey)) : ContentState where
  log := ⟨start.log.mismatches ++
      (input.differingOf done).map (input.differingRecord platform),
    start.log.estimatedBytes +
      mismatchDetailBytes ((input.differingOf done).map (input.differingRecord platform))⟩
  summary := { start.summary with
    metadataMatches := start.summary.metadataMatches - (input.differingOf done).length
    changedCount := start.summary.changedCount + (input.differingOf done).length }
  membership := { start.membership with
    matchedSource := start.membership.matchedSource \
      ((input.differingOf done).map Prod.fst).toFinset
    matchedDestination := start.membership.matchedDestination \
      ((input.differingOf done).map Prod.snd).toFinset
    changedSource := start.membership.changedSource ∪
      ((input.differingOf done).map Prod.fst).toFinset
    changedDestination := start.membership.changedDestination ∪
      ((input.differingOf done).map Prod.snd).toFinset }

theorem lookup_of_covered {messages : ExtractedMessages} {fingerprints : Fingerprints}
    (sameKeys : SameKeys messages fingerprints) {key : MailboxMessageKey}
    (known : key ∈ messages) : fingerprints.lookup key = some (fingerprints.at key) := by
  obtain ⟨fingerprint, found⟩ := Option.isSome_iff_exists.mp
    (AList.lookup_isSome.mpr ((sameKeys key).mpr known))
  rw [Fingerprints.at, found]
  rfl

variable {done : List (MailboxMessageKey × MailboxMessageKey)}

theorem comparedAfter_same (start : ContentState)
    (same : input.sourceBody pair.1 = input.destBody pair.2) :
    input.comparedAfter platform start (done ++ [pair]) =
      input.comparedAfter platform start done := by
  simp [comparedAfter, differingOf, List.filter_append, same]

theorem comparedAfter_different (start : ContentState)
    (different : input.sourceBody pair.1 ≠ input.destBody pair.2) :
    input.comparedAfter platform start (done ++ [pair]) =
      let state := input.comparedAfter platform start done
      { log := ⟨state.log.mismatches ++ [input.differingRecord platform pair],
          state.log.estimatedBytes +
            mismatchDetailBytes [input.differingRecord platform pair]⟩
        summary := { state.summary with
          metadataMatches := state.summary.metadataMatches - 1
          changedCount := state.summary.changedCount + 1 }
        membership := { state.membership with
          matchedSource := state.membership.matchedSource.erase pair.1
          matchedDestination := state.membership.matchedDestination.erase pair.2
          changedSource := insert pair.1 state.membership.changedSource
          changedDestination := insert pair.2 state.membership.changedDestination } } := by
  have extended : input.differingOf (done ++ [pair]) = input.differingOf done ++ [pair] := by
    simp [differingOf, List.filter_append, different]
  have erase : ∀ (keys others : Finset MailboxMessageKey) (key : MailboxMessageKey),
      (keys \ others).erase key = keys \ (others ∪ {key}) := by
    intro keys others key
    ext other
    simp only [Finset.mem_sdiff, Finset.mem_erase, Finset.mem_union, Finset.mem_singleton]
    tauto
  have insertLast : ∀ (keys others : Finset MailboxMessageKey) (key : MailboxMessageKey),
      insert key (keys ∪ others) = keys ∪ (others ∪ {key}) := by
    intro keys others key
    ext other
    simp only [Finset.mem_insert, Finset.mem_union, Finset.mem_singleton]
    tauto
  simp only [comparedAfter, extended, List.map_append, List.map_singleton,
    List.toFinset_append, List.toFinset_cons, List.toFinset_nil, insert_empty_eq, erase,
    insertLast, List.length_append, List.length_singleton, Nat.sub_sub, Nat.add_assoc,
    List.append_assoc, mismatchDetailBytes_append]

theorem comparePair_eq (covered : input.Covered) {start : ContentState}
    (isSource : pair.1 ∈ input.sourceMessages) (isDest : pair.2 ∈ input.destMessages)
    (fits : (input.comparedAfter platform start done).log.estimatedBytes ≤
      maxEstimatedMismatchDetailBytes) :
    input.comparePair platform (input.comparedAfter platform start done) pair =
      if (input.comparedAfter platform start (done ++ [pair])).log.estimatedBytes ≤
          maxEstimatedMismatchDetailBytes then
        .ok (input.comparedAfter platform start (done ++ [pair]))
      else .error mismatchDetailBudgetError := by
  rw [comparePair, lookup_of_covered covered.source isSource,
    lookup_of_covered covered.dest isDest]
  by_cases same : input.sourceBody pair.1 = input.destBody pair.2
  · rw [input.comparedAfter_same platform start same, if_pos fits]
    exact if_pos same
  · rw [input.comparedAfter_different platform start same]
    generalize input.comparedAfter platform start done = state at fits ⊢
    have appended := foldlM_appendMismatchWithBudget [input.differingRecord platform pair]
      state.log fits
    simp only [List.foldlM_cons, List.foldlM_nil, bind_pure] at appended
    change (if input.sourceBody pair.1 = input.destBody pair.2 then _ else
      appendMismatchWithBudget state.log (input.differingRecord platform pair) >>= _) = _
    rw [if_neg same, appended]
    split
    next => rfl
    next => rfl

/-- All exact pairs are compared unless the records exceed the budget. -/
theorem foldlM_comparePair (covered : input.Covered) {start : ContentState}
    (fits : start.log.estimatedBytes ≤ maxEstimatedMismatchDetailBytes) :
    (input.orderedPairs platform).foldlM (input.comparePair platform) start =
      if (input.comparedAfter platform start
          (input.orderedPairs platform)).log.estimatedBytes ≤
          maxEstimatedMismatchDetailBytes then
        .ok (input.comparedAfter platform start (input.orderedPairs platform))
      else .error mismatchDetailBudgetError := by
  have known : ∀ pair ∈ input.orderedPairs platform,
      pair.1 ∈ input.sourceMessages ∧ pair.2 ∈ input.destMessages := by
    intro pair inPairs
    have inExact := (input.orderedPairs_perm platform).mem_iff.mp inPairs
    have exactPairs := (input.reconciliation platform).exactPairs
    exact ⟨input.mem_sources.mp (exactPairs.mem_left inExact),
      input.mem_destinations.mp (exactPairs.mem_right inExact)⟩
  have begin : start = input.comparedAfter platform start [] := by
    simp [comparedAfter, differingOf, mismatchDetailBytes]
  nth_rewrite 1 [begin]
  apply foldlM_metered (input.comparedAfter platform start)
    (fun done => (input.comparedAfter platform start done).log.estimatedBytes)
  · intro done more
    simp [comparedAfter, differingOf, List.filter_append]
  · intro done pair rest here within
    obtain ⟨isSource, isDest⟩ := known pair (here ▸ by simp)
    exact input.comparePair_eq platform covered isSource isDest within
  · exact begin ▸ fits

/-! ## The outcome -/

theorem differingOf_perm :
    (input.differingOf (input.orderedPairs platform)).Perm
      ((input.reconciliation platform).differing input.sourceBody input.destBody) :=
  (input.orderedPairs_perm platform).filter _

/-- Removing what content rejects from everything matched leaves what it confirms
and what it adds. -/
theorem matched_sdiff {exact confirmed differing fallback : List MailboxMessageKey}
    (split : exact.Perm (confirmed ++ differing)) (nodup : exact.Nodup)
    (apart : ∀ key ∈ fallback, key ∉ exact) :
    (exact.toFinset ∪ fallback.toFinset) \ differing.toFinset =
      (confirmed ++ fallback).toFinset := by
  have disjoint := (List.nodup_append.mp (split.nodup nodup)).2.2
  ext key
  simp only [Finset.mem_sdiff, Finset.mem_union, List.mem_toFinset, List.mem_append,
    split.mem_iff]
  constructor
  · rintro ⟨(isConfirmed | isDiffering) | isFallback, notDiffering⟩
    · exact .inl isConfirmed
    · exact absurd isDiffering notDiffering
    · exact .inr isFallback
  · rintro (isConfirmed | isFallback)
    · exact ⟨.inl (.inl isConfirmed), fun isDiffering =>
        disjoint key isConfirmed key isDiffering rfl⟩
    · refine ⟨.inr isFallback, fun isDiffering => apart key isFallback ?_⟩
      exact split.mem_iff.mpr (List.mem_append_right _ isDiffering)

theorem toFinset_sdiff_perm {all chosen rest : List MailboxMessageKey}
    (split : all.Perm (chosen ++ rest)) (nodup : all.Nodup) :
    all.toFinset \ chosen.toFinset = rest.toFinset := by
  have disjoint := (List.nodup_append.mp (split.nodup nodup)).2.2
  ext key
  simp only [Finset.mem_sdiff, List.mem_toFinset, split.mem_iff, List.mem_append]
  constructor
  · rintro ⟨isChosen | isRest, notChosen⟩
    · exact absurd isChosen notChosen
    · exact isRest
  · intro isRest
    exact ⟨.inr isRest, fun isChosen => disjoint key isChosen key isRest rfl⟩

/-- The state before bodies are compared. -/
def resolvedState (pairs : List (MailboxMessageKey × MailboxMessageKey)) : ContentState :=
  let resolved := pairs.foldl resolvePair
    ((input.outcome platform).summary, (input.outcome platform).membership)
  ⟨⟨input.retainedList platform, mismatchDetailBytes (input.retainedList platform)⟩,
    resolved.1, resolved.2⟩

/-- After resolving and comparing all pairs the state is the outcome. -/
theorem comparedAfter_resolvedState (perm : pairs.Perm (input.fallbackPairs platform)) :
    input.comparedAfter platform (input.resolvedState platform pairs)
      (input.orderedPairs platform) = input.contentOutcome platform := by
  have differing := input.differingOf_perm platform
  have exactSplit := (input.reconciliation platform).exact_split input.sourceBody
    input.destBody
  have missingSplit := (input.reconciliation platform).missing_perm input.sourceBody
    input.destBody input.sources_nodup
  have extraSplit := (input.reconciliation platform).extra_perm input.sourceBody
    input.destBody input.sources_nodup input.destinations_nodup
  have fallbackMissing : ∀ key ∈ (input.fallbackPairs platform).map Prod.fst,
      key ∈ (input.reconciliation platform).missing := fun key membership =>
    missingSplit.mem_iff.mpr (List.mem_append_left _ membership)
  have fallbackExtra : ∀ key ∈ (input.fallbackPairs platform).map Prod.snd,
      key ∈ (input.reconciliation platform).extra := fun key membership =>
    extraSplit.mem_iff.mpr (List.mem_append_left _ membership)
  have exactS := (input.reconciliation platform).exactPairs.nodup_left input.sources_nodup
  have exactD := (input.reconciliation platform).exactPairs.nodup_right
    input.destinations_nodup
  have sourceApart : ∀ key ∈ (input.fallbackPairs platform).map Prod.fst,
      key ∉ (input.reconciliation platform).exact.map Prod.fst := by
    intro key isFallback
    exact (input.reconciliation platform).missing_not_exact (fallbackMissing key isFallback)
  have destApart : ∀ key ∈ (input.fallbackPairs platform).map Prod.snd,
      key ∉ (input.reconciliation platform).exact.map Prod.snd := by
    intro key isFallback
    exact (input.reconciliation platform).extra_not_exact (fallbackExtra key isFallback)
  have matchedSource := matched_sdiff (by simpa using exactSplit.map Prod.fst) exactS
    sourceApart
  have matchedDest := matched_sdiff (by simpa using exactSplit.map Prod.snd) exactD
    destApart
  have missingLeft := toFinset_sdiff_perm missingSplit (input.sources_nodup.filter _)
  have extraLeft := toFinset_sdiff_perm extraSplit
    ((input.destinations_nodup.filter _).filter _)
  have exactCount := exactSplit.length_eq
  have missingCount := missingSplit.length_eq
  have extraCount := extraSplit.length_eq
  simp only [List.length_append, List.length_map] at exactCount missingCount extraCount
  have pairsS := List.toFinset_eq_of_perm _ _ (perm.map Prod.fst)
  have pairsD := List.toFinset_eq_of_perm _ _ (perm.map Prod.snd)
  have differingS := List.toFinset_eq_of_perm _ _ (differing.map Prod.fst)
  have differingD := List.toFinset_eq_of_perm _ _ (differing.map Prod.snd)
  simp only [fallbackPairs] at pairsS pairsD
  simp only [resolvedState, foldl_resolvePair, comparedAfter, pairsS, pairsD, differingS,
    differingD, perm.length_eq, differing.length_eq, fallbackPairs, contentOutcome,
    ReconciliationInput.outcome, ContentState.mk.injEq, VerificationSummary.mk.injEq,
    VerificationMembership.mk.injEq, List.length_append, List.map_append, List.toFinset_append,
    true_and, and_true]
  rw [List.toFinset_append] at matchedSource matchedDest
  refine ⟨?_, ?_, matchedSource, matchedDest, missingLeft, extraLeft⟩
  · rw [contentMismatchList, mismatchDetailBytes_append]
  · omega

/-- The retained records are some of the metadata records. -/
theorem retainedList_bytes_le :
    mismatchDetailBytes (input.retainedList platform) ≤
      mismatchDetailBytes (input.mismatchList platform) := by
  have retained := input.filter_retained platform (.refl (input.fallbackPairs platform))
  rw [← retained]
  exact (List.filter_sublist.map _).sum_le_sum fun _ _ => Nat.zero_le _

/-- After the metadata pass, only the budget of the records is left to exceed. -/
theorem refineByContent_of_metadata (covered : input.Covered)
    (returned : reconcileMetadata platform input.toReconciliationInput =
      .ok (input.outcome platform))
    (fits : mismatchDetailBytes (input.mismatchList platform) ≤
      maxEstimatedMismatchDetailBytes) :
    input.refineByContent platform =
      if mismatchDetailBytes (input.contentMismatchList platform) ≤
          maxEstimatedMismatchDetailBytes then .ok (input.contentOutcome platform)
      else .error mismatchDetailBudgetError := by
  classical
  have perm := input.fingerprintPairs_perm platform covered
  have retainedFits : mismatchDetailBytes (input.retainedList platform) ≤
      maxEstimatedMismatchDetailBytes :=
    (input.retainedList_bytes_le platform).trans fits
  have outcomeBytes : (input.contentOutcome platform).log.estimatedBytes =
      mismatchDetailBytes (input.contentMismatchList platform) := by
    rw [contentOutcome]
  have check : enforceMismatchDetailBudget
      (mismatchDetailBytes (input.retainedList platform)) = .ok () :=
    if_neg (not_lt.mpr retainedFits)
  have startBytes : (input.resolvedState platform (input.fingerprintPairs
      (input.outcome platform).membership)).log.estimatedBytes =
      mismatchDetailBytes (input.retainedList platform) := by
    rw [resolvedState]
  have compared := input.foldlM_comparePair platform covered (startBytes.trans_le retainedFits)
  rw [input.comparedAfter_resolvedState platform perm, outcomeBytes] at compared
  rw [refineByContent, checkCoverage_eq, checkCoverage_eq, if_pos covered.source,
    if_pos covered.dest, ok_bind, ok_bind, returned, ok_bind,
    input.resolvePairs_eq platform perm]
  simp only [check, ok_bind]
  rw [resolvedState, orderedPairs] at compared
  exact compared

/-- The content pass fails with the metadata pass. -/
theorem refineByContent_of_error (covered : input.Covered) {error : String}
    (failed : reconcileMetadata platform input.toReconciliationInput = .error error) :
    input.refineByContent platform = .error error := by
  classical
  rw [refineByContent, checkCoverage_eq, checkCoverage_eq, if_pos covered.source,
    if_pos covered.dest, ok_bind, ok_bind, failed, error_bind]

/-- With full coverage, the content pass is its outcome unless a budget is
exceeded. -/
theorem refineByContent_eq (covered : input.Covered) :
    input.refineByContent platform =
      if estimatedVerifierStateBytes input.sourceMessages input.destMessages >
          maxEstimatedVerifierStateBytes then .error verifierStateBudgetError
      else if mismatchDetailBytes (input.mismatchList platform) >
          maxEstimatedMismatchDetailBytes then .error mismatchDetailBudgetError
      else if mismatchDetailBytes (input.contentMismatchList platform) >
          maxEstimatedMismatchDetailBytes then .error mismatchDetailBudgetError
      else .ok (input.contentOutcome platform) := by
  have metadata := input.reconcileMetadata_eq platform
  by_cases overState : estimatedVerifierStateBytes input.sourceMessages input.destMessages >
      maxEstimatedVerifierStateBytes
  · rw [if_pos overState] at metadata ⊢
    exact input.refineByContent_of_error platform covered metadata
  by_cases overDetail : mismatchDetailBytes (input.mismatchList platform) >
      maxEstimatedMismatchDetailBytes
  · rw [if_neg overState, if_pos overDetail] at metadata ⊢
    exact input.refineByContent_of_error platform covered metadata
  rw [if_neg overState, if_neg overDetail] at metadata ⊢
  rw [input.refineByContent_of_metadata platform covered metadata (not_lt.mp overDetail)]
  by_cases exceeded : mismatchDetailBytes (input.contentMismatchList platform) >
      maxEstimatedMismatchDetailBytes
  · rw [if_pos exceeded, if_neg (not_le.mpr exceeded)]
  · rw [if_neg exceeded, if_pos (not_lt.mp exceeded)]

theorem refineByContent_ok_iff {state : ContentState} :
    input.refineByContent platform = .ok state ↔
      input.Covered ∧ input.WithinBudgets platform ∧
        state = input.contentOutcome platform := by
  classical
  by_cases covered : input.Covered
  · rw [input.refineByContent_eq platform covered, and_iff_right covered]
    constructor
    · intro returned
      split_ifs at returned with overState overDetail overContent
      exact ⟨⟨⟨not_lt.mp overState, not_lt.mp overDetail⟩, not_lt.mp overContent⟩,
        (Except.ok.inj returned).symm⟩
    · rintro ⟨⟨⟨state, detail⟩, content⟩, rfl⟩
      rw [if_neg (not_lt.mpr state), if_neg (not_lt.mpr detail), if_neg (not_lt.mpr content)]
  · constructor
    · intro returned
      exfalso
      apply covered
      rw [refineByContent, checkCoverage_eq, checkCoverage_eq] at returned
      by_cases source : SameKeys input.sourceMessages input.sourceFingerprints
      · by_cases dest : SameKeys input.destMessages input.destFingerprints
        · exact ⟨source, dest⟩
        · rw [if_pos source, ok_bind, if_neg dest, error_bind] at returned
          cases returned
      · rw [if_neg source, error_bind] at returned
        cases returned
    · rintro ⟨isCovered, _⟩
      exact absurd isCovered covered

/-! ## Validation -/

theorem contentMismatchList_classification :
    ((input.contentMismatchList platform).map MessageMismatch.classification).Perm
      ((input.reconciliation platform).contentRecords input.sourceBody input.destBody) := by
  have kept : (input.retainedList platform).map MessageMismatch.classification =
      (input.reconciliation platform).keptRecords input.sourceBody input.destBody := by
    have each : MessageMismatch.classification ∘ input.ofRecord platform = id := by
      funext record
      simp [ReconciliationInput.ofRecord, ReconciliationInput.mismatch]
    rw [retainedList, List.map_map, each, List.map_id]
  have differing : ((input.differingOf (input.orderedPairs platform)).map
      (input.differingRecord platform)).map MessageMismatch.classification =
      (input.differingOf (input.orderedPairs platform)).map
        fun pair => (.messageIdOnly, some pair.1, some pair.2) := by
    rw [List.map_map]
    rfl
  rw [contentMismatchList, List.map_append, kept, differing, Reconciliation.contentRecords]
  exact ((input.differingOf_perm platform).map _).append_left _

theorem filterMap_classification
    (keyOf : MismatchType × Option MailboxMessageKey × Option MailboxMessageKey →
      Option MailboxMessageKey)
    (nodup : (((input.reconciliation platform).contentRecords input.sourceBody
      input.destBody).filterMap keyOf).Nodup) :
    ((input.contentMismatchList platform).filterMap
      fun mismatch => keyOf mismatch.classification).Nodup := by
  have perm := (input.contentMismatchList_classification platform).filterMap keyOf
  rw [List.filterMap_map] at perm
  exact perm.nodup_iff.mpr nodup

/-- The outcome of the content pass is a complete and consistent accounting. -/
theorem contentOutcome_accounted :
    Accounted input.sourceMessages input.destMessages
      (input.contentOutcome platform).log.mismatches (input.contentOutcome platform).summary
      (input.contentOutcome platform).membership where
  source := isPartition_of_perm ((sortUnstable_perm _).symm.trans
    ((input.reconciliation platform).contentSourceClasses_perm input.sourceBody
      input.destBody input.sources_nodup))
  destination := isPartition_of_perm ((sortUnstable_perm _).symm.trans
    ((input.reconciliation platform).contentDestinationClasses_perm input.sourceBody
      input.destBody input.sources_nodup input.destinations_nodup))
  sourceNamedOnce := input.filterMap_classification platform
    (fun record => record.2.1)
    ((input.reconciliation platform).contentRecords_sources_nodup input.sourceBody
      input.destBody input.sources_nodup)
  destinationNamedOnce := input.filterMap_classification platform
    (fun record => record.2.2)
    ((input.reconciliation platform).contentRecords_destinations_nodup input.sourceBody
      input.destBody input.sources_nodup input.destinations_nodup)
  counters := by
    have sourceNodup := ((input.reconciliation platform).contentSourceClasses_perm
      input.sourceBody input.destBody input.sources_nodup).nodup input.sources_nodup
    have destNodup := ((input.reconciliation platform).contentDestinationClasses_perm
      input.sourceBody input.destBody input.sources_nodup input.destinations_nodup).nodup
        input.destinations_nodup
    have sourceCard : ∀ keys ∈ (input.reconciliation platform).contentSourceClasses
        input.sourceBody input.destBody, keys.toFinset.card = keys.length :=
      fun keys membership => List.toFinset_card_of_nodup
        ((List.nodup_flatten.mp sourceNodup).1 keys membership)
    have destCard : ∀ keys ∈ (input.reconciliation platform).contentDestinationClasses
        input.sourceBody input.destBody, keys.toFinset.card = keys.length :=
      fun keys membership => List.toFinset_card_of_nodup
        ((List.nodup_flatten.mp destNodup).1 keys membership)
    simp only [Reconciliation.contentSourceClasses,
      Reconciliation.contentDestinationClasses, List.forall_mem_cons, List.length_map]
      at sourceCard destCard
    obtain ⟨exactS, probableS, missingS, changedS, -⟩ := sourceCard
    obtain ⟨exactD, probableD, extraD, duplicatedD, changedD, -⟩ := destCard
    simp only [expectedCounters, contentOutcome, ReconciliationInput.outcome,
      List.forall_mem_cons, exactS, probableS, missingS, changedS, exactD, probableD, extraD,
      duplicatedD, changedD, true_and]
    simp

/-- The final validation never rejects what the content pass produces. -/
theorem validate_contentOutcome :
    validateVerificationSummary platform input.sourceMessages input.destMessages
      (input.contentOutcome platform).log.mismatches (input.contentOutcome platform).summary
      (input.contentOutcome platform).membership = .ok () :=
  validateVerificationSummary_ok platform (input.contentOutcome_accounted platform)

/-- Content verification succeeds exactly with full coverage within its budgets. -/
theorem detect_ok_iff {result : List MessageMismatch × VerificationSummary} :
    detectMismatchesWithContentFingerprints platform input = .ok result ↔
      input.Covered ∧ input.WithinBudgets platform ∧
        result = ((input.contentOutcome platform).log.mismatches,
          (input.contentOutcome platform).summary) := by
  rw [detectMismatchesWithContentFingerprints]
  cases refined : input.refineByContent platform with
  | error error =>
    rw [error_bind]
    constructor
    · intro returned
      cases returned
    · rintro ⟨covered, budgets, _⟩
      rw [(input.refineByContent_ok_iff platform).mpr ⟨covered, budgets, rfl⟩] at refined
      cases refined
  | ok state =>
    obtain ⟨covered, budgets, rfl⟩ := (input.refineByContent_ok_iff platform).mp refined
    rw [ok_bind, input.validate_contentOutcome platform, ok_bind]
    constructor
    · intro returned
      exact ⟨covered, budgets, (Except.ok.inj returned).symm⟩
    · rintro ⟨_, _, rfl⟩
      rfl

end ContentInput

end MailSwiftSync
