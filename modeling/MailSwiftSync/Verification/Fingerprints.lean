import MailSwiftSync.Verification.ContentSpecification
import MailSwiftSync.Verification.Metadata

/-!
# Content fingerprints on top of metadata

Metadata is reconciled first; independently fetched body fingerprints then refine
the pairs.  A missing source and an extra destination that share a unique
fingerprint in the expected folder become a match, and an exact pair whose bodies
differ becomes a change.  The accounting is validated once more at the end.
-/

namespace MailSwiftSync

open Foundation

/-- Body fingerprints of the messages of one endpoint. -/
abbrev Fingerprints : Type := AList fun _ : MailboxMessageKey => String

/-- `fingerprints[key]` for a key of the map. -/
def Fingerprints.at (fingerprints : Fingerprints) (key : MailboxMessageKey) : String :=
  (fingerprints.lookup key).getD ""

/-! ## Fingerprints that occur once -/

/-- The index built so far, and the fingerprints found more than once. -/
structure FingerprintIndex where
  index : AList (fun _ : String => MailboxMessageKey) := ∅
  duplicated : Finset String := ∅

/-- File one key.  The second key of a fingerprint removes the first one. -/
def FingerprintIndex.add (fingerprints : Fingerprints) (state : FingerprintIndex)
    (key : MailboxMessageKey) : FingerprintIndex :=
  let fingerprint := fingerprints.at key
  if fingerprint ∈ state.duplicated then state
  else if fingerprint ∈ state.index then
    ⟨(state.index.insert fingerprint key).erase fingerprint,
      insert fingerprint state.duplicated⟩
  else ⟨state.index.insert fingerprint key, state.duplicated⟩

/-- Keys by fingerprint, for the fingerprints that occur once. -/
def uniqueFingerprintIndex (fingerprints : Fingerprints) :
    AList fun _ : String => MailboxMessageKey :=
  (fingerprints.keys.foldl (FingerprintIndex.add fingerprints) {}).index

/-- The key of a one-element list. -/
def onlyKey : List MailboxMessageKey → Option MailboxMessageKey
  | [key] => some key
  | _ => none

/-- The state of the index once the keys in `done` are filed. -/
structure FingerprintIndex.Covers (fingerprints : Fingerprints) (state : FingerprintIndex)
    (done : List MailboxMessageKey) : Prop where
  index : ∀ fingerprint, state.index.lookup fingerprint =
    onlyKey (done.filter (fingerprints.at · = fingerprint))
  duplicated : ∀ fingerprint, fingerprint ∈ state.duplicated ↔
    1 < (done.filter (fingerprints.at · = fingerprint)).length

theorem onlyKey_eq_some {keys : List MailboxMessageKey} {key : MailboxMessageKey} :
    onlyKey keys = some key ↔ keys = [key] := by
  match keys with
  | [] => simp [onlyKey]
  | [only] => simp [onlyKey]
  | _ :: _ :: _ => simp [onlyKey]

theorem onlyKey_isSome {keys : List MailboxMessageKey} :
    (onlyKey keys).isSome ↔ keys.length = 1 := by
  match keys with
  | [] => simp [onlyKey]
  | [only] => simp [onlyKey]
  | _ :: _ :: _ => simp [onlyKey]

theorem onlyKey_append {keys : List MailboxMessageKey} (nonempty : keys ≠ [])
    (key : MailboxMessageKey) : onlyKey (keys ++ [key]) = none := by
  match keys with
  | [] => exact absurd rfl nonempty
  | [only] => rfl
  | _ :: _ :: _ => rfl

theorem FingerprintIndex.Covers.add {fingerprints : Fingerprints}
    {state : FingerprintIndex} {done : List MailboxMessageKey}
    (covers : state.Covers fingerprints done) (key : MailboxMessageKey) :
    (state.add fingerprints key).Covers fingerprints (done ++ [key]) := by
  have indexed : fingerprints.at key ∈ state.index ↔
      (done.filter (fingerprints.at · = fingerprints.at key)).length = 1 := by
    rw [← AList.lookup_isSome, covers.index, onlyKey_isSome]
  have others : ∀ fingerprint, fingerprint ≠ fingerprints.at key →
      (done ++ [key]).filter (fingerprints.at · = fingerprint) =
        done.filter (fingerprints.at · = fingerprint) := by
    intro fingerprint different
    simp [List.filter_append, different.symm]
  have own : (done ++ [key]).filter (fingerprints.at · = fingerprints.at key) =
      done.filter (fingerprints.at · = fingerprints.at key) ++ [key] := by
    simp [List.filter_append]
  rw [FingerprintIndex.add]
  by_cases again : fingerprints.at key ∈ state.duplicated
  · have several := (covers.duplicated _).mp again
    have nonempty : done.filter (fingerprints.at · = fingerprints.at key) ≠ [] := by
      intro empty
      simp [empty] at several
    rw [if_pos again]
    constructor
    · intro fingerprint
      by_cases same : fingerprint = fingerprints.at key
      · subst same
        rw [covers.index, own, onlyKey_append nonempty, ← Option.not_isSome_iff_eq_none,
          onlyKey_isSome]
        omega
      · rw [others _ same, covers.index]
    · intro fingerprint
      by_cases same : fingerprint = fingerprints.at key
      · subst same
        rw [covers.duplicated, own, List.length_append]
        simp only [List.length_singleton]
        omega
      · rw [others _ same, covers.duplicated]
  · have atMostOne : (done.filter (fingerprints.at · = fingerprints.at key)).length ≤ 1 :=
      not_lt.mp fun several => again ((covers.duplicated _).mpr several)
    rw [if_neg again]
    split_ifs with second
    · have one := indexed.mp second
      have nonempty : done.filter (fingerprints.at · = fingerprints.at key) ≠ [] := by
        intro empty
        simp [empty] at one
      constructor
      · intro fingerprint
        by_cases same : fingerprint = fingerprints.at key
        · subst same
          rw [AList.lookup_erase, own, onlyKey_append nonempty]
        · rw [AList.lookup_erase_ne same, AList.lookup_insert_ne same, others _ same,
            covers.index]
      · intro fingerprint
        by_cases same : fingerprint = fingerprints.at key
        · subst same
          simp [own, one]
        · rw [Finset.mem_insert, or_iff_right same, others _ same, covers.duplicated]
    · have first : done.filter (fingerprints.at · = fingerprints.at key) = [] := by
        rw [← List.length_eq_zero_iff]
        have notOne := mt indexed.mpr second
        omega
      constructor
      · intro fingerprint
        by_cases same : fingerprint = fingerprints.at key
        · subst same
          rw [AList.lookup_insert, own, first]
          rfl
        · rw [AList.lookup_insert_ne same, others _ same, covers.index]
      · intro fingerprint
        by_cases same : fingerprint = fingerprints.at key
        · subst same
          rw [own, first]
          simpa using again
        · rw [others _ same, covers.duplicated]

theorem FingerprintIndex.Covers.foldl {fingerprints : Fingerprints}
    (keys : List MailboxMessageKey) {state : FingerprintIndex}
    {done : List MailboxMessageKey} (covers : state.Covers fingerprints done) :
    (keys.foldl (FingerprintIndex.add fingerprints) state).Covers fingerprints
      (done ++ keys) := by
  induction keys generalizing state done with
  | nil => simpa using covers
  | cons key rest ih => simpa using ih (covers.add key)

/-- The index finds a key exactly when no other key has its fingerprint. -/
theorem lookup_uniqueFingerprintIndex (fingerprints : Fingerprints) (fingerprint : String)
    (key : MailboxMessageKey) :
    (uniqueFingerprintIndex fingerprints).lookup fingerprint = some key ↔
      key ∈ fingerprints ∧ fingerprints.at key = fingerprint ∧
        UniqueIn fingerprints.at fingerprints.keys key := by
  have start : FingerprintIndex.Covers fingerprints {} [] :=
    ⟨fun _ => rfl, fun _ => by simp⟩
  rw [uniqueFingerprintIndex, (start.foldl fingerprints.keys).index, onlyKey_eq_some,
    List.nil_append, AList.mem_keys]
  constructor
  · intro only
    have inFilter : key ∈ fingerprints.keys.filter (fingerprints.at · = fingerprint) := by
      simp [only]
    obtain ⟨inKeys, isFingerprint⟩ := List.mem_filter.mp inFilter
    rw [decide_eq_true_eq] at isFingerprint
    refine ⟨inKeys, isFingerprint, ?_⟩
    intro other inOthers sameFingerprint
    have inFilter' : other ∈ fingerprints.keys.filter (fingerprints.at · = fingerprint) := by
      simp [inOthers, sameFingerprint, isFingerprint]
    rw [only] at inFilter'
    exact List.mem_singleton.mp inFilter'
  · rintro ⟨inKeys, rfl, unique⟩
    apply List.perm_singleton.mp
    rw [List.perm_ext_iff_of_nodup (fingerprints.keys_nodup.filter _) (by simp)]
    intro other
    rw [List.mem_filter, decide_eq_true_eq, List.mem_singleton]
    constructor
    · rintro ⟨inOthers, same⟩
      exact unique other inOthers same
    · rintro rfl
      exact ⟨inKeys, rfl⟩

/-! ## The content pass -/

/-- The arguments of one verification with body fingerprints. -/
structure ContentInput extends ReconciliationInput where
  sourceFingerprints : Fingerprints
  destFingerprints : Fingerprints

/-- Equal sizes and one-way containment: the same keys. -/
def checkCoverage (side : String) (messages : ExtractedMessages)
    (fingerprints : Fingerprints) : Except String Unit :=
  if messages.entries.length ≠ fingerprints.entries.length ∨
      messages.keys.any (· ∉ fingerprints) then
    .error ("content verification requires exact " ++ side ++
      " message/fingerprint key coverage")
  else .ok ()

/-- Mismatches, counters and classes while content refines them. -/
structure ContentState where
  log : MismatchLog
  summary : VerificationSummary
  membership : VerificationMembership

namespace ContentInput

variable (platform : Platform) (input : ContentInput)

/-- The missing source and extra destination of one unique fingerprint. -/
def fingerprintPair (membership : VerificationMembership)
    (entry : Sigma fun _ : String => MailboxMessageKey) :
    Option (MailboxMessageKey × MailboxMessageKey) := do
  let sourceKey ← Option.guard (· ∈ input.sourceMessages) entry.2
  let destKey ← ((uniqueFingerprintIndex input.destFingerprints).lookup entry.1).bind
    (Option.guard (· ∈ input.destMessages))
  Option.guard (fun _ => sourceKey ∈ membership.missingSource ∧
    destKey ∈ membership.extraDestination ∧
    expectedDestinationFolder sourceKey input.folderMapping = destKey.mailbox)
      (sourceKey, destKey)

/-- All pairs that a unique fingerprint resolves, in order. -/
def fingerprintPairs (membership : VerificationMembership) :
    List (MailboxMessageKey × MailboxMessageKey) :=
  (sortUnstable (((uniqueFingerprintIndex input.sourceFingerprints).entries.filterMap
    (input.fingerprintPair membership)).map toLex)).map ofLex

/-- Whether a record survives the resolution of the given pairs. -/
def retained (pairs : List (MailboxMessageKey × MailboxMessageKey))
    (mismatch : MessageMismatch) : Bool :=
  match mismatch.mismatchType with
  | .missing =>
    (mismatchSourceKey mismatch (buildUidFolderIndex input.sourceMessages)).all
      (· ∉ pairs.map Prod.fst)
  | .extra =>
    (mismatchDestinationKey mismatch (buildUidFolderIndex input.destMessages)).all
      (· ∉ pairs.map Prod.snd)
  | _ => true

/-- Turn a missing source and an extra destination into a match. -/
def resolvePair (state : VerificationSummary × VerificationMembership)
    (pair : MailboxMessageKey × MailboxMessageKey) :
    VerificationSummary × VerificationMembership :=
  ({ state.1 with
      missingCount := state.1.missingCount - 1
      extraCount := state.1.extraCount - 1
      metadataMatches := state.1.metadataMatches + 1 },
    { state.2 with
      missingSource := state.2.missingSource.erase pair.1
      extraDestination := state.2.extraDestination.erase pair.2
      matchedSource := insert pair.1 state.2.matchedSource
      matchedDestination := insert pair.2 state.2.matchedDestination })

/-- Resolve all fingerprint pairs. -/
def resolvePairs (pairs : List (MailboxMessageKey × MailboxMessageKey))
    (metadata : MetadataReconciliation) :
    List MessageMismatch × VerificationSummary × VerificationMembership :=
  if pairs.isEmpty then (metadata.mismatches, metadata.summary, metadata.membership)
  else (metadata.mismatches.filter (input.retained pairs),
    pairs.foldl resolvePair (metadata.summary, metadata.membership))

/-- The record for an exact pair whose fingerprints differ. -/
def contentMismatch (pair : MailboxMessageKey × MailboxMessageKey)
    (sourceFingerprint destinationFingerprint : String) : MessageMismatch :=
  { input.mismatch platform .messageIdOnly (some pair.1) (some pair.2) with
    sourceFingerprint := some sourceFingerprint
    destinationFingerprint := some destinationFingerprint }

/-- Compare the bodies of one exact pair. -/
def comparePair (state : ContentState) (pair : MailboxMessageKey × MailboxMessageKey) :
    Except String ContentState :=
  match input.sourceFingerprints.lookup pair.1, input.destFingerprints.lookup pair.2 with
  | some sourceFingerprint, some destinationFingerprint =>
    if sourceFingerprint = destinationFingerprint then .ok state
    else do
      let log ← appendMismatchWithBudget state.log
        (input.contentMismatch platform pair sourceFingerprint destinationFingerprint)
      return {
        log
        summary := { state.summary with
          metadataMatches := state.summary.metadataMatches - 1
          changedCount := state.summary.changedCount + 1 }
        membership := { state.membership with
          matchedSource := state.membership.matchedSource.erase pair.1
          matchedDestination := state.membership.matchedDestination.erase pair.2
          changedSource := insert pair.1 state.membership.changedSource
          changedDestination := insert pair.2 state.membership.changedDestination } }
  | _, _ => .error
      "content verification encountered a missing fingerprint after coverage validation"

/-- Everything before the final validation. -/
def refineByContent : Except String ContentState := do
  checkCoverage "source" input.sourceMessages input.sourceFingerprints
  checkCoverage "destination" input.destMessages input.destFingerprints
  let metadata ← reconcileMetadata platform input.toReconciliationInput
  let (mismatches, summary, membership) :=
    input.resolvePairs (input.fingerprintPairs metadata.membership) metadata
  let estimatedBytes := mismatchDetailBytes mismatches
  enforceMismatchDetailBudget estimatedBytes
  let cleanPairs := (sortUnstable (metadata.cleanPairs.map toLex)).map ofLex
  cleanPairs.foldlM (input.comparePair platform)
    ⟨⟨mismatches, estimatedBytes⟩, summary, membership⟩

end ContentInput

/-- Reconcile metadata, then refine its pairs by body fingerprints. -/
def detectMismatchesWithContentFingerprints (platform : Platform) (input : ContentInput) :
    Except String (List MessageMismatch × VerificationSummary) := do
  let state ← input.refineByContent platform
  validateVerificationSummary platform input.sourceMessages input.destMessages
    state.log.mismatches state.summary state.membership
  return (state.log.mismatches, state.summary)

end MailSwiftSync
