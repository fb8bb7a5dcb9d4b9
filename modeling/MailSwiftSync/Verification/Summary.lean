import Mathlib.Data.Finset.Card
import MailSwiftSync.Verification.Mismatch

/-!
# Summaries, membership and their validation

Reconciliation returns counters together with the classes they count.  The
validation recomputes every counter from its class and rejects a result in which
some message has no class or more than one.
-/

namespace MailSwiftSync

/-- Summary of verification results. -/
structure VerificationSummary where
  totalSource : Nat
  totalDestination : Nat
  metadataMatches : Nat
  rfcMessageIdMatches : Nat
  probableMatches : Nat
  syntheticIdentityMatches : Nat
  missingCount : Nat
  extraCount : Nat
  duplicatedCount : Nat
  changedCount : Nat
deriving DecidableEq, Repr

/-- Canonical persisted and reported outcome. -/
inductive VerificationOutcome where
  | exactBodyMatch
  | exactMetadataMatch
  | probableMatch
  | ambiguous
  | flagsChanged
  | missing
  | changed
  | unexpected
  | incomplete
  | failed
deriving DecidableEq, Repr

/-- The most serious observed condition wins. -/
def VerificationSummary.verificationOutcome (summary : VerificationSummary) :
    VerificationOutcome :=
  if summary.missingCount > 0 then .missing
  else if summary.changedCount > 0 then .changed
  else if summary.duplicatedCount > 0 ∨ summary.extraCount > 0 then .unexpected
  else if summary.probableMatches > 0 then .probableMatch
  else if summary.metadataMatches = summary.totalSource ∧
      summary.metadataMatches = summary.totalDestination then .exactMetadataMatch
  else .ambiguous

theorem verificationOutcome_eq_exact {summary : VerificationSummary} :
    summary.verificationOutcome = .exactMetadataMatch ↔
      summary.missingCount = 0 ∧ summary.changedCount = 0 ∧
        summary.duplicatedCount = 0 ∧ summary.extraCount = 0 ∧
        summary.probableMatches = 0 ∧ summary.metadataMatches = summary.totalSource ∧
        summary.metadataMatches = summary.totalDestination := by
  simp only [VerificationSummary.verificationOutcome]
  split_ifs <;> simp_all <;> omega

/-- Identity ownership produced by reconciliation: every input key occurs in
exactly one source or destination class. -/
structure VerificationMembership where
  matchedSource : Finset MailboxMessageKey
  matchedDestination : Finset MailboxMessageKey
  probableSource : Finset MailboxMessageKey
  probableDestination : Finset MailboxMessageKey
  missingSource : Finset MailboxMessageKey
  extraDestination : Finset MailboxMessageKey
  duplicatedDestination : Finset MailboxMessageKey
  changedSource : Finset MailboxMessageKey
  changedDestination : Finset MailboxMessageKey

namespace VerificationMembership

/-- The source classes, named as in the validation's messages. -/
def sourceClasses (membership : VerificationMembership) :
    List (String × Finset MailboxMessageKey) :=
  [("matched", membership.matchedSource), ("probable", membership.probableSource),
    ("missing", membership.missingSource), ("changed", membership.changedSource)]

/-- The destination classes, named as in the validation's messages. -/
def destinationClasses (membership : VerificationMembership) :
    List (String × Finset MailboxMessageKey) :=
  [("matched", membership.matchedDestination),
    ("probable", membership.probableDestination), ("extra", membership.extraDestination),
    ("duplicated", membership.duplicatedDestination),
    ("changed", membership.changedDestination)]

end VerificationMembership

/-! ## Validation -/

/-- The classes that own a key, in the order of the partition. -/
def owners (partitions : List (String × Finset MailboxMessageKey))
    (key : MailboxMessageKey) : List String :=
  (partitions.filter fun part => key ∈ part.2).map Prod.fst

/-- Every key any class holds. -/
def ownedKeys (partitions : List (String × Finset MailboxMessageKey)) :
    Finset MailboxMessageKey :=
  partitions.foldr (fun part keys => part.2 ∪ keys) ∅

/-- A key must have exactly one owner. -/
def checkOwner (platform : Platform) (side : String)
    (partitions : List (String × Finset MailboxMessageKey)) (key : MailboxMessageKey) :
    Except String Unit :=
  match owners partitions key with
  | [_] => .ok ()
  | [] => .error (side ++ " message " ++ platform.debugKey key ++ " is unclassified")
  | several => .error (side ++ " message " ++ platform.debugKey key ++ " belongs to " ++
      toString several.length ++ " classifications: " ++ ", ".intercalate several)

def checkPartition (platform : Platform) (side : String) (input : ExtractedMessages)
    (partitions : List (String × Finset MailboxMessageKey)) : Except String Unit := do
  input.keys.forM (checkOwner platform side partitions)
  if (ownedKeys partitions).card ≠ input.entries.length then
    .error (side ++ " classification contains " ++ toString (ownedKeys partitions).card ++
      " keys for " ++ toString input.entries.length ++ " input messages")
  else .ok ()

/-- Record a key named by a mismatch, refusing one that was named before. -/
def markSeen (platform : Platform) (side : String) (seen : Finset MailboxMessageKey) :
    Option MailboxMessageKey → Except String (Finset MailboxMessageKey)
  | none => .ok seen
  | some key =>
    if key ∈ seen then
      .error (side ++ " mismatch identity " ++ platform.debugKey key ++
        " appears more than once")
    else .ok (insert key seen)

def checkSeen (platform : Platform) (sourceMessages destMessages : ExtractedMessages)
    (seen : Finset MailboxMessageKey × Finset MailboxMessageKey)
    (mismatch : MessageMismatch) :
    Except String (Finset MailboxMessageKey × Finset MailboxMessageKey) := do
  let source ← markSeen platform "source" seen.1
    (mismatchSourceKey mismatch (buildUidFolderIndex sourceMessages))
  let destination ← markSeen platform "destination" seen.2
    (mismatchDestinationKey mismatch (buildUidFolderIndex destMessages))
  return (source, destination)

/-- Counters with the class each of them summarises. -/
def expectedCounters (sourceMessages destMessages : ExtractedMessages)
    (summary : VerificationSummary) (membership : VerificationMembership) :
    List (String × Nat × Nat) :=
  [("total_source", summary.totalSource, sourceMessages.entries.length),
    ("total_destination", summary.totalDestination, destMessages.entries.length),
    ("metadata_matches", summary.metadataMatches, membership.matchedSource.card),
    ("matched destination", summary.metadataMatches, membership.matchedDestination.card),
    ("probable_matches", summary.probableMatches, membership.probableSource.card),
    ("probable destination", summary.probableMatches, membership.probableDestination.card),
    ("missing_count", summary.missingCount, membership.missingSource.card),
    ("extra_count", summary.extraCount, membership.extraDestination.card),
    ("duplicated_count", summary.duplicatedCount, membership.duplicatedDestination.card),
    ("changed_count", summary.changedCount, membership.changedSource.card),
    ("changed destination", summary.changedCount, membership.changedDestination.card)]

/-- Validate that reconciliation accounting is consistent and complete. -/
def validateVerificationSummary (platform : Platform)
    (sourceMessages destMessages : ExtractedMessages) (mismatches : List MessageMismatch)
    (summary : VerificationSummary) (membership : VerificationMembership) :
    Except String Unit := do
  checkPartition platform "source" sourceMessages membership.sourceClasses
  checkPartition platform "destination" destMessages membership.destinationClasses
  let _ ← mismatches.foldlM (checkSeen platform sourceMessages destMessages) (∅, ∅)
  match (expectedCounters sourceMessages destMessages summary membership).find?
    fun (_, reported, derived) => reported ≠ derived with
  | none => .ok ()
  | some (name, reported, derived) =>
    .error ("verification summary " ++ name ++ " is " ++ toString reported ++
      " but its classification holds " ++ toString derived)

/-! ## When validation passes -/

/-- Disjoint classes that hold exactly the keys of the input. -/
structure IsPartition (parts : List (Finset MailboxMessageKey))
    (input : ExtractedMessages) : Prop where
  disjoint : parts.Pairwise Disjoint
  covers : ∀ key, key ∈ input ↔ ∃ part ∈ parts, key ∈ part

/-- Lists that together make up the keys of a map are a partition of it. -/
theorem isPartition_of_perm {input : ExtractedMessages}
    {classes : List (List MailboxMessageKey)} (perm : input.keys.Perm classes.flatten) :
    IsPartition (classes.map List.toFinset) input where
  disjoint := by
    have nodup := perm.nodup input.keys_nodup
    rw [List.pairwise_map]
    apply (List.nodup_flatten.mp nodup).2.imp
    intro left right disjoint
    exact List.disjoint_toFinset_iff_disjoint.mpr disjoint
  covers := by
    intro key
    rw [AList.mem_keys, perm.mem_iff, List.mem_flatten]
    simp

variable {partitions : List (String × Finset MailboxMessageKey)}

theorem mem_ownedKeys {key : MailboxMessageKey} :
    key ∈ ownedKeys partitions ↔ ∃ part ∈ partitions.map Prod.snd, key ∈ part := by
  induction partitions with
  | nil => simp [ownedKeys]
  | cons part rest ih =>
    have step : ownedKeys (part :: rest) = part.2 ∪ ownedKeys rest := rfl
    simp [step, ih]

theorem owners_eq_singleton
    (disjoint : (partitions.map Prod.snd).Pairwise Disjoint) {key : MailboxMessageKey}
    (owned : ∃ part ∈ partitions.map Prod.snd, key ∈ part) :
    ∃ name, owners partitions key = [name] := by
  induction partitions with
  | nil => simp at owned
  | cons part rest ih =>
    obtain ⟨headDisjoint, restDisjoint⟩ := List.pairwise_cons.mp disjoint
    by_cases inHead : key ∈ part.2
    · have notRest : ∀ other ∈ rest, key ∉ other.2 := by
        intro other membership inOther
        exact Finset.disjoint_left.mp
          (headDisjoint other.2 (List.mem_map_of_mem membership)) inHead inOther
      refine ⟨part.1, ?_⟩
      have restNil : rest.filter (fun part => key ∈ part.2) = [] := by
        simpa using notRest
      simp [owners, inHead, restNil]
    · have inRest : ∃ other ∈ rest.map Prod.snd, key ∈ other := by
        simpa [inHead] using owned
      obtain ⟨name, restOwners⟩ := ih restDisjoint inRest
      exact ⟨name, by simpa [owners, inHead] using restOwners⟩

/-- The partition check accepts a partition. -/
theorem checkPartition_ok (platform : Platform) (side : String) {input : ExtractedMessages}
    (partition : IsPartition (partitions.map Prod.snd) input) :
    checkPartition platform side input partitions = .ok () := by
  have everyOwned : ∀ keys : List MailboxMessageKey, (∀ key ∈ keys, key ∈ input) →
      keys.forM (checkOwner platform side partitions) = .ok () := by
    intro keys inInput
    induction keys with
    | nil => rfl
    | cons key rest ih =>
      obtain ⟨name, single⟩ := owners_eq_singleton partition.disjoint
        ((partition.covers key).mp (inInput key (by simp)))
      have step : checkOwner platform side partitions key = .ok () := by
        rw [checkOwner, single]
      rw [List.forM_eq_forM, List.forM_cons, step]
      exact ih fun other membership => inInput other (by simp [membership])
  have keysEqual : ownedKeys partitions = input.keys.toFinset := by
    ext key
    rw [mem_ownedKeys, ← partition.covers key, List.mem_toFinset, AList.mem_keys]
  have cardEqual : (ownedKeys partitions).card = input.entries.length := by
    rw [keysEqual, List.toFinset_card_of_nodup input.keys_nodup]
    simp [AList.keys, List.keys]
  rw [checkPartition, everyOwned _ fun key membership => AList.mem_keys.mpr membership]
  simp only [cardEqual, ne_eq, not_true_eq_false, if_false]
  rfl

theorem markSeen_fresh (platform : Platform) (side : String)
    {seen : Finset MailboxMessageKey} {key : Option MailboxMessageKey}
    (fresh : ∀ value, key = some value → value ∉ seen) :
    ∃ seen', markSeen platform side seen key = .ok seen' ∧
      ∀ value, value ∈ seen' ↔ value ∈ seen ∨ key = some value := by
  cases key with
  | none => exact ⟨seen, rfl, by simp⟩
  | some named =>
    refine ⟨insert named seen, by rw [markSeen, if_neg (fresh named rfl)], ?_⟩
    intro value
    rw [Finset.mem_insert, or_comm, Option.some.injEq, @eq_comm _ named]

/-- The keys still to be named are fresh once the next record has been seen. -/
theorem fresh_after {keyOf : MessageMismatch → Option MailboxMessageKey}
    {mismatch : MessageMismatch} {rest : List MessageMismatch}
    (nodup : ((mismatch :: rest).filterMap keyOf).Nodup)
    {seen : Finset MailboxMessageKey}
    (fresh : ∀ key ∈ (mismatch :: rest).filterMap keyOf, key ∉ seen) :
    (rest.filterMap keyOf).Nodup ∧
      ∀ key ∈ rest.filterMap keyOf, key ∉ seen ∧ keyOf mismatch ≠ some key := by
  cases named : keyOf mismatch with
  | none =>
    rw [List.filterMap_cons_none named] at nodup fresh
    exact ⟨nodup, fun key membership => ⟨fresh key membership, by simp⟩⟩
  | some value =>
    rw [List.filterMap_cons_some named] at nodup fresh
    obtain ⟨notLater, restNodup⟩ := List.nodup_cons.mp nodup
    refine ⟨restNodup, fun key membership => ⟨fresh key (by simp [membership]), ?_⟩⟩
    rintro ⟨⟩
    exact notLater membership

/-- No message is named twice when the named keys are distinct. -/
theorem foldlM_checkSeen_ok (platform : Platform)
    (sourceMessages destMessages : ExtractedMessages) (mismatches : List MessageMismatch)
    (sources : (mismatches.filterMap MessageMismatch.sourceKey).Nodup)
    (destinations : (mismatches.filterMap MessageMismatch.destKey).Nodup) :
    ∃ seen, mismatches.foldlM (checkSeen platform sourceMessages destMessages) (∅, ∅) =
      .ok seen := by
  have general : ∀ seen : Finset MailboxMessageKey × Finset MailboxMessageKey,
      (∀ key ∈ mismatches.filterMap MessageMismatch.sourceKey, key ∉ seen.1) →
      (∀ key ∈ mismatches.filterMap MessageMismatch.destKey, key ∉ seen.2) →
      ∃ result, mismatches.foldlM (checkSeen platform sourceMessages destMessages) seen =
        .ok result := by
    induction mismatches with
    | nil =>
      intro seen _ _
      exact ⟨seen, rfl⟩
    | cons mismatch rest ih =>
      intro seen freshSource freshDest
      have namesSource : ∀ value, mismatchSourceKey mismatch
          (buildUidFolderIndex sourceMessages) = some value →
          mismatch.sourceKey = some value := by
        intro value named
        rw [mismatchSourceKey_eq, Option.filter_eq_some_iff] at named
        exact named.1
      have namesDest : ∀ value, mismatchDestinationKey mismatch
          (buildUidFolderIndex destMessages) = some value →
          mismatch.destKey = some value := by
        intro value named
        rw [mismatchDestinationKey_eq, Option.filter_eq_some_iff] at named
        exact named.1
      obtain ⟨seenSource, markedSource, inSource⟩ := markSeen_fresh platform "source"
        fun value named => freshSource value
          (List.mem_filterMap.mpr ⟨mismatch, by simp, namesSource value named⟩)
      obtain ⟨seenDest, markedDest, inDest⟩ := markSeen_fresh platform "destination"
        fun value named => freshDest value
          (List.mem_filterMap.mpr ⟨mismatch, by simp, namesDest value named⟩)
      have step : checkSeen platform sourceMessages destMessages seen mismatch =
          .ok (seenSource, seenDest) := by
        rw [checkSeen, markedSource, markedDest]
        rfl
      obtain ⟨restSources, stillFreshSource⟩ := fresh_after sources freshSource
      obtain ⟨restDests, stillFreshDest⟩ := fresh_after destinations freshDest
      rw [List.foldlM_cons, step]
      apply ih restSources restDests
      · intro key membership again
        rcases (inSource key).mp again with before | now
        · exact (stillFreshSource key membership).1 before
        · exact (stillFreshSource key membership).2 (namesSource key now)
      · intro key membership again
        rcases (inDest key).mp again with before | now
        · exact (stillFreshDest key membership).1 before
        · exact (stillFreshDest key membership).2 (namesDest key now)
  exact general (∅, ∅) (by simp) (by simp)

/-- Complete and consistent accounting: each message in one class, each counter
the size of its class, no message named by two mismatch records. -/
structure Accounted (sourceMessages destMessages : ExtractedMessages)
    (mismatches : List MessageMismatch) (summary : VerificationSummary)
    (membership : VerificationMembership) : Prop where
  source : IsPartition (membership.sourceClasses.map Prod.snd) sourceMessages
  destination : IsPartition (membership.destinationClasses.map Prod.snd) destMessages
  sourceNamedOnce : (mismatches.filterMap MessageMismatch.sourceKey).Nodup
  destinationNamedOnce : (mismatches.filterMap MessageMismatch.destKey).Nodup
  counters : ∀ counter ∈ expectedCounters sourceMessages destMessages summary membership,
    counter.2.1 = counter.2.2

/-- Validation accepts every complete and consistent accounting. -/
theorem validateVerificationSummary_ok (platform : Platform)
    {sourceMessages destMessages : ExtractedMessages} {mismatches : List MessageMismatch}
    {summary : VerificationSummary} {membership : VerificationMembership}
    (accounted : Accounted sourceMessages destMessages mismatches summary membership) :
    validateVerificationSummary platform sourceMessages destMessages mismatches summary
      membership = .ok () := by
  obtain ⟨seen, namedOnce⟩ := foldlM_checkSeen_ok platform sourceMessages destMessages
    mismatches accounted.sourceNamedOnce accounted.destinationNamedOnce
  have noDifference : (expectedCounters sourceMessages destMessages summary
      membership).find? (fun (_, reported, derived) => reported ≠ derived) = none := by
    rw [List.find?_eq_none]
    intro counter inCounters
    simpa using accounted.counters counter inCounters
  rw [validateVerificationSummary, checkPartition_ok platform "source" accounted.source,
    checkPartition_ok platform "destination" accounted.destination, namedOnce]
  change (match (expectedCounters sourceMessages destMessages summary
    membership).find? (fun (_, reported, derived) => reported ≠ derived) with
    | none => Except.ok ()
    | some (name, reported, derived) => _) = _
  rw [noDifference]

end MailSwiftSync
