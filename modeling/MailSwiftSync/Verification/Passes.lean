import MailSwiftSync.Foundation.Metered
import MailSwiftSync.Verification.Reconciliation
import MailSwiftSync.Verification.Specification

/-!
# The in-memory passes meet the specification

Each pass works through the Message-ID groups one after the other with its own
queues.  Put together, the pairs of a pass are a classwise matching of the sorted
key lists, and the mismatch budget is the only thing that can stop a pass.
-/

namespace MailSwiftSync

open Foundation

/-! ## Message-ID groups -/

/-- The RFC identity under which a key is filed. -/
def identityOf (messages : ExtractedMessages) (key : MailboxMessageKey) : Option String :=
  (messages.at key).rfcIdentity

theorem get_indexByMessageId (messages : ExtractedMessages) (messageId : String) :
    (indexByMessageId messages).get messageId =
      ofClass (identityOf messages) messageId (sortUnstable messages.keys) := by
  rw [indexByMessageId, Buckets.get_mapQueues (by rfl), Buckets.get_index, ofClass, ofClass,
    sortUnstable_filter]
  rfl

theorem mem_indexByMessageId (messages : ExtractedMessages) (messageId : String) :
    messageId ∈ indexByMessageId messages ↔
      ∃ key ∈ sortUnstable messages.keys, identityOf messages key = some messageId := by
  rw [AList.mem_keys, indexByMessageId, Buckets.keys_mapQueues, ← AList.mem_keys,
    Buckets.mem_index]
  simp [identityOf]

theorem lookup_indexByMessageId (messages : ExtractedMessages) (messageId : String)
    (present : messageId ∈ indexByMessageId messages) :
    (indexByMessageId messages).lookup messageId =
      some (ofClass (identityOf messages) messageId (sortUnstable messages.keys)) := by
  obtain ⟨queue, found⟩ := Option.isSome_iff_exists.mp (AList.lookup_isSome.mpr present)
  rw [found, ← get_indexByMessageId, Buckets.get, found, Option.getD_some]

namespace ReconciliationInput

variable (platform : Platform) (input : ReconciliationInput)

/-- Source keys in key order. -/
def sources : List MailboxMessageKey := sortUnstable input.sourceMessages.keys

/-- Destination keys in key order. -/
def destinations : List MailboxMessageKey := sortUnstable input.destMessages.keys

theorem sources_nodup : input.sources.Nodup :=
  sortUnstable_nodup input.sourceMessages.keys_nodup

theorem destinations_nodup : input.destinations.Nodup :=
  sortUnstable_nodup input.destMessages.keys_nodup

/-- What matching looks at in a source message. -/
def sourceProfile (key : MailboxMessageKey) : Profile String String MetadataFingerprint where
  identity := (input.sourceMessages.at key).rfcIdentity
  folder := expectedDestinationFolder key input.folderMapping
  metadata := metadataFingerprint platform.parseDate (input.sourceMessages.at key)

/-- What matching looks at in a destination message. -/
def destProfile (key : MailboxMessageKey) : Profile String String MetadataFingerprint where
  identity := (input.destMessages.at key).rfcIdentity
  folder := key.mailbox
  metadata := metadataFingerprint platform.parseDate (input.destMessages.at key)

/-- Source keys with a Message-ID. -/
def sourceUids (messageId : String) : List MailboxMessageKey :=
  ofClass (identityOf input.sourceMessages) messageId input.sources

/-- Destination keys with a Message-ID. -/
def destUids (messageId : String) : List MailboxMessageKey :=
  ofClass (identityOf input.destMessages) messageId input.destinations

theorem get_sourceUids (messageId : String) :
    (indexByMessageId input.sourceMessages).get messageId = input.sourceUids messageId :=
  get_indexByMessageId _ _

theorem get_destUids (messageId : String) :
    (indexByMessageId input.destMessages).get messageId = input.destUids messageId :=
  get_indexByMessageId _ _

/-- The Message-IDs both sides have. -/
def messageIds : List String :=
  commonMessageIds (indexByMessageId input.sourceMessages)
    (indexByMessageId input.destMessages)

theorem messageIds_nodup : input.messageIds.Nodup :=
  sortUnstable_nodup ((AList.keys_nodup _).filter _)

theorem mem_messageIds (messageId : String) : messageId ∈ input.messageIds ↔
    messageId ∈ indexByMessageId input.sourceMessages ∧
      messageId ∈ indexByMessageId input.destMessages := by
  simp [messageIds, commonMessageIds, AList.mem_keys]

variable {messageId : String}

theorem messageIds_complete (absent : messageId ∉ input.messageIds) :
    input.sourceUids messageId = [] ∨ input.destUids messageId = [] := by
  rw [mem_messageIds, not_and_or] at absent
  rcases absent with noSource | noDest
  · rw [mem_indexByMessageId] at noSource
    push Not at noSource
    exact .inl (ofClass_eq_nil noSource)
  · rw [mem_indexByMessageId] at noDest
    push Not at noDest
    exact .inr (ofClass_eq_nil noDest)

/-! ## Pass 1 -/

/-- The exact pairs of one Message-ID. -/
def cleanOf (messageId : String) : List (MailboxMessageKey × MailboxMessageKey) :=
  cleanPairsOf platform input (input.sourceUids messageId) (input.destUids messageId)

/-- The changed pairs of one Message-ID. -/
def changedOf (messageId : String) : List (MailboxMessageKey × MailboxMessageKey) :=
  changedPairsOf input ((input.cleanOf platform messageId).map Prod.fst).toFinset
    ((input.cleanOf platform messageId).map Prod.snd).toFinset
    (input.sourceUids messageId) (input.destUids messageId)

/-- All exact pairs. -/
def cleanPairs : List (MailboxMessageKey × MailboxMessageKey) :=
  input.messageIds.flatMap (input.cleanOf platform)

/-- All changed pairs. -/
def changedPairs : List (MailboxMessageKey × MailboxMessageKey) :=
  input.messageIds.flatMap (input.changedOf platform)

theorem classwise_cleanOf (messageId : String) :
    Classwise Matcher.fifo (input.sourceFolderMetadata platform)
      (input.destFolderMetadata platform) (input.sourceUids messageId)
      (input.destUids messageId) (input.cleanOf platform messageId) :=
  classwise_popEach _ _ _ _

theorem classwise_cleanPairs :
    Classwise Matcher.fifo (fun key => (input.sourceProfile platform key).exactClass)
      (fun key => (input.destProfile platform key).exactClass) input.sources
      input.destinations (input.cleanPairs platform) :=
  Classwise.groups _ _ input.messageIds_nodup (fun _ => input.messageIds_complete)
    fun messageId _ => input.classwise_cleanOf platform messageId

variable {key : MailboxMessageKey}

/-- Inside a group, only the group's own pairs have used up a message. -/
theorem mem_cleanPairs_left (common : messageId ∈ input.messageIds)
    (inGroup : key ∈ input.sourceUids messageId) :
    key ∈ (input.cleanPairs platform).map Prod.fst ↔
      key ∈ (input.cleanOf platform messageId).map Prod.fst := by
  simp only [cleanPairs, List.map_flatMap, List.mem_flatMap]
  constructor
  · rintro ⟨other, _, membership⟩
    obtain ⟨pair, inPairs, rfl⟩ := List.mem_map.mp membership
    have ownGroup := ((input.classwise_cleanOf platform other).mem_left inPairs)
    rw [sourceUids, mem_ofClass] at inGroup ownGroup
    rw [inGroup.2] at ownGroup
    obtain rfl := Option.some.inj ownGroup.2
    exact membership
  · intro membership
    exact ⟨messageId, common, membership⟩

theorem mem_cleanPairs_right (common : messageId ∈ input.messageIds)
    (inGroup : key ∈ input.destUids messageId) :
    key ∈ (input.cleanPairs platform).map Prod.snd ↔
      key ∈ (input.cleanOf platform messageId).map Prod.snd := by
  simp only [cleanPairs, List.map_flatMap, List.mem_flatMap]
  constructor
  · rintro ⟨other, _, membership⟩
    obtain ⟨pair, inPairs, rfl⟩ := List.mem_map.mp membership
    have ownGroup := ((input.classwise_cleanOf platform other).mem_right inPairs)
    rw [destUids, mem_ofClass] at inGroup ownGroup
    rw [inGroup.2] at ownGroup
    obtain rfl := Option.some.inj ownGroup.2
    exact membership
  · intro membership
    exact ⟨messageId, common, membership⟩

theorem ofClass_unpairedLeft_cleanPairs (common : messageId ∈ input.messageIds) :
    ofClass (identityOf input.sourceMessages) messageId
        (unpairedLeft (input.cleanPairs platform) input.sources) =
      (input.sourceUids messageId).filter
        (¬· ∈ ((input.cleanOf platform messageId).map Prod.fst).toFinset) := by
  rw [unpairedLeft, ofClass_filter_comm]
  apply List.filter_congr
  intro key inGroup
  rw [decide_eq_decide, List.mem_toFinset, input.mem_cleanPairs_left platform common inGroup]

theorem ofClass_unpairedRight_cleanPairs (common : messageId ∈ input.messageIds) :
    ofClass (identityOf input.destMessages) messageId
        (unpairedRight (input.cleanPairs platform) input.destinations) =
      (input.destUids messageId).filter
        (¬· ∈ ((input.cleanOf platform messageId).map Prod.snd).toFinset) := by
  rw [unpairedRight, ofClass_filter_comm]
  apply List.filter_congr
  intro key inGroup
  rw [decide_eq_decide, List.mem_toFinset, input.mem_cleanPairs_right platform common inGroup]

theorem classwise_changedPairs :
    Classwise Matcher.fifo (fun key => (input.sourceProfile platform key).changedClass)
      (fun key => (input.destProfile platform key).changedClass)
      (unpairedLeft (input.cleanPairs platform) input.sources)
      (unpairedRight (input.cleanPairs platform) input.destinations)
      (input.changedPairs platform) := by
  apply Classwise.groups (identityOf input.sourceMessages) (identityOf input.destMessages)
    (f := fun key => some (expectedDestinationFolder key input.folderMapping))
    (g := fun key => some key.mailbox) input.messageIds_nodup
  · intro messageId absent
    rcases input.messageIds_complete absent with noSource | noDest
    · left
      rw [unpairedLeft, ofClass_filter_comm]
      exact List.filter_eq_nil_iff.mpr fun key membership => by
        simp [sourceUids] at noSource
        simp [noSource] at membership
    · right
      rw [unpairedRight, ofClass_filter_comm]
      exact List.filter_eq_nil_iff.mpr fun key membership => by
        simp [destUids] at noDest
        simp [noDest] at membership
  · intro messageId common
    rw [input.ofClass_unpairedLeft_cleanPairs platform common,
      input.ofClass_unpairedRight_cleanPairs platform common]
    exact (classwise_popEach _ _ _ _).restrict

/-- The records of the changed pairs of some Message-IDs. -/
def changedRecords (ids : List String) : List MessageMismatch :=
  (ids.flatMap (input.changedOf platform)).map fun pair =>
    input.mismatch platform .messageIdOnly (some pair.1) (some pair.2)

/-- What pass 1 has gathered after some Message-IDs. -/
def pass1After (ids : List String) : Pass1Result where
  log := ⟨input.changedRecords platform ids,
    mismatchDetailBytes (input.changedRecords platform ids)⟩
  matchedSource := ((ids.flatMap (input.cleanOf platform)).map Prod.fst ++
    (ids.flatMap (input.changedOf platform)).map Prod.fst).toFinset
  matchedDest := ((ids.flatMap (input.cleanOf platform)).map Prod.snd ++
    (ids.flatMap (input.changedOf platform)).map Prod.snd).toFinset
  cleanPairs := ids.flatMap (input.cleanOf platform)

theorem changedPairsOf_congr {matchedSource matchedSource' : Finset MailboxMessageKey}
    {matchedDest matchedDest' : Finset MailboxMessageKey}
    {sourceUids destUids : List MailboxMessageKey}
    (left : ∀ key ∈ sourceUids, (key ∈ matchedSource ↔ key ∈ matchedSource'))
    (right : ∀ key ∈ destUids, (key ∈ matchedDest ↔ key ∈ matchedDest')) :
    changedPairsOf input matchedSource matchedDest sourceUids destUids =
      changedPairsOf input matchedSource' matchedDest' sourceUids destUids := by
  rw [changedPairsOf, changedPairsOf, popEach, popEach]
  rw [Buckets.index_congr (fun key =>
    if key ∈ matchedDest' then none else some key.mailbox)]
  · apply drain_congr
    intro key membership queues
    simp only [left key membership]
  · intro key membership
    simp only [right key membership]

theorem changedOf_mem_left {pair : MailboxMessageKey × MailboxMessageKey}
    (membership : pair ∈ input.changedOf platform messageId) :
    pair.1 ∈ input.sourceUids messageId :=
  (classwise_popEach _ _ _ _).mem_left membership

theorem changedOf_mem_right {pair : MailboxMessageKey × MailboxMessageKey}
    (membership : pair ∈ input.changedOf platform messageId) : pair.2 ∈ input.destUids messageId :=
  (classwise_popEach _ _ _ _).mem_right membership

/-- Earlier groups never use up a message of a later group. -/
theorem notMem_pass1After_left {done : List String} (fresh : messageId ∉ done)
    (inGroup : key ∈ input.sourceUids messageId) :
    key ∉ (input.pass1After platform done).matchedSource := by
  intro used
  simp only [pass1After, List.mem_toFinset, List.mem_append, List.map_flatMap,
    List.mem_flatMap, List.mem_map] at used
  have otherGroup : ∃ other ∈ done, key ∈ input.sourceUids other := by
    rcases used with ⟨other, inDone, pair, membership, rfl⟩ |
      ⟨other, inDone, pair, membership, rfl⟩
    · exact ⟨other, inDone, (input.classwise_cleanOf platform other).mem_left membership⟩
    · exact ⟨other, inDone, input.changedOf_mem_left platform membership⟩
  obtain ⟨other, inDone, inOther⟩ := otherGroup
  rw [sourceUids, mem_ofClass] at inGroup inOther
  rw [inGroup.2] at inOther
  obtain rfl := Option.some.inj inOther.2
  exact fresh inDone

theorem notMem_pass1After_right {done : List String} (fresh : messageId ∉ done)
    (inGroup : key ∈ input.destUids messageId) :
    key ∉ (input.pass1After platform done).matchedDest := by
  intro used
  simp only [pass1After, List.mem_toFinset, List.mem_append, List.map_flatMap,
    List.mem_flatMap, List.mem_map] at used
  have otherGroup : ∃ other ∈ done, key ∈ input.destUids other := by
    rcases used with ⟨other, inDone, pair, membership, rfl⟩ |
      ⟨other, inDone, pair, membership, rfl⟩
    · exact ⟨other, inDone, (input.classwise_cleanOf platform other).mem_right membership⟩
    · exact ⟨other, inDone, input.changedOf_mem_right platform membership⟩
  obtain ⟨other, inDone, inOther⟩ := otherGroup
  rw [destUids, mem_ofClass] at inGroup inOther
  rw [inGroup.2] at inOther
  obtain rfl := Option.some.inj inOther.2
  exact fresh inDone

/-- One step of pass 1: a new Message-ID adds its own pairs, or exhausts the budget. -/
theorem pass1Group_eq {done : List String} (fresh : messageId ∉ done)
    (fits : mismatchDetailBytes (input.changedRecords platform done) ≤
      maxEstimatedMismatchDetailBytes) :
    pass1Group platform input (indexByMessageId input.sourceMessages)
        (indexByMessageId input.destMessages) (input.pass1After platform done) messageId =
      if mismatchDetailBytes (input.changedRecords platform (done ++ [messageId])) ≤
          maxEstimatedMismatchDetailBytes then
        .ok (input.pass1After platform (done ++ [messageId]))
      else .error mismatchDetailBudgetError := by
  have changedEq : changedPairsOf input
      ((input.pass1After platform done).matchedSource ∪
        ((input.cleanOf platform messageId).map Prod.fst).toFinset)
      ((input.pass1After platform done).matchedDest ∪
        ((input.cleanOf platform messageId).map Prod.snd).toFinset)
      (input.sourceUids messageId) (input.destUids messageId) =
      input.changedOf platform messageId := by
    apply changedPairsOf_congr
    · intro key inGroup
      rw [Finset.mem_union, or_iff_right (input.notMem_pass1After_left platform fresh inGroup)]
    · intro key inGroup
      rw [Finset.mem_union, or_iff_right (input.notMem_pass1After_right platform fresh inGroup)]
  have recordsEq : input.changedRecords platform (done ++ [messageId]) =
      input.changedRecords platform done ++ (input.changedOf platform messageId).map
        fun pair => input.mismatch platform .messageIdOnly (some pair.1) (some pair.2) := by
    simp [changedRecords]
  have appended := foldlM_appendMismatchWithBudget
    ((input.changedOf platform messageId).map fun pair =>
      input.mismatch platform .messageIdOnly (some pair.1) (some pair.2))
    (input.pass1After platform done).log fits
  have unfolded : pass1Group platform input (indexByMessageId input.sourceMessages)
      (indexByMessageId input.destMessages) (input.pass1After platform done) messageId =
      (do
        let log ← ((input.changedOf platform messageId).map fun pair =>
          input.mismatch platform .messageIdOnly (some pair.1) (some pair.2)).foldlM
            appendMismatchWithBudget (input.pass1After platform done).log
        return {
          log
          matchedSource := (input.pass1After platform done).matchedSource ∪
            ((input.cleanOf platform messageId).map Prod.fst).toFinset ∪
            ((input.changedOf platform messageId).map Prod.fst).toFinset
          matchedDest := (input.pass1After platform done).matchedDest ∪
            ((input.cleanOf platform messageId).map Prod.snd).toFinset ∪
            ((input.changedOf platform messageId).map Prod.snd).toFinset
          cleanPairs := (input.pass1After platform done).cleanPairs ++
            input.cleanOf platform messageId }) := by
    rw [← changedEq]
    simp only [pass1Group, get_sourceUids, get_destUids]
    rfl
  have bytesEq : mismatchDetailBytes (input.changedRecords platform (done ++ [messageId])) =
      (input.pass1After platform done).log.estimatedBytes +
        mismatchDetailBytes ((input.changedOf platform messageId).map fun pair =>
          input.mismatch platform .messageIdOnly (some pair.1) (some pair.2)) := by
    rw [recordsEq, mismatchDetailBytes_append]
    rfl
  rw [unfolded, appended, ← bytesEq]
  split
  next within =>
    change Except.ok _ = Except.ok _
    congr 1
    simp only [pass1After, recordsEq, List.flatMap_append, List.flatMap_singleton,
      List.map_append, List.toFinset_append, Pass1Result.mk.injEq, true_and, and_true]
    constructor
    · ext key
      simp only [Finset.mem_union]
      tauto
    · ext key
      simp only [Finset.mem_union]
      tauto
  next => rfl

/-- Pass 1 gathers the pairs of all groups unless their records exceed the budget. -/
theorem pass1_eq :
    pass1MessageIdExactMetadata platform input (indexByMessageId input.sourceMessages)
        (indexByMessageId input.destMessages) =
      if mismatchDetailBytes (input.changedRecords platform input.messageIds) ≤
          maxEstimatedMismatchDetailBytes then
        .ok (input.pass1After platform input.messageIds)
      else .error mismatchDetailBudgetError := by
  have start : ({} : Pass1Result) = input.pass1After platform [] := by
    simp [pass1After, changedRecords, mismatchDetailBytes]
  have fresh : ∀ done messageId rest, done ++ messageId :: rest = input.messageIds →
      messageId ∉ done := by
    intro done messageId rest here again
    have nodup := input.messageIds_nodup
    rw [← here] at nodup
    exact (List.nodup_append.mp nodup).2.2 messageId again messageId (by simp) rfl
  rw [pass1MessageIdExactMetadata, start]
  exact foldlM_metered (input.pass1After platform)
    (fun ids => mismatchDetailBytes (input.changedRecords platform ids))
    (fun done more => by simp [changedRecords])
    (fun done messageId rest here fits =>
      input.pass1Group_eq platform (fresh done messageId rest here) fits)
    (by simp [changedRecords, mismatchDetailBytes])

theorem mem_pass1_matchedSource (key : MailboxMessageKey) :
    key ∈ (input.pass1After platform input.messageIds).matchedSource ↔
      key ∈ (input.cleanPairs platform ++ input.changedPairs platform).map Prod.fst := by
  simp only [pass1After, cleanPairs, changedPairs, List.mem_toFinset, List.map_append]

theorem mem_pass1_matchedDest (key : MailboxMessageKey) :
    key ∈ (input.pass1After platform input.messageIds).matchedDest ↔
      key ∈ (input.cleanPairs platform ++ input.changedPairs platform).map Prod.snd := by
  simp only [pass1After, cleanPairs, changedPairs, List.mem_toFinset, List.map_append]

/-! ## Pass 2 -/

/-- Source keys left over by pass 1, in iteration order. -/
def unmatchedSource1 : List MailboxMessageKey :=
  input.sourceMessages.keys.filter
    (· ∉ (input.pass1After platform input.messageIds).matchedSource)

/-- Destination keys left over by pass 1, in iteration order. -/
def unmatchedDest1 : List MailboxMessageKey :=
  input.destMessages.keys.filter
    (· ∉ (input.pass1After platform input.messageIds).matchedDest)

/-- The wrong-folder pairs of one Message-ID. -/
def misplacedOf (messageId : String) : List (MailboxMessageKey × MailboxMessageKey) :=
  wrongFolderPairsOf platform input (input.unmatchedSource1 platform)
    (input.unmatchedDest1 platform) (input.sourceUids messageId) (input.destUids messageId)

/-- All wrong-folder pairs. -/
def misplacedPairs : List (MailboxMessageKey × MailboxMessageKey) :=
  input.messageIds.flatMap (input.misplacedOf platform)

theorem mem_unmatchedSource1 (isSource : key ∈ input.sources) :
    key ∈ input.unmatchedSource1 platform ↔
      key ∉ (input.cleanPairs platform ++ input.changedPairs platform).map Prod.fst := by
  rw [unmatchedSource1, List.mem_filter, decide_eq_true_eq, mem_pass1_matchedSource]
  exact and_iff_right (mem_sortUnstable.mp isSource)

theorem mem_unmatchedDest1 (isDest : key ∈ input.destinations) :
    key ∈ input.unmatchedDest1 platform ↔
      key ∉ (input.cleanPairs platform ++ input.changedPairs platform).map Prod.snd := by
  rw [unmatchedDest1, List.mem_filter, decide_eq_true_eq, mem_pass1_matchedDest]
  exact and_iff_right (mem_sortUnstable.mp isDest)

theorem filter_sourceUids (messageId : String) :
    (input.sourceUids messageId).filter (¬· ∉ input.unmatchedSource1 platform) =
      ofClass (identityOf input.sourceMessages) messageId
        (unpairedLeft (input.cleanPairs platform ++ input.changedPairs platform)
          input.sources) := by
  rw [unpairedLeft, ofClass_filter_comm]
  apply List.filter_congr
  intro key inGroup
  rw [decide_eq_decide, not_not]
  exact input.mem_unmatchedSource1 platform (mem_ofClass.mp inGroup).1

theorem filter_destUids (messageId : String) :
    (input.destUids messageId).filter (¬· ∉ input.unmatchedDest1 platform) =
      ofClass (identityOf input.destMessages) messageId
        (unpairedRight (input.cleanPairs platform ++ input.changedPairs platform)
          input.destinations) := by
  rw [unpairedRight, ofClass_filter_comm]
  apply List.filter_congr
  intro key inGroup
  rw [decide_eq_decide, not_not]
  exact input.mem_unmatchedDest1 platform (mem_ofClass.mp inGroup).1

theorem classwise_misplacedPairs :
    Classwise
      (Matcher.nearest (fun key => (input.sourceProfile platform key).folder)
        fun key => (input.destProfile platform key).folder)
      (fun key => (input.sourceProfile platform key).looseClass)
      (fun key => (input.destProfile platform key).looseClass)
      (unpairedLeft (input.cleanPairs platform ++ input.changedPairs platform) input.sources)
      (unpairedRight (input.cleanPairs platform ++ input.changedPairs platform)
        input.destinations)
      (input.misplacedPairs platform) := by
  apply Classwise.groups (identityOf input.sourceMessages) (identityOf input.destMessages)
    (f := fun key => some
      (metadataFingerprint platform.parseDate (input.sourceMessages.at key)))
    (g := fun key => some
      (metadataFingerprint platform.parseDate (input.destMessages.at key)))
    input.messageIds_nodup
  · intro messageId absent
    rw [← input.filter_sourceUids platform, ← input.filter_destUids platform]
    rcases input.messageIds_complete absent with noSource | noDest
    · exact .inl (by rw [noSource, List.filter_nil])
    · exact .inr (by rw [noDest, List.filter_nil])
  · intro messageId common
    rw [← input.filter_sourceUids platform, ← input.filter_destUids platform]
    exact (classwise_shelfEach _ _ _ _ _ _).restrict

/-- The records of the wrong-folder pairs of some Message-IDs. -/
def misplacedRecords (ids : List String) : List MessageMismatch :=
  (ids.flatMap (input.misplacedOf platform)).map fun pair =>
    input.mismatch platform .presentWrongFolder (some pair.1) (some pair.2)

/-- What pass 2 has gathered after some Message-IDs. -/
def pass2After (ids : List String) : Pass2Result where
  log := ⟨input.misplacedRecords platform ids,
    mismatchDetailBytes (input.misplacedRecords platform ids)⟩
  matchedSource := ((ids.flatMap (input.misplacedOf platform)).map Prod.fst).toFinset
  matchedDest := ((ids.flatMap (input.misplacedOf platform)).map Prod.snd).toFinset

/-- One step of pass 2. -/
theorem pass2Group_eq {done : List String}
    (fits : mismatchDetailBytes (input.misplacedRecords platform done) ≤
      maxEstimatedMismatchDetailBytes) :
    pass2Group platform input (input.unmatchedSource1 platform)
        (input.unmatchedDest1 platform) (indexByMessageId input.sourceMessages)
        (indexByMessageId input.destMessages) (input.pass2After platform done) messageId =
      if mismatchDetailBytes (input.misplacedRecords platform (done ++ [messageId])) ≤
          maxEstimatedMismatchDetailBytes then
        .ok (input.pass2After platform (done ++ [messageId]))
      else .error mismatchDetailBudgetError := by
  have recordsEq : input.misplacedRecords platform (done ++ [messageId]) =
      input.misplacedRecords platform done ++ (input.misplacedOf platform messageId).map
        fun pair => input.mismatch platform .presentWrongFolder (some pair.1)
          (some pair.2) := by
    simp [misplacedRecords]
  have appended := foldlM_appendMismatchWithBudget
    ((input.misplacedOf platform messageId).map fun pair =>
      input.mismatch platform .presentWrongFolder (some pair.1) (some pair.2))
    (input.pass2After platform done).log fits
  have bytesEq : mismatchDetailBytes
      (input.misplacedRecords platform (done ++ [messageId])) =
      (input.pass2After platform done).log.estimatedBytes +
        mismatchDetailBytes ((input.misplacedOf platform messageId).map fun pair =>
          input.mismatch platform .presentWrongFolder (some pair.1) (some pair.2)) := by
    rw [recordsEq, mismatchDetailBytes_append]
    rfl
  rw [← bytesEq] at appended
  simp only [pass2Group, get_sourceUids, get_destUids]
  change (do
    let log ← ((input.misplacedOf platform messageId).map fun pair =>
      input.mismatch platform .presentWrongFolder (some pair.1) (some pair.2)).foldlM
        appendMismatchWithBudget (input.pass2After platform done).log
    _ : Except String Pass2Result) = _
  rw [appended]
  split
  next within =>
    change Except.ok _ = Except.ok _
    congr 1
    simp only [pass2After, misplacedOf, recordsEq, List.flatMap_append,
      List.flatMap_singleton, List.map_append, List.toFinset_append]
  next => rfl

/-- Pass 2 gathers the pairs of all groups unless their records exceed the budget. -/
theorem pass2_eq :
    pass2WrongFolderDetection platform input (input.unmatchedSource1 platform)
        (input.unmatchedDest1 platform) (indexByMessageId input.sourceMessages)
        (indexByMessageId input.destMessages) =
      if mismatchDetailBytes (input.misplacedRecords platform input.messageIds) ≤
          maxEstimatedMismatchDetailBytes then
        .ok (input.pass2After platform input.messageIds)
      else .error mismatchDetailBudgetError := by
  have start : ({} : Pass2Result) = input.pass2After platform [] := by
    simp [pass2After, misplacedRecords, mismatchDetailBytes]
  rw [pass2WrongFolderDetection, start]
  exact foldlM_metered (input.pass2After platform)
    (fun ids => mismatchDetailBytes (input.misplacedRecords platform ids))
    (fun done more => by simp [misplacedRecords])
    (fun _ _ _ _ fits => input.pass2Group_eq platform fits)
    (by simp [misplacedRecords, mismatchDetailBytes])

/-! ## Pass 3 -/

/-- Source keys left over by pass 2, in iteration order. -/
def unmatchedSource2 : List MailboxMessageKey :=
  (input.unmatchedSource1 platform).filter
    (· ∉ (input.pass2After platform input.messageIds).matchedSource)

/-- Destination keys left over by pass 2, in iteration order. -/
def unmatchedDest2 : List MailboxMessageKey :=
  (input.unmatchedDest1 platform).filter
    (· ∉ (input.pass2After platform input.messageIds).matchedDest)

/-- The pairs by unique metadata. -/
def probablePairs : List (MailboxMessageKey × MailboxMessageKey) :=
  probablePairsOf
    (indexByFingerprint platform.parseDate input.sourceMessages
      (input.unmatchedSource2 platform) input.folderMapping true)
    (indexByFingerprint platform.parseDate input.destMessages
      (input.unmatchedDest2 platform) input.folderMapping false)

theorem singletonPair_toList (sources destinations : List MailboxMessageKey) :
    (singletonPair sources destinations).toList =
      (Matcher.single : Matcher MailboxMessageKey MailboxMessageKey).run sources
        destinations := by
  match sources, destinations with
  | [], _ | _ :: _ :: _, _ => simp [singletonPair, Matcher.single]
  | [_], [] | [_], _ :: _ :: _ => simp [singletonPair, Matcher.single]
  | [_], [_] => rfl

/-- Pairing singleton buckets is a classwise matching of the indexed lists. -/
theorem classwise_probablePairsOf (f g : MailboxMessageKey →
    Option (String × MetadataFingerprint)) (xs ys : List MailboxMessageKey) :
    Classwise Matcher.single f g xs ys
      (probablePairsOf (Buckets.index f xs) (Buckets.index g ys)) := by
  have classesNodup : ((sortUnstable (((Buckets.index f xs).keys.filter
      (· ∈ Buckets.index g ys)).map toLex)).map ofLex).Nodup := by
    apply List.Nodup.map ofLex.injective
    apply sortUnstable_nodup
    exact ((AList.keys_nodup _).filter _).map toLex.injective
  have mem_classes : ∀ c, c ∈ (sortUnstable (((Buckets.index f xs).keys.filter
      (· ∈ Buckets.index g ys)).map toLex)).map ofLex ↔
      c ∈ Buckets.index f xs ∧ c ∈ Buckets.index g ys := by
    intro c
    simp only [List.mem_map, mem_sortUnstable, List.mem_filter, decide_eq_true_eq,
      ← AList.mem_keys]
    constructor
    · rintro ⟨_, ⟨other, used, rfl⟩, rfl⟩
      exact used
    · intro used
      exact ⟨toLex c, ⟨c, used, rfl⟩, rfl⟩
  rw [probablePairsOf, List.filterMap_eq_flatMap_toList]
  apply Classwise.ofClasses classesNodup
  · intro c absent
    rw [mem_classes, not_and_or, Buckets.mem_index, Buckets.mem_index] at absent
    rcases absent with noLeft | noRight
    · push Not at noLeft
      exact .inl (ofClass_eq_nil noLeft)
    · push Not at noRight
      exact .inr (ofClass_eq_nil noRight)
  · intro c _
    rw [singletonPair_toList, Buckets.get_index, Buckets.get_index]

theorem unmatchedSource2_perm : (input.unmatchedSource2 platform).Perm
    (unpairedLeft (input.cleanPairs platform ++ input.changedPairs platform ++
      input.misplacedPairs platform) input.sources) := by
  have filtered : input.unmatchedSource2 platform = input.sourceMessages.keys.filter
      (· ∉ (input.cleanPairs platform ++ input.changedPairs platform ++
        input.misplacedPairs platform).map Prod.fst) := by
    rw [unmatchedSource2, unmatchedSource1, List.filter_filter]
    apply List.filter_congr
    intro key _
    simp only [mem_pass1_matchedSource, pass2After, misplacedPairs, List.mem_toFinset,
      List.map_append, List.mem_append, not_or, Bool.decide_and]
    exact Bool.and_comm _ _
  rw [filtered]
  exact (sortUnstable_perm _).symm.filter _

theorem unmatchedDest2_perm : (input.unmatchedDest2 platform).Perm
    (unpairedRight (input.cleanPairs platform ++ input.changedPairs platform ++
      input.misplacedPairs platform) input.destinations) := by
  have filtered : input.unmatchedDest2 platform = input.destMessages.keys.filter
      (· ∉ (input.cleanPairs platform ++ input.changedPairs platform ++
        input.misplacedPairs platform).map Prod.snd) := by
    rw [unmatchedDest2, unmatchedDest1, List.filter_filter]
    apply List.filter_congr
    intro key _
    simp only [mem_pass1_matchedDest, pass2After, misplacedPairs, List.mem_toFinset,
      List.map_append, List.mem_append, not_or, Bool.decide_and]
    exact Bool.and_comm _ _
  rw [filtered]
  exact (sortUnstable_perm _).symm.filter _

theorem classwise_probablePairs :
    Classwise Matcher.single (fun key => (input.sourceProfile platform key).probableClass)
      (fun key => (input.destProfile platform key).probableClass)
      (unpairedLeft (input.cleanPairs platform ++ input.changedPairs platform ++
        input.misplacedPairs platform) input.sources)
      (unpairedRight (input.cleanPairs platform ++ input.changedPairs platform ++
        input.misplacedPairs platform) input.destinations)
      (input.probablePairs platform) := by
  have matching := classwise_probablePairsOf
    (fun key => (input.sourceProfile platform key).probableClass)
    (fun key => (input.destProfile platform key).probableClass)
    (input.unmatchedSource2 platform) (input.unmatchedDest2 platform)
  exact matching.permute (input.unmatchedSource2_perm platform)
    (input.unmatchedDest2_perm platform) Matcher.single_run_perm

/-- The passes, as one reconciliation of the sorted keys. -/
def reconciliation : Reconciliation Profile.looseClass (input.sourceProfile platform)
    (input.destProfile platform) input.sources input.destinations where
  exact := input.cleanPairs platform
  changed := input.changedPairs platform
  misplaced := input.misplacedPairs platform
  probable := input.probablePairs platform
  exactPairs := input.classwise_cleanPairs platform
  changedPairs := input.classwise_changedPairs platform
  misplacedPairs := input.classwise_misplacedPairs platform
  probablePairs := input.classwise_probablePairs platform

end ReconciliationInput

end MailSwiftSync
