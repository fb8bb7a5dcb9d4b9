import Mathlib.Algebra.Order.BigOperators.Group.Finset
import Mathlib.Order.Interval.Finset.Nat
import MailSwiftSync.Foundation.Grouping
import MailSwiftSync.Staged.FlagCoverage
import MailSwiftSync.Staged.FlagSets

/-!
# What the flag pass counts

A group of messages with one identity, expected folder, date and size is comparable when it has
as many messages on both sides and all their flags are known.  The pass counts the source messages
of comparable groups, of those that differ, and of single pairs whose difference the destination
could not avoid.
-/

namespace MailSwiftSync

open Foundation

/-! ## Differences of two flag sets -/

/-- Whether a folder could store a flag; without PERMANENTFLAGS it could store every flag. -/
def CouldStore (permanent : Option String) (flag : String) : Prop :=
  ∀ flags ∈ permanent, storableFlag (flagSet flags) flag = true

/-- The destination gained a flag, or lost one that its folder could store. -/
def Unexcused (permanent : Option String) (source destination : Finset String) : Prop :=
  ∃ flag ∈ source ∪ destination, (flag ∈ destination ∧ flag ∉ source) ∨
    (flag ∈ source ∧ flag ∉ destination ∧ CouldStore permanent flag)

instance (permanent : Option String) (flag : String) : Decidable (CouldStore permanent flag) :=
  inferInstanceAs (Decidable (∀ flags ∈ permanent, _))

instance (permanent : Option String) (source destination : Finset String) :
    Decidable (Unexcused permanent source destination) :=
  inferInstanceAs (Decidable (∃ flag ∈ source ∪ destination, _))

theorem unexcused_irrefl (permanent : Option String) (flags : Finset String) :
    ¬Unexcused permanent flags flags := by
  rintro ⟨flag, -, gained | lost⟩
  · exact gained.2 gained.1
  · exact lost.2.1 lost.1

/-- Where nothing was gained, the lost flags decide. -/
theorem unexcused_iff_of_subset {permanent : Option String} {source destination : Finset String}
    (subset : destination ⊆ source) :
    Unexcused permanent source destination ↔
      ∃ flag ∈ source \ destination, CouldStore permanent flag := by
  constructor
  · rintro ⟨flag, -, gained | lost⟩
    · exact absurd (subset gained.1) gained.2
    · exact ⟨flag, Finset.mem_sdiff.mpr ⟨lost.1, lost.2.1⟩, lost.2.2⟩
  · rintro ⟨flag, isLost, stores⟩
    obtain ⟨isSource, notDest⟩ := Finset.mem_sdiff.mp isLost
    exact ⟨flag, Finset.mem_union_left _ isSource, .inr ⟨isSource, notDest, stores⟩⟩

theorem compareFlagSets_eq_mismatch {source destination : String} {permanent : Option String} :
    compareFlagSets source destination permanent = .mismatch ↔
      Unexcused permanent (flagSet source) (flagSet destination) := by
  unfold compareFlagSets
  split
  · next sameText =>
    rw [sameText]
    exact iff_of_false (by simp) (unexcused_irrefl _ _)
  · split
    · next sameSet =>
      rw [sameSet]
      exact iff_of_false (by simp) (unexcused_irrefl _ _)
    · next different =>
      split
      · next notSubset =>
        refine iff_of_true rfl ?_
        rw [Finset.not_subset] at notSubset
        obtain ⟨flag, isDest, notSource⟩ := notSubset
        exact ⟨flag, Finset.mem_union_right _ isDest, .inl ⟨isDest, notSource⟩⟩
      · next subset =>
        rw [not_not] at subset
        rw [unexcused_iff_of_subset subset]
        cases permanent with
        | none =>
          have lost : ∃ flag ∈ flagSet source, flag ∉ flagSet destination := by
            rw [← Finset.not_subset]
            intro back
            exact different (back.antisymm subset)
          obtain ⟨flag, isSource, notDest⟩ := lost
          refine iff_of_true rfl ⟨flag, Finset.mem_sdiff.mpr ⟨isSource, notDest⟩, ?_⟩
          intro flags isPermanent
          cases isPermanent
        | some flags => simp [CouldStore, and_assoc]

theorem compareFlagSets_eq_excepted {source destination : String} {permanent : Option String} :
    compareFlagSets source destination permanent = .excepted ↔
      flagSet source ≠ flagSet destination ∧
        ¬Unexcused permanent (flagSet source) (flagSet destination) := by
  rw [← compareFlagSets_eq_mismatch, ne_eq, 
    ← @compareFlagSets_eq_matched source destination permanent]
  cases compareFlagSets source destination permanent <;> simp

/-! ## Groups -/

/-- The flags of a message, as a set. -/
def StagedRow.flagSet {parseDate : DateParser} (row : StagedRow parseDate) : Finset String :=
  row.flags.elim ∅ MailSwiftSync.flagSet

namespace MessageMetadataStage

variable {parseDate : DateParser} (stage : MessageMetadataStage parseDate)
  (folderMapping : FolderMapping)

/-- As many messages on both sides, and the flags of every message are known. -/
structure Comparable (identity : String × String × String × Nat) : Prop where
  sizes : (stage.sourceGroup folderMapping identity).length = (stage.destGroup identity).length
  sourceKnown : ∀ row ∈ stage.sourceGroup folderMapping identity, row.flags.isSome = true
  destKnown : ∀ row ∈ stage.destGroup identity, row.flags.isSome = true

instance (identity : String × String × String × Nat) :
    Decidable (stage.Comparable folderMapping identity) :=
  decidable_of_iff
    ((stage.sourceGroup folderMapping identity).length = (stage.destGroup identity).length ∧
      (∀ row ∈ stage.sourceGroup folderMapping identity, row.flags.isSome = true) ∧
      ∀ row ∈ stage.destGroup identity, row.flags.isSome = true)
    ⟨fun all => ⟨all.1, all.2.1, all.2.2⟩, fun all => ⟨all.1, all.2, all.3⟩⟩

/-- The PERMANENTFLAGS of the folder a group belongs to. -/
def groupPermanentFlags (identity : String × String × String × Nat) : Option String :=
  (stage.permanentFlags.lookup (.destination, identity.2.1)).join

/-- A single pair whose flags differ in a flag that was gained or could be stored. -/
def PairMismatched (identity : String × String × String × Nat) : Prop :=
  (stage.sourceGroup folderMapping identity).length = 1 ∧
    ∃ source ∈ stage.sourceGroup folderMapping identity, ∃ destination ∈ stage.destGroup identity,
      Unexcused (stage.groupPermanentFlags identity) source.flagSet destination.flagSet

/-- A single pair whose flags differ in other flags only. -/
def PairExcepted (identity : String × String × String × Nat) : Prop :=
  (stage.sourceGroup folderMapping identity).length = 1 ∧
    ∃ source ∈ stage.sourceGroup folderMapping identity, ∃ destination ∈ stage.destGroup identity,
      source.flagSet ≠ destination.flagSet ∧
        ¬Unexcused (stage.groupPermanentFlags identity) source.flagSet destination.flagSet

/-- Several messages whose flag sets differ as multisets. -/
def GroupMismatched (identity : String × String × String × Nat) : Prop :=
  1 < (stage.sourceGroup folderMapping identity).length ∧
    ¬((stage.sourceGroup folderMapping identity).map StagedRow.flagSet).Perm
      ((stage.destGroup identity).map StagedRow.flagSet)

instance (identity : String × String × String × Nat) :
    Decidable (stage.PairMismatched folderMapping identity) :=
  inferInstanceAs (Decidable (_ ∧ _))

instance (identity : String × String × String × Nat) :
    Decidable (stage.PairExcepted folderMapping identity) :=
  inferInstanceAs (Decidable (_ ∧ _))

instance (identity : String × String × String × Nat) :
    Decidable (stage.GroupMismatched folderMapping identity) :=
  inferInstanceAs (Decidable (_ ∧ _))

/-- The source messages of the groups with a property. -/
def sourceMessagesIn (property : String × String × String × Nat → Prop)
    [DecidablePred property] : List (StagedRow parseDate) :=
  (stage.sideRows .source).filter fun row =>
    (sourceIdentity folderMapping row).any fun identity => property identity

/-- The counts of the flag pass, by groups. -/
def flagCounts : FlagVerification where
  comparedMessages := (stage.sourceMessagesIn folderMapping fun identity =>
    stage.Comparable folderMapping identity).length
  mismatchedMessages :=
    (stage.sourceMessagesIn folderMapping fun identity => stage.Comparable folderMapping identity ∧
      stage.PairMismatched folderMapping identity).length +
    (stage.sourceMessagesIn folderMapping fun identity => stage.Comparable folderMapping identity ∧
      stage.GroupMismatched folderMapping identity).length
  exceptedMessages := (stage.sourceMessagesIn folderMapping fun identity =>
    stage.Comparable folderMapping identity ∧ stage.PairExcepted folderMapping identity).length

variable {stage folderMapping}

/-! ## Compared messages -/

theorem mem_sourceMessagesIn {property : String × String × String × Nat → Prop}
    [DecidablePred property] {row : StagedRow parseDate} :
    row ∈ stage.sourceMessagesIn folderMapping property ↔ row ∈ stage.sideRows .source ∧
      ∃ identity, sourceIdentity folderMapping row = some identity ∧ property identity := by
  rw [sourceMessagesIn, List.mem_filter, Option.any_eq_true]
  simp only [decide_eq_true_eq]

/-- The compared groups are the comparable ones with several messages. -/
theorem mem_comparedGroups {identity : String × String × String × Nat} :
    identity ∈ stage.comparedGroups folderMapping ↔ stage.Comparable folderMapping identity ∧
      1 < (stage.sourceGroup folderMapping identity).length := by
  rw [comparedGroups, List.mem_filter, mem_duplicateGroups, frequencies_complete_iff]
  constructor
  · rintro ⟨⟨-, several, sizes⟩, sourceKnown, destKnown⟩
    exact ⟨⟨sizes, sourceKnown, destKnown⟩, several⟩
  · rintro ⟨comparable, several⟩
    refine ⟨⟨?_, several, comparable.sizes⟩, comparable.sourceKnown, comparable.destKnown⟩
    obtain ⟨row, isRow⟩ := List.exists_mem_of_length_pos (Nat.lt_trans Nat.zero_lt_one several)
    obtain ⟨isSource, isIdentity⟩ := mem_ofClass.mp isRow
    exact List.mem_filterMap.mpr ⟨row, isSource, isIdentity⟩

/-- The compared pairs are the comparable groups with one message. -/
theorem mem_comparedPairs_iff {pair : StagedRow parseDate × StagedRow parseDate} :
    pair ∈ stage.comparedPairs folderMapping ↔ ∃ identity,
      stage.sourceGroup folderMapping identity = [pair.1] ∧ stage.destGroup identity = [pair.2] ∧
        stage.Comparable folderMapping identity := by
  constructor
  · intro isPair
    obtain ⟨identity, sourceAlone, destAlone, sourceReported, destReported⟩ :=
      mem_comparedPairs isPair
    refine ⟨identity, sourceAlone, destAlone, ?_⟩
    constructor
    · rw [sourceAlone, destAlone, List.length_singleton, List.length_singleton]
    · rw [sourceAlone, List.forall_mem_singleton]
      exact sourceReported
    · rw [destAlone, List.forall_mem_singleton]
      exact destReported
  · rintro ⟨identity, sourceAlone, destAlone, comparable⟩
    have sourceRow : pair.1 ∈ stage.sourceGroup folderMapping identity := by
      rw [sourceAlone]
      exact List.mem_singleton_self _
    have destRow : pair.2 ∈ stage.destGroup identity := by
      rw [destAlone]
      exact List.mem_singleton_self _
    have lone : ∀ {rows : List (StagedRow parseDate)} {row : StagedRow parseDate}
        {cls : StagedRow parseDate → Option (String × String × String × Nat)},
        ofClass cls identity rows = [row] → row ∈ lone cls rows := by
      intro rows row cls alone
      have inLone : row ∈ ofClass cls identity (Foundation.lone cls rows) := by
        rw [ofClass_lone, alone, if_pos List.length_singleton]
        exact List.mem_singleton_self _
      exact (mem_ofClass.mp inLone).1
    rw [comparedPairs, List.mem_filter, mem_loneJoin, Bool.and_eq_true]
    exact ⟨⟨lone sourceAlone, lone destAlone,
      (mem_ofClass.mp sourceRow).2.trans (mem_ofClass.mp destRow).2.symm⟩,
      comparable.sourceKnown _ sourceRow, comparable.destKnown _ destRow⟩

/-- The compared rows are those of the comparable groups. -/
theorem mem_comparedRows {row : StagedRow parseDate} :
    row ∈ stage.comparedRows folderMapping ↔
      row ∈ stage.sourceMessagesIn folderMapping fun identity =>
        stage.Comparable folderMapping identity := by
  rw [comparedRows, List.mem_append, mem_sourceMessagesIn, List.mem_map, List.mem_flatMap]
  constructor
  · rintro (⟨pair, isPair, rfl⟩ | ⟨identity, isGroup, inGroup⟩)
    · obtain ⟨identity, alone, -, comparable⟩ := mem_comparedPairs_iff.mp isPair
      have own : pair.1 ∈ stage.sourceGroup folderMapping identity := by
        rw [alone]
        exact List.mem_singleton_self _
      exact ⟨(mem_ofClass.mp own).1, identity, (mem_ofClass.mp own).2, comparable⟩
    · exact ⟨(mem_ofClass.mp inGroup).1, identity, (mem_ofClass.mp inGroup).2,
        (mem_comparedGroups.mp isGroup).1⟩
  · rintro ⟨isSource, identity, isIdentity, comparable⟩
    have own : row ∈ stage.sourceGroup folderMapping identity :=
      mem_ofClass.mpr ⟨isSource, isIdentity⟩
    by_cases several : 1 < (stage.sourceGroup folderMapping identity).length
    · exact .inr ⟨identity, mem_comparedGroups.mpr ⟨comparable, several⟩, own⟩
    · have positive := List.length_pos_of_mem own
      have one : (stage.sourceGroup folderMapping identity).length = 1 := by omega
      obtain ⟨only, sourceAlone⟩ := List.length_eq_one_iff.mp one
      obtain ⟨partner, destAlone⟩ := List.length_eq_one_iff.mp (comparable.sizes ▸ one)
      rw [sourceAlone, List.mem_singleton] at own
      subst own
      exact .inl ⟨(row, partner),
        mem_comparedPairs_iff.mpr ⟨identity, sourceAlone, destAlone, comparable⟩, rfl⟩

variable (stage folderMapping) in
theorem comparedRows_perm : (stage.comparedRows folderMapping).Perm
    (stage.sourceMessagesIn folderMapping fun identity =>
      stage.Comparable folderMapping identity) :=
  (List.perm_ext_iff_of_nodup comparedRows_nodup ((sideRows_nodup _).filter _)).mpr fun _ =>
    mem_comparedRows

/-- The comparable messages with a property, counted by pairs and groups. -/
theorem length_comparable_eq (property : String × String × String × Nat → Prop)
    [DecidablePred property] :
    (stage.sourceMessagesIn folderMapping fun identity =>
        stage.Comparable folderMapping identity ∧ property identity).length =
      ((stage.comparedPairs folderMapping).filter fun pair =>
        (sourceIdentity folderMapping pair.1).any fun identity => property identity).length +
      (((stage.comparedGroups folderMapping).filter fun identity => property identity).map
        fun identity => (stage.sourceGroup folderMapping identity).length).sum := by
  have narrowed : (stage.sourceMessagesIn folderMapping fun identity =>
      stage.Comparable folderMapping identity ∧ property identity) =
      (stage.sourceMessagesIn folderMapping fun identity =>
        stage.Comparable folderMapping identity).filter fun row =>
          (sourceIdentity folderMapping row).any fun identity => property identity := by
    rw [sourceMessagesIn, sourceMessagesIn, List.filter_filter]
    apply List.filter_congr
    intro row _
    cases sourceIdentity folderMapping row with
    | none => rfl
    | some identity => simp [Bool.and_comm]
  have perm := (stage.comparedRows_perm folderMapping).filter fun row =>
    (sourceIdentity folderMapping row).any fun identity => property identity
  have ofGroup : ∀ identity ∈ stage.comparedGroups folderMapping,
      ((stage.sourceGroup folderMapping identity).filter fun row =>
        (sourceIdentity folderMapping row).any fun identity => property identity).length =
        if property identity then (stage.sourceGroup folderMapping identity).length else 0 := by
    intro identity _
    have sameIdentity : ((stage.sourceGroup folderMapping identity).filter fun row =>
        (sourceIdentity folderMapping row).any fun identity => property identity) =
        (stage.sourceGroup folderMapping identity).filter fun _ => property identity := by
      apply List.filter_congr
      intro row isRow
      rw [(mem_ofClass.mp isRow).2, Option.any_some]
    rw [sameIdentity]
    by_cases holds : property identity
    · simp [holds]
    · simp [holds]
  rw [narrowed, ← perm.length_eq, comparedRows, List.filter_append, List.length_append,
    List.filter_map, List.length_map, List.filter_flatMap, List.length_flatMap,
    List.map_congr_left ofGroup, sum_map_filter]
  simp only [decide_eq_true_eq]
  rfl

end MessageMetadataStage

/-! ## Counting without overflow -/

theorem saturatingAdd_eq {left right : Nat} (room : left + right ≤ 2 ^ 64 - 1) :
    saturatingAdd left right = left + right :=
  min_eq_left room

/-- How many pairs compare to a result. -/
def pairsWith (comparison : FlagComparison) (pairs : List (String × String × Option String)) :
    Nat :=
  (pairs.filter fun pair => compareFlagSets pair.1 pair.2.1 pair.2.2 = comparison).length

theorem pairsWith_cons (comparison : FlagComparison) (pair : String × String × Option String)
    (pairs : List (String × String × Option String)) :
    pairsWith comparison (pair :: pairs) = (if compareFlagSets pair.1 pair.2.1 pair.2.2 = comparison
      then 1 else 0) + pairsWith comparison pairs := by
  rw [pairsWith, List.filter_cons]
  split
  · next same =>
    rw [if_pos (of_decide_eq_true same), List.length_cons, Nat.add_comm]
    rfl
  · next different =>
    rw [if_neg (by simpa using different), Nat.zero_add]
    rfl

/-- The pair loop counts the pairs by the result of their comparison. -/
theorem foldl_countFlagPair {pairs : List (String × String × Option String)}
    {result : FlagVerification}
    (compared : result.comparedMessages + pairs.length ≤ 2 ^ 64 - 1)
    (mismatched : result.mismatchedMessages + pairs.length ≤ 2 ^ 64 - 1)
    (excepted : result.exceptedMessages + pairs.length ≤ 2 ^ 64 - 1) :
    pairs.foldl countFlagPair result = {
      comparedMessages := result.comparedMessages + pairs.length
      mismatchedMessages := result.mismatchedMessages + pairsWith .mismatch pairs
      exceptedMessages := result.exceptedMessages + pairsWith .excepted pairs } := by
  induction pairs generalizing result with
  | nil => rfl
  | cons pair pairs ih =>
    rw [List.length_cons] at compared mismatched excepted
    have counted : countFlagPair result pair = {
        comparedMessages := result.comparedMessages + 1
        mismatchedMessages := result.mismatchedMessages +
          if compareFlagSets pair.1 pair.2.1 pair.2.2 = .mismatch then 1 else 0
        exceptedMessages := result.exceptedMessages +
          if compareFlagSets pair.1 pair.2.1 pair.2.2 = .excepted then 1 else 0 } := by
      rw [countFlagPair]
      cases compareFlagSets pair.1 pair.2.1 pair.2.2 with
      | matched => simp [saturatingAdd_eq (show result.comparedMessages + 1 ≤ _ by omega)]
      | excepted =>
        simp [saturatingAdd_eq (show result.comparedMessages + 1 ≤ _ by omega),
          saturatingAdd_eq (show result.exceptedMessages + 1 ≤ _ by omega)]
      | mismatch =>
        simp [saturatingAdd_eq (show result.comparedMessages + 1 ≤ _ by omega),
          saturatingAdd_eq (show result.mismatchedMessages + 1 ≤ _ by omega)]
    rw [List.foldl_cons, counted, ih, pairsWith_cons, pairsWith_cons, List.length_cons]
    · simp only [FlagVerification.mk.injEq]
      omega
    · simp only
      omega
    · simp only
      split <;> omega
    · simp only
      split <;> omega

namespace FlagGroupScan

/-- The group loop counts the groups whose flags are all known, and those that differ. -/
theorem foldl_addGroup {groups : List (String × String × String × Nat)}
    {size : String × String × String × Nat → Nat}
    {rowsOf : String × String × String × Nat → List FlagFrequency} {result : FlagVerification}
    (compared : result.comparedMessages + ((groups.filter fun identity =>
      (rowsOf identity).all fun row => row.flags.isSome).map size).sum ≤ 2 ^ 64 - 1)
    (mismatched : result.mismatchedMessages + ((groups.filter fun identity =>
      (rowsOf identity).all fun row => row.flags.isSome).map size).sum ≤ 2 ^ 64 - 1) :
    groups.foldl (fun result identity => addGroup result (size identity) (rowsOf identity))
      result = {
        comparedMessages := result.comparedMessages + ((groups.filter fun identity =>
          (rowsOf identity).all fun row => row.flags.isSome).map size).sum
        mismatchedMessages := result.mismatchedMessages + (((groups.filter fun identity =>
          (rowsOf identity).all fun row => row.flags.isSome).filter fun identity =>
            (rowsOf identity).any differs).map size).sum
        exceptedMessages := result.exceptedMessages } := by
  induction groups generalizing result with
  | nil => rfl
  | cons identity groups ih =>
    rw [List.foldl_cons]
    cases complete : (rowsOf identity).all fun row => row.flags.isSome with
    | false =>
      have skipped : addGroup result (size identity) (rowsOf identity) = result := by
        rw [addGroup, if_neg (by simp [complete])]
      rw [List.filter_cons_of_neg (by simp [complete])] at compared mismatched ⊢
      rw [skipped, ih compared mismatched]
    | true =>
      rw [List.filter_cons_of_pos (by exact complete)] at compared mismatched ⊢
      rw [List.map_cons, List.sum_cons] at compared mismatched ⊢
      have counted : addGroup result (size identity) (rowsOf identity) = {
          comparedMessages := result.comparedMessages + size identity
          mismatchedMessages := result.mismatchedMessages +
            if (rowsOf identity).any differs then size identity else 0
          exceptedMessages := result.exceptedMessages } := by
        rw [addGroup, if_pos complete, saturatingAdd_eq (by omega)]
        split
        · rw [saturatingAdd_eq (by omega)]
        · rfl
      rw [counted, ih, List.filter_cons]
      · cases different : (rowsOf identity).any differs with
        | true =>
          simp only [if_true, List.map_cons, List.sum_cons, Nat.add_assoc]
        | false =>
          simp only [Bool.false_eq_true, if_false, Nat.add_zero, Nat.add_assoc]
      · simp only
        omega
      · simp only
        split <;> omega

end FlagGroupScan

/-! ## The counts of the pass -/

namespace MessageMetadataStage

variable {parseDate : DateParser} (stage : MessageMetadataStage parseDate)
  (folderMapping : FolderMapping)

/-- Rowids are signed 64-bit integers. -/
def RowidsFit : Prop := ∀ row ∈ stage.rows, row.rowid < 2 ^ 63

/-- Every known flag text was written by the reader of FETCH responses. -/
def CanonicalFlags : Prop := ∀ row ∈ stage.rows, ∀ flags ∈ row.flags, IsCanonicalFlags flags

variable {stage folderMapping}

theorem CanonicalFlags.insertMessages (canonical : stage.CanonicalFlags)
    {side : StagedMessageSide} {messages : ExtractedMessages} {keys : List MailboxMessageKey}
    (fetched : ∀ key ∈ keys, ∀ flags ∈ (messages.at key).flags,
      ∃ text, Imap.fetchFlags text = some flags)
    {filled : MessageMetadataStage parseDate}
    (isFilled : keys.foldlM (insertMessage side messages) stage = .ok filled) :
    filled.CanonicalFlags := by
  induction keys generalizing stage with
  | nil => exact Except.ok.inj isFilled ▸ canonical
  | cons key keys ih =>
    rw [List.foldlM_cons, bind_eq_ok] at isFilled
    obtain ⟨one, isOne, isFilled⟩ := isFilled
    obtain rfl := insertMessage_eq isOne
    refine ih ?_ (fun key isKey => fetched key (List.mem_cons_of_mem _ isKey)) isFilled
    intro row isRow flags isFlags
    rcases List.mem_append.mp isRow with earlier | last
    · exact canonical row (List.mem_filter.mp earlier).1 flags isFlags
    · obtain rfl := List.mem_singleton.mp last
      obtain ⟨text, isRead⟩ := fetched key List.mem_cons_self flags isFlags
      exact fetchFlags_canonical isRead

/-- Pages whose flags were read from FETCH responses leave a canonical stage. -/
theorem CanonicalFlags.insertPages (canonical : stage.CanonicalFlags) {pages : List Page}
    (fetched : ∀ page ∈ pages, ∀ key ∈ page.messages.keys, ∀ flags ∈ (page.messages.at key).flags,
      ∃ text, Imap.fetchFlags text = some flags)
    {staged : MessageMetadataStage parseDate}
    (inserted : MessageMetadataStage.insertPages pages stage = .ok staged) :
    staged.CanonicalFlags := by
  induction pages generalizing stage with
  | nil => exact Except.ok.inj inserted ▸ canonical
  | cons page rest ih =>
    rw [MessageMetadataStage.insertPages, List.foldlM_cons, bind_eq_ok] at inserted
    obtain ⟨next, isNext, inserted⟩ := inserted
    refine ih ?_ (fun page isPage => fetched page (List.mem_cons_of_mem _ isPage)) inserted
    rw [insertPageWithFingerprints] at isNext
    split at isNext
    · cases isNext
    obtain ⟨filled, isFilled, isNext⟩ := bind_eq_ok.mp isNext
    rw [CanonicalFlags, rows_foldlM_insertFingerprint isNext]
    exact canonical.insertMessages
      (fun key isKey => fetched page List.mem_cons_self key (mem_sortUnstable.mp isKey)) isFilled

theorem RowidsFit.rows_length (fit : stage.RowidsFit) : stage.rows.length ≤ 2 ^ 63 - 1 := by
  have nodup : (stage.rows.map StagedRow.rowid).Nodup := by
    rw [List.Nodup, List.pairwise_map]
    exact stage.rowidOrder.imp fun before => before.ne
  have inRange : (stage.rows.map StagedRow.rowid).toFinset ⊆ Finset.Ico 1 (2 ^ 63) := by
    intro rowid isRowid
    obtain ⟨row, isRow, rfl⟩ := List.mem_map.mp (List.mem_toFinset.mp isRowid)
    exact Finset.mem_Ico.mpr ⟨stage.rowidPositive row isRow, fit row isRow⟩
  have card := Finset.card_le_card inRange
  rwa [List.toFinset_card_of_nodup nodup, List.length_map, Nat.card_Ico] at card

theorem sideRows_length (fit : stage.RowidsFit) (side : StagedMessageSide) :
    (stage.sideRows side).length ≤ 2 ^ 63 - 1 :=
  (List.length_filter_le _ _).trans fit.rows_length

variable {identity : String × String × String × Nat}

theorem destIdentity_folder {row : StagedRow parseDate}
    (isIdentity : destIdentity row = some identity) : identity.2.1 = row.mailbox := by
  rw [destIdentity, StagedRow.exactKey] at isIdentity
  obtain ⟨messageId, -, isIdentity⟩ := Option.bind_eq_some_iff.mp isIdentity
  rw [Option.map_map, Option.map_eq_some_iff] at isIdentity
  obtain ⟨metadata, -, rfl⟩ := isIdentity
  rfl

theorem flagSet_of_known {row : StagedRow parseDate} (known : row.flags.isSome = true) :
    flagSet (row.flags.getD "") = row.flagSet := by
  obtain ⟨flags, isFlags⟩ := Option.isSome_iff_exists.mp known
  rw [StagedRow.flagSet, isFlags]
  rfl

/-- What the comparison of a pair says about its group. -/
theorem comparison_of_pair {pair : StagedRow parseDate × StagedRow parseDate}
    (isPair : pair ∈ stage.comparedPairs folderMapping) :
    ∃ identity, sourceIdentity folderMapping pair.1 = some identity ∧
      ¬stage.GroupMismatched folderMapping identity ∧
      (compareFlagSets (pair.1.flags.getD "") (pair.2.flags.getD "")
          (stage.permanentFlags.lookup (.destination, pair.2.mailbox)).join = .mismatch ↔
        stage.PairMismatched folderMapping identity) ∧
      (compareFlagSets (pair.1.flags.getD "") (pair.2.flags.getD "")
          (stage.permanentFlags.lookup (.destination, pair.2.mailbox)).join = .excepted ↔
        stage.PairExcepted folderMapping identity) := by
  obtain ⟨identity, sourceAlone, destAlone, comparable⟩ := mem_comparedPairs_iff.mp isPair
  have sourceRow : pair.1 ∈ stage.sourceGroup folderMapping identity := by
    rw [sourceAlone]
    exact List.mem_singleton_self _
  have destRow : pair.2 ∈ stage.destGroup identity := by
    rw [destAlone]
    exact List.mem_singleton_self _
  have folder := destIdentity_folder (mem_ofClass.mp destRow).2
  refine ⟨identity, (mem_ofClass.mp sourceRow).2, ?_, ?_, ?_⟩
  · rintro ⟨several, -⟩
    rw [sourceAlone, List.length_singleton] at several
    exact lt_irrefl 1 several
  · rw [compareFlagSets_eq_mismatch, flagSet_of_known (comparable.sourceKnown _ sourceRow),
      flagSet_of_known (comparable.destKnown _ destRow), PairMismatched, sourceAlone, destAlone,
      groupPermanentFlags, folder]
    simp
  · rw [compareFlagSets_eq_excepted, flagSet_of_known (comparable.sourceKnown _ sourceRow),
      flagSet_of_known (comparable.destKnown _ destRow), PairExcepted, sourceAlone, destAlone,
      groupPermanentFlags, folder]
    simp

/-- Canonical texts differ as multisets exactly when their flag sets do. -/
theorem flags_perm_iff (canonical : stage.CanonicalFlags)
    (comparable : stage.Comparable folderMapping identity) :
    ((stage.sourceGroup folderMapping identity).map StagedRow.flags).Perm
        ((stage.destGroup identity).map StagedRow.flags) ↔
      ((stage.sourceGroup folderMapping identity).map StagedRow.flagSet).Perm
        ((stage.destGroup identity).map StagedRow.flagSet) := by
  classical
  constructor
  · intro perm
    have mapped := perm.map fun flags => flags.elim ∅ flagSet
    rwa [List.map_map, List.map_map] at mapped
  · intro perm
    -- a canonical text is the value of its flag set under this function
    let textOf : Finset String → Option String := fun flags =>
      if written : ∃ text, IsCanonicalFlags text ∧ flagSet text = flags then some written.choose
      else none
    have textOf_flagSet : ∀ row ∈ stage.rows, row.flags.isSome = true →
        textOf row.flagSet = row.flags := by
      intro row isRow known
      obtain ⟨flags, isFlags⟩ := Option.isSome_iff_exists.mp known
      have isCanonical := canonical row isRow flags isFlags
      have isSet : flagSet flags = row.flagSet := by
        rw [StagedRow.flagSet, isFlags]
        rfl
      have written : ∃ text, IsCanonicalFlags text ∧ flagSet text = row.flagSet :=
        ⟨flags, isCanonical, isSet⟩
      simp only [textOf]
      rw [dif_pos written, isFlags, Option.some.injEq]
      exact written.choose_spec.1.ext isCanonical (written.choose_spec.2.trans isSet.symm)
    have mapped := perm.map textOf
    rw [List.map_map, List.map_map] at mapped
    have sourceTexts : (stage.sourceGroup folderMapping identity).map (textOf ∘ StagedRow.flagSet) =
        (stage.sourceGroup folderMapping identity).map StagedRow.flags := by
      apply List.map_congr_left
      intro row isRow
      exact textOf_flagSet row (List.mem_of_mem_filter (mem_ofClass.mp isRow).1)
        (comparable.sourceKnown row isRow)
    have destTexts : (stage.destGroup identity).map (textOf ∘ StagedRow.flagSet) =
        (stage.destGroup identity).map StagedRow.flags := by
      apply List.map_congr_left
      intro row isRow
      exact textOf_flagSet row (List.mem_of_mem_filter (mem_ofClass.mp isRow).1)
        (comparable.destKnown row isRow)
    rwa [sourceTexts, destTexts] at mapped

/-- The pairs with one result are the single messages of the groups it says something about. -/
theorem pairsWith_eq {comparison : FlagComparison}
    {property : String × String × String × Nat → Prop} [DecidablePred property]
    (single : ∀ identity, property identity →
      (stage.sourceGroup folderMapping identity).length = 1)
    (agree : ∀ pair ∈ stage.comparedPairs folderMapping, ∃ identity,
      sourceIdentity folderMapping pair.1 = some identity ∧
        (compareFlagSets (pair.1.flags.getD "") (pair.2.flags.getD "")
          (stage.permanentFlags.lookup (.destination, pair.2.mailbox)).join = comparison ↔
          property identity)) :
    pairsWith comparison (stage.flagPairs folderMapping) =
      (stage.sourceMessagesIn folderMapping fun identity =>
        stage.Comparable folderMapping identity ∧ property identity).length := by
  have noGroup : ((stage.comparedGroups folderMapping).filter fun identity =>
      property identity) = [] := by
    rw [List.filter_eq_nil_iff]
    intro identity isGroup holds
    have several := (mem_comparedGroups.mp isGroup).2
    have one := single identity (of_decide_eq_true holds)
    omega
  rw [length_comparable_eq, noGroup, pairsWith, flagPairs_eq, List.filter_map, List.length_map,
    List.map_nil, List.sum_nil, Nat.add_zero]
  congr 1
  apply List.filter_congr
  intro pair isPair
  obtain ⟨identity, isIdentity, means⟩ := agree pair isPair
  rw [isIdentity, Option.any_some]
  exact decide_eq_decide.mpr means

/-- The groups that differ are counted with all their messages. -/
theorem sum_differing_eq (canonical : stage.CanonicalFlags) :
    (((stage.comparedGroups folderMapping).filter fun identity =>
      (stage.groupFrequencies folderMapping identity).any FlagGroupScan.differs).map
        fun identity => (stage.sourceGroup folderMapping identity).length).sum =
      (stage.sourceMessagesIn folderMapping fun identity =>
        stage.Comparable folderMapping identity ∧
          stage.GroupMismatched folderMapping identity).length := by
  have noPair : ((stage.comparedPairs folderMapping).filter fun pair =>
      (sourceIdentity folderMapping pair.1).any fun identity =>
        stage.GroupMismatched folderMapping identity) = [] := by
    rw [List.filter_eq_nil_iff]
    intro pair isPair holds
    obtain ⟨identity, isIdentity, notGroup, -⟩ := comparison_of_pair isPair
    rw [isIdentity, Option.any_some] at holds
    exact notGroup (of_decide_eq_true holds)
  have differing : ((stage.comparedGroups folderMapping).filter fun identity =>
      (stage.groupFrequencies folderMapping identity).any FlagGroupScan.differs) =
      (stage.comparedGroups folderMapping).filter fun identity =>
        stage.GroupMismatched folderMapping identity := by
    apply List.filter_congr
    intro identity isGroup
    obtain ⟨comparable, several⟩ := mem_comparedGroups.mp isGroup
    have complete := frequencies_complete_iff.mpr ⟨comparable.sourceKnown, comparable.destKnown⟩
    have agree := (frequencies_agree_iff complete).trans (flags_perm_iff canonical comparable)
    rw [Bool.eq_iff_iff, decide_eq_true_eq, GroupMismatched, ← agree, Bool.not_eq_false]
    exact (and_iff_right several).symm
  rw [length_comparable_eq, noPair, List.length_nil, Nat.zero_add, differing]

/-- The pass counts what the groups say. -/
theorem verifyStagedFlags_eq (fit : stage.RowidsFit) (canonical : stage.CanonicalFlags) :
    stage.verifyStagedFlags folderMapping = stage.flagCounts folderMapping := by
  have total : (stage.comparedRows folderMapping).length =
      (stage.flagPairs folderMapping).length + ((stage.comparedGroups folderMapping).map
        fun identity => (stage.sourceGroup folderMapping identity).length).sum := by
    rw [comparedRows, List.length_append, List.length_map, List.length_flatMap, flagPairs_length]
  have room : (stage.comparedRows folderMapping).length ≤ 2 ^ 63 - 1 :=
    (comparedRows_nodup.subperm comparedRows_subset).length_le.trans (sideRows_length fit .source)
  have pairs : stage.compareStagedFlagPairs folderMapping = {
      comparedMessages := (stage.flagPairs folderMapping).length
      mismatchedMessages := pairsWith .mismatch (stage.flagPairs folderMapping)
      exceptedMessages := pairsWith .excepted (stage.flagPairs folderMapping) } := by
    rw [compareStagedFlagPairs, foldl_countFlagPair]
    · simp only [Nat.zero_add]
    · simp only
      omega
    · simp only
      omega
    · simp only
      omega
  have groups : stage.compareStagedDuplicateFlagGroups folderMapping = {
      comparedMessages := ((stage.comparedGroups folderMapping).map fun identity =>
        (stage.sourceGroup folderMapping identity).length).sum
      mismatchedMessages := (((stage.comparedGroups folderMapping).filter fun identity =>
        (stage.groupFrequencies folderMapping identity).any FlagGroupScan.differs).map
          fun identity => (stage.sourceGroup folderMapping identity).length).sum
      exceptedMessages := 0 } := by
    rw [comparedGroups] at total ⊢
    rw [compareStagedDuplicateFlagGroups_eq, FlagGroupScan.foldl_addGroup]
    · simp only [Nat.zero_add]
    · simp only
      omega
    · simp only
      omega
  have mismatchedPairs := @pairsWith_eq _ stage folderMapping .mismatch
    (fun identity => stage.PairMismatched folderMapping identity) _ (fun _ holds => holds.1)
    fun pair isPair => by
      obtain ⟨identity, isIdentity, -, mismatched, -⟩ := comparison_of_pair isPair
      exact ⟨identity, isIdentity, mismatched⟩
  have exceptedPairs := @pairsWith_eq _ stage folderMapping .excepted
    (fun identity => stage.PairExcepted folderMapping identity) _ (fun _ holds => holds.1)
    fun pair isPair => by
      obtain ⟨identity, isIdentity, -, -, excepted⟩ := comparison_of_pair isPair
      exact ⟨identity, isIdentity, excepted⟩
  have compared := (stage.comparedRows_perm folderMapping).length_eq
  have atMost : ∀ property : String × String × String × Nat → Prop, [DecidablePred property] →
      (stage.sourceMessagesIn folderMapping property).length ≤ 2 ^ 63 - 1 := fun _ _ =>
    (List.length_filter_le _ _).trans (sideRows_length fit .source)
  rw [mismatchedPairs, exceptedPairs] at pairs
  rw [sum_differing_eq canonical] at groups
  rw [verifyStagedFlags, pairs, groups, flagCounts]
  simp only
  rw [saturatingAdd_eq, saturatingAdd_eq, ← total, compared]
  · have first := atMost fun identity => stage.Comparable folderMapping identity ∧
      stage.PairMismatched folderMapping identity
    have second := atMost fun identity => stage.Comparable folderMapping identity ∧
      stage.GroupMismatched folderMapping identity
    omega
  · omega

/-! ## Bounds -/

theorem sourceMessagesIn_disjoint {property other : String × String × String × Nat → Prop}
    [DecidablePred property] [DecidablePred other]
    (exclusive : ∀ identity, property identity → ¬other identity) :
    (stage.sourceMessagesIn folderMapping property).Disjoint
      (stage.sourceMessagesIn folderMapping other) := by
  intro row isRow isOther
  obtain ⟨-, identity, isIdentity, holds⟩ := mem_sourceMessagesIn.mp isRow
  obtain ⟨-, otherIdentity, isOtherIdentity, otherHolds⟩ := mem_sourceMessagesIn.mp isOther
  rw [isIdentity, Option.some.injEq] at isOtherIdentity
  exact exclusive identity holds (isOtherIdentity ▸ otherHolds)

theorem not_excepted_of_mismatched (comparable : stage.Comparable folderMapping identity)
    (mismatched : stage.PairMismatched folderMapping identity) :
    ¬stage.PairExcepted folderMapping identity := by
  rintro ⟨-, source, isSource, destination, isDest, -, excused⟩
  obtain ⟨one, other, isOther, otherDest, isOtherDest, unexcused⟩ := mismatched
  obtain ⟨onlySource, sourceAlone⟩ := List.length_eq_one_iff.mp one
  obtain ⟨onlyDest, destAlone⟩ := List.length_eq_one_iff.mp (comparable.sizes ▸ one)
  rw [sourceAlone, List.mem_singleton] at isSource isOther
  rw [destAlone, List.mem_singleton] at isDest isOtherDest
  rw [isSource, isDest] at excused
  rw [isOther, isOtherDest] at unexcused
  exact excused unexcused

variable (stage folderMapping)

/-- Differing messages are compared messages, each counted once. -/
theorem differing_le_compared :
    (stage.flagCounts folderMapping).mismatchedMessages +
        (stage.flagCounts folderMapping).exceptedMessages ≤
      (stage.flagCounts folderMapping).comparedMessages := by
  let pairs := stage.sourceMessagesIn folderMapping fun identity =>
    stage.Comparable folderMapping identity ∧ stage.PairMismatched folderMapping identity
  let groups := stage.sourceMessagesIn folderMapping fun identity =>
    stage.Comparable folderMapping identity ∧ stage.GroupMismatched folderMapping identity
  let excepted := stage.sourceMessagesIn folderMapping fun identity =>
    stage.Comparable folderMapping identity ∧ stage.PairExcepted folderMapping identity
  have pairsGroups : pairs.Disjoint groups := by
    apply sourceMessagesIn_disjoint
    rintro identity ⟨-, one, -⟩ ⟨-, several, -⟩
    omega
  have pairsExcepted : pairs.Disjoint excepted := by
    apply sourceMessagesIn_disjoint
    rintro identity ⟨comparable, mismatched⟩ ⟨-, isExcepted⟩
    exact not_excepted_of_mismatched comparable mismatched isExcepted
  have groupsExcepted : groups.Disjoint excepted := by
    apply sourceMessagesIn_disjoint
    rintro identity ⟨-, several, -⟩ ⟨-, one, -⟩
    omega
  have nodup : (pairs ++ groups ++ excepted).Nodup := by
    apply List.Nodup.append
    · exact ((sideRows_nodup _).filter _).append ((sideRows_nodup _).filter _) pairsGroups
    · exact (sideRows_nodup _).filter _
    · exact List.disjoint_append_left.mpr ⟨pairsExcepted, groupsExcepted⟩
  have subset : pairs ++ groups ++ excepted ⊆ stage.sourceMessagesIn folderMapping fun identity =>
      stage.Comparable folderMapping identity := by
    intro row isRow
    rw [List.mem_append, List.mem_append] at isRow
    rcases isRow with (isPair | isGroup) | isExcepted
    · obtain ⟨isSource, identity, isIdentity, comparable, -⟩ := mem_sourceMessagesIn.mp isPair
      exact mem_sourceMessagesIn.mpr ⟨isSource, identity, isIdentity, comparable⟩
    · obtain ⟨isSource, identity, isIdentity, comparable, -⟩ := mem_sourceMessagesIn.mp isGroup
      exact mem_sourceMessagesIn.mpr ⟨isSource, identity, isIdentity, comparable⟩
    · obtain ⟨isSource, identity, isIdentity, comparable, -⟩ := mem_sourceMessagesIn.mp isExcepted
      exact mem_sourceMessagesIn.mpr ⟨isSource, identity, isIdentity, comparable⟩
  have counted := (nodup.subperm subset).length_le
  rw [List.length_append, List.length_append] at counted
  exact counted

/-- Every compared message has a partner of its own on the destination. -/
theorem compared_le_destination :
    (stage.flagCounts folderMapping).comparedMessages ≤
      (stage.sideRows .destination).length := by
  let compared := stage.sourceMessagesIn folderMapping fun identity =>
    stage.Comparable folderMapping identity
  let identified := (stage.sideRows .destination).filter fun row => (destIdentity row).isSome
  let labels := (compared.filterMap (sourceIdentity folderMapping) ++
    identified.filterMap destIdentity).toFinset
  have sourceSum : compared.length = ∑ identity ∈ labels,
      (ofClass (sourceIdentity folderMapping) identity compared).length := by
    apply length_eq_sum_ofClass
    intro row isRow
    obtain ⟨-, identity, isIdentity, -⟩ := mem_sourceMessagesIn.mp isRow
    refine ⟨identity, List.mem_toFinset.mpr (List.mem_append_left _ ?_), isIdentity⟩
    exact List.mem_filterMap.mpr ⟨row, isRow, isIdentity⟩
  have destSum : identified.length = ∑ identity ∈ labels,
      (ofClass destIdentity identity identified).length := by
    apply length_eq_sum_ofClass
    intro row isRow
    obtain ⟨identity, isIdentity⟩ := Option.isSome_iff_exists.mp (List.mem_filter.mp isRow).2
    refine ⟨identity, List.mem_toFinset.mpr (List.mem_append_right _ ?_), isIdentity⟩
    exact List.mem_filterMap.mpr ⟨row, isRow, isIdentity⟩
  have each : ∀ identity ∈ labels,
      (ofClass (sourceIdentity folderMapping) identity compared).length ≤
        (ofClass destIdentity identity identified).length := by
    intro identity _
    have destSame : ofClass destIdentity identity identified = stage.destGroup identity := by
      rw [ofClass_filter_comm]
      apply List.filter_eq_self.mpr
      intro row isRow
      rw [(mem_ofClass.mp isRow).2]
      rfl
    cases members : ofClass (sourceIdentity folderMapping) identity compared with
    | nil => exact Nat.zero_le _
    | cons row rest =>
      have isRow : row ∈ ofClass (sourceIdentity folderMapping) identity compared := by
        rw [members]
        exact List.mem_cons_self
      obtain ⟨isCompared, isIdentity⟩ := mem_ofClass.mp isRow
      obtain ⟨-, own, isOwn, comparable⟩ := mem_sourceMessagesIn.mp isCompared
      rw [isIdentity, Option.some.injEq] at isOwn
      rw [← isOwn] at comparable
      rw [← members, destSame, ← comparable.sizes]
      exact ((List.filter_sublist (l := stage.sideRows .source)).filter _).length_le
  calc compared.length
    _ = ∑ identity ∈ labels,
          (ofClass (sourceIdentity folderMapping) identity compared).length := sourceSum
    _ ≤ ∑ identity ∈ labels, (ofClass destIdentity identity identified).length :=
      Finset.sum_le_sum each
    _ = identified.length := destSum.symm
    _ ≤ (stage.sideRows .destination).length := List.length_filter_le _ _

end MessageMetadataStage

end MailSwiftSync
