import MailSwiftSync.Staged.Flags

/-!
# What full flag coverage means

The compared messages are source messages whose identity has equally many rows on both
sides and whose flags are reported.  When all source messages are compared and no
comparison differs, every identity has the same multiset of flag sets on both sides.
-/

namespace MailSwiftSync

open Foundation

theorem saturatingAdd_le (left right : Nat) : saturatingAdd left right ≤ left + right :=
  min_le_left _ _

theorem saturatingAdd_eq_zero {left right : Nat} :
    saturatingAdd left right = 0 ↔ left = 0 ∧ right = 0 := by
  rw [saturatingAdd]
  omega

/-! ## The pair loop -/

theorem countFlagPair_compared (result : FlagVerification)
    (pair : String × String × Option String) :
    (countFlagPair result pair).comparedMessages ≤ result.comparedMessages + 1 := by
  simp only [countFlagPair]
  split <;> exact saturatingAdd_le _ _

theorem foldl_countFlagPair_compared (pairs : List (String × String × Option String))
    (result : FlagVerification) :
    (pairs.foldl countFlagPair result).comparedMessages ≤
      result.comparedMessages + pairs.length := by
  induction pairs generalizing result with
  | nil => exact Nat.le_refl _
  | cons pair rest ih =>
    have step := countFlagPair_compared result pair
    have later := ih (countFlagPair result pair)
    rw [List.foldl_cons, List.length_cons]
    omega

/-- Without a mismatch or exception every pair has the same flag sets. -/
theorem foldl_countFlagPair_clean {pairs : List (String × String × Option String)}
    {result : FlagVerification}
    (noMismatch : (pairs.foldl countFlagPair result).mismatchedMessages = 0)
    (noException : (pairs.foldl countFlagPair result).exceptedMessages = 0) :
    result.mismatchedMessages = 0 ∧ result.exceptedMessages = 0 ∧
      ∀ pair ∈ pairs, flagSet pair.1 = flagSet pair.2.1 := by
  induction pairs generalizing result with
  | nil => exact ⟨noMismatch, noException, fun _ membership => absurd membership (by simp)⟩
  | cons pair rest ih =>
    rw [List.foldl_cons] at noMismatch noException
    obtain ⟨mismatched, excepted, others⟩ := ih noMismatch noException
    cases compared : compareFlagSets pair.1 pair.2.1 pair.2.2 with
    | matched =>
      simp only [countFlagPair, compared] at mismatched excepted
      refine ⟨mismatched, excepted, ?_⟩
      intro other membership
      rcases List.mem_cons.mp membership with rfl | inRest
      · exact compareFlagSets_eq_matched.mp compared
      · exact others other inRest
    | excepted =>
      simp only [countFlagPair, compared, saturatingAdd_eq_zero] at excepted
      exact absurd excepted.2 one_ne_zero
    | mismatch =>
      simp only [countFlagPair, compared, saturatingAdd_eq_zero] at mismatched
      exact absurd mismatched.2 one_ne_zero

/-! ## The group loop -/

namespace FlagGroupScan

/-- Outside a group nothing is recorded about one. -/
def Fresh (scan : FlagGroupScan) : Prop :=
  scan.current = none → scan.groupMismatched = false ∧ scan.complete = true

/-- Whether some counted flag value of a group differs. -/
def differs (row : FlagFrequency) : Bool :=
  row.flags.isSome && row.sourceCount ≠ row.destinationCount

theorem read_same {scan : FlagGroupScan} {row : FlagFrequency}
    (same : scan.current = some row.identity) :
    scan.read row = { scan with
      groupMismatched := scan.groupMismatched || differs row
      complete := scan.complete && row.flags.isSome } := by
  rw [read, if_pos same]
  cases flags : row.flags with
  | none => simp [differs, flags]
  | some value =>
    by_cases equal : row.sourceCount = row.destinationCount
    · simp [differs, flags, equal]
    · simp [differs, flags, equal]

theorem foldl_read_same {rows : List FlagFrequency} {scan : FlagGroupScan}
    {identity : String × String × String × Nat} (current : scan.current = some identity)
    (sameGroup : ∀ row ∈ rows, row.identity = identity) :
    rows.foldl read scan = { scan with
      groupMismatched := scan.groupMismatched || rows.any differs
      complete := scan.complete && rows.all fun row => row.flags.isSome } := by
  induction rows generalizing scan with
  | nil => simp
  | cons row rest ih =>
    have isCurrent : scan.current = some row.identity := by
      rw [current, sameGroup row List.mem_cons_self]
    rw [List.foldl_cons, read_same isCurrent, ih]
    · simp only [List.any_cons, List.all_cons, Bool.or_assoc, Bool.and_assoc]
    · exact current
    · intro other membership
      exact sameGroup other (List.mem_cons_of_mem row membership)

/-- Add one group to a result. -/
def addGroup (result : FlagVerification) (size : Nat) (rows : List FlagFrequency) :
    FlagVerification :=
  if rows.all fun row => row.flags.isSome then {
    comparedMessages := saturatingAdd result.comparedMessages size
    mismatchedMessages :=
      if rows.any differs then saturatingAdd result.mismatchedMessages size
      else result.mismatchedMessages
    exceptedMessages := result.exceptedMessages }
  else result

/-- Reading a whole group counts it once the next one starts. -/
theorem closed_foldl_read {scan : FlagGroupScan} (fresh : scan.Fresh)
    {identity : String × String × String × Nat} (notCurrent : scan.current ≠ some identity)
    {size : Nat} {rows : List FlagFrequency} (nonempty : rows ≠ [])
    (sameGroup : ∀ row ∈ rows, row.identity = identity ∧ row.groupSize = size) :
    (rows.foldl read scan).closed = addGroup scan.closed size rows ∧
      (rows.foldl read scan).current = some identity := by
  cases rows with
  | nil => exact absurd rfl nonempty
  | cons first rest =>
    obtain ⟨isFirst, firstSize⟩ := sameGroup first List.mem_cons_self
    have opened : scan.read first = {
        current := some identity
        groupSize := size
        groupMismatched := differs first
        complete := first.flags.isSome
        result := scan.closed } := by
      have differentGroup : scan.current ≠ some first.identity := isFirst ▸ notCurrent
      cases open_ : scan.current with
      | none =>
        obtain ⟨noMismatch, complete⟩ := fresh open_
        rw [read, if_neg differentGroup, open_]
        cases flags : first.flags with
        | none =>
          simp [differs, flags, closed, open_, noMismatch, isFirst, firstSize]
        | some value =>
          by_cases equal : first.sourceCount = first.destinationCount
          · simp [differs, flags, equal, closed, open_, noMismatch, complete, isFirst,
              firstSize]
          · simp [differs, flags, equal, closed, open_, complete, isFirst, firstSize]
      | some other =>
        rw [read, if_neg differentGroup, open_]
        cases flags : first.flags with
        | none => simp [differs, flags, closed, open_, finish, isFirst, firstSize]
        | some value =>
          by_cases equal : first.sourceCount = first.destinationCount
          · simp [differs, flags, equal, closed, open_, finish, isFirst, firstSize]
          · simp [differs, flags, equal, closed, open_, finish, isFirst, firstSize]
    rw [List.foldl_cons, opened, foldl_read_same rfl fun row membership =>
      (sameGroup row (List.mem_cons_of_mem first membership)).1]
    refine ⟨?_, rfl⟩
    simp only [closed, finish, addGroup, Option.isSome_some, if_true, List.all_cons,
      List.any_cons]
    rfl

/-- Reading groups one after the other counts each of them. -/
theorem closed_foldl_groups {groups : List (String × String × String × Nat)}
    (nodup : groups.Nodup) {size : String × String × String × Nat → Nat}
    {rowsOf : String × String × String × Nat → List FlagFrequency}
    (nonempty : ∀ identity ∈ groups, rowsOf identity ≠ [])
    (sameGroup : ∀ identity ∈ groups, ∀ row ∈ rowsOf identity,
      row.identity = identity ∧ row.groupSize = size identity)
    {scan : FlagGroupScan} (fresh : scan.Fresh)
    (apart : ∀ identity ∈ groups, scan.current ≠ some identity) :
    ((groups.flatMap rowsOf).foldl read scan).closed =
      groups.foldl (fun result identity => addGroup result (size identity) (rowsOf identity))
        scan.closed := by
  induction groups generalizing scan with
  | nil => rfl
  | cons identity rest ih =>
    obtain ⟨notInRest, restNodup⟩ := List.nodup_cons.mp nodup
    obtain ⟨counted, current⟩ := closed_foldl_read fresh
      (apart identity List.mem_cons_self) (nonempty identity List.mem_cons_self)
      (sameGroup identity List.mem_cons_self)
    rw [List.flatMap_cons, List.foldl_append, List.foldl_cons, ← counted]
    apply ih restNodup
    · intro other membership
      exact nonempty other (List.mem_cons_of_mem identity membership)
    · intro other membership
      exact sameGroup other (List.mem_cons_of_mem identity membership)
    · intro closedScan
      rw [current] at closedScan
      cases closedScan
    · intro other membership same
      rw [current] at same
      exact notInRest (Option.some.inj same ▸ membership)

theorem foldl_addGroup_compared (groups : List (String × String × String × Nat))
    (size : String × String × String × Nat → Nat)
    (rowsOf : String × String × String × Nat → List FlagFrequency)
    (result : FlagVerification) :
    (groups.foldl (fun result identity => addGroup result (size identity) (rowsOf identity))
      result).comparedMessages ≤ result.comparedMessages +
        ((groups.filter fun identity =>
          (rowsOf identity).all fun row => row.flags.isSome).map size).sum := by
  induction groups generalizing result with
  | nil => exact Nat.le_refl _
  | cons identity rest ih =>
    have later := ih (addGroup result (size identity) (rowsOf identity))
    rw [List.foldl_cons]
    cases complete : (rowsOf identity).all fun row => row.flags.isSome with
    | false =>
      rw [List.filter_cons_of_neg (by simp [complete])]
      rwa [addGroup, if_neg (by simp [complete])] at later ⊢
    | true =>
      rw [List.filter_cons_of_pos (by exact complete), List.map_cons, List.sum_cons]
      have added : (addGroup result (size identity) (rowsOf identity)).comparedMessages ≤
          result.comparedMessages + size identity := by
        rw [addGroup, if_pos complete]
        exact saturatingAdd_le _ _
      omega

/-- Without a mismatch no counted group of positive size differs. -/
theorem foldl_addGroup_clean {groups : List (String × String × String × Nat)}
    {size : String × String × String × Nat → Nat}
    (positive : ∀ identity ∈ groups, 0 < size identity)
    {rowsOf : String × String × String × Nat → List FlagFrequency}
    {result : FlagVerification}
    (noMismatch : (groups.foldl (fun result identity =>
      addGroup result (size identity) (rowsOf identity)) result).mismatchedMessages = 0) :
    result.mismatchedMessages = 0 ∧ ∀ identity ∈ groups,
      ((rowsOf identity).all fun row => row.flags.isSome) = true →
        (rowsOf identity).any differs = false := by
  induction groups generalizing result with
  | nil => exact ⟨noMismatch, fun _ membership => absurd membership (by simp)⟩
  | cons identity rest ih =>
    obtain ⟨here, others⟩ := ih
      (fun other membership => positive other (List.mem_cons_of_mem identity membership))
      noMismatch
    change (addGroup result (size identity) (rowsOf identity)).mismatchedMessages = 0 at here
    rw [addGroup] at here
    cases complete : (rowsOf identity).all fun row => row.flags.isSome with
    | false =>
      rw [if_neg (by simp [complete])] at here
      refine ⟨here, fun other membership isComplete => ?_⟩
      rcases List.mem_cons.mp membership with rfl | inRest
      · rw [complete] at isComplete
        cases isComplete
      · exact others other inRest isComplete
    | true =>
      rw [if_pos complete] at here
      cases different : (rowsOf identity).any differs with
      | true =>
        simp only [different, if_true, saturatingAdd_eq_zero] at here
        have := positive identity List.mem_cons_self
        omega
      | false =>
        simp only [different, Bool.false_eq_true, if_false] at here
        refine ⟨here, fun other membership isComplete => ?_⟩
        rcases List.mem_cons.mp membership with rfl | inRest
        · exact different
        · exact others other inRest isComplete

end FlagGroupScan

/-! ## Compared source messages -/

namespace MessageMetadataStage

variable {parseDate : DateParser} {stage : MessageMetadataStage parseDate}
  {folderMapping : FolderMapping}

variable (stage folderMapping) in
/-- One identity has the same multiset of reported flag sets on both sides. -/
structure Balanced (identity : String × String × String × Nat) : Prop where
  sizes : (stage.sourceGroup folderMapping identity).length =
    (stage.destGroup identity).length
  flags : ((stage.sourceGroup folderMapping identity).map fun row =>
      row.flags.map flagSet).Perm
    ((stage.destGroup identity).map fun row => row.flags.map flagSet)
  reported : ∀ row ∈ stage.sourceGroup folderMapping identity, row.flags.isSome

theorem sideRows_nodup (side : StagedMessageSide) : (stage.sideRows side).Nodup :=
  (stage.primaryKey.of_map _).filter _

variable (stage folderMapping) in
/-- The pairs whose flags are compared. -/
def comparedPairs : List (StagedRow parseDate × StagedRow parseDate) :=
  (loneJoin (sourceIdentity folderMapping) (stage.sideRows .source) destIdentity
    (stage.sideRows .destination)).filter fun pair =>
      pair.1.flags.isSome && pair.2.flags.isSome

variable (stage folderMapping) in
/-- The pair query has the flags of the compared pairs. -/
theorem flagPairs_eq : stage.flagPairs folderMapping =
    (stage.comparedPairs folderMapping).map fun pair =>
      (pair.1.flags.getD "", pair.2.flags.getD "",
        (stage.permanentFlags.lookup (.destination, pair.2.mailbox)).join) := by
  rw [flagPairs, comparedPairs]
  induction loneJoin (sourceIdentity folderMapping) (stage.sideRows .source) destIdentity
      (stage.sideRows .destination) with
  | nil => rfl
  | cons pair rest ih =>
    cases source : pair.1.flags with
    | none => simpa [source] using ih
    | some sourceFlags =>
      cases dest : pair.2.flags with
      | none => simpa [source, dest] using ih
      | some destFlags => simpa [source, dest] using ih

theorem flagPairs_length :
    (stage.flagPairs folderMapping).length = (stage.comparedPairs folderMapping).length := by
  rw [flagPairs_eq, List.length_map]

variable {identity : String × String × String × Nat}

theorem mem_duplicateGroups :
    identity ∈ stage.duplicateGroups folderMapping ↔
      identity ∈ (stage.sideRows .source).filterMap (sourceIdentity folderMapping) ∧
        1 < (stage.sourceGroup folderMapping identity).length ∧
        (stage.sourceGroup folderMapping identity).length =
          (stage.destGroup identity).length := by
  rw [duplicateGroups, mem_orderBy, List.mem_filter, List.mem_dedup, decide_eq_true_eq]

theorem duplicateGroups_nodup : (stage.duplicateGroups folderMapping).Nodup :=
  (orderBy_perm _ _).nodup_iff.mpr ((List.nodup_dedup _).filter _)

variable (stage folderMapping) in
/-- The groups that are compared. -/
def comparedGroups : List (String × String × String × Nat) :=
  (stage.duplicateGroups folderMapping).filter fun identity =>
    (stage.groupFrequencies folderMapping identity).all fun row => row.flags.isSome

variable (stage folderMapping) in
/-- The source rows whose flags are compared. -/
def comparedRows : List (StagedRow parseDate) :=
  (stage.comparedPairs folderMapping).map Prod.fst ++
    (stage.comparedGroups folderMapping).flatMap (stage.sourceGroup folderMapping)

theorem groupFrequencies_row {row : FlagFrequency}
    (isRow : row ∈ stage.groupFrequencies folderMapping identity) :
    row.identity = identity ∧
      row.groupSize = (stage.sourceGroup folderMapping identity).length := by
  obtain ⟨flags, _, rfl⟩ := List.mem_map.mp isRow
  exact ⟨rfl, rfl⟩

theorem groupFrequencies_nonempty (isGroup : identity ∈ stage.duplicateGroups folderMapping) :
    stage.groupFrequencies folderMapping identity ≠ [] := by
  obtain ⟨_, several, _⟩ := mem_duplicateGroups.mp isGroup
  obtain ⟨row, isRow⟩ := List.exists_mem_of_length_pos (Nat.lt_trans Nat.zero_lt_one several)
  intro empty
  rw [groupFrequencies, List.map_eq_nil_iff] at empty
  have isValue : row.flags ∈ orderBy flagsColumn
      ((stage.sourceGroup folderMapping identity).map StagedRow.flags ++
        (stage.destGroup identity).map StagedRow.flags).dedup := by
    rw [mem_orderBy, List.mem_dedup, List.mem_append]
    exact .inl (List.mem_map_of_mem isRow)
  rw [empty] at isValue
  cases isValue

/-- The group loop counts every duplicate group. -/
theorem compareStagedDuplicateFlagGroups_eq :
    stage.compareStagedDuplicateFlagGroups folderMapping =
      (stage.duplicateGroups folderMapping).foldl (fun result identity =>
        FlagGroupScan.addGroup result (stage.sourceGroup folderMapping identity).length
          (stage.groupFrequencies folderMapping identity)) {} := by
  have start : ({} : FlagGroupScan).Fresh := fun _ => ⟨rfl, rfl⟩
  exact FlagGroupScan.closed_foldl_groups duplicateGroups_nodup
    (fun identity isGroup => groupFrequencies_nonempty isGroup)
    (fun identity _ row isRow => groupFrequencies_row isRow) start
    (fun _ _ same => by cases same)

/-- No more messages are compared than source rows were looked at. -/
theorem compared_le : (stage.verifyStagedFlags folderMapping).comparedMessages ≤
    (stage.comparedRows folderMapping).length := by
  have pairs := foldl_countFlagPair_compared (stage.flagPairs folderMapping) {}
  have groups := FlagGroupScan.foldl_addGroup_compared (stage.duplicateGroups folderMapping)
    (fun identity => (stage.sourceGroup folderMapping identity).length)
    (stage.groupFrequencies folderMapping) {}
  rw [← compareStagedDuplicateFlagGroups_eq] at groups
  rw [← compareStagedFlagPairs, flagPairs_length] at pairs
  have total := saturatingAdd_le (stage.compareStagedFlagPairs folderMapping).comparedMessages
    (stage.compareStagedDuplicateFlagGroups folderMapping).comparedMessages
  rw [comparedRows, List.length_append, List.length_map, List.length_flatMap,
    comparedGroups]
  rw [verifyStagedFlags]
  simp only at pairs groups total ⊢
  omega

theorem mem_comparedPairs {pair : StagedRow parseDate × StagedRow parseDate}
    (isPair : pair ∈ stage.comparedPairs folderMapping) :
    ∃ identity, stage.sourceGroup folderMapping identity = [pair.1] ∧
      stage.destGroup identity = [pair.2] ∧ pair.1.flags.isSome ∧ pair.2.flags.isSome := by
  obtain ⟨inJoin, reported⟩ := List.mem_filter.mp isPair
  obtain ⟨sourceLone, destLone, same⟩ := mem_loneJoin.mp inJoin
  rw [Bool.and_eq_true] at reported
  obtain ⟨isSource, identified, onlySource⟩ := (mem_lone (sideRows_nodup _)).mp sourceLone
  obtain ⟨isDest, _, onlyDest⟩ := (mem_lone (sideRows_nodup _)).mp destLone
  obtain ⟨identity, isIdentity⟩ := Option.isSome_iff_exists.mp identified
  have alone : ∀ {rows : List (StagedRow parseDate)} {row : StagedRow parseDate}
      {cls : StagedRow parseDate → Option (String × String × String × Nat)}, rows.Nodup →
      row ∈ rows → cls row = some identity →
      (∀ other ∈ rows, cls other = cls row → other = row) →
        ofClass cls identity rows = [row] := by
    intro rows row cls nodup isRow isClass only
    apply List.perm_singleton.mp
    rw [List.perm_ext_iff_of_nodup (ofClass_nodup nodup) (List.nodup_singleton _)]
    intro other
    rw [mem_ofClass, List.mem_singleton]
    constructor
    · intro ⟨isOther, otherClass⟩
      exact only other isOther (otherClass.trans isClass.symm)
    · intro isSame
      rw [isSame]
      exact ⟨isRow, isClass⟩
  exact ⟨identity, alone (sideRows_nodup _) isSource isIdentity onlySource,
    alone (sideRows_nodup _) isDest (same.symm.trans isIdentity) onlyDest, reported⟩

theorem comparedRows_nodup : (stage.comparedRows folderMapping).Nodup := by
  rw [comparedRows, List.nodup_append]
  refine ⟨?_, ?_, ?_⟩
  · exact ((classwise_loneJoin ..).nodup_left (sideRows_nodup .source)).sublist
      (List.filter_sublist.map _)
  · rw [List.nodup_flatMap]
    refine ⟨fun identity _ => ofClass_nodup (sideRows_nodup _), ?_⟩
    refine (duplicateGroups_nodup.filter _).imp ?_
    intro identity other different row isRow isOther
    exact different (Option.some.inj
      ((mem_ofClass.mp isRow).2.symm.trans (mem_ofClass.mp isOther).2))
  · intro row isPaired other isGrouped same
    subst same
    obtain ⟨pair, inPairs, rfl⟩ := List.mem_map.mp isPaired
    obtain ⟨identity, alone, _⟩ := mem_comparedPairs inPairs
    obtain ⟨group, isGroup, inGroup⟩ := List.mem_flatMap.mp isGrouped
    have sameIdentity : group = identity := by
      have own : pair.1 ∈ stage.sourceGroup folderMapping identity := by
        rw [alone]
        exact List.mem_singleton_self _
      exact Option.some.inj
        ((mem_ofClass.mp inGroup).2.symm.trans (mem_ofClass.mp own).2)
    have several := (mem_duplicateGroups.mp (List.mem_filter.mp isGroup).1).2.1
    rw [sameIdentity, alone] at several
    simp at several

theorem comparedRows_subset :
    stage.comparedRows folderMapping ⊆ stage.sideRows .source := by
  intro row membership
  rcases List.mem_append.mp membership with isPaired | isGrouped
  · obtain ⟨pair, inPairs, rfl⟩ := List.mem_map.mp isPaired
    exact (classwise_loneJoin ..).mem_left (List.mem_filter.mp inPairs).1
  · obtain ⟨_, _, inGroup⟩ := List.mem_flatMap.mp isGrouped
    exact (mem_ofClass.mp inGroup).1

/-- A group is read completely when all its flags are known. -/
theorem frequencies_complete_iff :
    ((stage.groupFrequencies folderMapping identity).all fun row => row.flags.isSome) = true ↔
      (∀ row ∈ stage.sourceGroup folderMapping identity, row.flags.isSome = true) ∧
        ∀ row ∈ stage.destGroup identity, row.flags.isSome = true := by
  simp only [groupFrequencies, List.all_map, List.all_eq_true, Function.comp_apply, mem_orderBy,
    List.mem_dedup, List.mem_append, List.mem_map]
  constructor
  · intro known
    exact ⟨fun row isRow => known row.flags (.inl ⟨row, isRow, rfl⟩),
      fun row isRow => known row.flags (.inr ⟨row, isRow, rfl⟩)⟩
  · rintro ⟨sourceKnown, destKnown⟩ flags (⟨row, isRow, rfl⟩ | ⟨row, isRow, rfl⟩)
    · exact sourceKnown row isRow
    · exact destKnown row isRow

/-- Equal frequencies of all flag values are equal multisets. -/
theorem frequencies_agree_iff
    (complete : ((stage.groupFrequencies folderMapping identity).all fun row =>
      row.flags.isSome) = true) :
    (stage.groupFrequencies folderMapping identity).any FlagGroupScan.differs = false ↔
      ((stage.sourceGroup folderMapping identity).map StagedRow.flags).Perm
        ((stage.destGroup identity).map StagedRow.flags) := by
  have known : ∀ flags, flags ∈ (stage.sourceGroup folderMapping identity).map
      StagedRow.flags ++ (stage.destGroup identity).map StagedRow.flags → flags.isSome = true := by
    intro flags isValue
    obtain ⟨sourceKnown, destKnown⟩ := frequencies_complete_iff.mp complete
    rw [List.mem_append, List.mem_map, List.mem_map] at isValue
    rcases isValue with ⟨row, isRow, rfl⟩ | ⟨row, isRow, rfl⟩
    · exact sourceKnown row isRow
    · exact destKnown row isRow
  rw [List.perm_iff_count, List.any_eq_false]
  simp only [groupFrequencies, List.forall_mem_map, mem_orderBy, List.mem_dedup]
  constructor
  · intro agree flags
    by_cases isValue : flags ∈ (stage.sourceGroup folderMapping identity).map
        StagedRow.flags ++ (stage.destGroup identity).map StagedRow.flags
    · have equal := agree flags isValue
      simp only [FlagGroupScan.differs, known flags isValue, Bool.true_and, ne_eq,
        decide_eq_true_eq, not_not] at equal
      exact equal
    · rw [List.mem_append, not_or] at isValue
      rw [List.count_eq_zero.mpr isValue.1, List.count_eq_zero.mpr isValue.2]
  · intro agree flags isValue
    simp only [FlagGroupScan.differs, agree flags, ne_eq, not_true_eq_false, decide_false,
      Bool.and_false, Bool.false_eq_true, not_false_eq_true]

theorem balanced_of_group (isGroup : identity ∈ stage.comparedGroups folderMapping)
    (same : (stage.groupFrequencies folderMapping identity).any FlagGroupScan.differs =
      false) : stage.Balanced folderMapping identity := by
  obtain ⟨isDuplicate, complete⟩ := List.mem_filter.mp isGroup
  have perm := (frequencies_agree_iff complete).mp same
  constructor
  · exact (mem_duplicateGroups.mp isDuplicate).2.2
  · have mapped := perm.map fun flags => flags.map flagSet
    rwa [List.map_map, List.map_map] at mapped
  · exact (frequencies_complete_iff.mp complete).1

/-- When all source messages are compared without any difference, every source message
has a balanced identity. -/
theorem balanced_of_full_coverage
    (compared : (stage.verifyStagedFlags folderMapping).comparedMessages =
      (stage.sideRows .source).length)
    (noMismatch : (stage.verifyStagedFlags folderMapping).mismatchedMessages = 0)
    (noException : (stage.verifyStagedFlags folderMapping).exceptedMessages = 0)
    {row : StagedRow parseDate} (isRow : row ∈ stage.sideRows .source) :
    ∃ identity, sourceIdentity folderMapping row = some identity ∧
      stage.Balanced folderMapping identity := by
  have all : (stage.comparedRows folderMapping).Perm (stage.sideRows .source) :=
    (comparedRows_nodup.subperm comparedRows_subset).perm_of_length_le
      (compared ▸ compared_le)
  obtain ⟨noPairMismatch, noGroupMismatch⟩ := saturatingAdd_eq_zero.mp noMismatch
  rw [compareStagedFlagPairs] at noPairMismatch
  have pairsClean := (foldl_countFlagPair_clean noPairMismatch noException).2.2
  rw [compareStagedDuplicateFlagGroups_eq] at noGroupMismatch
  have groupsClean := (FlagGroupScan.foldl_addGroup_clean (fun identity isGroup =>
    Nat.lt_trans Nat.zero_lt_one (mem_duplicateGroups.mp isGroup).2.1) noGroupMismatch).2
  rcases List.mem_append.mp (all.mem_iff.mpr isRow) with isPaired | isGrouped
  · obtain ⟨pair, inPairs, rfl⟩ := List.mem_map.mp isPaired
    obtain ⟨identity, sourceAlone, destAlone, sourceReported, destReported⟩ :=
      mem_comparedPairs inPairs
    have own : pair.1 ∈ stage.sourceGroup folderMapping identity := by
      rw [sourceAlone]
      exact List.mem_singleton_self _
    obtain ⟨sourceFlags, isSourceFlags⟩ := Option.isSome_iff_exists.mp sourceReported
    obtain ⟨destFlags, isDestFlags⟩ := Option.isSome_iff_exists.mp destReported
    have isFlagPair : (sourceFlags, destFlags,
        (stage.permanentFlags.lookup (.destination, pair.2.mailbox)).join) ∈
        stage.flagPairs folderMapping := by
      refine List.mem_filterMap.mpr ⟨pair, (List.mem_filter.mp inPairs).1, ?_⟩
      rw [isSourceFlags, isDestFlags]
      rfl
    have sameFlags := pairsClean _ isFlagPair
    refine ⟨identity, (mem_ofClass.mp own).2, ?_, ?_, ?_⟩
    · rw [sourceAlone, destAlone, List.length_singleton, List.length_singleton]
    · rw [sourceAlone, destAlone, List.map_singleton, List.map_singleton, isSourceFlags,
        isDestFlags, Option.map_some, Option.map_some, sameFlags]
    · rw [sourceAlone]
      intro other isOther
      rw [List.mem_singleton.mp isOther]
      exact sourceReported
  · obtain ⟨identity, isGroup, inGroup⟩ := List.mem_flatMap.mp isGrouped
    obtain ⟨isDuplicate, complete⟩ := List.mem_filter.mp isGroup
    exact ⟨identity, (mem_ofClass.mp inGroup).2,
      balanced_of_group isGroup (groupsClean identity isDuplicate complete)⟩

end MessageMetadataStage

end MailSwiftSync
