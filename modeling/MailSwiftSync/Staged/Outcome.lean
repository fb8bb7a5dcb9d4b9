import MailSwiftSync.Staged.Passes

/-!
# Staged reconciliation as a whole

The staged reconciliation never fails: no key is marked twice, every page loop
reaches its end, and the counters partition both populations.  Its tables are those
of the specification.
-/

namespace MailSwiftSync

open Foundation

namespace StagedInput

variable {platform : Platform} (input : StagedInput platform)

/-! ## The keys marked as matched -/

/-- Pairs of a source row and a destination row, every row at most once. -/
structure Admissible
    (pairs : List (StagedRow platform.parseDate × StagedRow platform.parseDate)) :
    Prop where
  sources : pairs.map Prod.fst ⊆ input.sourceRows
  destinations : pairs.map Prod.snd ⊆ input.destRows
  sourcesNodup : (pairs.map Prod.fst).Nodup
  destinationsNodup : (pairs.map Prod.snd).Nodup

section Marked

variable {input}
  {pairs later : List (StagedRow platform.parseDate × StagedRow platform.parseDate)}
  {progress : StagedProgress}

theorem pairKeys_append :
    (pairKeys (pairs ++ later)).Perm (pairKeys pairs ++ pairKeys later) := by
  rw [List.perm_iff_count]
  intro key
  simp only [pairKeys, List.map_append, List.count_append]
  omega

theorem mem_pairKeys {key : StagedKey} : key ∈ pairKeys pairs ↔
    (∃ row ∈ pairs.map Prod.fst, row.key = key) ∨
      ∃ row ∈ pairs.map Prod.snd, row.key = key := by
  simp only [pairKeys, List.mem_append, List.mem_map, exists_exists_and_eq_and]

theorem Admissible.mem_pairKeys_source (admissible : input.Admissible pairs)
    {row : StagedRow platform.parseDate} (isSource : row ∈ input.sourceRows) :
    row.key ∈ pairKeys pairs ↔ row ∈ pairs.map Prod.fst := by
  obtain ⟨isRow, side⟩ := input.mem_sourceRows.mp isSource
  rw [mem_pairKeys]
  constructor
  · rintro (⟨other, isOther, same⟩ | ⟨other, isOther, same⟩)
    · have otherRow := (input.mem_sourceRows.mp (admissible.sources isOther)).1
      rwa [← input.row_of_key otherRow isRow same]
    · have otherSide := (input.mem_destRows.mp (admissible.destinations isOther)).2
      have sameSide : other.side = row.side := congrArg StagedKey.side same
      rw [otherSide, side] at sameSide
      cases sameSide
  · intro paired
    exact .inl ⟨row, paired, rfl⟩

theorem Admissible.mem_pairKeys_destination (admissible : input.Admissible pairs)
    {row : StagedRow platform.parseDate} (isDestination : row ∈ input.destRows) :
    row.key ∈ pairKeys pairs ↔ row ∈ pairs.map Prod.snd := by
  obtain ⟨isRow, side⟩ := input.mem_destRows.mp isDestination
  rw [mem_pairKeys]
  constructor
  · rintro (⟨other, isOther, same⟩ | ⟨other, isOther, same⟩)
    · have otherSide := (input.mem_sourceRows.mp (admissible.sources isOther)).2
      have sameSide : other.side = row.side := congrArg StagedKey.side same
      rw [otherSide, side] at sameSide
      cases sameSide
    · have otherRow := (input.mem_destRows.mp (admissible.destinations isOther)).1
      rwa [← input.row_of_key otherRow isRow same]
  · intro paired
    exact .inr ⟨row, paired, rfl⟩

/-- No key of admissible pairs repeats. -/
theorem Admissible.pairKeys_nodup (admissible : input.Admissible pairs) :
    (pairKeys pairs).Nodup := by
  have keysNodup : ∀ rows ⊆ input.rows, rows.Nodup → (rows.map StagedRow.key).Nodup :=
    fun rows subset nodup => nodup.map_on fun row isRow other isOther same =>
      input.row_of_key (subset isRow) (subset isOther) same
  rw [pairKeys, List.nodup_append]
  refine ⟨?_, ?_, ?_⟩
  · have nodup := keysNodup _ (fun row isRow =>
      (input.mem_sourceRows.mp (admissible.sources isRow)).1) admissible.sourcesNodup
    rwa [List.map_map] at nodup
  · have nodup := keysNodup _ (fun row isRow =>
      (input.mem_destRows.mp (admissible.destinations isRow)).1) admissible.destinationsNodup
    rwa [List.map_map] at nodup
  · intro key inSources key' inDestinations same
    obtain ⟨pair, inPairs, rfl⟩ := List.mem_map.mp inSources
    obtain ⟨pair', inPairs', rfl⟩ := List.mem_map.mp inDestinations
    have side := (input.mem_sourceRows.mp
      (admissible.sources (List.mem_map_of_mem inPairs))).2
    have side' := (input.mem_destRows.mp
      (admissible.destinations (List.mem_map_of_mem inPairs'))).2
    have sameSide : pair.1.side = pair'.2.side := congrArg StagedKey.side same
    rw [side, side'] at sameSide
    cases sameSide

variable (input) in
/-- The marked keys are those of some admissible pairs. -/
structure Marks (pairs : List (StagedRow platform.parseDate × StagedRow platform.parseDate))
    (progress : StagedProgress) : Prop where
  admissible : input.Admissible pairs
  matched : progress.matched.Perm (pairKeys pairs)

theorem Marks.unmatched_source (marks : input.Marks pairs progress) :
    progress.unmatched input.sourceRows = unpairedLeft pairs input.sourceRows := by
  apply List.filter_congr
  intro row isSource
  rw [decide_eq_decide, marks.matched.mem_iff,
    marks.admissible.mem_pairKeys_source isSource]

theorem Marks.unmatched_destination (marks : input.Marks pairs progress) :
    progress.unmatched input.destRows = unpairedRight pairs input.destRows := by
  apply List.filter_congr
  intro row isDestination
  rw [decide_eq_decide, marks.matched.mem_iff,
    marks.admissible.mem_pairKeys_destination isDestination]

/-- Marking further admissible pairs succeeds. -/
theorem Marks.insertMatched (marks : input.Marks pairs progress)
    (admissible : input.Admissible (pairs ++ later)) (context : String)
    (keys : List StagedKey) (isKeys : keys.Perm (pairKeys later)) :
    progress.insertMatched context keys =
        .ok { progress with matched := progress.matched ++ keys } ∧
      input.Marks (pairs ++ later)
        { progress with matched := progress.matched ++ keys } := by
  have perm : (progress.matched ++ keys).Perm (pairKeys (pairs ++ later)) :=
    (marks.matched.append isKeys).trans pairKeys_append.symm
  refine ⟨?_, admissible, perm⟩
  rw [StagedProgress.insertMatched, if_pos (perm.nodup_iff.mpr admissible.pairKeys_nodup)]

/-- One more pair of unmatched rows is admissible. -/
theorem Admissible.extend (admissible : input.Admissible pairs)
    {source destination : StagedRow platform.parseDate}
    (isSource : source ∈ unpairedLeft pairs input.sourceRows)
    (isDestination : destination ∈ unpairedRight pairs input.destRows) :
    input.Admissible (pairs ++ [(source, destination)]) := by
  obtain ⟨sourceRow, sourceFree⟩ := mem_unpairedLeft.mp isSource
  obtain ⟨destinationRow, destinationFree⟩ := mem_unpairedRight.mp isDestination
  constructor
  · rw [List.map_append]
    exact List.append_subset.mpr ⟨admissible.sources, by simpa using sourceRow⟩
  · rw [List.map_append]
    exact List.append_subset.mpr ⟨admissible.destinations, by simpa using destinationRow⟩
  · exact nodup_append_left admissible.sourcesNodup (by simp) (by simpa using isSource)
  · exact nodup_append_right admissible.destinationsNodup (by simp)
      (by simpa using isDestination)

end Marked

/-- The pairs of the first passes are admissible, and so are all of them. -/
theorem admissible_paired : input.Admissible input.reconciliation.paired where
  sources := input.reconciliation.paired_sources_subset
  destinations := fun _ membership => input.mem_destinations.mp
    (input.reconciliation.paired_destinations_subset membership)
  sourcesNodup := input.reconciliation.paired_sources_nodup input.sourceRows_nodup
  destinationsNodup :=
    input.reconciliation.paired_destinations_nodup input.destinations_nodup

theorem Admissible.of_sublist {input : StagedInput platform}
    {pairs others : List (StagedRow platform.parseDate × StagedRow platform.parseDate)}
    (admissible : input.Admissible others) (sublist : pairs.Sublist others) :
    input.Admissible pairs where
  sources := fun _ membership =>
    admissible.sources ((sublist.map Prod.fst).subset membership)
  destinations := fun _ membership =>
    admissible.destinations ((sublist.map Prod.snd).subset membership)
  sourcesNodup := admissible.sourcesNodup.sublist (sublist.map _)
  destinationsNodup := admissible.destinationsNodup.sublist (sublist.map _)

/-! ## Loops over unmatched rows -/

/-- A paged loop is one fold over the unmatched rows, as long as handling a row marks
no other row of its side. -/
theorem forEachUnmatched_eq (side : StagedMessageSide) (onlyMessageId onlyMetadata : Bool)
    {step : StagedProgress → StagedRow platform.parseDate → Except String StagedProgress}
    (marksOwn : ∀ progress, ∀ row ∈ input.rows, ∀ progress',
      step progress row = .ok progress' → ∀ other ∈ input.rows, other.side = side →
        other.rowid ≠ row.rowid →
          (other.key ∈ progress'.matched ↔ other.key ∈ progress.matched))
    (progress : StagedProgress) :
    input.forEachUnmatched side onlyMessageId onlyMetadata step progress =
      ((progress.unmatched (input.rows.filter (·.side = side))).filter fun row =>
        (!onlyMessageId || row.messageId.isSome) &&
          (!onlyMetadata || (row.dateKey.isSome && row.sizeBytes.isSome))).foldlM step
        progress := by
  have todo : (input.rows.filter fun row =>
      0 < row.rowid ∧ stageEligible side onlyMessageId onlyMetadata progress row) =
      (progress.unmatched (input.rows.filter (·.side = side))).filter fun row =>
        (!onlyMessageId || row.messageId.isSome) &&
          (!onlyMetadata || (row.dateKey.isSome && row.sizeBytes.isSome)) := by
    rw [StagedProgress.unmatched, List.filter_filter, List.filter_filter]
    apply List.filter_congr
    intro row isRow
    have positive : 0 < row.rowid :=
      (input.stage.mapFolders input.folderMapping).rowidPositive row isRow
    simp only [positive, true_and, stageEligible, Bool.decide_eq_true]
    cases decide (row.side = side) <;> cases decide (row.key ∉ progress.matched) <;> simp
  rw [forEachUnmatched, pageLoop_eq input.rows_sorted (by decide), todo]
  · intro state row isRow state' run other isOther apart
    by_cases onSide : other.side = side
    · simp only [stageEligible, marksOwn state row isRow state' run other isOther onSide apart]
    · simp [stageEligible, onSide]
  · exact Nat.lt_succ_of_le (List.length_filter_le _ _)

/-- Two rows of one table with different rowids have different keys. -/
theorem key_ne_of_rowid_ne {row other : StagedRow platform.parseDate}
    (isRow : row ∈ input.rows) (isOther : other ∈ input.rows)
    (apart : other.rowid ≠ row.rowid) : other.key ≠ row.key := by
  intro same
  exact apart (congrArg StagedRow.rowid (input.row_of_key isOther isRow same))

/-! ## The wrong-folder loop -/

/-- What the wrong-folder loop leaves behind. -/
def afterMisplaced (progress : StagedProgress)
    (pairs : List (StagedRow platform.parseDate × StagedRow platform.parseDate)) :
    StagedProgress :=
  { progress with
    matched := progress.matched ++ pairs.flatMap fun pair => [pair.1.key, pair.2.key]
    mismatches := progress.mismatches ++ pairs.map fun pair =>
      input.mismatch .presentWrongFolder (some pair.1) (some pair.2)
    changedCount := progress.changedCount + pairs.length }

/-- The partner the wrong-folder queries find. -/
def nearestFree (free : List (StagedRow platform.parseDate))
    (source : StagedRow platform.parseDate) : Option (StagedRow platform.parseDate) :=
  source.placementKey.bind fun columns =>
    nearestRow StagedRow.placementKey StagedRow.mailbox StagedRow.minorKey free columns
      source.matchMailbox

variable {progress : StagedProgress}

/-- A source row with all columns is looked up by its placement key. -/
theorem wrongFolderStep_eq
    {source : StagedRow platform.parseDate} (isSource : source ∈ input.sourceRows)
    (columns : (source.messageId.isSome &&
      (source.dateKey.isSome && source.sizeBytes.isSome)) = true) :
    input.wrongFolderStep progress source =
      (nearestFree (progress.unmatched input.destRows) source).elim (.ok progress)
        (input.recordWrongFolder progress source) := by
  simp only [Bool.and_eq_true, Option.isSome_iff_exists] at columns
  obtain ⟨⟨messageId, id⟩, ⟨dateKey, date⟩, sizeBytes, size⟩ := columns
  rw [wrongFolderStep, StagedRow.message_identityProvenance]
  by_cases isRfc : source.identityProvenance = .rfcMessageId
  · have candidate : ∀ progress : StagedProgress,
        input.wrongFolderCandidate progress source sizeBytes =
          nearestFree (progress.unmatched input.destRows) source := by
      intro progress
      simp only [wrongFolderCandidate, nearestFree, StagedRow.placementKey,
        StagedRow.identity, StagedRow.metadata, isRfc, if_true, id, date, size,
        Option.bind_some, Option.map_some, input.matchMailbox_eq isSource]
    rw [if_neg (not_not.mpr isRfc), sqliteStageSize, size, ok_bind, candidate]
    cases nearestFree (progress.unmatched input.destRows) source <;> rfl
  · have unidentified : nearestFree (progress.unmatched input.destRows) source = none := by
      simp [nearestFree, StagedRow.placementKey, StagedRow.identity, isRfc]
    rw [if_pos isRfc, unidentified, Option.elim_none]

variable {pairs : List (StagedRow platform.parseDate × StagedRow platform.parseDate)}
variable {source destination : StagedRow platform.parseDate}

/-- A served row is marked together with its partner. -/
theorem wrongFolderStep_some (marks : input.Marks pairs progress)
    (isSource : source ∈ unpairedLeft pairs input.sourceRows) (columns : (source.messageId.isSome &&
      (source.dateKey.isSome && source.sizeBytes.isSome)) = true)
    (found : nearestFree (progress.unmatched input.destRows) source = some destination) :
    input.wrongFolderStep progress source =
        .ok (input.afterMisplaced progress [(source, destination)]) ∧
      input.Marks (pairs ++ [(source, destination)])
        (input.afterMisplaced progress [(source, destination)]) := by
  have isFree : destination ∈ unpairedRight pairs input.destRows := by
    rw [← marks.unmatched_destination]
    obtain ⟨_, _, nearest⟩ := Option.bind_eq_some_iff.mp found
    exact mem_of_nearestRow nearest
  have extended := marks.admissible.extend isSource isFree
  obtain ⟨both, marks'⟩ := marks.insertMatched extended
    "could not mark staged message as matched" [source.key, destination.key]
    (List.Perm.refl _)
  have nodup : (progress.matched ++ [source.key, destination.key]).Nodup := by
    rw [StagedProgress.insertMatched] at both
    by_contra repeated
    rw [if_neg repeated] at both
    cases both
  have nodup' : (progress.matched ++ [source.key]).Nodup :=
    nodup.sublist (List.Sublist.append_left (by simp) _)
  refine ⟨?_, ⟨extended, marks'.matched⟩⟩
  rw [input.wrongFolderStep_eq (mem_unpairedLeft.mp isSource).1 columns, found,
    Option.elim_some]
  simp only [recordWrongFolder, StagedProgress.insertMatched, nodup', if_true, ok_bind,
    List.append_assoc, List.singleton_append, nodup]
  rfl

/-- The loop serves the rows one after the other. -/
theorem foldlM_wrongFolderStep (marks : input.Marks pairs progress)
    {todo : List (StagedRow platform.parseDate)} (nodup : todo.Nodup)
    (unpaired : todo ⊆ unpairedLeft pairs input.sourceRows)
    (columns : ∀ row ∈ todo, (row.messageId.isSome &&
      (row.dateKey.isSome && row.sizeBytes.isSome)) = true) :
    todo.foldlM input.wrongFolderStep progress =
      .ok (input.afterMisplaced progress
        (nearestEach StagedRow.placementKey StagedRow.matchMailbox todo
          StagedRow.placementKey StagedRow.mailbox StagedRow.minorKey
          (unpairedRight pairs input.destRows))) := by
  induction todo generalizing pairs progress with
  | nil =>
    simp only [nearestEach, drain, afterMisplaced, List.flatMap_nil, List.map_nil,
      List.append_nil, List.length_nil, Nat.add_zero]
    rfl
  | cons source rest ih =>
    obtain ⟨sourceFresh, restNodup⟩ := List.nodup_cons.mp nodup
    obtain ⟨isSource, restUnpaired⟩ := List.cons_subset.mp unpaired
    have restColumns := fun row membership =>
      columns row (List.mem_cons_of_mem source membership)
    rw [List.foldlM_cons]
    cases found : nearestFree (progress.unmatched input.destRows) source with
    | none =>
      rw [input.wrongFolderStep_eq (mem_unpairedLeft.mp isSource).1
        (columns source (by simp)), found, Option.elim_none, ok_bind,
        ih marks restNodup restUnpaired restColumns, nearestEach, nearestEach, drain_cons_none]
      rw [marks.unmatched_destination, nearestFree] at found
      rw [Option.bind_eq_none_iff] at found ⊢
      intro key isKey
      rw [found key isKey, Option.map_none]
    | some destination =>
      obtain ⟨stepped, marks'⟩ := input.wrongFolderStep_some marks isSource
        (columns source (by simp)) found
      have restUnpaired' : rest ⊆ unpairedLeft (pairs ++ [(source, destination)])
          input.sourceRows := by
        intro row membership
        obtain ⟨isRow, free⟩ := mem_unpairedLeft.mp (restUnpaired membership)
        refine mem_unpairedLeft.mpr ⟨isRow, ?_⟩
        simp only [List.map_append, List.map_cons, List.map_nil, List.mem_append,
          List.mem_singleton, not_or]
        exact ⟨free, fun same => sourceFresh (same ▸ membership)⟩
      have remaining : unpairedRight (pairs ++ [(source, destination)]) input.destRows =
          (unpairedRight pairs input.destRows).filter (· ≠ destination) := by
        rw [unpairedRight_append, unpairedRight]
        apply List.filter_congr
        intro row _
        simp
      rw [marks.unmatched_destination, nearestFree] at found
      obtain ⟨key, isKey, nearest⟩ := Option.bind_eq_some_iff.mp found
      have served : nearestEach StagedRow.placementKey StagedRow.matchMailbox
          (source :: rest) StagedRow.placementKey StagedRow.mailbox StagedRow.minorKey
          (unpairedRight pairs input.destRows) =
          (source, destination) :: nearestEach StagedRow.placementKey
            StagedRow.matchMailbox rest StagedRow.placementKey StagedRow.mailbox
            StagedRow.minorKey
            ((unpairedRight pairs input.destRows).filter (· ≠ destination)) :=
        drain_cons_some (by simp [isKey, nearest]) rest
      rw [stepped, ok_bind, ih marks' restNodup restUnpaired' restColumns, remaining,
        served]
      simp [afterMisplaced, Nat.add_assoc, Nat.add_comm 1]

theorem recordWrongFolder_matched {progress progress' : StagedProgress}
    (recorded : input.recordWrongFolder progress source destination = .ok progress') :
    progress'.matched = progress.matched ++ [source.key] ++ [destination.key] := by
  obtain ⟨first, inserted, recorded⟩ := bind_eq_ok.mp recorded
  obtain ⟨second, inserted', recorded⟩ := bind_eq_ok.mp recorded
  obtain rfl := Except.ok.inj recorded
  rw [StagedProgress.insertMatched] at inserted inserted'
  split_ifs at inserted
  obtain rfl := Except.ok.inj inserted
  split_ifs at inserted'
  obtain rfl := Except.ok.inj inserted'
  rfl

/-- The wrong-folder step marks one source row and no other. -/
theorem wrongFolderStep_marksOwn (progress : StagedProgress)
    (row : StagedRow platform.parseDate) (isRow : row ∈ input.rows)
    (progress' : StagedProgress) (stepped : input.wrongFolderStep progress row = .ok progress')
    (other : StagedRow platform.parseDate) (isOther : other ∈ input.rows)
    (onSide : other.side = .source) (apart : other.rowid ≠ row.rowid) :
    other.key ∈ progress'.matched ↔ other.key ∈ progress.matched := by
  rw [wrongFolderStep] at stepped
  split_ifs at stepped with unidentified
  · rw [Except.ok.inj stepped]
  obtain ⟨size, _, stepped⟩ := bind_eq_ok.mp stepped
  split at stepped
  next => rw [Except.ok.inj stepped]
  next destination candidate =>
    obtain ⟨columns, _, nearest⟩ := Option.bind_eq_some_iff.mp candidate
    have isFree := (List.mem_filter.mp (mem_of_nearestRow nearest)).1
    have notRow : other.key ≠ row.key := input.key_ne_of_rowid_ne isRow isOther apart
    have notDestination : other.key ≠ destination.key := by
      intro same
      have sameSide : other.side = destination.side := congrArg StagedKey.side same
      rw [onSide, (input.mem_destRows.mp isFree).2] at sameSide
      cases sameSide
    rw [input.recordWrongFolder_matched stepped]
    simp [notRow, notDestination]

/-! ## The leftovers -/

theorem foldlM_missingStep (todo : List (StagedRow platform.parseDate))
    (progress : StagedProgress) :
    todo.foldlM input.missingStep progress = .ok { progress with
      mismatches := progress.mismatches ++ todo.map fun row =>
        input.mismatch .missing (some row) none
      missingCount := progress.missingCount + todo.length } := by
  induction todo generalizing progress with
  | nil =>
    simp only [List.map_nil, List.append_nil, List.length_nil, Nat.add_zero]
    rfl
  | cons row rest ih =>
    rw [List.foldlM_cons, missingStep, ok_bind, ih]
    simp [StagedProgress.appendStageMismatch, Nat.add_assoc, Nat.add_comm 1]

/-- Whether a surplus row counts as a duplicate. -/
def isDuplicate (row : StagedRow platform.parseDate) : Bool :=
  row.messageId.any (· ∈ input.duplicateIds)

theorem foldlM_surplusStep (todo : List (StagedRow platform.parseDate))
    (progress : StagedProgress) :
    todo.foldlM input.surplusStep progress = .ok { progress with
      mismatches := progress.mismatches ++ todo.map fun row =>
        input.mismatch (if input.isDuplicate row then .duplicated else .extra) none (some row)
      duplicatedCount := progress.duplicatedCount + (todo.filter input.isDuplicate).length
      extraCount := progress.extraCount +
        (todo.filter fun row => !input.isDuplicate row).length } := by
  induction todo generalizing progress with
  | nil =>
    simp only [List.map_nil, List.append_nil, List.length_nil, Nat.add_zero,
      List.filter_nil]
    rfl
  | cons row rest ih =>
    rw [List.foldlM_cons, surplusStep]
    by_cases duplicate : input.isDuplicate row
    · rw [isDuplicate] at duplicate
      rw [if_pos duplicate, ok_bind, ih]
      simp [StagedProgress.appendStageMismatch, isDuplicate, duplicate, Nat.add_assoc,
        Nat.add_comm 1]
    · rw [isDuplicate] at duplicate
      rw [if_neg duplicate, ok_bind, ih]
      simp [StagedProgress.appendStageMismatch, isDuplicate, duplicate, Nat.add_assoc,
        Nat.add_comm 1]

theorem countId_eq {rows : List (StagedRow platform.parseDate)} {messageId : String} :
    countId rows messageId = (ofClass StagedRow.identity messageId rows).length := rfl

/-- The duplicate rows are those of the specification. -/
theorem isDuplicate_iff {row : StagedRow platform.parseDate} (isRow : row ∈ input.destRows) :
    input.isDuplicate row = true ↔ Reconciliation.Duplicate StagedRow.sourceProfile
      StagedRow.destProfile input.sourceRows input.destinations row := by
  have sameCount : ∀ messageId, countId input.destRows messageId =
      (ofClass StagedRow.identity messageId input.destinations).length := fun messageId =>
    (ofClass_perm _ _ input.destinations_perm).length_eq.symm
  simp only [isDuplicate, Option.any_eq_true, decide_eq_true_eq, duplicateIds,
    List.mem_filter, List.mem_dedup, List.mem_filterMap, sameCount, countId_eq]
  constructor
  · rintro ⟨messageId, hasId, ⟨other, _, identified⟩, fewer, positive⟩
    exact ⟨messageId, StagedRow.identity_of_messageId identified hasId, positive, fewer⟩
  · rintro ⟨messageId, identified, positive, fewer⟩
    exact ⟨messageId, StagedRow.messageId_of_identity identified,
      ⟨row, isRow, identified⟩, fewer, positive⟩

/-! ## The result -/

/-- The surplus rows, in rowid order. -/
def surplusRows : List (StagedRow platform.parseDate) :=
  unpairedRight input.reconciliation.paired input.destRows

theorem surplusRows_perm : input.surplusRows.Perm input.reconciliation.surplus :=
  (input.destinations_perm.filter _).symm

/-- The mismatch table. -/
def mismatchList : List MessageMismatch :=
  input.changed.map (fun pair =>
      input.mismatch .messageIdOnly (some pair.1) (some pair.2)) ++
    input.misplaced.map (fun pair =>
      input.mismatch .presentWrongFolder (some pair.1) (some pair.2)) ++
    input.reconciliation.missing.map (fun row => input.mismatch .missing (some row) none) ++
    input.surplusRows.map fun row =>
      input.mismatch (if input.isDuplicate row then .duplicated else .extra) none (some row)

/-- The mismatch record of one entry of the specification. -/
def ofRecord (record : MismatchType × Option (StagedRow platform.parseDate) ×
    Option (StagedRow platform.parseDate)) : MessageMismatch :=
  input.mismatch record.1 record.2.1 record.2.2

/-- What the staged reconciliation returns. -/
def outcome : StagedReconciliation where
  matched := pairKeys input.exactPairs ++ pairKeys input.changed ++
    (input.misplaced.flatMap fun pair => [pair.1.key, pair.2.key]) ++
    pairKeys input.probable
  mismatches := input.mismatchList
  stagedMismatches := input.mismatchList.length
  summary := {
    totalSource := input.sourceRows.length
    totalDestination := input.destRows.length
    metadataMatches := input.exactPairs.length
    rfcMessageIdMatches := input.exactPairs.length
    probableMatches := input.probable.length
    syntheticIdentityMatches := (input.probable.filter fun pair =>
      pair.1.identityProvenance = .syntheticHeaderFingerprint).length
    missingCount := input.reconciliation.missing.length
    extraCount := input.reconciliation.extra.length
    duplicatedCount := input.reconciliation.duplicated.length
    changedCount := input.changed.length + input.misplaced.length }

theorem foldl_recordChanged
    (pairs : List (StagedRow platform.parseDate × StagedRow platform.parseDate))
    (progress : StagedProgress) :
    pairs.foldl input.recordChanged progress = { progress with
      mismatches := progress.mismatches ++ pairs.map fun pair =>
        input.mismatch .messageIdOnly (some pair.1) (some pair.2)
      changedCount := progress.changedCount + pairs.length } := by
  induction pairs generalizing progress with
  | nil => simp
  | cons pair rest ih =>
    rw [List.foldl_cons, ih]
    simp [recordChanged, StagedProgress.appendStageMismatch, Nat.add_assoc, Nat.add_comm 1]

/-- The marked source keys of admissible pairs are one per pair. -/
theorem Admissible.matched_source {input : StagedInput platform}
    (admissible : input.Admissible pairs) :
    ((pairKeys pairs).filter (·.side = .source)).length = pairs.length := by
  rw [pairKeys, List.filter_append, List.filter_eq_self.mpr, List.filter_eq_nil_iff.mpr,
    List.append_nil, List.length_map]
  · intro key membership
    obtain ⟨pair, inPairs, rfl⟩ := List.mem_map.mp membership
    have side := (input.mem_destRows.mp
      (admissible.destinations (List.mem_map_of_mem inPairs))).2
    simp [StagedRow.key, side]
  · intro key membership
    obtain ⟨pair, inPairs, rfl⟩ := List.mem_map.mp membership
    have side := (input.mem_sourceRows.mp
      (admissible.sources (List.mem_map_of_mem inPairs))).2
    simp [StagedRow.key, side]

theorem duplicated_length : (input.surplusRows.filter input.isDuplicate).length =
    input.reconciliation.duplicated.length := by
  rw [Reconciliation.duplicated, ← (input.surplusRows_perm.filter _).length_eq]
  congr 1
  apply List.filter_congr
  intro row membership
  rw [Bool.eq_iff_iff, decide_eq_true_eq]
  exact input.isDuplicate_iff (mem_unpairedRight.mp membership).1

theorem extra_length : (input.surplusRows.filter fun row => !input.isDuplicate row).length =
    input.reconciliation.extra.length := by
  rw [Reconciliation.extra, ← (input.surplusRows_perm.filter _).length_eq]
  congr 1
  apply List.filter_congr
  intro row membership
  rw [Bool.eq_iff_iff, decide_eq_true_eq, Bool.not_eq_true', ← Bool.not_eq_true]
  exact not_congr (input.isDuplicate_iff (mem_unpairedRight.mp membership).1)

/-- The mismatch table holds the records of the specification. -/
theorem mismatchList_perm :
    input.mismatchList.Perm (input.reconciliation.records.map input.ofRecord) := by
  have surplus : (input.surplusRows.map fun row => input.mismatch
      (if input.isDuplicate row then .duplicated else .extra) none (some row)).Perm
      (input.reconciliation.duplicated.map
          (fun row => input.mismatch .duplicated none (some row)) ++
        input.reconciliation.extra.map
          fun row => input.mismatch .extra none (some row)) := by
    refine ((input.surplusRows_perm.trans input.reconciliation.surplus_perm).map _).trans ?_
    rw [List.map_append]
    refine List.Perm.of_eq (congrArg₂ _ ?_ ?_)
    · apply List.map_congr_left
      intro row membership
      obtain ⟨isSurplus, duplicate⟩ := input.reconciliation.mem_duplicated.mp membership
      have isRow := input.mem_destinations.mp (mem_unpairedRight.mp isSurplus).1
      rw [if_pos ((input.isDuplicate_iff isRow).mpr duplicate)]
    · apply List.map_congr_left
      intro row membership
      obtain ⟨isSurplus, single⟩ := input.reconciliation.mem_extra.mp membership
      have isRow := input.mem_destinations.mp (mem_unpairedRight.mp isSurplus).1
      rw [if_neg fun duplicate => single ((input.isDuplicate_iff isRow).mp duplicate)]
  rw [Reconciliation.records, mismatchList]
  simp only [List.map_append, List.map_map, List.append_assoc]
  exact (surplus.append_left _).append_left _ |>.append_left _

/-- The counters partition both populations. -/
theorem outcome_partitions : input.outcome.summary.partitions = true := by
  have sources : input.sourceRows.length = input.exactPairs.length + input.changed.length +
      input.misplaced.length + input.probable.length +
        input.reconciliation.missing.length := by
    have lengths := (input.reconciliation.sources_perm input.sourceRows_nodup).length_eq
    simp only [List.length_append, List.length_map] at lengths
    exact lengths
  have destinations : input.destRows.length = input.exactPairs.length +
      input.changed.length + input.misplaced.length + input.probable.length +
        (input.reconciliation.duplicated.length + input.reconciliation.extra.length) := by
    have lengths :=
      (input.reconciliation.destinations_perm input.destinations_nodup).length_eq
    rw [input.destinations_perm.length_eq] at lengths
    simp only [List.length_append, List.length_map] at lengths
    exact lengths
  rw [VerificationSummary.partitions, Bool.and_eq_true, decide_eq_true_eq,
    decide_eq_true_eq]
  change input.sourceRows.length = input.exactPairs.length + input.probable.length +
      input.reconciliation.missing.length + (input.changed.length + input.misplaced.length) ∧
    input.destRows.length = input.exactPairs.length + input.probable.length +
      input.reconciliation.extra.length + input.reconciliation.duplicated.length +
        (input.changed.length + input.misplaced.length)
  omega

/-! ### The tables after each pass -/

def afterExact : StagedProgress where
  matched := pairKeys input.exactPairs

def afterChanged : StagedProgress where
  matched := pairKeys input.exactPairs ++ pairKeys input.changed
  mismatches := input.changed.map fun pair =>
    input.mismatch .messageIdOnly (some pair.1) (some pair.2)
  changedCount := input.changed.length

def afterProbable : StagedProgress :=
  { input.afterMisplaced input.afterChanged input.misplaced with
    matched := (input.afterMisplaced input.afterChanged input.misplaced).matched ++
      pairKeys input.probable }

def afterMissing : StagedProgress :=
  { input.afterProbable with
    mismatches := input.afterProbable.mismatches ++
      input.reconciliation.missing.map fun row => input.mismatch .missing (some row) none
    missingCount := input.reconciliation.missing.length }

def afterSurplus : StagedProgress :=
  { input.afterMissing with
    mismatches := input.afterMissing.mismatches ++ input.surplusRows.map fun row =>
      input.mismatch (if input.isDuplicate row then .duplicated else .extra) none (some row)
    duplicatedCount := input.reconciliation.duplicated.length
    extraCount := input.reconciliation.extra.length }

theorem marks_afterExact : ({} : StagedProgress).insertMatched
      "could not reconcile exact staged metadata" (pairKeys input.exactPairs) =
        .ok input.afterExact ∧
    input.Marks input.exactPairs input.afterExact := by
  have admissible : input.Admissible ([] ++ input.exactPairs) :=
    input.admissible_paired.of_sublist (by
      simp only [List.nil_append, Reconciliation.paired, List.append_assoc]
      exact List.sublist_append_left _ _)
  have start : input.Marks [] ({} : StagedProgress) :=
    ⟨⟨by simp, by simp, by simp, by simp⟩, List.Perm.refl _⟩
  exact start.insertMatched admissible "could not reconcile exact staged metadata" _
    (List.Perm.refl _)

theorem changedPairs_afterExact : input.changedPairs input.afterExact = input.changed := by
  rw [changedPairs, input.marks_afterExact.2.unmatched_source,
    input.marks_afterExact.2.unmatched_destination]
  rfl

theorem marks_afterChanged : input.afterExact.insertMatched
      "could not reconcile changed staged IDs" (pairKeys input.changed) =
        .ok { matched := pairKeys input.exactPairs ++ pairKeys input.changed } ∧
    input.Marks (input.exactPairs ++ input.changed) input.afterChanged := by
  have admissible : input.Admissible (input.exactPairs ++ input.changed) :=
    input.admissible_paired.of_sublist ((List.sublist_append_left _ input.misplaced).trans
      (List.sublist_append_left _ input.probable))
  obtain ⟨inserted, marks⟩ := input.marks_afterExact.2.insertMatched admissible
    "could not reconcile changed staged IDs" _ (List.Perm.refl _)
  exact ⟨inserted, marks.admissible, marks.matched⟩

theorem forEachUnmatched_wrongFolder :
    input.forEachUnmatched .source true true input.wrongFolderStep input.afterChanged =
      .ok (input.afterMisplaced input.afterChanged input.misplaced) := by
  obtain ⟨_, marks⟩ := input.marks_afterChanged
  have todo : (input.afterChanged.unmatched
      (input.rows.filter (·.side = .source))).filter (fun row =>
        (!true || row.messageId.isSome) &&
          (!true || (row.dateKey.isSome && row.sizeBytes.isSome))) =
      (unpairedLeft (input.exactPairs ++ input.changed) input.sourceRows).filter fun row =>
        row.messageId.isSome && (row.dateKey.isSome && row.sizeBytes.isSome) := by
    rw [← marks.unmatched_source]
    rfl
  rw [input.forEachUnmatched_eq .source true true input.wrongFolderStep_marksOwn, todo]
  apply input.foldlM_wrongFolderStep marks
  · exact (input.sourceRows_nodup.filter _).filter _
  · exact List.filter_subset_self _
  · intro row membership
    exact (List.mem_filter.mp membership).2

theorem marks_afterMisplaced :
    input.Marks (input.exactPairs ++ input.changed ++ input.misplaced)
      (input.afterMisplaced input.afterChanged input.misplaced) where
  admissible := input.admissible_paired.of_sublist
    (List.sublist_append_left _ input.probable)
  matched := by
    refine (input.marks_afterChanged.2.matched.append ?_).trans pairKeys_append.symm
    rw [List.perm_iff_count]
    intro key
    induction input.misplaced with
    | nil => rfl
    | cons pair rest ih =>
      simp only [pairKeys, List.flatMap_cons, List.map_cons, List.cons_append,
        List.count_append, List.count_cons, List.nil_append] at ih ⊢
      omega

theorem marks_afterProbable :
    (input.afterMisplaced input.afterChanged input.misplaced).insertMatched
      "could not reconcile unique staged fingerprints" (pairKeys input.probable) =
        .ok input.afterProbable ∧
    input.Marks input.reconciliation.paired input.afterProbable :=
  input.marks_afterMisplaced.insertMatched input.admissible_paired
    "could not reconcile unique staged fingerprints" _ (List.Perm.refl _)

theorem probablePairs_afterMisplaced :
    input.probablePairs (input.afterMisplaced input.afterChanged input.misplaced) =
      input.probable := by
  rw [probablePairs, input.marks_afterMisplaced.unmatched_source,
    input.marks_afterMisplaced.unmatched_destination]
  rfl

theorem forEachUnmatched_missing :
    input.forEachUnmatched .source false false input.missingStep input.afterProbable =
      .ok input.afterMissing := by
  have marksOwn : ∀ progress, ∀ row ∈ input.rows, ∀ progress',
      input.missingStep progress row = .ok progress' → ∀ other ∈ input.rows,
        other.side = .source → other.rowid ≠ row.rowid →
          (other.key ∈ progress'.matched ↔ other.key ∈ progress.matched) := by
    intro progress row _ progress' stepped other _ _ _
    obtain rfl := Except.ok.inj stepped
    rfl
  rw [input.forEachUnmatched_eq .source false false marksOwn, List.filter_eq_self.mpr
    (by simp), foldlM_missingStep]
  have todo : input.afterProbable.unmatched (input.rows.filter (·.side = .source)) =
      input.reconciliation.missing := input.marks_afterProbable.2.unmatched_source
  rw [todo]
  simp [afterMissing, afterProbable, afterMisplaced, afterChanged]

theorem forEachUnmatched_surplus :
    input.forEachUnmatched .destination false false input.surplusStep input.afterMissing =
      .ok input.afterSurplus := by
  have marks : input.Marks input.reconciliation.paired input.afterMissing :=
    ⟨input.admissible_paired, input.marks_afterProbable.2.matched⟩
  have marksOwn : ∀ progress, ∀ row ∈ input.rows, ∀ progress',
      input.surplusStep progress row = .ok progress' → ∀ other ∈ input.rows,
        other.side = .destination → other.rowid ≠ row.rowid →
          (other.key ∈ progress'.matched ↔ other.key ∈ progress.matched) := by
    intro progress row _ progress' stepped other _ _ _
    rw [surplusStep] at stepped
    split_ifs at stepped
    · obtain rfl := Except.ok.inj stepped
      rfl
    · obtain rfl := Except.ok.inj stepped
      rfl
  rw [input.forEachUnmatched_eq .destination false false marksOwn, List.filter_eq_self.mpr
    (by simp), foldlM_surplusStep]
  have todo : input.afterMissing.unmatched (input.rows.filter (·.side = .destination)) =
      input.surplusRows := marks.unmatched_destination
  rw [todo, input.duplicated_length, input.extra_length]
  simp [afterSurplus, afterMissing, afterProbable, afterMisplaced, afterChanged]

/-- Staged reconciliation succeeds on every stage and returns the tables and counters
of the specification. -/
theorem reconcileStage_eq : reconcileStage input = .ok input.outcome := by
  have exactCount : (input.afterExact.matched.filter (·.side = .source)).length =
      input.exactPairs.length := input.marks_afterExact.2.admissible.matched_source
  have recorded : input.changed.foldl input.recordChanged
      { matched := pairKeys input.exactPairs ++ pairKeys input.changed } =
      input.afterChanged := by
    rw [foldl_recordChanged]
    simp [afterChanged]
  simp only [reconcileStage, input.marks_afterExact.1, ok_bind,
    input.changedPairs_afterExact, input.marks_afterChanged.1, recorded,
    input.forEachUnmatched_wrongFolder, input.probablePairs_afterMisplaced,
    input.marks_afterProbable.1, input.forEachUnmatched_missing,
    input.forEachUnmatched_surplus, exactCount]
  have records : input.afterSurplus.mismatches = input.mismatchList := by
    simp [afterSurplus, afterMissing, afterProbable, afterMisplaced, afterChanged,
      mismatchList]
  have summary : ({
      totalSource := input.sourceRows.length
      totalDestination := input.destRows.length
      metadataMatches := input.exactPairs.length
      rfcMessageIdMatches := input.exactPairs.length
      probableMatches := input.probable.length
      syntheticIdentityMatches := (input.probable.filter fun pair =>
        pair.1.identityProvenance = .syntheticHeaderFingerprint).length
      missingCount := input.afterSurplus.missingCount
      extraCount := input.afterSurplus.extraCount
      duplicatedCount := input.afterSurplus.duplicatedCount
      changedCount := input.afterSurplus.changedCount } : VerificationSummary) =
      input.outcome.summary := rfl
  rw [summary, input.outcome_partitions, records]
  rfl

end StagedInput

end MailSwiftSync
