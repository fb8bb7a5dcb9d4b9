import MailSwiftSync.Assurance.Multisets

/-!
# The verdict of the staged comparison

It passes exactly when every category has the same multiset of record texts on both sides, its
counters add up, and it agrees with the comparison in memory.
-/

namespace MailSwiftSync.Assurance

open Foundation
open Control (Json Digest utf8)

/-! ## What the counters add up to -/

namespace Group

variable {group : Group}

/-- A group balances when what is common occurs on both sides. -/
theorem balance (inSource : group.exact ≤ group.source)
    (inDestination : group.exact ≤ group.destination) :
    group.exact + group.missing + group.modified = group.source ∧
      group.exact + group.extra + group.modified = group.destination := by
  rw [missing, extra, modified]
  omega

theorem no_difference (inSource : group.exact ≤ group.source)
    (inDestination : group.exact ≤ group.destination) :
    group.missing + group.extra + group.modified = 0 ↔
      group.exact = group.source ∧ group.exact = group.destination := by
  rw [missing, extra, modified]
  omega

end Group

/-- A column of the tally is the sum of a column of the groups. -/
theorem foldl_add_column (column : Tally → Nat) (value : Group → Nat)
    (adds : ∀ tally group, column (Tally.add tally group) = column tally + value group)
    (groups : List Group) (tally : Tally) :
    column (groups.foldl Tally.add tally) = column tally + (groups.map value).sum := by
  induction groups generalizing tally with
  | nil => rfl
  | cons group groups ih =>
    rw [List.foldl_cons, ih, adds, List.map_cons, List.sum_cons, Nat.add_assoc]

/-- The tally balances when every group does. -/
theorem tally_balance (groups : List Group)
    (inSource : ∀ group ∈ groups, group.exact ≤ group.source)
    (inDestination : ∀ group ∈ groups, group.exact ≤ group.destination) :
    let tally := groups.foldl Tally.add {}
    tally.matched + tally.missing + tally.modified = (groups.map (·.source)).sum ∧
      tally.matched + tally.extra + tally.modified = (groups.map (·.destination)).sum := by
  dsimp only
  rw [foldl_add_column (·.matched) (·.exact) fun _ _ => rfl,
    foldl_add_column (·.missing) Group.missing fun _ _ => rfl,
    foldl_add_column (·.extra) Group.extra fun _ _ => rfl,
    foldl_add_column (·.modified) Group.modified fun _ _ => rfl]
  simp only [Nat.zero_add]
  induction groups with
  | nil => exact ⟨rfl, rfl⟩
  | cons group groups ih =>
    have here := Group.balance (inSource group List.mem_cons_self)
      (inDestination group List.mem_cons_self)
    have rest := ih (fun other isOther => inSource other (List.mem_cons_of_mem _ isOther))
      (fun other isOther => inDestination other (List.mem_cons_of_mem _ isOther))
    simp only [List.map_cons, List.sum_cons]
    omega

/-- There is no difference when all records of every group are common. -/
theorem tally_differences {groups : List Group}
    (inSource : ∀ group ∈ groups, group.exact ≤ group.source)
    (inDestination : ∀ group ∈ groups, group.exact ≤ group.destination) :
    (groups.foldl Tally.add {}).differences = 0 ↔
      ∀ group ∈ groups, group.exact = group.source ∧ group.exact = group.destination := by
  rw [foldl_add_column (·.differences) (fun group => group.missing + group.extra + group.modified)
    fun _ _ => rfl]
  rw [Nat.zero_add, List.sum_eq_zero_iff]
  simp only [List.mem_map, forall_exists_index, and_imp, forall_apply_eq_imp_iff₂]
  refine forall₂_congr fun group isGroup => ?_
  exact Group.no_difference (inSource group isGroup) (inDestination group isGroup)

section

variable {libraries : Libraries} {category : String} {source destination : List Json}

theorem exact_le_source (identity : String) :
    (groupOf libraries category source destination identity).exact ≤
      (groupOf libraries category source destination identity).source :=
  length_bagInter_le_left _ _

theorem exact_le_destination (identity : String) :
    (groupOf libraries category source destination identity).exact ≤
      (groupOf libraries category source destination identity).destination := by
  rw [groupOf]
  dsimp only
  rw [length_bagInter_comm]
  exact length_bagInter_le_left _ _

theorem mem_identitiesOf {identity : String} :
    identity ∈ identitiesOf libraries category source destination ↔
      identity ∈ source.map (identityOf libraries category) ∨
        identity ∈ destination.map (identityOf libraries category) := by
  rw [identitiesOf, Finset.mem_sort, List.mem_toFinset, List.map_append, List.mem_append]

/-- The records of the identities are all records. -/
theorem sum_textsOf {items : List Json} {identities : List String} (nodup : identities.Nodup)
    (covered : ∀ identity ∈ items.map (identityOf libraries category), identity ∈ identities) :
    (identities.map fun identity => (textsOf libraries category items identity).length).sum =
      items.length := by
  have counts := sum_map_count_eq_length nodup covered
  rw [List.length_map] at counts
  rw [← counts]
  congr 1
  apply List.map_congr_left
  intro identity _
  exact (count_identity items identity).symm

theorem groups_exact {group : Group}
    (isGroup : group ∈ (identitiesOf libraries category source destination).map
      (groupOf libraries category source destination)) :
    group.exact ≤ group.source ∧ group.exact ≤ group.destination := by
  obtain ⟨identity, _, rfl⟩ := List.mem_map.mp isGroup
  exact ⟨exact_le_source identity, exact_le_destination identity⟩

theorem comparisonOf_balance :
    let report := (comparisonOf libraries category source destination).1
    report.matched + report.missing + report.modified = source.length ∧
      report.matched + report.extra + report.modified = destination.length := by
  have balance := tally_balance ((identitiesOf libraries category source destination).map
    (groupOf libraries category source destination))
    (fun group isGroup => (groups_exact isGroup).1) (fun group isGroup => (groups_exact isGroup).2)
  have isSource : (((identitiesOf libraries category source destination).map
      (groupOf libraries category source destination)).map (·.source)).sum = source.length := by
    rw [List.map_map]
    exact sum_textsOf (Finset.sort_nodup _ _)
      fun identity isIdentity => mem_identitiesOf.mpr (.inl isIdentity)
  have isDestination : (((identitiesOf libraries category source destination).map
      (groupOf libraries category source destination)).map (·.destination)).sum =
        destination.length := by
    rw [List.map_map]
    exact sum_textsOf (Finset.sort_nodup _ _)
      fun identity isIdentity => mem_identitiesOf.mpr (.inr isIdentity)
  rw [isSource, isDestination] at balance
  exact balance

/-- Texts determine records. -/
def Distinct (libraries : Libraries) (items : List Json) : Prop :=
  ∀ item ∈ items, ∀ other ∈ items, libraries.text item = libraries.text other → item = other

/-- With records that their texts determine, the texts agree when they do under every
identity. -/
theorem texts_perm_iff (distinct : Distinct libraries (source ++ destination)) :
    (source.map libraries.text).Perm (destination.map libraries.text) ↔
      ∀ identity, (textsOf libraries category source identity).Perm
        (textsOf libraries category destination identity) := by
  constructor
  · intro perm identity
    -- the identity is a function of the text
    let named (text : String) : Bool := (source ++ destination).any fun item =>
      libraries.text item = text && identityOf libraries category item = identity
    have byText : ∀ items : List Json, items ⊆ source ++ destination →
        textsOf libraries category items identity = (items.map libraries.text).filter named := by
      intro items within
      rw [textsOf, List.filter_map]
      congr 1
      apply List.filter_congr
      intro item isItem
      rw [Function.comp_apply, Bool.eq_iff_iff, decide_eq_true_eq, List.any_eq_true]
      constructor
      · intro isIdentity
        exact ⟨item, within isItem, by simp [isIdentity]⟩
      · intro found
        obtain ⟨other, isOther, same⟩ := found
        rw [Bool.and_eq_true, decide_eq_true_eq, decide_eq_true_eq] at same
        rw [← distinct other isOther item (within isItem) same.1]
        exact same.2
    rw [byText source (List.subset_append_left _ _),
      byText destination (List.subset_append_right _ _)]
    exact perm.filter _
  · intro perms
    let paired (item : Json) : String × String :=
      (identityOf libraries category item, libraries.text item)
    have perm : (source.map paired).Perm (destination.map paired) := by
      apply perm_of_ofClass_perm fun pair => some pair.1
      · exact fun _ _ => rfl
      · exact fun _ _ => rfl
      · intro identity
        have classes : ∀ items : List Json, ofClass (fun pair => some pair.1) identity
            (items.map paired) = (textsOf libraries category items identity).map
              (Prod.mk identity) := by
          intro items
          rw [ofClass_map, textsOf, List.map_map, ofClass]
          simp only [paired, Option.some.injEq]
          apply List.map_congr_left
          intro item isItem
          rw [of_decide_eq_true (List.mem_filter.mp isItem).2]
          rfl
        rw [classes, classes]
        exact (perms identity).map _
    have texts := perm.map Prod.snd
    rw [List.map_map, List.map_map] at texts
    exact texts

theorem comparisonOf_differences (distinct : Distinct libraries (source ++ destination)) :
    (comparisonOf libraries category source destination).2 = 0 ↔
      (source.map libraries.text).Perm (destination.map libraries.text) := by
  rw [texts_perm_iff distinct]
  refine (tally_differences (fun group isGroup => (groups_exact isGroup).1)
    (fun group isGroup => (groups_exact isGroup).2)).trans ?_
  simp only [List.mem_map, forall_exists_index, and_imp, forall_apply_eq_imp_iff₂]
  constructor
  · intro all identity
    by_cases isIdentity : identity ∈ identitiesOf libraries category source destination
    · exact perm_iff_length_bagInter.mpr (all identity isIdentity)
    · rw [mem_identitiesOf, not_or] at isIdentity
      have none : ∀ items : List Json, identity ∉ items.map (identityOf libraries category) →
          textsOf libraries category items identity = [] := by
        intro items absent
        apply List.eq_nil_of_length_eq_zero
        rw [← count_identity]
        exact List.count_eq_zero_of_not_mem absent
      rw [none source isIdentity.1, none destination isIdentity.2]
  · intro all identity _
    exact perm_iff_length_bagInter.mp (all identity)

end

/-! ## What is staged -/

def arrayItems : Json → List Json
  | .array items => items
  | _ => []

/-- The records of a category, in the order they are read. -/
def Snapshot.items (snapshot : Snapshot) (category : String) : List Json :=
  if isReserved category then [] else
    snapshot.flatMap fun member => if member.1 = category then arrayItems member.2 else []

section

variable {libraries : Libraries} {side : Side}

/-- The rows of a member. -/
def memberRecords (libraries : Libraries) (side : Side) (member : String × Json) : List Record :=
  if isReserved member.1 then [] else
    (arrayItems member.2).map (Record.ofItem libraries member.1 side)

/-- A member that can be staged. -/
def Stageable (libraries : Libraries) (member : String × Json) : Prop :=
  isReserved member.1 = false →
    ∃ items, member.2 = .array items ∧ Identified libraries member.1 items

/-- What staging a snapshot does. -/
structure Staged (libraries : Libraries) (side : Side) (snapshot : Snapshot)
    (before after : Staging) : Prop where
  records : after.records = before.records ++ snapshot.flatMap (memberRecords libraries side)
  categories : after.categories = before.categories ∪
    (snapshot.map Prod.fst).toFinset.filter fun category => isReserved category = false
  stageable : ∀ member ∈ snapshot, Stageable libraries member

theorem stageRecord_eq_ok {category : String} {item : Json} {record : Record} :
    stageRecord libraries side category item = .ok record ↔
      identity libraries category item = .ok (identityOf libraries category item) ∧
        record = Record.ofItem libraries category side item := by
  rw [stageRecord, bind_eq_ok]
  constructor
  · intro found
    obtain ⟨key, isKey, same⟩ := found
    have isIdentity : identityOf libraries category item = key := by rw [identityOf, isKey]; rfl
    rw [isIdentity]
    refine ⟨isKey, (pure_eq_ok.mp same).symm.trans ?_⟩
    rw [Record.ofItem, isIdentity]
  · intro found
    exact ⟨_, found.1, pure_eq_ok.mpr found.2.symm⟩

theorem mapM_stageRecord {category : String} {items : List Json} {records : List Record}
    (staged : items.mapM (stageRecord libraries side category) = .ok records) :
    Identified libraries category items ∧
      records = items.map (Record.ofItem libraries category side) := by
  induction items generalizing records with
  | nil =>
    rw [List.mapM_nil, pure_eq_ok] at staged
    exact ⟨fun _ isItem => (nomatch isItem), staged.symm⟩
  | cons item items ih =>
    simp only [List.mapM_cons, bind_eq_ok, pure_eq_ok, stageRecord_eq_ok] at staged
    obtain ⟨record, ⟨named, isRecord⟩, rest, isRest, same⟩ := staged
    obtain ⟨identified, areRest⟩ := ih isRest
    refine ⟨?_, ?_⟩
    · intro other isOther
      rcases List.mem_cons.mp isOther with isHead | inRest
      · rw [isHead]
        exact named
      · exact identified other inRest
    · rw [← same, isRecord, areRest, List.map_cons]

theorem singleton_toFinset (category : String) : [category].toFinset = {category} := rfl

theorem stageMember_eq_ok {before after : Staging} {member : String × Json}
    (staged : stageMember libraries side before member = .ok after) :
    Staged libraries side [member] before after := by
  rw [stageMember] at staged
  cases reserved : isReserved member.1 with
  | true =>
    rw [reserved, if_pos rfl] at staged
    cases staged
    exact {
      records := by simp [memberRecords, reserved]
      categories := by
        rw [List.map_singleton, singleton_toFinset, Finset.filter_singleton, reserved]
        exact (Finset.union_empty _).symm
      stageable := by
        intro other isOther isCategory
        rw [List.mem_singleton.mp isOther, reserved] at isCategory
        cases isCategory }
  | false =>
    rw [reserved, if_neg Bool.false_ne_true] at staged
    split at staged
    · next items isArray =>
        simp only [bind_eq_ok, pure_eq_ok] at staged
        obtain ⟨records, areRecords, same⟩ := staged
        obtain ⟨identified, areItems⟩ := mapM_stageRecord areRecords
        subst same
        exact {
          records := by simp [memberRecords, reserved, isArray, arrayItems, areItems]
          categories := by
            rw [List.map_singleton, singleton_toFinset, Finset.filter_singleton, reserved,
              if_pos rfl, Finset.union_comm, ← Finset.insert_eq]
          stageable := by
            intro other isOther _
            rw [List.mem_singleton.mp isOther]
            exact ⟨items, isArray, identified⟩ }
    · cases staged

theorem stageSnapshot_eq_ok {before after : Staging} {snapshot : Snapshot}
    (staged : stageSnapshot libraries side snapshot before = .ok after) :
    Staged libraries side snapshot before after := by
  refine foldlM_invariant (motive := fun done current =>
    Staged libraries side done before current) ?_ ?_ staged
  · exact {
      records := by simp
      categories := by simp
      stageable := fun _ isMember => nomatch isMember }
  · intro done member middle later earlier stepped
    have last := stageMember_eq_ok stepped
    exact {
      records := by
        rw [last.records, earlier.records, List.flatMap_append, List.append_assoc]
      categories := by
        rw [last.categories, earlier.categories, List.map_append, List.toFinset_append,
          Finset.filter_union, Finset.union_assoc]
      stageable := by
        intro other isOther
        rcases List.mem_append.mp isOther with isEarlier | isLast
        · exact earlier.stageable other isEarlier
        · exact last.stageable other isLast }

end

/-! ## The whole comparison -/

section

variable {libraries : Libraries} {source destination : Snapshot} {staging : Staging}

/-- Keys that say which snapshot. -/
def Side.pick (source destination : Snapshot) : Side → Snapshot
  | .source => source
  | .destination => destination

theorem ofCategory_memberRecords (side other : Side) (category : String) (snapshot : Snapshot) :
    ofCategory (snapshot.flatMap (memberRecords libraries other)) side category =
      if side = other then (snapshot.items category).map (Record.ofItem libraries category side)
      else [] := by
  have each : ∀ member : String × Json, ofCategory (memberRecords libraries other member) side
      category = if side = other ∧ isReserved category = false ∧ member.1 = category then
        (arrayItems member.2).map (Record.ofItem libraries category side) else [] := by
    intro member
    rw [memberRecords]
    by_cases isIt : side = other ∧ isReserved category = false ∧ member.1 = category
    · obtain ⟨rfl, visible, rfl⟩ := isIt
      rw [visible, if_neg Bool.false_ne_true, if_pos ⟨rfl, rfl, rfl⟩, ofCategory,
        List.filter_eq_self]
      intro row isRow
      obtain ⟨item, _, rfl⟩ := List.mem_map.mp isRow
      simp [Record.ofItem]
    · rw [if_neg isIt, ofCategory, List.filter_eq_nil_iff]
      intro row isRow isOf
      split at isRow
      · cases isRow
      · next visible =>
          obtain ⟨item, _, rfl⟩ := List.mem_map.mp isRow
          rw [Bool.and_eq_true] at isOf
          have isSide : other = side := of_decide_eq_true isOf.1
          have isCategory : member.1 = category := of_decide_eq_true isOf.2
          rw [Bool.not_eq_true, isCategory] at visible
          exact isIt ⟨isSide.symm, visible, isCategory⟩
  have whole : ofCategory (snapshot.flatMap (memberRecords libraries other)) side category =
      snapshot.flatMap fun member => if side = other ∧ isReserved category = false ∧
        member.1 = category then
          (arrayItems member.2).map (Record.ofItem libraries category side) else [] := by
    rw [ofCategory, List.filter_flatMap]
    exact congrArg (List.flatMap · snapshot) (funext each)
  rw [whole]
  by_cases same : side = other
  · rw [if_pos same, Snapshot.items]
    cases reserved : isReserved category with
    | true => simp
    | false =>
      simp only [same, true_and, Bool.false_eq_true, if_false]
      rw [List.map_flatMap]
      congr 1
      funext member
      split
      · rfl
      · rfl
  · simp [same]

/-- What is staged from two snapshots. -/
structure BothStaged (libraries : Libraries) (source destination : Snapshot)
    (staging : Staging) : Prop where
  holds : ∀ {rows : List Record}, rows.Perm staging.records → ∀ (side : Side) category,
    Holds libraries category rows side ((side.pick source destination).items category)
  categories : ∀ category, category ∈ staging.categories ↔ isReserved category = false ∧
    (category ∈ source.map Prod.fst ∨ category ∈ destination.map Prod.fst)
  stageable : ∀ side : Side, ∀ member ∈ side.pick source destination, Stageable libraries member

theorem stageSnapshots_eq_ok (staged : stageSnapshots libraries source destination = .ok staging) :
    BothStaged libraries source destination staging := by
  rw [stageSnapshots, bind_eq_ok] at staged
  obtain ⟨middle, isSource, isDestination⟩ := staged
  have first := stageSnapshot_eq_ok isSource
  have second := stageSnapshot_eq_ok isDestination
  refine ⟨?_, ?_, ?_⟩
  · intro rows perm side category
    have records := perm.filter fun row => row.side = side && row.category = category
    have parts : ofCategory staging.records side category =
        ((side.pick source destination).items category).map
          (Record.ofItem libraries category side) := by
      rw [second.records, first.records, List.nil_append, ofCategory, List.filter_append]
      refine (congrArg₂ (· ++ ·) (ofCategory_memberRecords side .source category source)
        (ofCategory_memberRecords side .destination category destination)).trans ?_
      cases side with
      | source => simp [Side.pick]
      | destination => simp [Side.pick]
    exact records.trans (List.Perm.of_eq parts)
  · intro category
    rw [second.categories, first.categories]
    simp only [Finset.mem_union, Finset.mem_filter, List.mem_toFinset, Finset.notMem_empty,
      false_or]
    rw [← or_and_right, and_comm]
  · intro side
    cases side with
    | source => exact first.stageable
    | destination => exact second.stageable

theorem Staged.identified {snapshot : Snapshot}
    (stageable : ∀ member ∈ snapshot, Stageable libraries member) (category : String) :
    Identified libraries category (snapshot.items category) := by
  intro item isItem
  rw [Snapshot.items] at isItem
  split at isItem
  · cases isItem
  · next visible =>
      obtain ⟨member, isMember, inMember⟩ := List.mem_flatMap.mp isItem
      split at inMember
      · next isCategory =>
          subst isCategory
          obtain ⟨items, isArray, identified⟩ :=
            stageable member isMember (Bool.not_eq_true _ ▸ visible)
          rw [isArray] at inMember
          exact identified item inMember
      · cases inMember

variable {category : String}

theorem compareStagedCategory_eq {rows : List Record}
    {source destination : List Json} (isSource : Holds libraries category rows .source source)
    (isDestination : Holds libraries category rows .destination destination) :
    compareStagedCategory libraries rows category =
      comparisonOf libraries category source destination := by
  rw [compareStagedCategory, comparisonOf, isSource.stagedDigest, isDestination.stagedDigest,
    isSource.stagedGroups isDestination, isSource.length_eq, isDestination.length_eq,
    List.length_map, List.length_map, List.map_map]
  refine congrArg _ (List.map_congr_left fun identity _ => ?_)
  rw [Function.comp_apply, groupOf]
  dsimp only
  rw [isSource.stagedUnmatchedRepresentative isDestination,
    isDestination.stagedUnmatchedRepresentative isSource]

/-- An object in memory with the records of a stream: every category has the same records, in
any order. -/
structure SameRecords (snapshot : Snapshot) (fields : List (String × Json)) : Prop where
  distinct : (fields.map Prod.fst).Nodup
  categories : ∀ category, isReserved category = false →
    (category ∈ fields.map Prod.fst ↔ category ∈ snapshot.map Prod.fst)
  arrays : ∀ member ∈ fields, isReserved member.1 = false → ∃ items, member.2 = .array items
  records : ∀ category, (Snapshot.items fields category).Perm (snapshot.items category)

/-- A lookup among distinct keys finds the records of the key. -/
theorem lookup_eq_array {fields : List (String × Json)} (distinct : (fields.map Prod.fst).Nodup)
    (arrays : ∀ member ∈ fields, member.1 = category → ∃ items, member.2 = .array items) :
    (fields.lookup category).getD (.array []) = .array (fields.flatMap fun member =>
      if member.1 = category then arrayItems member.2 else []) := by
  induction fields with
  | nil => rfl
  | cons member fields ih =>
    rw [List.map_cons, List.nodup_cons] at distinct
    rw [List.flatMap_cons]
    by_cases isIt : member.1 = category
    · obtain ⟨items, isArray⟩ := arrays member List.mem_cons_self isIt
      have others : (fields.flatMap fun member =>
          if member.1 = category then arrayItems member.2 else []) = [] := by
        rw [List.flatMap_eq_nil_iff]
        intro other isOther
        rw [if_neg]
        intro same
        exact distinct.1 (isIt.trans same.symm ▸ List.mem_map_of_mem isOther)
      have found : ((member :: fields).lookup category) = some (.array items) := by
        rw [List.lookup_cons, ← isIt, beq_self_eq_true, isArray]
      rw [found, others, if_pos isIt, isArray, List.append_nil]
      rfl
    · have skipped : (member :: fields).lookup category = fields.lookup category := by
        rw [List.lookup_cons, beq_false_of_ne (Ne.symm isIt)]
      rw [skipped, if_neg isIt, List.nil_append]
      exact ih distinct.2 fun other isOther => arrays other (List.mem_cons_of_mem _ isOther)

/-- What the comparison in memory reads for a category. -/
theorem SameRecords.lookup {snapshot : Snapshot} {fields : List (String × Json)}
    (same : SameRecords snapshot fields) (visible : isReserved category = false) :
    (fields.lookup category).getD (.array []) = .array (Snapshot.items fields category) := by
  rw [Snapshot.items, visible, if_neg Bool.false_ne_true]
  apply lookup_eq_array same.distinct
  intro member isMember isCategory
  exact same.arrays member isMember (isCategory ▸ visible)

theorem comparisonOf_congr {source source' destination destination' : List Json}
    (sameSource : source.Perm source') (sameDestination : destination.Perm destination') :
    comparisonOf libraries category source destination =
      comparisonOf libraries category source' destination' := by
  have digests : ∀ {items items' : List Json}, items.Perm items' →
      digestOf libraries category items = digestOf libraries category items' := by
    intro items items' perm
    have sorted := congrArg (List.map fun pair => (ofLex pair).2) (map_orderBy_congr
      (perm.map fun item => toLex (identityOf libraries category item, libraries.text item)))
    rw [List.map_map, List.map_map] at sorted
    exact congrArg (fun texts => hexDigest libraries (arrayText texts)) sorted
  rw [comparisonOf, comparisonOf, sameSource.length_eq, sameDestination.length_eq,
    digests sameSource, digests sameDestination, identitiesOf_congr sameSource sameDestination]
  congr 1
  apply List.map_congr_left
  intro identity _
  exact groupOf_congr sameSource sameDestination identity

/-- The comparison in memory of the records that were staged. -/
theorem compare_eq (staged : BothStaged libraries source destination staging)
    (arrays : ∀ items, libraries.text (.array items) = arrayText (items.map libraries.text))
    {source' destination' : List (String × Json)} (sameSource : SameRecords source source')
    (sameDestination : SameRecords destination destination') :
    compare libraries (.object source') (.object destination') =
      .ok (auditResult ((staging.categories.sort (· ≤ ·)).map fun category =>
        (category, comparisonOf libraries category (source.items category)
          (destination.items category)))) := by
  have categories : ((source' ++ destination').map Prod.fst).toFinset.filter
      (fun category => !isReserved category) = staging.categories := by
    ext category
    rw [Finset.mem_filter, staged.categories, List.mem_toFinset, List.map_append,
      List.mem_append, Bool.not_eq_true']
    constructor
    · intro isCategory
      rw [sameSource.categories category isCategory.2,
        sameDestination.categories category isCategory.2] at isCategory
      exact isCategory.symm
    · intro isCategory
      rw [sameSource.categories category isCategory.1,
        sameDestination.categories category isCategory.1]
      exact isCategory.symm
  have identified : ∀ {snapshot : Snapshot} {fields : List (String × Json)} (category : String),
      SameRecords snapshot fields → (∀ member ∈ snapshot, Stageable libraries member) →
      Identified libraries category (Snapshot.items fields category) := by
    intro snapshot fields category same stageable item isItem
    exact Staged.identified stageable category item ((same.records category).mem_iff.mp isItem)
  have reports : ∀ chosen : List String, (∀ category ∈ chosen, isReserved category = false) →
      (chosen.mapM fun category => do
        let report ← (compareCategory libraries category
          ((source'.lookup category).getD (.array []))
          ((destination'.lookup category).getD (.array []))).mapError fun error =>
            "category '" ++ category ++ "': " ++ error
        return (category, report) : Except String (List (String × CategoryReport × Nat))) =
      .ok (chosen.map fun category => (category, comparisonOf libraries category
        (source.items category) (destination.items category))) := by
    intro chosen visible
    induction chosen with
    | nil => rfl
    | cons category chosen ih =>
      rw [List.mapM_cons, ih fun other isOther => visible other (List.mem_cons_of_mem _ isOther),
        sameSource.lookup (visible category List.mem_cons_self),
        sameDestination.lookup (visible category List.mem_cons_self),
        compareCategory_eq arrays (identified category sameSource (staged.stageable .source))
          (identified category sameDestination (staged.stageable .destination)),
        comparisonOf_congr (sameSource.records category) (sameDestination.records category)]
      rfl
  rw [compare, categories, reports _ fun category isCategory =>
    ((staged.categories category).mp (Finset.mem_sort _ |>.mp isCategory)).1]
  rfl

/-- A category that was not seen has no records. -/
theorem items_eq_nil {snapshot : Snapshot}
    (absent : isReserved category = false → category ∉ snapshot.map Prod.fst) :
    snapshot.items category = [] := by
  rw [Snapshot.items]
  cases reserved : isReserved category with
  | true => rfl
  | false =>
    rw [if_neg Bool.false_ne_true, List.flatMap_eq_nil_iff]
    intro member isMember
    rw [if_neg]
    intro same
    exact absent reserved (same ▸ List.mem_map_of_mem isMember)

theorem auditResult_differences (reports : List (String × CategoryReport × Nat)) :
    (auditResult reports).verdict = "pass" ↔ ∀ report ∈ reports, report.2.2 = 0 := by
  have verdict : (auditResult reports).verdict = "pass" ↔
      (reports.map fun report => report.2.2).sum = 0 := by
    rw [auditResult]
    dsimp only
    split
    · next none => exact iff_of_true rfl none
    · next some => exact iff_of_false (by decide) some
  rw [verdict, List.sum_eq_zero_iff]
  simp only [List.mem_map, forall_exists_index, and_imp, forall_apply_eq_imp_iff₂]

end

/-- The staged comparison is one of multisets, whatever the order of the rows in the table: it
passes exactly when every category has the same record texts on both sides, its counters add up
to the counts of both sides, and the comparison in memory of the same records, in any order,
gives the same result. -/
theorem staged_comparison_is_of_multisets {libraries : Libraries} {source destination : Snapshot}
    {staging : Staging} {rows : List Record}
    (distinct : ∀ category,
      Distinct libraries (source.items category ++ destination.items category))
    (arrays : ∀ items, libraries.text (.array items) = arrayText (items.map libraries.text))
    (staged : stageSnapshots libraries source destination = .ok staging)
    (anyOrder : rows.Perm staging.records) :
    let result := compareStaged libraries rows staging.categories
    (result.verdict = "pass" ↔ ∀ category,
      (((source.items category).map libraries.text : List String) : Multiset String) =
        ((destination.items category).map libraries.text : List String)) ∧
    (∀ report ∈ result.categories,
      report.2.sourceCount = (source.items report.1).length ∧
      report.2.destinationCount = (destination.items report.1).length ∧
      report.2.matched + report.2.missing + report.2.modified = report.2.sourceCount ∧
      report.2.matched + report.2.extra + report.2.modified = report.2.destinationCount) ∧
    ∀ source' destination', SameRecords source source' → SameRecords destination destination' →
      compare libraries (.object source') (.object destination') = .ok result := by
  have both := stageSnapshots_eq_ok staged
  have result : compareStaged libraries rows staging.categories =
      auditResult ((staging.categories.sort (· ≤ ·)).map fun category =>
        (category, comparisonOf libraries category (source.items category)
          (destination.items category))) := by
    rw [compareStaged]
    refine congrArg auditResult (List.map_congr_left fun category _ => ?_)
    rw [compareStagedCategory_eq (both.holds anyOrder .source category)
      (both.holds anyOrder .destination category)]
    rfl
  dsimp only
  rw [result]
  refine ⟨?_, ?_, ?_⟩
  · rw [auditResult_differences]
    simp only [List.mem_map, forall_exists_index, and_imp, forall_apply_eq_imp_iff₂,
      Finset.mem_sort, Multiset.coe_eq_coe]
    constructor
    · intro none category
      by_cases isCategory : category ∈ staging.categories
      · exact (comparisonOf_differences (distinct category)).mp (none category isCategory)
      · rw [both.categories, not_and, not_or] at isCategory
        rw [items_eq_nil fun visible => (isCategory visible).1,
          items_eq_nil fun visible => (isCategory visible).2]
    · intro same category _
      exact (comparisonOf_differences (distinct category)).mpr (same category)
  · intro report isReport
    rw [auditResult] at isReport
    simp only [List.map_map, List.mem_map] at isReport
    obtain ⟨category, _, rfl⟩ := isReport
    exact ⟨rfl, rfl, comparisonOf_balance⟩
  · intro source' destination' sameSource sameDestination
    exact compare_eq both arrays sameSource sameDestination

namespace Reordered

mutual

/-- Compact texts; no string here needs an escape. -/
def text : Json → String
  | .null => "null"
  | .bool value => if value then "true" else "false"
  | .number text => text
  | .string text => "\"" ++ text ++ "\""
  | .array items => arrayText (texts items)
  | .object fields => "\x7b" ++ ",".intercalate (members fields) ++ "\x7d"

def texts : List Json → List String
  | [] => []
  | item :: items => text item :: texts items

def members : List (String × Json) → List String
  | [] => []
  | (name, value) :: fields => ("\"" ++ name ++ "\":" ++ text value) :: members fields

end

theorem texts_eq (items : List Json) : texts items = items.map text := by
  induction items with
  | nil => rfl
  | cons item items ih => rw [texts, ih, List.map_cons]

/-- The first 32 bytes stand for the digest; they tell the widgets apart. -/
def libraries : Libraries where
  text := text
  sha256 bytes := .ofFn fun place => bytes.getD place 0

def widget (value : String) : Json :=
  .object [("id", .string "same"), ("value", .number value)]

def source : Snapshot := [("widgets", .array [widget "1", widget "2", widget "2"])]

def destination : Snapshot :=
  [("metadata", .null), ("widgets", .array [widget "2", widget "1", widget "2"])]

/-- The staging table, read backwards. -/
def rows : List Record :=
  ((["1", "2", "2"].map fun value => Record.ofItem libraries "widgets" .source (widget value)) ++
    (["2", "1", "2"].map fun value =>
      Record.ofItem libraries "widgets" .destination (widget value))).reverse

theorem isWidget {category : String} {item : Json}
    (isItem : item ∈ Snapshot.items source category ++ Snapshot.items destination category) :
    item = widget "1" ∨ item = widget "2" := by
  rw [Snapshot.items, Snapshot.items, source, destination] at isItem
  split at isItem
  · cases isItem
  · by_cases isCategory : "widgets" = category
    · by_cases isMetadata : "metadata" = category
      · simp [isCategory, isMetadata, arrayItems] at isItem
        tauto
      · simp [isCategory, isMetadata, arrayItems] at isItem
        tauto
    · by_cases isMetadata : "metadata" = category
      · simp [isCategory, isMetadata, arrayItems] at isItem
      · simp [isCategory, isMetadata] at isItem

theorem isDistinct (category : String) : Distinct libraries
    (Snapshot.items source category ++ Snapshot.items destination category) := by
  intro item isItem other isOther same
  have different : text (widget "1") ≠ text (widget "2") := by decide +kernel
  rcases isWidget isItem with rfl | rfl
  · rcases isWidget isOther with rfl | rfl
    · rfl
    · exact absurd same different
  · rcases isWidget isOther with rfl | rfl
    · exact absurd same.symm different
    · rfl

end Reordered

/-- The same widgets in another order pass. -/
theorem reordered_widgets_pass :
    (compareStaged Reordered.libraries Reordered.rows {"widgets"}).verdict = "pass" := by
  have staged : stageSnapshots Reordered.libraries Reordered.source Reordered.destination =
      .ok { records := Reordered.rows.reverse, categories := {"widgets"} } := by rfl
  refine (staged_comparison_is_of_multisets Reordered.isDistinct
    (fun items => congrArg arrayText (Reordered.texts_eq items)) staged
    (List.reverse_perm _).symm).1.mpr fun category => ?_
  by_cases isCategory : category = "widgets"
  · subst isCategory
    decide +kernel
  · rw [items_eq_nil fun _ => by simpa [Reordered.source] using isCategory,
      items_eq_nil fun visible => ?_]
    simp only [Reordered.destination, List.map_cons, List.map_nil, List.mem_cons,
      List.not_mem_nil, or_false, not_or]
    refine ⟨?_, isCategory⟩
    intro isMetadata
    rw [isMetadata] at visible
    exact absurd visible (by decide)

end MailSwiftSync.Assurance
