import MailSwiftSync.Assurance.Comparison
import MailSwiftSync.Foundation.HashJoin
import MailSwiftSync.Foundation.Metered

/-!
# The comparison is one of multisets

Records with equal texts cancel out; what is left over under an identity is modified in pairs,
and the rest is missing or extra.  The staging table and the walk in memory both find this.
-/

namespace MailSwiftSync.Assurance

open Foundation
open Control (Json Digest utf8)

section

variable (libraries : Libraries) (category : String)

/-- The texts of the records of an identity. -/
def textsOf (items : List Json) (identity : String) : List String :=
  (items.filter fun item => identityOf libraries category item = identity).map libraries.text

/-- The least text that one list has more often than another. -/
def excess (own other : List String) : Option String :=
  (own.filter fun text => other.count text < own.count text).min?

/-- The comparison of an identity. -/
def groupOf (source destination : List Json) (identity : String) : Group :=
  let left := textsOf libraries category source identity
  let right := textsOf libraries category destination identity
  { identity
    source := left.length
    destination := right.length
    exact := (left.bagInter right).length
    sourceSha256 := (excess left right).map (hexDigest libraries)
    destinationSha256 := (excess right left).map (hexDigest libraries) }

/-- The digest of the records in canonical order. -/
def digestOf (items : List Json) : String :=
  hexDigest libraries (arrayText (((orderBy (fun item =>
    toLex (identityOf libraries category item, libraries.text item)) items).map libraries.text)))

/-- What both comparisons compute. -/
def comparisonOf (source destination : List Json) : CategoryReport × Nat :=
  categoryReport category source.length destination.length
    (digestOf libraries category source) (digestOf libraries category destination)
    ((identitiesOf libraries category source destination).map
      (groupOf libraries category source destination))

/-- The row of an item. -/
def Record.ofItem (side : Side) (item : Json) : Record where
  side := side
  category := category
  identity := identityOf libraries category item
  payload := libraries.text item
  payloadHash := libraries.sha256 (utf8 (libraries.text item))

end

/-! ## Texts under an identity -/

section

variable {libraries : Libraries} {category : String}

theorem count_identity (items : List Json) (identity : String) :
    (items.map (identityOf libraries category)).count identity =
      (textsOf libraries category items identity).length := by
  rw [textsOf, List.length_map, List.count_eq_countP, List.countP_map,
    List.countP_eq_length_filter]
  rfl

theorem textsOf_perm {items items' : List Json} (perm : items.Perm items') (identity : String) :
    (textsOf libraries category items identity).Perm
      (textsOf libraries category items' identity) :=
  (perm.filter _).map _

theorem excess_congr {own own' other other' : List String} (isOwn : own.Perm own')
    (isOther : other.Perm other') : excess own other = excess own' other' := by
  apply min?_congr
  intro text
  rw [List.mem_filter, List.mem_filter, isOwn.mem_iff, isOwn.count_eq, isOther.count_eq]

theorem identitiesOf_congr {source source' destination destination' : List Json}
    (sameSource : source.Perm source') (sameDestination : destination.Perm destination') :
    identitiesOf libraries category source destination =
      identitiesOf libraries category source' destination' := by
  rw [identitiesOf, identitiesOf]
  congr 1
  exact List.toFinset_eq_of_perm _ _ ((sameSource.append sameDestination).map _)

theorem groupOf_congr {source source' destination destination' : List Json}
    (sameSource : source.Perm source') (sameDestination : destination.Perm destination')
    (identity : String) : groupOf libraries category source destination identity =
      groupOf libraries category source' destination' identity := by
  have left : (textsOf libraries category source identity).Perm
      (textsOf libraries category source' identity) := textsOf_perm sameSource identity
  have right : (textsOf libraries category destination identity).Perm
      (textsOf libraries category destination' identity) := textsOf_perm sameDestination identity
  have common : ((textsOf libraries category source identity).bagInter
      (textsOf libraries category destination identity)).length =
      ((textsOf libraries category source' identity).bagInter
        (textsOf libraries category destination' identity)).length :=
    length_bagInter_map Function.injective_id (by rw [List.map_id]; exact left)
      (by rw [List.map_id]; exact right)
  simp only [groupOf, left.length_eq, right.length_eq, common, excess_congr left right,
    excess_congr right left]

end

/-! ## From the staging table -/

section

variable {libraries : Libraries} {category : String} {rows : List Record}
  {source destination : List Json}

/-- The key of the row of a text. -/
def payloadKeyOf (libraries : Libraries) (text : String) : Digest × String :=
  (libraries.sha256 (utf8 text), text)

theorem payloadKeyOf_injective : Function.Injective (payloadKeyOf libraries) :=
  fun _ _ same => congrArg Prod.snd same

/-- The rows of a category are those of some items. -/
def Holds (libraries : Libraries) (category : String) (rows : List Record) (side : Side)
    (items : List Json) : Prop :=
  (ofCategory rows side category).Perm (items.map (Record.ofItem libraries category side))

theorem Holds.payloads {side : Side} {items : List Json}
    (holds : Holds libraries category rows side items) (identity : String) :
    ((ofIdentity rows side category identity).map Record.payloadKey).Perm
      ((textsOf libraries category items identity).map (payloadKeyOf libraries)) := by
  have filtered := (holds.filter (·.identity = identity)).map Record.payloadKey
  rw [List.filter_map, List.map_map] at filtered
  rw [textsOf, List.map_map]
  exact filtered

theorem Holds.stagedUnmatchedRepresentative {side otherSide : Side} {own other : List Json}
    (isOwn : Holds libraries category rows side own)
    (isOther : Holds libraries category rows otherSide other) (identity : String) :
    stagedUnmatchedRepresentative rows side otherSide category identity =
      excess (textsOf libraries category own identity)
        (textsOf libraries category other identity) := by
  have ownPayloads := isOwn.payloads identity
  have otherPayloads := isOther.payloads identity
  generalize textsOf libraries category own identity = left at ownPayloads ⊢
  generalize textsOf libraries category other identity = right at otherPayloads ⊢
  have named : ∀ (texts : List String) (text : String),
      (texts.map (payloadKeyOf libraries)).count (payloadKeyOf libraries text) =
        texts.count text :=
    fun texts text => List.count_map_of_injective texts _ payloadKeyOf_injective text
  have ownCount : ∀ text, countOf Record.payloadKey (ofIdentity rows side category identity)
      (payloadKeyOf libraries text) = left.count text := by
    intro text
    rw [countOf_eq_count, ownPayloads.count_eq, named]
  have otherCount : ∀ text, countOf Record.payloadKey
      (ofIdentity rows otherSide category identity) (payloadKeyOf libraries text) =
        right.count text := by
    intro text
    rw [countOf_eq_count, otherPayloads.count_eq, named]
  rw [Assurance.stagedUnmatchedRepresentative, head?_orderBy_min?, excess]
  apply min?_congr
  intro text
  rw [List.mem_map, List.mem_filter, decide_eq_true_eq]
  constructor
  · intro isText
    obtain ⟨group, isGroup, same⟩ := isText
    obtain ⟨_, more⟩ := mem_outnumbering.mp isGroup
    have isKey : group.1.1 ∈ left.map (payloadKeyOf libraries) := by
      rw [countOf_eq_count, countOf_eq_count, ownPayloads.count_eq] at more
      exact List.count_pos_iff.mp (Nat.zero_lt_of_lt more)
    obtain ⟨text', isText, isKey⟩ := List.mem_map.mp isKey
    rw [← isKey] at same more
    rw [ownCount, otherCount] at more
    obtain rfl : text' = text := same
    exact ⟨isText, more⟩
  · intro isText
    refine ⟨((payloadKeyOf libraries text, joinedCount Record.payloadKey
      (ofIdentity rows otherSide category identity) (payloadKeyOf libraries text)),
      left.count text), mem_outnumbering.mpr ⟨?_, ?_⟩, rfl⟩
    · rw [← ownCount]
    · simp only [ownCount, otherCount]
      exact isText.2

theorem Holds.stagedDigest {side : Side} {items : List Json}
    (holds : Holds libraries category rows side items) :
    stagedDigest libraries rows side category = digestOf libraries category items := by
  have columns : ((ofCategory rows side category).map fun row =>
      toLex (row.identity, row.payload)).Perm
      (items.map fun item => toLex (identityOf libraries category item, libraries.text item)) := by
    have mapped := holds.map fun row => toLex (row.identity, row.payload)
    rw [List.map_map] at mapped
    exact mapped
  have sorted := congrArg (List.map fun pair => (ofLex pair).2) (map_orderBy_congr columns)
  rw [List.map_map, List.map_map] at sorted
  rw [Assurance.stagedDigest, digestOf]
  exact congrArg (fun payloads => hexDigest libraries (arrayText payloads)) sorted

theorem Holds.identities {side : Side} {items : List Json}
    (holds : Holds libraries category rows side items) :
    ((ofCategory rows side category).map Record.identity).Perm
      (items.map (identityOf libraries category)) := by
  have mapped := holds.map Record.identity
  rw [List.map_map] at mapped
  exact mapped

/-- The exact count of an identity. -/
theorem Holds.exact (isSource : Holds libraries category rows .source source)
    (isDestination : Holds libraries category rows .destination destination)
    (identity : String) :
    total (fun pair => pair.1.1.1) (fun pair => min pair.1.2 pair.2.2)
      (innerJoin (fun own other => other.1 = own.1)
        (countBy Record.groupKey (ofCategory rows .source category))
        (countBy Record.groupKey (ofCategory rows .destination category))) identity =
      ((textsOf libraries category source identity).bagInter
        (textsOf libraries category destination identity)).length := by
  have keys : ∀ {side : Side} {items : List Json}, Holds libraries category rows side items →
      (((ofCategory rows side category).map Record.groupKey).filter (·.1 = identity)).Perm
        ((textsOf libraries category items identity).map fun text =>
          (identity, payloadKeyOf libraries text)) := by
    intro side items holds
    have payloads := (holds.payloads identity).map (Prod.mk identity)
    rw [List.map_map, List.map_map] at payloads
    rw [List.filter_map]
    refine List.Perm.trans (List.Perm.of_eq ?_) payloads
    apply List.map_congr_left
    intro row isRow
    have isIdentity : row.identity = identity := of_decide_eq_true (List.mem_filter.mp isRow).2
    rw [Record.groupKey, isIdentity]
    rfl
  have injective : Function.Injective fun text => (identity, payloadKeyOf libraries text) :=
    fun _ _ same => payloadKeyOf_injective (congrArg Prod.snd same)
  exact (sum_innerJoin_countBy fun key : String × Digest × String =>
    decide (key.1 = identity)).trans
      (length_bagInter_map injective (keys isSource) (keys isDestination))

/-- The groups that the query finds. -/
theorem Holds.stagedGroups (isSource : Holds libraries category rows .source source)
    (isDestination : Holds libraries category rows .destination destination) :
    stagedGroups rows category =
      (identitiesOf libraries category source destination).map fun identity =>
        (identity, (textsOf libraries category source identity).length,
          (textsOf libraries category destination identity).length,
          ((textsOf libraries category source identity).bagInter
            (textsOf libraries category destination identity)).length) := by
  have columns : ∀ {side : Side} {items : List Json}, Holds libraries category rows side items →
      ∀ identity, total Record.identity (fun _ => 1) (ofCategory rows side category) identity =
        (textsOf libraries category items identity).length := by
    intro side items holds identity
    rw [total_one, countOf_eq_count, holds.identities.count_eq, count_identity]
  have groupKeys : ∀ side, (countBy Record.identity (ofCategory rows side category)).map
      Prod.fst = ((ofCategory rows side category).map Record.identity).dedup := by
    intro side
    rw [countBy, sumBy, List.map_map]
    exact List.map_id' _
  have identities : orderBy (fun identity => identity)
      ((((countBy Record.identity (ofCategory rows .source category)).map
      Prod.fst) ++ ((countBy Record.identity (ofCategory rows .destination category)).map
        Prod.fst)).dedup) = identitiesOf libraries category source destination := by
    apply orderBy_eq
    · rw [identitiesOf, List.perm_ext_iff_of_nodup (List.nodup_dedup _) (Finset.sort_nodup _ _)]
      intro identity
      simp only [groupKeys, List.mem_dedup, List.mem_append, isSource.identities.mem_iff,
        isDestination.identities.mem_iff, Finset.mem_sort, List.mem_toFinset, List.map_append]
    · exact (Finset.sortedLT_sort _).pairwise
  rw [Assurance.stagedGroups, ← identities]
  simp only [countBy, leftJoin_sumBy, List.map_map, orderBy_map, Function.comp_def,
    coalesce_total]
  apply List.map_congr_left
  intro identity _
  rw [columns isSource, columns isDestination, ← isSource.exact isDestination]
  rfl

end

/-! ## The walk in memory -/

section

variable {libraries : Libraries}

theorem Counts.of_insert (counts : Counts) (text other : String) (count : Nat) :
    Counts.of (counts.insert text count) other =
      if other = text then count else counts.of other := by
  rw [Counts.of]
  split
  · next same => rw [same, AList.lookup_insert, Option.getD_some]
  · next different => rw [AList.lookup_insert_ne different, Counts.of]

/-- The counts of a list of records. -/
theorem Counts.of_foldl_add (items : List Json) (text : String) :
    Counts.of (items.foldl (Counts.add libraries) ∅) text =
      (items.map libraries.text).count text := by
  have general : ∀ counts : Counts, Counts.of (items.foldl (Counts.add libraries) counts) text =
      counts.of text + (items.map libraries.text).count text := by
    induction items with
    | nil => exact fun counts => (Nat.add_zero _).symm
    | cons item items ih =>
      intro counts
      rw [List.foldl_cons, ih, Counts.add, Counts.of_insert, List.map_cons, List.count_cons]
      split
      · next same =>
          subst same
          simp
          omega
      · next different =>
          simp [Ne.symm different]
  rw [general]
  exact Nat.zero_add _

/-- What the walk over a list finds when some texts are left on the other side. -/
structure Walked (libraries : Libraries) (left : List Json) (right : List String)
    (before after : Walk) : Prop where
  exact : after.exact = before.exact + ((left.map libraries.text).bagInter right).length
  counts : ∀ text, after.rightCounts.of text =
    right.count text - (left.map libraries.text).count text
  sourceValue : (left.map libraries.text).Pairwise (· ≤ ·) →
    after.sourceValue.map libraries.text =
      (before.sourceValue.map libraries.text <|>
        (left.map libraries.text).find? fun text =>
          right.count text < (left.map libraries.text).count text)

/-- The first text of an ordered list that occurs too often, after one occurrence is used. -/
theorem find?_outnumbered {text : String} {texts right : List String} (isThere : text ∈ right)
    (sorted : (text :: texts).Pairwise (· ≤ ·)) :
    (texts.find? fun other => (right.erase text).count other < texts.count other) =
      (text :: texts).find? fun other => right.count other < (text :: texts).count other := by
  have positive : 0 < right.count text := List.count_pos_iff.mpr isThere
  rw [List.find?_cons]
  split
  · next outnumbered =>
      rw [decide_eq_true_eq, List.count_cons_self] at outnumbered
      cases texts with
      | nil => rw [List.count_nil] at outnumbered; omega
      | cons next texts =>
        have later : text ∈ next :: texts := List.count_pos_iff.mp (by omega)
        have first : text ≤ next := (List.pairwise_cons.mp sorted).1 next List.mem_cons_self
        have last : next ≤ text := by
          rcases List.mem_cons.mp later with same | inRest
          · exact same.ge
          · exact (List.pairwise_cons.mp (List.pairwise_cons.mp sorted).2).1 text inRest
        obtain rfl := le_antisymm first last
        apply List.find?_cons_of_pos
        rw [decide_eq_true_eq, List.count_erase_self]
        omega
  · next enough =>
      rw [decide_eq_false_iff_not, List.count_cons_self] at enough
      apply congrArg (List.find? · texts)
      funext other
      by_cases same : other = text
      · subst same
        rw [List.count_erase_self, List.count_cons_self]
        simp only [decide_eq_decide]
        omega
      · rw [List.count_erase_of_ne same, List.count_cons_of_ne (Ne.symm same)]

theorem walked (libraries : Libraries) (left : List Json) (right : List String) (before : Walk)
    (counted : ∀ text, before.rightCounts.of text = right.count text) :
    Walked libraries left right before (left.foldl (Walk.step libraries) before) := by
  induction left generalizing right before with
  | nil => exact {
      exact := by simp
      counts := by simpa using counted
      sourceValue := by simp }
  | cons item left ih =>
    rw [List.foldl_cons]
    by_cases isThere : libraries.text item ∈ right
    · have stepped : Walk.step libraries before item = {
          before with
          rightCounts := before.rightCounts.insert (libraries.text item)
            (before.rightCounts.of (libraries.text item) - 1)
          exact := before.exact + 1 } := by
        rw [Walk.step, if_pos]
        rw [counted]
        exact List.count_pos_iff.mpr isThere
      have rest := ih (right.erase (libraries.text item)) (Walk.step libraries before item) (by
        intro text
        rw [stepped, Counts.of_insert, counted, counted]
        split
        · next same => rw [same, List.count_erase_self]
        · next different => rw [List.count_erase_of_ne different])
      refine ⟨?_, ?_, ?_⟩
      · rw [rest.exact, stepped, List.map_cons, List.cons_bagInter_of_mem _ isThere,
          List.length_cons]
        dsimp only
        omega
      · intro text
        rw [rest.counts, List.map_cons, List.count_cons, List.count_erase]
        omega
      · intro sorted
        rw [List.map_cons] at sorted ⊢
        rw [rest.sourceValue (List.pairwise_cons.mp sorted).2,
          find?_outnumbered isThere sorted, stepped]
    · have absent : right.count (libraries.text item) = 0 :=
        List.count_eq_zero_of_not_mem isThere
      have stepped : Walk.step libraries before item = {
          before with sourceValue := before.sourceValue <|> some item } := by
        rw [Walk.step, if_neg]
        rw [counted, absent]
        exact lt_irrefl 0
      have rest := ih right (Walk.step libraries before item) (by
        rw [stepped]
        exact counted)
      refine ⟨?_, ?_, ?_⟩
      · rw [rest.exact, stepped, List.map_cons, List.cons_bagInter_of_not_mem _ isThere]
      · intro text
        rw [rest.counts, List.map_cons, List.count_cons]
        split
        · next same =>
            rw [beq_iff_eq] at same
            rw [← same, absent]
            omega
        · rfl
      · intro sorted
        rw [List.map_cons] at sorted ⊢
        rw [rest.sourceValue (List.pairwise_cons.mp sorted).2, stepped]
        have outnumbered : right.count (libraries.text item) <
            (libraries.text item :: left.map libraries.text).count (libraries.text item) := by
          rw [absent, List.count_cons_self]
          omega
        rw [List.find?_cons_of_pos (by simpa using outnumbered)]
        cases before.sourceValue with
        | none => rfl
        | some value => rfl

/-- In an ordered list the first text with a property is the least one. -/
theorem find?_eq_min? {texts : List String} (sorted : texts.Pairwise (· ≤ ·))
    (condition : String → Bool) : texts.find? condition = (texts.filter condition).min? := by
  rw [← List.head?_filter, List.min?_eq_head?]
  exact (sorted.filter condition).imp min_eq_left

/-- The comparison of an identity in memory. -/
theorem compareGroup_eq {category identity : String} {source destination : List Json} :
    compareGroup libraries identity
      (orderBy libraries.text (source.filter fun item =>
        identityOf libraries category item = identity))
      (orderBy libraries.text (destination.filter fun item =>
        identityOf libraries category item = identity)) =
      groupOf libraries category source destination identity := by
  have ordered : ∀ items : List Json, ((orderBy libraries.text items).map libraries.text).Pairwise
      (· ≤ ·) := fun items => List.pairwise_map.mpr (orderBy_sorted _ items)
  have texts : ∀ items : List Json, ((orderBy libraries.text (items.filter fun item =>
      identityOf libraries category item = identity)).map libraries.text).Perm
      (textsOf libraries category items identity) :=
    fun items => (orderBy_perm _ _).map _
  have left := texts source
  have right := texts destination
  have sortedLeft := ordered (source.filter fun item =>
    identityOf libraries category item = identity)
  have sortedRight := ordered (destination.filter fun item =>
    identityOf libraries category item = identity)
  rw [compareGroup]
  generalize orderBy libraries.text (source.filter fun item =>
    identityOf libraries category item = identity) = lefts at left sortedLeft ⊢
  generalize orderBy libraries.text (destination.filter fun item =>
    identityOf libraries category item = identity) = rights at right sortedRight ⊢
  have walk := walked libraries lefts (rights.map libraries.text)
    { rightCounts := rights.foldl (Counts.add libraries) ∅ } (Counts.of_foldl_add rights)
  have common : ((lefts.map libraries.text).bagInter (rights.map libraries.text)).length =
      ((textsOf libraries category source identity).bagInter
        (textsOf libraries category destination identity)).length :=
    length_bagInter_map Function.injective_id (by rw [List.map_id]; exact left)
      (by rw [List.map_id]; exact right)
  have sourceSha256 : (lefts.foldl (Walk.step libraries)
      { rightCounts := rights.foldl (Counts.add libraries) ∅ }).sourceValue.map libraries.text =
      excess (textsOf libraries category source identity)
        (textsOf libraries category destination identity) := by
    rw [walk.sourceValue sortedLeft, ← excess_congr left right]
    exact find?_eq_min? sortedLeft _
  have destinationSha256 : (rights.find? fun item =>
      0 < (lefts.foldl (Walk.step libraries)
        { rightCounts := rights.foldl (Counts.add libraries) ∅ }).rightCounts.of
          (libraries.text item)).map libraries.text =
      excess (textsOf libraries category destination identity)
        (textsOf libraries category source identity) := by
    rw [← excess_congr right left, excess, ← find?_eq_min? sortedRight, List.find?_map]
    congr 2
    funext item
    rw [walk.counts, Function.comp_apply, decide_eq_decide]
    omega
  have hashed : ∀ found : Option Json, (found.map fun item =>
      hexDigest libraries (libraries.text item)) =
      (found.map libraries.text).map (hexDigest libraries) := by
    intro found
    rw [Option.map_map]
    rfl
  rw [groupOf, hashed, hashed, sourceSha256, destinationSha256, walk.exact, common,
    ← left.length_eq, ← right.length_eq, List.length_map, List.length_map]
  simp only [Nat.zero_add]

variable {category : String}

/-- Every record has an identity. -/
def Identified (libraries : Libraries) (category : String) (items : List Json) : Prop :=
  ∀ item ∈ items, identity libraries category item = .ok (identityOf libraries category item)

theorem grouped_eq {items : List Json} (identified : Identified libraries category items) :
    grouped libraries category items =
      .ok ((Buckets.index (fun item => some (identityOf libraries category item)) items).mapQueues
        (orderBy libraries.text)) := by
  have general : ∀ start : Buckets String Json,
      (items.foldlM (fun (groups : Buckets String Json) item => do
        let key ← identity libraries category item
        return groups.push key item) start : Except String (Buckets String Json)) =
      .ok (items.foldl (Buckets.file fun item => some (identityOf libraries category item))
        start) := by
    induction items with
    | nil => exact fun _ => rfl
    | cons item items ih =>
      intro start
      rw [List.foldlM_cons, identified item List.mem_cons_self]
      exact ih (fun other isOther => identified other (List.mem_cons_of_mem _ isOther)) _
  rw [grouped, general]
  rfl

theorem compareCategory_eq {source destination : List Json}
    (arrays : ∀ items, libraries.text (.array items) = arrayText (items.map libraries.text))
    (isSource : Identified libraries category source)
    (isDestination : Identified libraries category destination) :
    compareCategory libraries category (.array source) (.array destination) =
      .ok (comparisonOf libraries category source destination) := by
  have sourcePerm := orderBy_perm (fun item =>
    toLex (identityOf libraries category item, libraries.text item)) source
  have destinationPerm := orderBy_perm (fun item =>
    toLex (identityOf libraries category item, libraries.text item)) destination
  have read : ∀ items, canonicalItems libraries category (.array items) =
      .ok (orderBy (fun item =>
        toLex (identityOf libraries category item, libraries.text item)) items) := fun _ => rfl
  have isSorted : Identified libraries category (orderBy (fun item =>
      toLex (identityOf libraries category item, libraries.text item)) source) :=
    fun item isItem => isSource item (sourcePerm.mem_iff.mp isItem)
  have isSorted' : Identified libraries category (orderBy (fun item =>
      toLex (identityOf libraries category item, libraries.text item)) destination) :=
    fun item isItem => isDestination item (destinationPerm.mem_iff.mp isItem)
  rw [compareCategory, read, read, ok_bind, ok_bind, grouped_eq isSorted, grouped_eq isSorted',
    ok_bind, ok_bind, arrays, arrays, sourcePerm.length_eq, destinationPerm.length_eq]
  have queues : ∀ (items : List Json) (identity : String),
      ((Buckets.index (fun item => some (identityOf libraries category item)) items).mapQueues
        (orderBy libraries.text)).get identity =
      orderBy libraries.text (items.filter fun item =>
        identityOf libraries category item = identity) := by
    intro items identity
    rw [Buckets.get_mapQueues (by rfl), Buckets.get_index, ofClass]
    simp only [Option.some.injEq]
  have keys : ∀ (items : List Json) (identity : String),
      identity ∈ ((Buckets.index (fun item => some (identityOf libraries category item))
        items).mapQueues (orderBy libraries.text)).keys ↔
      identity ∈ items.map (identityOf libraries category) := by
    intro items identity
    rw [Buckets.keys_mapQueues, ← AList.mem_keys, Buckets.mem_index]
    simp only [Option.some.injEq, List.mem_map]
  have identities : ∀ (source destination : List Json), ((((Buckets.index (fun item =>
      some (identityOf libraries category item)) source).mapQueues (orderBy libraries.text)).keys ++
      ((Buckets.index (fun item => some (identityOf libraries category item))
        destination).mapQueues (orderBy libraries.text)).keys).toFinset.sort (· ≤ ·)) =
      identitiesOf libraries category source destination := by
    intro source destination
    rw [identitiesOf]
    congr 1
    ext identity
    rw [List.mem_toFinset, List.mem_toFinset, List.mem_append, keys, keys, List.map_append,
      List.mem_append]
  rw [identities, identitiesOf_congr sourcePerm destinationPerm, comparisonOf]
  refine congrArg (fun groups => Except.ok (categoryReport category source.length
    destination.length (digestOf libraries category source)
    (digestOf libraries category destination) groups)) ?_
  apply List.map_congr_left
  intro identity _
  rw [queues, queues, compareGroup_eq, groupOf_congr sourcePerm destinationPerm]

end

end MailSwiftSync.Assurance
