import Mathlib.Algebra.GroupWithZero.Nat
import Mathlib.Algebra.Order.BigOperators.Group.Multiset
import Mathlib.Data.List.Lattice
import Mathlib.Data.Multiset.Count
import MailSwiftSync.Foundation.Relational

/-!
# Grouped queries

`GROUP BY` with its aggregates, outer joins on the groups, and what counts of equal rows say
about lists as multisets.
-/

namespace Foundation

variable {α β γ κ ι : Type*} [DecidableEq κ]

/-! ## Aggregates -/

/-- The sum of a column over the rows of a key. -/
def total (key : α → κ) (value : α → Nat) (rows : List α) (k : κ) : Nat :=
  ((rows.filter (key · = k)).map value).sum

/-- `SELECT key, SUM(value) … GROUP BY key`. -/
def sumBy (key : α → κ) (value : α → Nat) (rows : List α) : List (κ × Nat) :=
  (rows.map key).dedup.map fun k => (k, total key value rows k)

/-- `SELECT key, COUNT(*) … GROUP BY key`. -/
def countBy (key : α → κ) (rows : List α) : List (κ × Nat) := sumBy key (fun _ => 1) rows

theorem total_of_notMem {key : α → κ} {value : α → Nat} {rows : List α} {k : κ}
    (absent : k ∉ rows.map key) : total key value rows k = 0 := by
  have none : rows.filter (key · = k) = [] := by
    apply List.filter_eq_nil_iff.mpr
    intro row isRow isKey
    exact absent (List.mem_map.mpr ⟨row, isRow, of_decide_eq_true isKey⟩)
  rw [total, none]
  rfl

/-- How many rows have a key. -/
def countOf (key : α → κ) (rows : List α) (k : κ) : Nat := total key (fun _ => 1) rows k

theorem total_one (key : α → κ) (rows : List α) (k : κ) :
    total key (fun _ => 1) rows k = countOf key rows k := rfl

theorem countOf_eq_count [BEq κ] [LawfulBEq κ] (key : α → κ) (rows : List α) (k : κ) :
    countOf key rows k = (rows.map key).count k := by
  rw [countOf, total, List.map_const', List.sum_replicate_nat, mul_one, List.count_eq_countP,
    List.countP_map, List.countP_eq_length_filter]
  congr 1
  apply List.filter_congr
  intro row _
  rw [Function.comp_apply, Bool.eq_iff_iff, decide_eq_true_eq, beq_iff_eq]

/-- The group of a key. -/
theorem filter_sumBy (key : α → κ) (value : α → Nat) (rows : List α) (k : κ) :
    (sumBy key value rows).filter (·.1 = k) =
      if k ∈ rows.map key then [(k, total key value rows k)] else [] := by
  have filtered : (sumBy key value rows).filter (·.1 = k) =
      ((rows.map key).dedup.filter (· = k)).map fun k => (k, total key value rows k) := by
    rw [sumBy, List.filter_map]
    rfl
  have unique : (rows.map key).dedup.filter (· = k) =
      if k ∈ rows.map key then [k] else [] := by
    rw [List.filter_eq, List.Nodup.count (List.nodup_dedup _)]
    simp only [List.mem_dedup]
    split
    · rfl
    · rfl
  rw [filtered, unique]
  split
  · rfl
  · rfl

theorem mem_countBy {key : α → κ} {rows : List α} {group : κ × Nat} :
    group ∈ countBy key rows ↔ ∃ row ∈ rows, group = (key row, countOf key rows (key row)) := by
  rw [countBy, sumBy, List.mem_map]
  simp only [List.mem_dedup, List.mem_map]
  constructor
  · intro isGroup
    obtain ⟨k, ⟨row, isRow, isKey⟩, same⟩ := isGroup
    subst isKey
    exact ⟨row, isRow, same.symm⟩
  · intro isGroup
    obtain ⟨row, isRow, same⟩ := isGroup
    exact ⟨key row, ⟨row, isRow, rfl⟩, same.symm⟩

/-! ## Outer joins -/

/-- `LEFT JOIN`. -/
def leftJoin (on : α → β → Bool) (xs : List α) (ys : List β) : List (α × Option β) :=
  xs.flatMap fun x =>
    match ys.filter (on x) with
    | [] => [(x, none)]
    | joined => joined.map fun y => (x, some y)

/-- A join with groups adds one column. -/
theorem leftJoin_sumBy (key : α → κ) (value : α → Nat) (rows : List α) (column : β → κ)
    (xs : List β) :
    leftJoin (fun x group => group.1 = column x) xs (sumBy key value rows) =
      xs.map fun x => (x, if column x ∈ rows.map key then
        some (column x, total key value rows (column x)) else none) := by
  rw [leftJoin, List.map_eq_flatMap]
  congr 1
  funext x
  rw [filter_sumBy]
  split
  · next none =>
      split at none
      · cases none
      · next absent => rw [if_neg absent]
  · next some =>
      split
      · rfl
      · next absent => exact absurd (if_neg absent) some

/-- `COALESCE` of the joined column. -/
theorem coalesce_total (key : α → κ) (value : α → Nat) (rows : List α) (k : κ) :
    ((if k ∈ rows.map key then some (k, total key value rows k) else none).map Prod.snd).getD 0 =
      total key value rows k := by
  split
  · rfl
  · next absent => exact (total_of_notMem absent).symm

/-- The column a join with counts adds. -/
def joinedCount (key : α → κ) (rows : List α) (k : κ) : Option Nat :=
  if k ∈ rows.map key then some (countOf key rows k) else none

theorem getD_joinedCount (key : α → κ) (rows : List α) (k : κ) :
    (joinedCount key rows k).getD 0 = countOf key rows k := by
  rw [joinedCount]
  split
  · rfl
  · next absent => exact (total_of_notMem absent).symm

/-- `SELECT … LEFT JOIN counts … GROUP BY key, count HAVING COUNT(*) > COALESCE(count, 0)`: the
keys that one table has more often than another. -/
theorem mem_outnumbering {key : α → κ} {key' : β → κ} {own : List α} {other : List β}
    {group : (κ × Option Nat) × Nat} :
    group ∈ (countBy (fun pair => (key pair.1, pair.2.map Prod.snd))
      (leftJoin (fun row counted => counted.1 = key row) own (countBy key' other))).filter
        (fun group => group.1.2.getD 0 < group.2) ↔
      group = ((group.1.1, joinedCount key' other group.1.1), countOf key own group.1.1) ∧
        countOf key' other group.1.1 < countOf key own group.1.1 := by
  have joined : leftJoin (fun row counted => counted.1 = key row) own (countBy key' other) =
      own.map fun row => (row, (joinedCount key' other (key row)).map (key row, ·)) := by
    rw [countBy, leftJoin_sumBy]
    apply List.map_congr_left
    intro row _
    rw [joinedCount]
    split
    · rfl
    · rfl
  have column : ∀ k, ((joinedCount key' other k).map (k, ·)).map Prod.snd =
      joinedCount key' other k := by
    intro k
    rw [Option.map_map]
    exact Option.map_id'
  have counted : ∀ k, countOf (fun pair : α × Option (κ × Nat) =>
      (key pair.1, pair.2.map Prod.snd))
      (own.map fun row => (row, (joinedCount key' other (key row)).map (key row, ·)))
      (k, joinedCount key' other k) = countOf key own k := by
    intro k
    simp only [countOf, total, List.filter_map, List.map_map]
    refine congrArg List.sum (congrArg (List.map _) (List.filter_congr fun row _ => ?_))
    simp only [Function.comp_apply, column, Prod.mk.injEq, decide_eq_decide]
    exact ⟨And.left, fun same => ⟨same, congrArg _ same⟩⟩
  rw [List.mem_filter, mem_countBy, joined]
  simp only [List.mem_map, decide_eq_true_eq]
  constructor
  · intro isGroup
    obtain ⟨⟨pair, ⟨row, isRow, same⟩, same'⟩, more⟩ := isGroup
    subst same
    subst same'
    simp only [column, counted, getD_joinedCount] at more ⊢
    exact ⟨trivial, more⟩
  · intro isGroup
    obtain ⟨same, more⟩ := isGroup
    have isKey : group.1.1 ∈ own.map key := by
      by_contra absent
      have none : countOf key own group.1.1 = 0 := total_of_notMem absent
      omega
    obtain ⟨row, isRow, isKey⟩ := List.mem_map.mp isKey
    rw [same]
    refine ⟨⟨_, ⟨row, isRow, rfl⟩, ?_⟩, ?_⟩
    · simp only [column, isKey, counted]
    · simp only [getD_joinedCount]
      exact more

/-! ## Common rows -/

theorem sum_map_count_eq_length {keys items : List κ} (nodup : keys.Nodup)
    (covered : ∀ item ∈ items, item ∈ keys) : (keys.map items.count).sum = items.length := by
  have sum := Multiset.sum_count_eq_card (s := keys.toFinset) (m := (items : Multiset κ))
    (fun item isItem => List.mem_toFinset.mpr (covered item isItem))
  rw [← List.sum_toFinset _ nodup]
  simpa only [Multiset.coe_count, Multiset.coe_card] using sum

/-- How many rows two lists have in common, from the counts of the rows of one of them. -/
theorem sum_min_count {keys left right : List κ} (nodup : keys.Nodup)
    (covered : ∀ item ∈ left, item ∈ keys) :
    (keys.map fun item => min (left.count item) (right.count item)).sum =
      (left.bagInter right).length := by
  have common : ∀ item ∈ left.bagInter right, item ∈ keys := by
    intro item isItem
    exact covered item (List.mem_bagInter.mp isItem).1
  rw [← sum_map_count_eq_length nodup common]
  congr 1
  apply List.map_congr_left
  intro item _
  exact List.count_bagInter.symm

theorem sum_flatMap (items : List α) (column : α → List Nat) :
    (items.flatMap column).sum = (items.map fun item => (column item).sum).sum := by
  induction items with
  | nil => rfl
  | cons item items ih =>
    rw [List.flatMap_cons, List.sum_append, ih, List.map_cons, List.sum_cons]

theorem sum_map_filter (keep : α → Bool) (value : α → Nat) (items : List α) :
    ((items.filter keep).map value).sum =
      (items.map fun item => if keep item then value item else 0).sum := by
  induction items with
  | nil => rfl
  | cons item items ih =>
    rw [List.map_cons, List.sum_cons, ← ih]
    cases kept : keep item with
    | false => simp [kept]
    | true => simp [kept]

/-- The sum over a join of counts is the number of common rows. -/
theorem sum_innerJoin_countBy {key : α → κ} {key' : β → κ} {rows : List α} {rows' : List β}
    (group : κ → Bool) :
    (((innerJoin (fun own other => other.1 = own.1) (countBy key rows) (countBy key' rows')).filter
        (fun pair => group pair.1.1)).map fun pair => min pair.1.2 pair.2.2).sum =
      (((rows.map key).filter group).bagInter ((rows'.map key').filter group)).length := by
  have eachKey : ∀ k, ((((countBy key' rows').filter (·.1 = k)).map
      (Prod.mk (k, total key (fun _ => 1) rows k))).filter (fun pair => group pair.1.1)).map
        (fun pair => min pair.1.2 pair.2.2) =
      if group k ∧ k ∈ rows'.map key' then
        [min ((rows.map key).count k) ((rows'.map key').count k)] else [] := by
    intro k
    rw [countBy, filter_sumBy]
    by_cases isKey : k ∈ rows'.map key'
    · rw [if_pos isKey]
      cases inGroup : group k with
      | false => simp [inGroup]
      | true => simp [inGroup, isKey, total_one, countOf_eq_count]
    · simp [isKey]
  have sumKeys : ∀ keys : List κ, ((keys.flatMap fun k => if group k ∧ k ∈ rows'.map key' then
      [min ((rows.map key).count k) ((rows'.map key').count k)] else []).sum) =
      ((keys.filter group).map fun k =>
        min (((rows.map key).filter group).count k)
          (((rows'.map key').filter group).count k)).sum := by
    intro keys
    rw [sum_flatMap, sum_map_filter]
    congr 1
    apply List.map_congr_left
    intro k _
    cases inGroup : group k with
    | false => simp
    | true =>
      rw [List.count_filter inGroup, List.count_filter inGroup]
      by_cases isKey : k ∈ rows'.map key'
      · simp [isKey]
      · simp [isKey, List.count_eq_zero_of_not_mem isKey]
  have joined : ((innerJoin (fun own other => other.1 = own.1) (countBy key rows)
      (countBy key' rows')).filter (fun pair => group pair.1.1)).map
        (fun pair => min pair.1.2 pair.2.2) =
      (rows.map key).dedup.flatMap fun k => if group k ∧ k ∈ rows'.map key' then
        [min ((rows.map key).count k) ((rows'.map key').count k)] else [] := by
    rw [innerJoin, List.filter_flatMap, List.map_flatMap]
    have grouped : countBy key rows =
        (rows.map key).dedup.map fun k => (k, total key (fun _ => 1) rows k) := rfl
    rw [grouped, List.flatMap_map]
    congr 1
    funext k
    exact eachKey k
  rw [joined, sumKeys]
  apply sum_min_count ((List.nodup_dedup _).filter _)
  intro item isItem
  rw [List.mem_filter] at isItem ⊢
  exact ⟨List.mem_dedup.mpr isItem.1, isItem.2⟩

theorem length_bagInter_comm (left right : List κ) :
    (left.bagInter right).length = (right.bagInter left).length := by
  apply List.Perm.length_eq
  rw [List.perm_iff_count]
  intro item
  rw [List.count_bagInter, List.count_bagInter, Nat.min_comm]

theorem length_bagInter_le_left (left right : List κ) :
    (left.bagInter right).length ≤ left.length :=
  List.bagInter_sublist_left.length_le

/-- What lists have in common does not depend on their order or on names for their rows. -/
theorem length_bagInter_map [DecidableEq ι] {name : κ → ι} (injective : Function.Injective name)
    {left right : List κ} {left' right' : List ι} (isLeft : left'.Perm (left.map name))
    (isRight : right'.Perm (right.map name)) :
    (left'.bagInter right').length = (left.bagInter right).length := by
  have nodup : (left.dedup.map name).Nodup := (List.nodup_dedup left).map injective
  have covered : ∀ item ∈ left', item ∈ left.dedup.map name := by
    intro item isItem
    obtain ⟨old, isOld, rfl⟩ := List.mem_map.mp (isLeft.mem_iff.mp isItem)
    exact List.mem_map_of_mem (List.mem_dedup.mpr isOld)
  rw [← sum_min_count nodup covered, List.map_map,
    ← sum_min_count (List.nodup_dedup left) fun item isItem => List.mem_dedup.mpr isItem]
  congr 1
  apply List.map_congr_left
  intro item _
  rw [Function.comp_apply, isLeft.count_eq, isRight.count_eq,
    List.count_map_of_injective _ _ injective, List.count_map_of_injective _ _ injective]

/-- Lists are equal as multisets when all of both is common. -/
theorem perm_iff_length_bagInter {left right : List κ} :
    left.Perm right ↔
      (left.bagInter right).length = left.length ∧ (left.bagInter right).length = right.length := by
  constructor
  · intro perm
    have common : (left.bagInter right).Perm left := by
      rw [List.perm_iff_count]
      intro item
      rw [List.count_bagInter, ← perm.count_eq, Nat.min_self]
    exact ⟨common.length_eq, common.length_eq.trans perm.length_eq⟩
  · intro lengths
    have all : left.bagInter right = left := List.bagInter_sublist_left.eq_of_length lengths.1
    have fewer : left.Subperm right := by
      rw [List.subperm_ext_iff]
      intro item _
      have counts := congrArg (List.count item) all
      rw [List.count_bagInter] at counts
      exact min_eq_left_iff.mp counts
    exact fewer.perm_of_length_le (by omega)

/-! ## Ordered columns -/

section Ordered

variable {ω : Type*} [LinearOrder ω]

/-- The ordered column is determined by the column as a multiset. -/
theorem map_orderBy_congr {key : α → ω} {key' : β → ω} {rows : List α} {rows' : List β}
    (perm : (rows.map key).Perm (rows'.map key')) :
    (orderBy key rows).map key = (orderBy key' rows').map key' := by
  have sorted : ((orderBy key rows).map key).Pairwise (· ≤ ·) :=
    List.pairwise_map.mpr (orderBy_sorted key rows)
  have sorted' : ((orderBy key' rows').map key').Pairwise (· ≤ ·) :=
    List.pairwise_map.mpr (orderBy_sorted key' rows')
  have same : ((orderBy key rows).map key).Perm ((orderBy key' rows').map key') :=
    (((orderBy_perm key rows).map key).trans perm).trans ((orderBy_perm key' rows').map key').symm
  exact same.eq_of_pairwise' sorted sorted'

theorem orderBy_map (key : β → ω) (image : α → β) (rows : List α) :
    orderBy key (rows.map image) = (orderBy (fun row => key (image row)) rows).map image :=
  (List.map_insertionSort _ _ image rows fun _ _ _ _ => Iff.rfl).symm

/-- `ORDER BY … LIMIT 1` finds the least value of the column. -/
theorem head?_orderBy_min? (key : α → ω) (rows : List α) :
    (orderBy key rows).head?.map key = (rows.map key).min? := by
  cases found : (orderBy key rows).head? with
  | none =>
    rw [head?_orderBy_eq_none.mp found]
    rfl
  | some row =>
    obtain ⟨isRow, least⟩ := head?_orderBy_eq_some found
    refine (List.min?_eq_some_iff.mpr ⟨List.mem_map_of_mem isRow, ?_⟩).symm
    intro value isValue
    obtain ⟨other, isOther, rfl⟩ := List.mem_map.mp isValue
    exact least other isOther

end Ordered

end Foundation
