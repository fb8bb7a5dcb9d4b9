import Mathlib.Data.List.Sort
import Mathlib.Data.Prod.Lex
import MailSwiftSync.Foundation.HashJoin

/-!
# Queries as classwise matchings

The query patterns that pair rows of two tables: a join on row numbers, a join of
rows that are alone in their partition, and a loop that asks for the nearest row
still free.  Each of them makes, inside every partition, the pairs of a matcher.
-/

namespace Foundation

variable {α β κ ω φ τ : Type*}

/-! ## Ordered rows -/

section OrderBy

variable [LinearOrder ω]

/-- `ORDER BY key`. -/
def orderBy (key : α → ω) (rows : List α) : List α :=
  rows.insertionSort fun left right => key left ≤ key right

theorem orderBy_perm (key : α → ω) (rows : List α) : (orderBy key rows).Perm rows :=
  List.perm_insertionSort _ rows

variable {key : α → ω} {rows : List α}

@[simp] theorem mem_orderBy {row : α} : row ∈ orderBy key rows ↔ row ∈ rows :=
  (orderBy_perm key rows).mem_iff

theorem orderBy_sorted (key : α → ω) (rows : List α) :
    (orderBy key rows).Pairwise fun left right => key left ≤ key right := by
  have total : Std.Total fun left right : α => key left ≤ key right :=
    ⟨fun left right => le_total (key left) (key right)⟩
  have transitive : IsTrans α fun left right => key left ≤ key right :=
    ⟨fun _ _ _ => le_trans⟩
  exact List.pairwise_insertionSort _ rows

/-- Rows with distinct keys are ordered strictly. -/
theorem orderBy_strict (distinct : (rows.map key).Nodup) :
    (orderBy key rows).Pairwise fun left right => key left < key right := by
  have distinct' : (orderBy key rows).Pairwise fun left right => key left ≠ key right :=
    List.pairwise_map.mp (((orderBy_perm key rows).map key).nodup_iff.mpr distinct)
  exact ((orderBy_sorted key rows).and distinct').imp fun both => lt_of_le_of_ne both.1 both.2

/-- Rows with distinct keys in order are determined by their set. -/
theorem orderBy_eq {rows sorted : List α} (perm : rows.Perm sorted)
    (strict : sorted.Pairwise fun left right => key left < key right) :
    orderBy key rows = sorted := by
  have distinct : (rows.map key).Nodup := by
    rw [(perm.map key).nodup_iff, List.Nodup, List.pairwise_map]
    exact strict.imp ne_of_lt
  have antisymmetric : Std.Antisymm fun left right : α => key left < key right :=
    ⟨fun _ _ less greater => absurd less (lt_asymm greater)⟩
  exact ((orderBy_perm key rows).trans perm).eq_of_pairwise' (orderBy_strict distinct) strict

theorem orderBy_filter (distinct : (rows.map key).Nodup)
    (keep : α → Bool) : orderBy key (rows.filter keep) = (orderBy key rows).filter keep :=
  orderBy_eq ((orderBy_perm key rows).filter keep).symm
    ((orderBy_strict distinct).filter keep)

/-- `LIMIT 1` finds a row with the least key. -/
theorem head?_orderBy_eq_some {row : α} (found : (orderBy key rows).head? = some row) :
    row ∈ rows ∧ ∀ other ∈ rows, key row ≤ key other := by
  obtain ⟨rest, split⟩ := List.head?_eq_some_iff.mp found
  have sorted := orderBy_sorted key rows
  rw [split, List.pairwise_cons] at sorted
  have isRow : row ∈ orderBy key rows := by simp [split]
  refine ⟨mem_orderBy.mp isRow, fun other membership => ?_⟩
  have inOrder : other ∈ orderBy key rows := mem_orderBy.mpr membership
  rw [split, List.mem_cons] at inOrder
  rcases inOrder with rfl | inRest
  · exact le_rfl
  · exact sorted.1 other inRest

theorem head?_orderBy_eq_none : (orderBy key rows).head? = none ↔ rows = [] := by
  rw [List.head?_eq_none_iff]
  constructor
  · intro empty
    exact List.perm_nil.mp (empty ▸ (orderBy_perm key rows).symm)
  · rintro rfl
    rfl

end OrderBy

/-! ## Plain joins -/

section InnerJoin

/-- `JOIN … ON`: every pair of rows that meets the condition. -/
def innerJoin (on : α → β → Bool) (xs : List α) (ys : List β) : List (α × β) :=
  xs.flatMap fun x => (ys.filter (on x)).map (Prod.mk x)

variable {on : α → β → Bool} {xs : List α} {ys : List β}

theorem mem_innerJoin {pair : α × β} :
    pair ∈ innerJoin on xs ys ↔
      pair.1 ∈ xs ∧ pair.2 ∈ ys ∧ on pair.1 pair.2 = true := by
  cases pair with
  | mk x y =>
    simp only [innerJoin, List.mem_flatMap, List.mem_map, List.mem_filter, Prod.mk.injEq]
    constructor
    · rintro ⟨_, inLeft, _, ⟨inRight, admitted⟩, rfl, rfl⟩
      exact ⟨inLeft, inRight, admitted⟩
    · intro ⟨inLeft, inRight, admitted⟩
      exact ⟨x, inLeft, y, ⟨inRight, admitted⟩, rfl, rfl⟩

/-- A join repeats no pair when neither table repeats a row it joins. -/
theorem nodup_innerJoin (nodup : xs.Nodup) (joined : ∀ x ∈ xs, (ys.filter (on x)).Nodup) :
    (innerJoin on xs ys).Nodup := by
  induction xs with
  | nil => exact List.nodup_nil
  | cons x rest ih =>
    have fresh : x ∉ rest := (List.nodup_cons.mp nodup).1
    have restNodup := ih (List.nodup_cons.mp nodup).2 fun other membership =>
      joined other (List.mem_cons_of_mem x membership)
    have headNodup : ((ys.filter (on x)).map (Prod.mk x)).Nodup :=
      (joined x List.mem_cons_self).map fun _ _ same => (Prod.mk.inj same).2
    refine List.nodup_append.mpr ⟨headNodup, restNodup, ?_⟩
    intro pair inHead other inRest same
    obtain ⟨y, _, rfl⟩ := List.mem_map.mp inHead
    have isRest := (mem_innerJoin.mp inRest).1
    rw [← same] at isRest
    exact fresh isRest

/-- A join with exactly one partner for every row. -/
theorem innerJoin_eq_map (partner : α → β)
    (joined : ∀ x ∈ xs, ys.filter (on x) = [partner x]) :
    innerJoin on xs ys = xs.map fun x => (x, partner x) := by
  induction xs with
  | nil => rfl
  | cons x rest ih =>
    have others := ih fun other membership =>
      joined other (List.mem_cons_of_mem x membership)
    rw [innerJoin, List.flatMap_cons, joined x List.mem_cons_self, ← innerJoin, others]
    rfl

end InnerJoin

/-! ## Joins on row numbers -/

section RowNumbers

variable [DecidableEq κ] [LinearOrder ω]

/-- Rows with a smaller key. -/
def rank (key : α → ω) (rows : List α) (row : α) : Nat :=
  (rows.filter fun other => key other < key row).length

/-- `ROW_NUMBER() OVER (PARTITION BY cls ORDER BY key)`, for rows with distinct keys. -/
def rowNumber (cls : α → Option κ) (key : α → ω) (rows : List α) (row : α) : Nat :=
  rank key (rows.filter fun other => cls other = cls row) row + 1

/-- Rows of two tables with the same class and the same row number.  Rows without a
class are not selected; they share no partition with a selected row. -/
def rankJoin (f : α → Option κ) (key : α → ω) (xs : List α) {ω' : Type*} [LinearOrder ω']
    (g : β → Option κ) (key' : β → ω') (ys : List β) : List (α × β) :=
  (xs.filter fun x => (f x).isSome).flatMap fun x =>
    (ys.filter fun y => g y = f x ∧ rowNumber g key' ys y = rowNumber f key xs x).map
      (Prod.mk x)

theorem rank_perm (key : α → ω) {rows rows' : List α} (perm : rows.Perm rows') (row : α) :
    rank key rows row = rank key rows' row :=
  (perm.filter _).length_eq

/-- In order, the ranks count up from zero. -/
theorem map_rank {key : α → ω} {rows : List α}
    (strict : rows.Pairwise fun left right => key left < key right) :
    rows.map (rank key rows) = List.range rows.length := by
  induction rows with
  | nil => rfl
  | cons row rest ih =>
    obtain ⟨least, restStrict⟩ := List.pairwise_cons.mp strict
    have own : rank key (row :: rest) row = 0 := by
      have noneBelow : rest.filter (fun other => key other < key row) = [] := by
        simpa using fun other membership => le_of_lt (least other membership)
      simp [rank, noneBelow]
    have later : ∀ other ∈ rest, rank key (row :: rest) other = rank key rest other + 1 := by
      intro other membership
      simp [rank, least other membership]
    rw [List.map_cons, own, List.map_congr_left later, List.length_cons,
      List.range_succ_eq_map, ← ih restStrict, List.map_map]
    rfl

/-- Pairing equal positions is pairing in order. -/
theorem flatMap_positions (us : List α) (vs : List β) (position : α → Nat)
    (position' : β → Nat) (start : Nat)
    (counted : us.map position = List.range' start us.length)
    (counted' : vs.map position' = List.range' start vs.length) :
    (us.flatMap fun u => (vs.filter fun v => position' v = position u).map (Prod.mk u)) =
      us.zip vs := by
  induction us generalizing vs start with
  | nil => rfl
  | cons u us ih =>
    rw [List.map_cons, List.length_cons, List.range'_succ, List.cons.injEq] at counted
    obtain ⟨atStart, counted⟩ := counted
    have laterPositions : ∀ u' ∈ us, start + 1 ≤ position u' := by
      intro u' membership
      have inRange : position u' ∈ us.map position := List.mem_map_of_mem membership
      rw [counted] at inRange
      exact (List.mem_range'_1.mp inRange).1
    cases vs with
    | nil => simp
    | cons v vs =>
      rw [List.map_cons, List.length_cons, List.range'_succ, List.cons.injEq] at counted'
      obtain ⟨atStart', counted'⟩ := counted'
      have laterPositions' : ∀ v' ∈ vs, start + 1 ≤ position' v' := by
        intro v' membership
        have inRange : position' v' ∈ vs.map position' := List.mem_map_of_mem membership
        rw [counted'] at inRange
        exact (List.mem_range'_1.mp inRange).1
      have first : (v :: vs).filter (fun v' => position' v' = position u) = [v] := by
        have none : vs.filter (fun v' => position' v' = position u) = [] := by
          apply List.filter_eq_nil_iff.mpr
          intro v' membership
          have := laterPositions' v' membership
          simp only [decide_eq_true_eq]
          omega
        rw [List.filter_cons_of_pos (by simp [atStart, atStart']), none]
      have rest : ∀ u' ∈ us, ((v :: vs).filter fun v' => position' v' = position u') =
          vs.filter fun v' => position' v' = position u' := by
        intro u' membership
        have := laterPositions u' membership
        rw [List.filter_cons_of_neg]
        simp only [decide_eq_true_eq]
        omega
      rw [List.flatMap_cons, first, List.zip_cons_cons, ← ih vs (start + 1) counted counted']
      simp only [List.map_cons, List.map_nil, List.singleton_append, List.cons.injEq,
        true_and]
      exact List.flatMap_congr fun u' membership => by rw [rest u' membership]

omit [LinearOrder ω] in
/-- Seen at one class, a join asks only the rows of that class. -/
theorem ofClass_flatMap_mk (f : α → Option κ) (c : κ) (xs : List α)
    (partners : α → List β) :
    ofClass (fun pair => f pair.1) c ((xs.filter fun x => (f x).isSome).flatMap fun x =>
        (partners x).map (Prod.mk x)) =
      (ofClass f c xs).flatMap fun x => (partners x).map (Prod.mk x) := by
  induction xs with
  | nil => rfl
  | cons x rest ih =>
    by_cases same : f x = some c
    · have kept : ((partners x).map (Prod.mk x)).filter (fun pair => f pair.1 = some c) =
          (partners x).map (Prod.mk x) := by
        simp [List.filter_map, Function.comp_def, same]
      rw [List.filter_cons_of_pos (by simp [same]), List.flatMap_cons, ofClass_append, ih,
        ofClass_cons_of_eq same, List.flatMap_cons, ofClass, kept]
    · rw [ofClass_cons_of_ne same, ← ih]
      cases labelled : f x with
      | none => rw [List.filter_cons_of_neg (by simp [labelled])]
      | some label =>
        have dropped : ((partners x).map (Prod.mk x)).filter
            (fun pair => f pair.1 = some c) = [] := by
          simp [List.filter_map, Function.comp_def, same]
        rw [List.filter_cons_of_pos (by simp [labelled]), List.flatMap_cons,
          ofClass_append, ofClass, dropped, List.nil_append]

theorem perm_eq_of_length_le_one {items others : List α} (perm : items.Perm others)
    (short : others.length ≤ 1) : items = others := by
  match others with
  | [] => exact List.perm_nil.mp perm
  | [only] => exact List.perm_singleton.mp perm
  | _ :: _ :: _ => simp at short

/-- A join on row numbers pairs every partition in order. -/
theorem classwise_rankJoin {ω' : Type*} [LinearOrder ω'] (f : α → Option κ) (key : α → ω)
    {xs : List α} (strict : xs.Pairwise fun left right => key left < key right)
    (g : β → Option κ) (key' : β → ω') {ys : List β} (distinct : (ys.map key').Nodup) :
    Classwise Matcher.fifo f g xs (orderBy key' ys) (rankJoin f key xs g key' ys) where
  classified := by
    intro pair membership
    obtain ⟨x, selected, inPartners⟩ := List.mem_flatMap.mp membership
    obtain ⟨y, _, rfl⟩ := List.mem_map.mp inPartners
    simpa using (List.mem_filter.mp selected).2
  classes := by
    intro c
    have strictLeft : (ofClass f c xs).Pairwise fun left right => key left < key right :=
      strict.filter _
    have strictRight : (ofClass g c (orderBy key' ys)).Pairwise
        fun left right => key' left < key' right := (orderBy_strict distinct).filter _
    have permRight : (ofClass g c ys).Perm (ofClass g c (orderBy key' ys)) :=
      (ofClass_perm g c (orderBy_perm key' ys)).symm
    have counted := map_rank strictLeft
    have counted' := map_rank strictRight
    rw [List.range_eq_range'] at counted counted'
    have ranksNodup : ((ofClass g c (orderBy key' ys)).map
        (rank key' (ofClass g c (orderBy key' ys)))).Nodup := by
      rw [counted']
      exact List.nodup_range'
    have atMostOne : ∀ position : Nat, ((ofClass g c (orderBy key' ys)).filter fun y =>
        rank key' (ofClass g c (orderBy key' ys)) y = position).length ≤ 1 := by
      intro position
      have count := List.nodup_iff_count_le_one.mp ranksNodup position
      rwa [List.count_eq_length_filter, List.filter_map, List.length_map] at count
    have partners : ∀ x ∈ ofClass f c xs,
        (ys.filter fun y => g y = f x ∧ rowNumber g key' ys y = rowNumber f key xs x) =
          (ofClass g c (orderBy key' ys)).filter fun y =>
            rank key' (ofClass g c (orderBy key' ys)) y = rank key (ofClass f c xs) x := by
      intro x membership
      have labelled := (mem_ofClass.mp membership).2
      have own : rowNumber f key xs x = rank key (ofClass f c xs) x + 1 := by
        simp only [rowNumber, labelled]
        rfl
      have select : (ys.filter fun y => g y = f x ∧
          rowNumber g key' ys y = rowNumber f key xs x) =
          (ofClass g c ys).filter fun y =>
            rank key' (ofClass g c (orderBy key' ys)) y = rank key (ofClass f c xs) x := by
        have ofRows : ofClass g c ys = ys.filter fun y => g y = some c := rfl
        rw [ofRows, List.filter_filter]
        apply List.filter_congr
        intro y _
        rw [labelled, own]
        by_cases same : g y = some c
        · have theirs : rowNumber g key' ys y =
              rank key' (ofClass g c (orderBy key' ys)) y + 1 := by
            rw [rowNumber, same, ← rank_perm key' permRight y]
            rfl
          simp [same, theirs]
        · simp [same]
      rw [select]
      exact perm_eq_of_length_le_one (permRight.filter _) (atMostOne _)
    rw [rankJoin, ofClass_flatMap_mk]
    exact (List.flatMap_congr fun x membership => by rw [partners x membership]).trans
      (flatMap_positions _ _ _ _ 0 counted counted')

end RowNumbers

/-! ## Rows alone in their partition -/

section Lone

variable [DecidableEq κ]

/-- Rows whose partition has `COUNT(*) = 1`. -/
def lone (cls : α → Option κ) (rows : List α) : List α :=
  rows.filter fun row => (cls row).isSome ∧ (rows.filter (cls · = cls row)).length = 1

/-- Lone rows of two tables with the same class. -/
def loneJoin (f : α → Option κ) (xs : List α) (g : β → Option κ) (ys : List β) :
    List (α × β) :=
  (lone g ys).flatMap fun y => ((lone f xs).filter fun x => f x = g y).map fun x => (x, y)

theorem ofClass_lone (cls : α → Option κ) (c : κ) (rows : List α) :
    ofClass cls c (lone cls rows) =
      if (ofClass cls c rows).length = 1 then ofClass cls c rows else [] := by
  have merged : ofClass cls c (lone cls rows) =
      (ofClass cls c rows).filter fun _ => (ofClass cls c rows).length = 1 := by
    rw [lone, ofClass_filter_comm]
    apply List.filter_congr
    intro row membership
    simp only [(mem_ofClass.mp membership).2, Option.isSome_some, true_and]
    rfl
  rw [merged]
  split_ifs with alone
  · simp [alone]
  · simp [alone]

theorem mem_loneJoin {f : α → Option κ} {xs : List α} {g : β → Option κ} {ys : List β}
    {pair : α × β} :
    pair ∈ loneJoin f xs g ys ↔
      pair.1 ∈ lone f xs ∧ pair.2 ∈ lone g ys ∧ f pair.1 = g pair.2 := by
  cases pair with
  | mk x y =>
    simp only [loneJoin, List.mem_flatMap, List.mem_map, List.mem_filter, Prod.mk.injEq,
      decide_eq_true_eq]
    constructor
    · rintro ⟨_, inRight, _, ⟨inLeft, same⟩, rfl, rfl⟩
      exact ⟨inLeft, inRight, same⟩
    · intro ⟨inLeft, inRight, same⟩
      exact ⟨y, inRight, x, ⟨inLeft, same⟩, rfl, rfl⟩

/-- A row is alone when every row of its class is the row itself. -/
theorem mem_lone {cls : α → Option κ} {rows : List α} (nodup : rows.Nodup) {row : α} :
    row ∈ lone cls rows ↔ row ∈ rows ∧ (cls row).isSome ∧
      ∀ other ∈ rows, cls other = cls row → other = row := by
  rw [lone, List.mem_filter, decide_eq_true_eq]
  refine and_congr_right fun isRow => and_congr_right fun _ => ?_
  have own : row ∈ rows.filter fun other => cls other = cls row :=
    List.mem_filter.mpr ⟨isRow, decide_eq_true rfl⟩
  constructor
  · intro alone other isOther same
    have inClass : other ∈ rows.filter fun other => cls other = cls row :=
      List.mem_filter.mpr ⟨isOther, decide_eq_true same⟩
    cases List.length_eq_one_iff.mp alone with
    | intro only isOnly =>
      rw [isOnly, List.mem_singleton] at own inClass
      rw [own, inClass]
  · intro alone
    have single : (rows.filter fun other => cls other = cls row).Perm [row] := by
      rw [List.perm_ext_iff_of_nodup (nodup.filter _) (List.nodup_singleton _)]
      intro other
      rw [List.mem_filter, decide_eq_true_eq, List.mem_singleton]
      constructor
      · intro ⟨isOther, same⟩
        exact alone other isOther same
      · intro same
        rw [same]
        exact ⟨isRow, rfl⟩
    rw [single.length_eq, List.length_singleton]

/-- Joining lone rows makes the one possible pair of a partition. -/
theorem classwise_loneJoin (f : α → Option κ) (xs : List α) (g : β → Option κ)
    (ys : List β) : Classwise Matcher.single f g xs ys (loneJoin f xs g ys) where
  classified := by
    intro pair membership
    obtain ⟨y, _, inPairs⟩ := List.mem_flatMap.mp membership
    obtain ⟨x, inFilter, rfl⟩ := List.mem_map.mp inPairs
    have isLone := (List.mem_filter.mp (List.mem_filter.mp inFilter).1).2
    simp only [decide_eq_true_eq] at isLone
    exact isLone.1
  classes := by
    intro c
    have atClass : ofClass (fun pair : α × β => f pair.1) c (loneJoin f xs g ys) =
        (ofClass g c (lone g ys)).flatMap fun y =>
          (ofClass f c (lone f xs)).map fun x => (x, y) := by
      rw [loneJoin, ofClass, List.filter_flatMap]
      induction lone g ys with
      | nil => rfl
      | cons y rest ih =>
        have step : (((lone f xs).filter fun x => f x = g y).map
            fun x => (x, y)).filter (fun pair => f pair.1 = some c) =
            if g y = some c then (ofClass f c (lone f xs)).map fun x => (x, y) else [] := by
          rw [List.filter_map]
          split_ifs with same
          · rw [List.filter_filter]
            simp [same, ofClass]
          · rw [List.filter_filter, List.map_eq_nil_iff, List.filter_eq_nil_iff]
            intro x _ both
            simp only [Function.comp_apply, Bool.and_eq_true, decide_eq_true_eq] at both
            exact same (both.2 ▸ both.1)
        rw [List.flatMap_cons, ih, step]
        split_ifs with same
        · rw [ofClass_cons_of_eq same, List.flatMap_cons]
        · rw [ofClass_cons_of_ne same, List.nil_append]
    rw [atClass, ofClass_lone, ofClass_lone]
    cases ofClass f c xs with
    | nil => simp [Matcher.single]
    | cons x rest =>
      cases rest with
      | cons _ _ => simp [Matcher.single]
      | nil =>
        cases ofClass g c ys with
        | nil => simp [Matcher.single]
        | cons y rest' =>
          cases rest' with
          | nil => simp [Matcher.single]
          | cons _ _ => simp [Matcher.single]

end Lone

/-! ## The nearest row still free -/

section NearestRow

variable [DecidableEq κ] [LinearOrder φ] [LinearOrder τ]

/-- The free row of a class at the greatest place below the expected one, or else at
the smallest place above it; `minor` orders the rows of one place. -/
def nearestRow (g : β → Option κ) (place : β → φ) (minor : β → τ) (free : List β) (c : κ)
    (expected : φ) : Option β :=
  let lower := (orderBy (fun y => toLex (OrderDual.toDual (place y), minor y))
    (free.filter fun y => g y = some c ∧ place y < expected)).head?
  let upper := (orderBy (fun y => toLex (place y, minor y))
    (free.filter fun y => g y = some c ∧ expected < place y)).head?
  match lower, upper with
  | some lower, some upper => if place lower ≤ place upper then some lower else some upper
  | some row, none => some row
  | none, some row => some row
  | none, none => none

/-- Give every item the nearest free row of its class. -/
def nearestEach [DecidableEq β] (f : α → Option κ) (expected : α → φ) (items : List α)
    (g : β → Option κ) (place : β → φ) (minor : β → τ) (free : List β) : List (α × β) :=
  drain (fun free item => (f item).bind fun c =>
    (nearestRow g place minor free c (expected item)).map fun y =>
      (y, free.filter (· ≠ y))) items free

variable {place : β → φ} {minor : β → τ}

/-- The first row at a place is the one with the least minor key. -/
theorem find?_orderBy {rows : List β}
    (distinct : (rows.map fun y => toLex (place y, minor y)).Nodup) {row : β}
    (membership : row ∈ rows)
    (least : ∀ other ∈ rows, place other = place row → minor row ≤ minor other) :
    (orderBy (fun y => toLex (place y, minor y)) rows).find? (fun y => place y = place row) =
      some row := by
  cases found : (orderBy (fun y => toLex (place y, minor y)) rows).find?
      (fun y => place y = place row) with
  | none =>
    have absent := List.find?_eq_none.mp found row (mem_orderBy.mpr membership)
    simp at absent
  | some first =>
    obtain ⟨atPlace, before, after, split, notBefore⟩ :=
      List.find?_eq_some_iff_append.mp found
    simp only [decide_eq_true_eq] at atPlace
    have isRow : first ∈ rows := by
      have inOrder : first ∈ orderBy (fun y => toLex (place y, minor y)) rows := by
        simp [split]
      exact mem_orderBy.mp inOrder
    have notAfter : minor first ≤ minor row := by
      have inOrder : row ∈ orderBy (fun y => toLex (place y, minor y)) rows :=
        mem_orderBy.mpr membership
      have sorted := orderBy_sorted (fun y => toLex (place y, minor y)) rows
      rw [split] at inOrder sorted
      rcases List.mem_append.mp inOrder with isBefore | isLater
      · have elsewhere := notBefore row isBefore
        simp at elsewhere
      · rcases List.mem_cons.mp isLater with same | isAfter
        · rw [same]
        · have ordered := (List.pairwise_cons.mp (List.pairwise_append.mp sorted).2.1).1
            row isAfter
          rcases Prod.Lex.toLex_le_toLex.mp ordered with below | ⟨_, minorLe⟩
          · exact absurd atPlace (ne_of_lt below)
          · exact minorLe
    have sameKey : toLex (place first, minor first) = toLex (place row, minor row) := by
      rw [atPlace, le_antisymm notAfter (least first isRow atPlace)]
    rw [List.inj_on_of_nodup_map distinct isRow membership sameKey]

/-- What the two queries find is the first row at the nearest occupied place. -/
theorem nearestRow_eq {g : β → Option κ} {free : List β}
    (distinct : (free.map fun y => toLex (place y, minor y)).Nodup) (c : κ) (expected : φ) :
    nearestRow g place minor free c expected =
      (nearestPlace expected ((ofClass g c free).map place)).bind fun chosen =>
        (ofClass g c (orderBy (fun y => toLex (place y, minor y)) free)).find? fun y =>
          place y = chosen := by
  have classDistinct : ((ofClass g c free).map fun y => toLex (place y, minor y)).Nodup :=
    distinct.sublist (List.filter_sublist.map _)
  have inClass : ∀ {y}, y ∈ free.filter (fun y => g y = some c ∧ place y < expected) ↔
      y ∈ ofClass g c free ∧ place y < expected := by
    simp [ofClass, and_assoc]
  have inClass' : ∀ {y}, y ∈ free.filter (fun y => g y = some c ∧ expected < place y) ↔
      y ∈ ofClass g c free ∧ expected < place y := by
    simp [ofClass, and_assoc]
  have ordered : ofClass g c (orderBy (fun y => toLex (place y, minor y)) free) =
      orderBy (fun y => toLex (place y, minor y)) (ofClass g c free) :=
    (orderBy_filter distinct _).symm
  rw [nearestRow, ordered]
  cases lower : (orderBy (fun y => toLex (OrderDual.toDual (place y), minor y))
      (free.filter fun y => g y = some c ∧ place y < expected)).head? with
  | some row =>
    obtain ⟨selected, first⟩ := head?_orderBy_eq_some lower
    obtain ⟨isRow, below⟩ := inClass.mp selected
    have greatest : nearestPlace expected ((ofClass g c free).map place) =
        some (place row) := by
      have isMax : (((ofClass g c free).map place).filter (· < expected)).max? =
          some (place row) := by
        rw [List.max?_eq_some_iff]
        refine ⟨by simpa using ⟨⟨row, mem_ofClass.mp isRow, rfl⟩, below⟩, ?_⟩
        intro other membership
        obtain ⟨isPlace, otherBelow⟩ := List.mem_filter.mp membership
        obtain ⟨y, inRows, rfl⟩ := List.mem_map.mp isPlace
        rcases Prod.Lex.toLex_le_toLex.mp
          (first y (inClass.mpr ⟨inRows, by simpa using otherBelow⟩)) with less | ⟨same, _⟩
        · exact le_of_lt (OrderDual.toDual_lt_toDual.mp less)
        · exact le_of_eq (OrderDual.toDual.injective same).symm
      rw [nearestPlace, isMax]
      rfl
    have least : ∀ other ∈ ofClass g c free, place other = place row →
        minor row ≤ minor other := by
      intro other membership same
      rcases Prod.Lex.toLex_le_toLex.mp
        (first other (inClass.mpr ⟨membership, by rw [same]; exact below⟩)) with
          less | ⟨_, minorLe⟩
      · exact absurd (OrderDual.toDual_lt_toDual.mp less) (by rw [same]; exact lt_irrefl _)
      · exact minorLe
    rw [greatest, Option.bind_some, find?_orderBy classDistinct isRow least]
    split
    next lower' upper sameLower foundUpper =>
      obtain rfl := Option.some.inj sameLower
      have above := (inClass'.mp (head?_orderBy_eq_some foundUpper).1).2
      rw [if_pos (le_of_lt (below.trans above))]
    next sameLower _ => exact sameLower.symm
    next sameLower _ => cases sameLower
    next sameLower _ => cases sameLower
  | none =>
    have noneBelow : ((ofClass g c free).map place).filter (· < expected) = [] := by
      rw [List.filter_eq_nil_iff]
      intro other membership less
      obtain ⟨y, inRows, rfl⟩ := List.mem_map.mp membership
      have selected := inClass.mpr ⟨inRows, of_decide_eq_true less⟩
      rw [head?_orderBy_eq_none.mp lower] at selected
      cases selected
    cases upper : (orderBy (fun y => toLex (place y, minor y))
        (free.filter fun y => g y = some c ∧ expected < place y)).head? with
    | some row =>
      obtain ⟨selected, first⟩ := head?_orderBy_eq_some upper
      obtain ⟨isRow, above⟩ := inClass'.mp selected
      have nearest : nearestPlace expected ((ofClass g c free).map place) =
          some (place row) := by
        have isMin : (((ofClass g c free).map place).filter (expected < ·)).min? =
            some (place row) := by
          rw [List.min?_eq_some_iff]
          refine ⟨by simpa using ⟨⟨row, mem_ofClass.mp isRow, rfl⟩, above⟩, ?_⟩
          intro other membership
          obtain ⟨isPlace, otherAbove⟩ := List.mem_filter.mp membership
          obtain ⟨y, inRows, rfl⟩ := List.mem_map.mp isPlace
          rcases Prod.Lex.toLex_le_toLex.mp
            (first y (inClass'.mpr ⟨inRows, by simpa using otherAbove⟩)) with
              less | ⟨same, _⟩
          · exact le_of_lt less
          · exact le_of_eq same
        rw [nearestPlace, noneBelow, isMin]
        rfl
      have least : ∀ other ∈ ofClass g c free, place other = place row →
          minor row ≤ minor other := by
        intro other membership same
        rcases Prod.Lex.toLex_le_toLex.mp
          (first other (inClass'.mpr ⟨membership, by rw [same]; exact above⟩)) with
            less | ⟨_, minorLe⟩
        · exact absurd less (by rw [same]; exact lt_irrefl _)
        · exact minorLe
      rw [nearest, Option.bind_some, find?_orderBy classDistinct isRow least]
    | none =>
      have noneAbove : ((ofClass g c free).map place).filter (expected < ·) = [] := by
        rw [List.filter_eq_nil_iff]
        intro other membership greater
        obtain ⟨y, inRows, rfl⟩ := List.mem_map.mp membership
        have selected := inClass'.mpr ⟨inRows, of_decide_eq_true greater⟩
        rw [head?_orderBy_eq_none.mp upper] at selected
        cases selected
      rw [nearestPlace, noneBelow, noneAbove]
      rfl

/-- One query over the free rows is one step of the nearest matcher. -/
theorem nearestRow_takeNearest {g : β → Option κ}
    {free : List β} (distinct : (free.map fun y => toLex (place y, minor y)).Nodup) (c : κ)
    (expected : α → φ) (item : α) :
    nearestRow g place minor free c (expected item) =
      (takeNearest expected place
        (ofClass g c (orderBy (fun y => toLex (place y, minor y)) free)) item).map
          Prod.fst := by
  have places : nearestPlace (expected item) ((ofClass g c free).map place) =
      nearestPlace (expected item)
        ((ofClass g c (orderBy (fun y => toLex (place y, minor y)) free)).map place) := by
    apply nearestPlace_congr
    intro spot
    exact ((ofClass_perm g c (orderBy_perm _ free)).map place).mem_iff.symm
  rw [nearestRow_eq distinct, takeNearest, places]
  cases nearestPlace (expected item) ((ofClass g c
      (orderBy (fun y => toLex (place y, minor y)) free)).map place) with
  | none => rfl
  | some chosen =>
    simp [Option.map_map, Function.comp_def]

theorem mem_of_nearestRow {g : β → Option κ} {free : List β} {c : κ} {expected : φ} {row : β}
    (found : nearestRow g place minor free c expected = some row) : row ∈ free := by
  rw [nearestRow] at found
  have ofLower : ∀ {lower}, (orderBy (fun y => toLex (OrderDual.toDual (place y), minor y))
      (free.filter fun y => g y = some c ∧ place y < expected)).head? = some lower →
      lower ∈ free := fun isHead =>
    (List.mem_filter.mp (head?_orderBy_eq_some isHead).1).1
  have ofUpper : ∀ {upper}, (orderBy (fun y => toLex (place y, minor y))
      (free.filter fun y => g y = some c ∧ expected < place y)).head? = some upper →
      upper ∈ free := fun isHead =>
    (List.mem_filter.mp (head?_orderBy_eq_some isHead).1).1
  split at found
  next lower upper isLower isUpper =>
    split_ifs at found
    · obtain rfl := Option.some.inj found
      exact ofLower isLower
    · obtain rfl := Option.some.inj found
      exact ofUpper isUpper
  next lower isLower _ =>
    obtain rfl := Option.some.inj found
    exact ofLower isLower
  next upper _ isUpper =>
    obtain rfl := Option.some.inj found
    exact ofUpper isUpper
  next => cases found

/-- Removing what a query found leaves the rest of its class. -/
theorem filter_ne_of_split {free : List β} [DecidableEq β] {before after : List β} {row : β}
    (nodup : free.Nodup) (split : free = before ++ row :: after) :
    free.filter (· ≠ row) = before ++ after := by
  subst split
  have notBefore : ∀ other ∈ before, other ≠ row := by
    intro other membership same
    exact (List.nodup_append.mp nodup).2.2 other membership row (by simp) same
  have notAfter : ∀ other ∈ after, other ≠ row := by
    intro other membership same
    exact (List.nodup_cons.mp (List.nodup_append.mp nodup).2.1).1 (same ▸ membership)
  rw [List.filter_append, List.filter_cons_of_neg (by simp),
    List.filter_eq_self.mpr (by simpa using notBefore),
    List.filter_eq_self.mpr (by simpa using notAfter)]

/-- A loop of nearest queries sends every class to its nearest occupied places. -/
theorem classwise_nearestEach [DecidableEq β] (f : α → Option κ) (expected : α → φ)
    (xs : List α) (g : β → Option κ) (place : β → φ) (minor : β → τ) {rows : List β}
    (distinct : (rows.map fun y => toLex (place y, minor y)).Nodup) :
    Classwise (Matcher.nearest expected place) f g xs
      (orderBy (fun y => toLex (place y, minor y)) rows)
      (nearestEach f expected xs g place minor rows) where
  classified := by
    intro pair membership
    obtain ⟨free, served⟩ := taken_of_mem_drain membership
    cases labelled : f pair.1 with
    | none => simp [labelled] at served
    | some c => simp
  classes := by
    intro c
    refine ofClass_drain _ f (takeNearest expected place)
      (fun (free : List β) contents =>
        (free.map fun y => toLex (place y, minor y)).Nodup ∧
          ∀ label, contents label =
            ofClass g label (orderBy (fun y => toLex (place y, minor y)) free))
      ?_ ?_ ?_ xs rows _ ⟨distinct, fun _ => rfl⟩ c
    · intro free item unlabelled
      simp [unlabelled]
    · rintro free contents item label ⟨freeDistinct, holds⟩ labelled stuck
      rw [holds] at stuck
      simp [labelled, nearestRow_takeNearest freeDistinct label expected item, stuck]
    · rintro free contents item label partner rest ⟨freeDistinct, holds⟩ labelled taken
      rw [holds] at taken
      refine ⟨free.filter (· ≠ partner), ?_, ?_, ?_⟩
      · simp [labelled, nearestRow_takeNearest freeDistinct label expected item, taken]
      · exact freeDistinct.sublist (List.filter_sublist.map _)
      · intro other
        obtain ⟨_, before, after, split, rfl, _⟩ := takeNearest_split taken
        have classNodup : (ofClass g other
            (orderBy (fun y => toLex (place y, minor y)) free)).Nodup :=
          ofClass_nodup ((orderBy_perm _ free).nodup_iff.mpr (freeDistinct.of_map _))
        rw [orderBy_filter freeDistinct, ofClass_filter_comm, Function.update_apply]
        split_ifs with same
        · subst same
          exact (filter_ne_of_split classNodup split).symm
        · have isLabel : g partner = some label := by
            have inClass : partner ∈ ofClass g label
                (orderBy (fun y => toLex (place y, minor y)) free) := by
              simp [split]
            exact (mem_ofClass.mp inClass).2
          rw [holds, List.filter_eq_self.mpr]
          intro y membership
          have isOther := (mem_ofClass.mp membership).2
          simp only [ne_eq, decide_not, Bool.not_eq_true', decide_eq_false_iff_not]
          rintro rfl
          rw [isLabel] at isOther
          exact same (Option.some.inj isOther).symm

end NearestRow

end Foundation
