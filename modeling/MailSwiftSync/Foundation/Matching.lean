import Mathlib.Data.List.Perm.Subperm
import MailSwiftSync.Foundation.Buckets

/-!
# Greedy matching, class by class

Two lists are matched by giving each item of the first at most one partner from
the second.  The matchings studied here never look across classes: inside one
class a `Matcher` decides, and the whole result is determined, up to order, by
what the matcher does on every class.  A hash join with queues, a join on row
numbers and a nested loop all produce such matchings, so any two of them agree.
-/

namespace Foundation

variable {α β σ κ ι : Type*}

/-! ## Loops that take partners out of a store -/

/-- A loop that offers every item to a store and records the partners it gets. -/
def drain (take : σ → α → Option (β × σ)) : List α → σ → List (α × β)
  | [], _ => []
  | item :: rest, store =>
    match take store item with
    | none => drain take rest store
    | some (partner, store) => (item, partner) :: drain take rest store

theorem drain_cons_none {take : σ → α → Option (β × σ)} {item : α} {store : σ}
    (stuck : take store item = none) (rest : List α) :
    drain take (item :: rest) store = drain take rest store := by
  simp [drain, stuck]

theorem drain_cons_some {take : σ → α → Option (β × σ)} {item : α} {store : σ}
    {partner : β} {store' : σ} (taken : take store item = some (partner, store'))
    (rest : List α) :
    drain take (item :: rest) store = (item, partner) :: drain take rest store' := by
  simp [drain, taken]

theorem drain_congr {take other : σ → α → Option (β × σ)} {items : List α}
    (agree : ∀ item ∈ items, ∀ store, take store item = other store item) (store : σ) :
    drain take items store = drain other items store := by
  induction items generalizing store with
  | nil => rfl
  | cons item rest ih =>
    have restAgree := fun later membership => agree later (List.mem_cons_of_mem item membership)
    cases taken : take store item with
    | none =>
      rw [drain_cons_none taken,
        drain_cons_none ((agree item (by simp) store).symm.trans taken)]
      exact ih restAgree store
    | some result =>
      obtain ⟨partner, store'⟩ := result
      rw [drain_cons_some taken,
        drain_cons_some ((agree item (by simp) store).symm.trans taken),
        ih restAgree store']

theorem drain_fst_sublist (take : σ → α → Option (β × σ)) (items : List α) (store : σ) :
    ((drain take items store).map Prod.fst).Sublist items := by
  induction items generalizing store with
  | nil => simp [drain]
  | cons item rest ih =>
    cases taken : take store item with
    | none =>
      rw [drain_cons_none taken]
      exact (ih store).cons item
    | some result =>
      obtain ⟨partner, store'⟩ := result
      rw [drain_cons_some taken]
      exact (ih store').cons_cons item

variable {pair : α × β}

/-- A loop only ever pairs items that some store would serve. -/
theorem taken_of_mem_drain {take : σ → α → Option (β × σ)} {items : List α} {store : σ}
    (membership : pair ∈ drain take items store) : ∃ store', (take store' pair.1).isSome := by
  induction items generalizing store with
  | nil => simp [drain] at membership
  | cons item rest ih =>
    cases taken : take store item with
    | none =>
      rw [drain_cons_none taken] at membership
      exact ih membership
    | some result =>
      obtain ⟨partner, store'⟩ := result
      rw [drain_cons_some taken, List.mem_cons] at membership
      rcases membership with rfl | membership
      · exact ⟨store, by simp [taken]⟩
      · exact ih membership

/-! ## Matchers -/

/-- A way to match two lists, pairing every element at most once. -/
structure Matcher (α β : Type*) where
  /-- The pairs made between two lists. -/
  run : List α → List β → List (α × β)
  left : ∀ xs ys, ((run xs ys).map Prod.fst).Sublist xs
  right : ∀ xs ys, ((run xs ys).map Prod.snd).Subperm ys

namespace Matcher

@[simp] theorem run_nil_left (matcher : Matcher α β) (ys : List β) :
    matcher.run [] ys = [] := by
  simpa using matcher.left [] ys

@[simp] theorem run_nil_right (matcher : Matcher α β) (xs : List α) :
    matcher.run xs [] = [] := by
  simpa using matcher.right xs []

/-- First come, first served. -/
def fifo : Matcher α β where
  run := List.zip
  left xs ys := by
    rw [List.zip_eq_zip_take_min, List.map_fst_zip (by simp)]
    exact List.take_sublist _ _
  right xs ys := by
    rw [List.zip_eq_zip_take_min, List.map_snd_zip (by simp)]
    exact (List.take_sublist _ _).subperm

/-- The one possible pair, when both lists are singletons. -/
def single : Matcher α β where
  run
    | [x], [y] => [(x, y)]
    | _, _ => []
  left xs ys := by
    split <;> simp
  right xs ys := by
    split
    · exact List.Subperm.refl _
    · exact List.nil_subperm

theorem single_run_perm (us us' : List α) (vs vs' : List β) (left : us.Perm us')
    (right : vs.Perm vs') :
    (single : Matcher α β).run us vs = single.run us' vs' := by
  have sameLeft : ∀ x, us = [x] ↔ us' = [x] := fun x =>
    ⟨fun equal => by simpa [equal] using left.symm, fun equal => by simpa [equal] using left⟩
  have sameRight : ∀ y, vs = [y] ↔ vs' = [y] := fun y =>
    ⟨fun equal => by simpa [equal] using right.symm,
      fun equal => by simpa [equal] using right⟩
  by_cases singletons : ∃ x y, us = [x] ∧ vs = [y]
  · obtain ⟨x, y, rfl, rfl⟩ := singletons
    rw [(sameLeft x).mp rfl, (sameRight y).mp rfl]
  · have empty : (single : Matcher α β).run us vs = [] := by
      simp only [single]
      split
      next x y => exact absurd ⟨x, y, rfl, rfl⟩ singletons
      next => rfl
    have empty' : (single : Matcher α β).run us' vs' = [] := by
      simp only [single]
      split
      next x y =>
        exact absurd ⟨x, y, (sameLeft x).mpr rfl, (sameRight y).mpr rfl⟩ singletons
      next => rfl
    rw [empty, empty']

/-- A loop over a plain list of candidates, when each choice removes what it
returns. -/
def ofTake (take : List β → α → Option (β × List β))
    (removes : ∀ ys x y rest, take ys x = some (y, rest) → ys.Perm (y :: rest)) :
    Matcher α β where
  run := drain take
  left := drain_fst_sublist take
  right xs ys := by
    induction xs generalizing ys with
    | nil => exact List.nil_subperm
    | cons x xs ih =>
      cases taken : take ys x with
      | none =>
        rw [drain_cons_none taken]
        exact ih ys
      | some result =>
        obtain ⟨y, rest⟩ := result
        rw [drain_cons_some taken]
        have consumed := removes ys x y rest taken
        exact ((List.subperm_cons y).mpr (ih rest)).trans consumed.symm.subperm

end Matcher

/-! ## Classwise matchings -/

theorem flatMap_eq_of_unique {γ : Type*} {groups : List ι} (nodup : groups.Nodup)
    {group : ι} (membership : group ∈ groups) {results : ι → List γ}
    (others : ∀ other ∈ groups, other ≠ group → results other = []) :
    groups.flatMap results = results group := by
  induction groups with
  | nil => simp at membership
  | cons head rest ih =>
    obtain ⟨headFresh, restNodup⟩ := List.nodup_cons.mp nodup
    rw [List.flatMap_cons]
    by_cases same : group = head
    · subst same
      have restNil : rest.flatMap results = [] := by
        rw [List.flatMap_eq_nil_iff]
        intro other inRest
        exact others other (by simp [inRest]) fun equal => headFresh (equal ▸ inRest)
      rw [restNil, List.append_nil]
    · have inRest : group ∈ rest := by simpa [same] using membership
      rw [others head (by simp) (Ne.symm same), List.nil_append]
      exact ih restNodup inRest fun other inRest' => others other (by simp [inRest'])

section Classwise

variable [DecidableEq κ]

/-- The pairs are what the matcher makes inside every class. -/
structure Classwise (matcher : Matcher α β) (f : α → Option κ) (g : β → Option κ)
    (xs : List α) (ys : List β) (pairs : List (α × β)) : Prop where
  classified : ∀ pair ∈ pairs, (f pair.1).isSome
  classes : ∀ c, ofClass (fun pair => f pair.1) c pairs =
    matcher.run (ofClass f c xs) (ofClass g c ys)

namespace Classwise

variable {matcher : Matcher α β} {f : α → Option κ} {g : β → Option κ}
  {xs : List α} {ys : List β} {pairs : List (α × β)}

theorem class_of_mem (matching : Classwise matcher f g xs ys pairs) (membership : pair ∈ pairs) :
    ∃ c, f pair.1 = some c ∧ pair ∈ matcher.run (ofClass f c xs) (ofClass g c ys) := by
  obtain ⟨c, isClass⟩ := Option.isSome_iff_exists.mp (matching.classified pair membership)
  refine ⟨c, isClass, ?_⟩
  rw [← matching.classes c]
  exact mem_ofClass.mpr ⟨membership, isClass⟩

theorem mem_left (matching : Classwise matcher f g xs ys pairs)
    (membership : pair ∈ pairs) : pair.1 ∈ xs := by
  obtain ⟨c, _, inRun⟩ := matching.class_of_mem membership
  have inClass := (matcher.left _ _).subset (List.mem_map_of_mem inRun)
  exact (mem_ofClass.mp inClass).1

theorem mem_right_class (matching : Classwise matcher f g xs ys pairs)
    (membership : pair ∈ pairs) : pair.2 ∈ ys ∧ g pair.2 = f pair.1 := by
  obtain ⟨c, isClass, inRun⟩ := matching.class_of_mem membership
  have inClass := (matcher.right _ _).subset (List.mem_map_of_mem inRun)
  rw [isClass]
  exact mem_ofClass.mp inClass

theorem mem_right (matching : Classwise matcher f g xs ys pairs)
    (membership : pair ∈ pairs) : pair.2 ∈ ys :=
  (matching.mem_right_class membership).1

/-- Matched items have the same class. -/
theorem agree (matching : Classwise matcher f g xs ys pairs)
    (membership : pair ∈ pairs) : f pair.1 = g pair.2 :=
  (matching.mem_right_class membership).2.symm

theorem ofClass_right (matching : Classwise matcher f g xs ys pairs) (c : κ) :
    ofClass (fun pair => g pair.2) c pairs =
      matcher.run (ofClass f c xs) (ofClass g c ys) := by
  rw [← matching.classes c]
  exact ofClass_congr fun pair membership => (matching.agree membership).symm

theorem nodup_left (matching : Classwise matcher f g xs ys pairs) (nodup : xs.Nodup) :
    (pairs.map Prod.fst).Nodup := by
  apply nodup_of_ofClass f
  · intro item membership
    obtain ⟨pair, inPairs, rfl⟩ := List.mem_map.mp membership
    exact matching.classified pair inPairs
  · intro c
    rw [ofClass_map, matching.classes c]
    exact (ofClass_nodup nodup).sublist (matcher.left _ _)

theorem nodup_right (matching : Classwise matcher f g xs ys pairs) (nodup : ys.Nodup) :
    (pairs.map Prod.snd).Nodup := by
  apply nodup_of_ofClass g
  · intro item membership
    obtain ⟨pair, inPairs, rfl⟩ := List.mem_map.mp membership
    rw [← matching.agree inPairs]
    exact matching.classified pair inPairs
  · intro c
    rw [ofClass_map, matching.ofClass_right c]
    obtain ⟨chosen, perm, sublist⟩ := matcher.right (ofClass f c xs) (ofClass g c ys)
    exact perm.nodup ((ofClass_nodup nodup).sublist sublist)

theorem nodup (matching : Classwise matcher f g xs ys pairs) (nodupLeft : xs.Nodup) :
    pairs.Nodup :=
  (matching.nodup_left nodupLeft).of_map _

/-- Only the members of each class matter when the matcher ignores their order. -/
theorem permute (matching : Classwise matcher f g xs ys pairs) {xs' : List α}
    {ys' : List β} (left : xs.Perm xs') (right : ys.Perm ys')
    (symmetric : ∀ us us' vs vs', us.Perm us' → vs.Perm vs' →
      matcher.run us vs = matcher.run us' vs') :
    Classwise matcher f g xs' ys' pairs where
  classified := matching.classified
  classes c := by
    rw [matching.classes c]
    exact symmetric _ _ _ _ (ofClass_perm f c left) (ofClass_perm g c right)

theorem subperm_left (matching : Classwise matcher f g xs ys pairs) (nodup : xs.Nodup) :
    (pairs.map Prod.fst).Subperm xs := by
  apply (matching.nodup_left nodup).subperm
  intro item membership
  obtain ⟨pair, inPairs, rfl⟩ := List.mem_map.mp membership
  exact matching.mem_left inPairs

theorem subperm_right (matching : Classwise matcher f g xs ys pairs) (nodup : ys.Nodup) :
    (pairs.map Prod.snd).Subperm ys := by
  apply (matching.nodup_right nodup).subperm
  intro item membership
  obtain ⟨pair, inPairs, rfl⟩ := List.mem_map.mp membership
  exact matching.mem_right inPairs

/-- Two classwise matchings of the same lists have the same pairs. -/
theorem unique (matching : Classwise matcher f g xs ys pairs) {others : List (α × β)}
    (other : Classwise matcher f g xs ys others) : pairs.Perm others := by
  apply perm_of_ofClass_perm (fun pair : α × β => f pair.1)
    matching.classified other.classified
  intro c
  rw [matching.classes c, other.classes c]

/-- First come, first served makes as many pairs as the smaller side allows, in
every class. -/
theorem length_eq_sum_min [BEq κ] [LawfulBEq κ]
    (matching : Classwise Matcher.fifo f g xs ys pairs)
    (labels : Finset κ) (covered : ∀ c ∈ xs.filterMap f, c ∈ labels) :
    pairs.length =
      ∑ c ∈ labels, min ((xs.filterMap f).count c) ((ys.filterMap g).count c) := by
  rw [length_eq_sum_ofClass (fun pair : α × β => f pair.1) labels pairs]
  · apply Finset.sum_congr rfl
    intro c _
    rw [matching.classes c, count_filterMap_eq_length_ofClass,
      count_filterMap_eq_length_ofClass]
    exact List.length_zip
  · intro pair membership
    obtain ⟨c, isClass⟩ :=
      Option.isSome_iff_exists.mp (matching.classified pair membership)
    exact ⟨c, covered c (List.mem_filterMap.mpr
      ⟨pair.1, matching.mem_left membership, isClass⟩), isClass⟩

/-- Only the equality pattern of the classes matters. -/
theorem reclassify [DecidableEq ι] (matching : Classwise matcher f g xs ys pairs)
    {f' : α → Option ι} {g' : β → Option ι}
    (classified : ∀ x ∈ xs, (f' x).isSome = (f x).isSome)
    (within : ∀ x ∈ xs, ∀ x' ∈ xs, (f x).isSome → (f' x' = f' x ↔ f x' = f x))
    (across : ∀ x ∈ xs, ∀ y ∈ ys, (f x).isSome → (g' y = f' x ↔ g y = f x)) :
    Classwise matcher f' g' xs ys pairs where
  classified := by
    intro pair membership
    rw [classified _ (matching.mem_left membership)]
    exact matching.classified pair membership
  classes := by
    intro c'
    by_cases used : ∃ x ∈ xs, f' x = some c'
    · obtain ⟨x, inXs, isClass'⟩ := used
      have hasClass : (f x).isSome := by
        rw [← classified x inXs]
        simp [isClass']
      obtain ⟨c, isClass⟩ := Option.isSome_iff_exists.mp hasClass
      have sameLeft : ∀ x' ∈ xs, (f' x' = some c' ↔ f x' = some c) := by
        intro x' inXs'
        rw [← isClass', ← isClass]
        exact within x inXs x' inXs' hasClass
      have sameRight : ∀ y ∈ ys, (g' y = some c' ↔ g y = some c) := by
        intro y inYs
        rw [← isClass', ← isClass]
        exact across x inXs y inYs hasClass
      rw [ofClass_iff_congr sameLeft, ofClass_iff_congr sameRight, ← matching.classes c]
      apply ofClass_iff_congr
      intro pair membership
      exact sameLeft _ (matching.mem_left membership)
    · push Not at used
      have noLeft : ofClass f' c' xs = [] := ofClass_eq_nil used
      have noPairs : ofClass (fun pair : α × β => f' pair.1) c' pairs = [] :=
        ofClass_eq_nil fun pair membership => used _ (matching.mem_left membership)
      rw [noLeft, noPairs, Matcher.run_nil_left]

/-- Items that a class function turns away might as well be absent. -/
theorem restrict {skip : α → Prop} [DecidablePred skip] {skip' : β → Prop}
    [DecidablePred skip']
    (matching : Classwise matcher (fun x => if skip x then none else f x)
      (fun y => if skip' y then none else g y) xs ys pairs) :
    Classwise matcher f g (xs.filter (¬skip ·)) (ys.filter (¬skip' ·)) pairs where
  classified := by
    intro pair membership
    have hasClass := matching.classified pair membership
    by_cases skipped : skip pair.1
    · simp [skipped] at hasClass
    · simpa [skipped] using hasClass
  classes := by
    intro c
    have pairClass : ofClass (fun pair : α × β => f pair.1) c pairs =
        ofClass (fun pair => if skip pair.1 then none else f pair.1) c pairs := by
      apply ofClass_congr
      intro pair membership
      have hasClass := matching.classified pair membership
      by_cases skipped : skip pair.1
      · simp [skipped] at hasClass
      · simp [skipped]
    rw [pairClass, matching.classes c, ofClass_skip, ofClass_skip]

/-- Unclassified items may be added to the first list. -/
theorem ofFilter {keep : α → Bool} (matching : Classwise matcher f g (xs.filter keep) ys pairs)
    (unclassified : ∀ x ∈ xs, keep x = false → f x = none) :
    Classwise matcher f g xs ys pairs where
  classified := matching.classified
  classes := by
    intro c
    have sameClass : ofClass f c (xs.filter keep) = ofClass f c xs := by
      rw [ofClass_filter_comm, List.filter_eq_self]
      intro x membership
      obtain ⟨isItem, isClass⟩ := mem_ofClass.mp membership
      by_contra dropped
      rw [unclassified x isItem (by simpa using dropped)] at isClass
      cases isClass
    rw [matching.classes c, sameClass]

/-- One result per class, for all classes that both sides use. -/
theorem ofClasses {classes : List κ} (nodup : classes.Nodup)
    {results : κ → List (α × β)}
    (complete : ∀ c, c ∉ classes → ofClass f c xs = [] ∨ ofClass g c ys = [])
    (each : ∀ c ∈ classes, results c = matcher.run (ofClass f c xs) (ofClass g c ys)) :
    Classwise matcher f g xs ys (classes.flatMap results) := by
  have classOfMem : ∀ c ∈ classes, ∀ pair ∈ results c, f pair.1 = some c := by
    intro c inClasses pair membership
    rw [each c inClasses] at membership
    have inClass := (matcher.left _ _).subset (List.mem_map_of_mem membership)
    exact (mem_ofClass.mp inClass).2
  refine ⟨?_, ?_⟩
  · intro pair membership
    obtain ⟨c, inClasses, inResults⟩ := List.mem_flatMap.mp membership
    simp [classOfMem c inClasses pair inResults]
  · intro c
    have pairClass : ofClass (fun pair : α × β => f pair.1) c (classes.flatMap results) =
        classes.flatMap fun other => ofClass (fun pair => f pair.1) c (results other) := by
      simp only [ofClass, List.filter_flatMap]
    have otherClasses : ∀ other ∈ classes, other ≠ c →
        ofClass (fun pair : α × β => f pair.1) c (results other) = [] := by
      intro other inClasses different
      apply ofClass_eq_nil
      intro pair membership isClass
      rw [classOfMem other inClasses pair membership] at isClass
      exact different (Option.some.inj isClass)
    rw [pairClass]
    by_cases inClasses : c ∈ classes
    · rw [flatMap_eq_of_unique nodup inClasses otherClasses, ← each c inClasses]
      apply List.filter_eq_self.mpr
      intro pair membership
      simp [classOfMem c inClasses pair membership]
    · have noPairs : classes.flatMap (fun other =>
          ofClass (fun pair : α × β => f pair.1) c (results other)) = [] := by
        rw [List.flatMap_eq_nil_iff]
        intro other inClasses'
        exact otherClasses other inClasses' fun equal => inClasses (equal ▸ inClasses')
      rw [noPairs]
      rcases complete c inClasses with leftNil | rightNil
      · rw [leftNil, Matcher.run_nil_left]
      · rw [rightNil, Matcher.run_nil_right]

/-- Renaming the items of both lists renames the pairs. -/
theorem map {γ δ : Type*} (matching : Classwise matcher f g xs ys pairs)
    {matcher' : Matcher γ δ} {f' : γ → Option κ} {g' : δ → Option κ}
    {a : α → γ} {b : β → δ}
    (left : ∀ x ∈ xs, f' (a x) = f x) (right : ∀ y ∈ ys, g' (b y) = g y)
    (natural : ∀ us vs, us ⊆ xs → vs ⊆ ys →
      (matcher.run us vs).map (Prod.map a b) = matcher'.run (us.map a) (vs.map b)) :
    Classwise matcher' f' g' (xs.map a) (ys.map b) (pairs.map (Prod.map a b)) where
  classified := by
    intro image membership
    obtain ⟨pair, inPairs, rfl⟩ := List.mem_map.mp membership
    rw [Prod.map_fst, left _ (matching.mem_left inPairs)]
    exact matching.classified pair inPairs
  classes := by
    intro c
    have pairClass : ofClass (fun pair : γ × δ => f' pair.1) c
        (pairs.map (Prod.map a b)) =
        (ofClass (fun pair => f pair.1) c pairs).map (Prod.map a b) := by
      rw [ofClass_map]
      congr 1
      exact ofClass_congr fun pair membership => left _ (matching.mem_left membership)
    rw [pairClass, matching.classes c, ofClass_map, ofClass_map, ofClass_congr left,
      ofClass_congr right]
    exact natural _ _ (List.filter_subset_self _) (List.filter_subset_self _)

end Classwise

end Classwise

/-! ## What a matching leaves over -/

section Unpaired

variable [DecidableEq α] [DecidableEq β]

/-- Items of the first list without a partner. -/
def unpairedLeft (pairs : List (α × β)) (xs : List α) : List α :=
  xs.filter (· ∉ pairs.map Prod.fst)

/-- Items of the second list without a partner. -/
def unpairedRight (pairs : List (α × β)) (ys : List β) : List β :=
  ys.filter (· ∉ pairs.map Prod.snd)

variable {pairs : List (α × β)} {xs : List α}

omit [DecidableEq β] in
theorem mem_unpairedLeft {x : α} : x ∈ unpairedLeft pairs xs ↔ x ∈ xs ∧ x ∉ pairs.map Prod.fst := by
  rw [unpairedLeft, List.mem_filter, decide_eq_true_eq]

variable {ys : List β}

omit [DecidableEq α] in
theorem mem_unpairedRight {y : β} :
    y ∈ unpairedRight pairs ys ↔ y ∈ ys ∧ y ∉ pairs.map Prod.snd := by
  rw [unpairedRight, List.mem_filter, decide_eq_true_eq]

omit [DecidableEq β] in
theorem unpairedLeft_congr {pairs others : List (α × β)} (perm : pairs.Perm others)
    (xs : List α) : unpairedLeft pairs xs = unpairedLeft others xs := by
  apply List.filter_congr
  intro x _
  simp only [(perm.map Prod.fst).mem_iff]

omit [DecidableEq α] in
theorem unpairedRight_congr {pairs others : List (α × β)} (perm : pairs.Perm others)
    (ys : List β) : unpairedRight pairs ys = unpairedRight others ys := by
  apply List.filter_congr
  intro y _
  simp only [(perm.map Prod.snd).mem_iff]

omit [DecidableEq β] in
/-- What two matchings leave over, one after the other. -/
theorem unpairedLeft_append (pairs later : List (α × β)) (xs : List α) :
    unpairedLeft (pairs ++ later) xs = unpairedLeft later (unpairedLeft pairs xs) := by
  rw [unpairedLeft, unpairedLeft, unpairedLeft, List.filter_filter]
  apply List.filter_congr
  intro x _
  rw [← Bool.decide_and, decide_eq_decide, List.map_append, List.mem_append, not_or,
    and_comm]

omit [DecidableEq α] in
theorem unpairedRight_append (pairs later : List (α × β)) (ys : List β) :
    unpairedRight (pairs ++ later) ys = unpairedRight later (unpairedRight pairs ys) := by
  rw [unpairedRight, unpairedRight, unpairedRight, List.filter_filter]
  apply List.filter_congr
  intro y _
  rw [← Bool.decide_and, decide_eq_decide, List.map_append, List.mem_append, not_or,
    and_comm]

/-- Distinct members of a duplicate-free list and the rest of it make up the list. -/
theorem perm_append_filter_notMem {γ : Type*} [DecidableEq γ] {chosen items : List γ}
    (chosenNodup : chosen.Nodup) (subset : chosen ⊆ items) (nodup : items.Nodup) :
    items.Perm (chosen ++ items.filter (· ∉ chosen)) := by
  rw [List.perm_ext_iff_of_nodup nodup]
  · intro item
    simp only [List.mem_append, List.mem_filter, decide_eq_true_eq]
    constructor
    · intro membership
      by_cases isChosen : item ∈ chosen
      · exact .inl isChosen
      · exact .inr ⟨membership, isChosen⟩
    · rintro (isChosen | ⟨membership, _⟩)
      · exact subset isChosen
      · exact membership
  · rw [List.nodup_append]
    refine ⟨chosenNodup, nodup.filter _, ?_⟩
    rintro item isChosen _ membership rfl
    exact (decide_eq_true_eq.mp (List.mem_filter.mp membership).2) isChosen

omit [DecidableEq β] in
theorem perm_unpairedLeft (nodup : xs.Nodup)
    (pairsNodup : (pairs.map Prod.fst).Nodup) (subset : pairs.map Prod.fst ⊆ xs) :
    xs.Perm (pairs.map Prod.fst ++ unpairedLeft pairs xs) :=
  perm_append_filter_notMem pairsNodup subset nodup

omit [DecidableEq α] in
theorem perm_unpairedRight (nodup : ys.Nodup)
    (pairsNodup : (pairs.map Prod.snd).Nodup) (subset : pairs.map Prod.snd ⊆ ys) :
    ys.Perm (pairs.map Prod.snd ++ unpairedRight pairs ys) :=
  perm_append_filter_notMem pairsNodup subset nodup

omit [DecidableEq β] in
theorem nodup_append_left {pairs later : List (α × β)}
    (pairsNodup : (pairs.map Prod.fst).Nodup) (laterNodup : (later.map Prod.fst).Nodup)
    (fresh : ∀ pair ∈ later, pair.1 ∈ unpairedLeft pairs xs) :
    ((pairs ++ later).map Prod.fst).Nodup := by
  rw [List.map_append, List.nodup_append]
  refine ⟨pairsNodup, laterNodup, ?_⟩
  rintro item inPairs _ inLater rfl
  obtain ⟨pair, membership, rfl⟩ := List.mem_map.mp inLater
  exact (mem_unpairedLeft.mp (fresh pair membership)).2 inPairs

omit [DecidableEq α] in
theorem nodup_append_right {pairs later : List (α × β)}
    (pairsNodup : (pairs.map Prod.snd).Nodup) (laterNodup : (later.map Prod.snd).Nodup)
    (fresh : ∀ pair ∈ later, pair.2 ∈ unpairedRight pairs ys) :
    ((pairs ++ later).map Prod.snd).Nodup := by
  rw [List.map_append, List.nodup_append]
  refine ⟨pairsNodup, laterNodup, ?_⟩
  rintro item inPairs _ inLater rfl
  obtain ⟨pair, membership, rfl⟩ := List.mem_map.mp inLater
  exact (mem_unpairedRight.mp (fresh pair membership)).2 inPairs

omit [DecidableEq β] in
theorem unpairedLeft_map {γ δ : Type*} [DecidableEq γ] {a : α → γ} {b : β → δ}
    (subset : pairs.map Prod.fst ⊆ xs) (injective : ∀ x ∈ xs, ∀ x' ∈ xs, a x = a x' → x = x') :
    unpairedLeft (pairs.map (Prod.map a b)) (xs.map a) = (unpairedLeft pairs xs).map a := by
  rw [unpairedLeft, unpairedLeft, List.filter_map]
  congr 1
  apply List.filter_congr
  intro x membership
  simp only [Function.comp_apply, decide_eq_decide, not_iff_not, List.map_map,
    List.mem_map, Prod.map_fst]
  constructor
  · rintro ⟨pair, inPairs, equal⟩
    exact ⟨pair, inPairs, injective _ (subset (List.mem_map_of_mem inPairs)) _ membership equal⟩
  · rintro ⟨pair, inPairs, rfl⟩
    exact ⟨pair, inPairs, rfl⟩

omit [DecidableEq α] in
theorem unpairedRight_map {γ δ : Type*} [DecidableEq δ] {a : α → γ} {b : β → δ}
    (subset : pairs.map Prod.snd ⊆ ys) (injective : ∀ y ∈ ys, ∀ y' ∈ ys, b y = b y' → y = y') :
    unpairedRight (pairs.map (Prod.map a b)) (ys.map b) = (unpairedRight pairs ys).map b := by
  rw [unpairedRight, unpairedRight, List.filter_map]
  congr 1
  apply List.filter_congr
  intro y membership
  simp only [Function.comp_apply, decide_eq_decide, not_iff_not, List.map_map,
    List.mem_map, Prod.map_snd]
  constructor
  · rintro ⟨pair, inPairs, equal⟩
    exact ⟨pair, inPairs, injective _ (subset (List.mem_map_of_mem inPairs)) _ membership equal⟩
  · rintro ⟨pair, inPairs, rfl⟩
    exact ⟨pair, inPairs, rfl⟩

end Unpaired

/-! ## Pairs that use every item -/

/-- Pairs that use every item of both lists once are a bijection. -/
theorem exists_equiv_of_pairs {xs : List α} {ys : List β} {pairs : List (α × β)}
    (left : xs.Perm (pairs.map Prod.fst)) (right : ys.Perm (pairs.map Prod.snd))
    (nodupLeft : xs.Nodup) (nodupRight : ys.Nodup) :
    ∃ partner : {x // x ∈ xs} ≃ {y // y ∈ ys}, ∀ x, (x.1, (partner x).1) ∈ pairs := by
  have firstNodup := left.nodup_iff.mp nodupLeft
  have secondNodup := right.nodup_iff.mp nodupRight
  have served : ∀ x : {x // x ∈ xs}, ∃ y : {y // y ∈ ys}, (x.1, y.1) ∈ pairs := by
    intro ⟨x, isItem⟩
    obtain ⟨pair, inPairs, rfl⟩ := List.mem_map.mp (left.mem_iff.mp isItem)
    exact ⟨⟨pair.2, right.mem_iff.mpr (List.mem_map_of_mem inPairs)⟩, inPairs⟩
  choose partner isPair using served
  have injective : Function.Injective partner := by
    intro x x' same
    have samePair := List.inj_on_of_nodup_map secondNodup (isPair x) (isPair x')
      (congrArg Subtype.val same)
    exact Subtype.ext (Prod.mk.inj samePair).1
  have surjective : Function.Surjective partner := by
    intro ⟨y, isItem⟩
    obtain ⟨pair, inPairs, rfl⟩ := List.mem_map.mp (right.mem_iff.mp isItem)
    have isLeft : pair.1 ∈ xs := left.mem_iff.mpr (List.mem_map_of_mem inPairs)
    have samePair := List.inj_on_of_nodup_map firstNodup (isPair ⟨pair.1, isLeft⟩) inPairs rfl
    exact ⟨⟨pair.1, isLeft⟩, Subtype.ext (Prod.mk.inj samePair).2⟩
  exact ⟨Equiv.ofBijective partner ⟨injective, surjective⟩, isPair⟩

/-- Items with the same multiset of labels can be paired label by label. -/
theorem exists_pairs_of_map_perm {γ : Type*} {f : α → γ} {g : β → γ} {xs : List α}
    {ys : List β} (labels : (xs.map f).Perm (ys.map g)) :
    ∃ pairs : List (α × β), xs = pairs.map Prod.fst ∧ ys.Perm (pairs.map Prod.snd) ∧
      ∀ pair ∈ pairs, f pair.1 = g pair.2 := by
  classical
  induction xs generalizing ys with
  | nil =>
    have empty : ys = [] := List.map_eq_nil_iff.mp labels.symm.eq_nil
    exact ⟨[], rfl, by simp [empty], by simp⟩
  | cons x rest ih =>
    have labelled : f x ∈ ys.map g := labels.mem_iff.mp (by simp)
    obtain ⟨y, isItem, same⟩ := List.mem_map.mp labelled
    have split := List.perm_cons_erase isItem
    have others : (rest.map f).Perm ((ys.erase y).map g) := by
      have both := labels.trans (split.map g)
      rw [List.map_cons, List.map_cons, same] at both
      exact both.cons_inv
    obtain ⟨pairs, left, right, agree⟩ := ih others
    refine ⟨(x, y) :: pairs, by rw [List.map_cons, ← left], ?_, ?_⟩
    · exact split.trans (right.cons y)
    · intro pair membership
      rcases List.mem_cons.mp membership with rfl | inPairs
      · exact same.symm
      · exact agree pair inPairs

/-- Items with the same multiset of labels correspond one to one, label by label. -/
theorem exists_equiv_of_map_perm {γ : Type*} {f : α → γ} {g : β → γ} {xs : List α}
    {ys : List β} (labels : (xs.map f).Perm (ys.map g)) (nodupLeft : xs.Nodup)
    (nodupRight : ys.Nodup) :
    ∃ partner : {x // x ∈ xs} ≃ {y // y ∈ ys}, ∀ x, f x.1 = g (partner x).1 := by
  obtain ⟨pairs, left, right, agree⟩ := exists_pairs_of_map_perm labels
  obtain ⟨partner, isPair⟩ :=
    exists_equiv_of_pairs (List.Perm.of_eq left) right nodupLeft nodupRight
  exact ⟨partner, fun x => agree _ (isPair x)⟩

/-- Equally long lists correspond one to one, class by class and label by label, once
every class in use on the left has the same multiset of labels on both sides. -/
theorem exists_equiv_of_classes {γ κ : Type*} [DecidableEq κ] {f : α → Option κ}
    {g : β → Option κ} (left : α → γ) (right : β → γ) {xs : List α} {ys : List β}
    (sameLength : xs.length = ys.length)
    (classes : ∀ x ∈ xs, ∃ c, f x = some c ∧
      ((ofClass f c xs).map left).Perm ((ofClass g c ys).map right))
    (nodupLeft : xs.Nodup) (nodupRight : ys.Nodup) :
    ∃ partner : {x // x ∈ xs} ≃ {y // y ∈ ys},
      ∀ x, (f x.1, left x.1) = (g (partner x).1, right (partner x).1) := by
  have used : ((xs.map fun x => (f x, left x))).Perm
      ((ys.filter fun y => g y ∈ xs.map f).map fun y => (g y, right y)) := by
    apply perm_of_ofClass_perm Prod.fst
    · intro item membership
      obtain ⟨x, isItem, rfl⟩ := List.mem_map.mp membership
      obtain ⟨c, isClass, _⟩ := classes x isItem
      rw [isClass]
      rfl
    · intro item membership
      obtain ⟨y, isUsed, rfl⟩ := List.mem_map.mp membership
      obtain ⟨x, isItem, same⟩ :=
        List.mem_map.mp (of_decide_eq_true (List.mem_filter.mp isUsed).2)
      obtain ⟨c, isClass, _⟩ := classes x isItem
      rw [← same, isClass]
      rfl
    · intro c
      rw [ofClass_map, ofClass_map, ofClass_filter_comm]
      by_cases inUse : ∃ x ∈ xs, f x = some c
      · obtain ⟨x, isItem, isClass⟩ := inUse
        obtain ⟨label, isLabel, perm⟩ := classes x isItem
        obtain rfl := Option.some.inj (isLabel.symm.trans isClass)
        have kept : (ofClass g label ys).filter (fun y => g y ∈ xs.map f) =
            ofClass g label ys := by
          rw [List.filter_eq_self]
          intro y inClass
          rw [decide_eq_true_eq, (mem_ofClass.mp inClass).2, ← isClass]
          exact List.mem_map_of_mem isItem
        rw [kept, map_ofClass_labelled, map_ofClass_labelled]
        exact perm.map _
      · have noLeft : ofClass f c xs = [] :=
          ofClass_eq_nil fun x isItem isClass => inUse ⟨x, isItem, isClass⟩
        have noRight : (ofClass g c ys).filter (fun y => g y ∈ xs.map f) = [] := by
          rw [List.filter_eq_nil_iff]
          intro y inClass isUsed
          obtain ⟨x, isItem, same⟩ := List.mem_map.mp (of_decide_eq_true isUsed)
          exact inUse ⟨x, isItem, same.trans (mem_ofClass.mp inClass).2⟩
        rw [noLeft, noRight]
        rfl
  have everything : (ys.filter fun y => g y ∈ xs.map f) = ys := by
    apply List.filter_sublist.eq_of_length
    have lengths := used.length_eq
    rw [List.length_map, List.length_map] at lengths
    rw [← lengths, sameLength]
  rw [everything] at used
  exact exists_equiv_of_map_perm used nodupLeft nodupRight

end Foundation
