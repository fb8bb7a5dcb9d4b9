import MailSwiftSync.Foundation.Renaming

/-!
# Matchings of reordered items

Items that are alike in every respect a matching looks at are of one kind.  A
matching of the same items in another order may serve other items, but as long as
every class serves the same kinds and takes the same partners, both matchings leave
the same kinds and the same partners over.
-/

namespace Foundation

variable {α β κ ζ : Type*}

section Reorder

variable [DecidableEq κ] {matcher : Matcher α β} {f : α → Option κ} {g : β → Option κ}
  {xs xs' : List α} {ys : List β} {pairs pairs' : List (α × β)} {kind : α → ζ}

/-- Two matchings serve the same kinds and take the same partners. -/
structure SameUpToKind (kind : α → ζ) (pairs pairs' : List (α × β)) : Prop where
  kinds : (pairs.map fun pair => kind pair.1).Perm (pairs'.map fun pair => kind pair.1)
  partners : (pairs.map Prod.snd).Perm (pairs'.map Prod.snd)

theorem SameUpToKind.length_eq (same : SameUpToKind kind pairs pairs') :
    pairs.length = pairs'.length := by
  simpa using same.partners.length_eq

theorem SameUpToKind.append {later later' : List (α × β)}
    (same : SameUpToKind kind pairs pairs') (sameLater : SameUpToKind kind later later') :
    SameUpToKind kind (pairs ++ later) (pairs' ++ later') where
  kinds := by
    rw [List.map_append, List.map_append]
    exact same.kinds.append sameLater.kinds
  partners := by
    rw [List.map_append, List.map_append]
    exact same.partners.append sameLater.partners

/-- It is enough to compare the matchings class by class. -/
theorem Classwise.sameUpToKind (matching : Classwise matcher f g xs ys pairs)
    (matching' : Classwise matcher f g xs' ys pairs') (kind : α → ζ) (classOf : ζ → Option κ)
    (determined : ∀ x, f x = classOf (kind x))
    (each : ∀ c, SameUpToKind kind (matcher.run (ofClass f c xs) (ofClass g c ys))
      (matcher.run (ofClass f c xs') (ofClass g c ys))) :
    SameUpToKind kind pairs pairs' where
  kinds := by
    have atClass : ∀ (others : List (α × β)) c,
        ofClass classOf c (others.map fun pair => kind pair.1) =
          (ofClass (fun pair => f pair.1) c others).map fun pair => kind pair.1 := by
      intro others c
      rw [ofClass_map]
      congr 1
      exact ofClass_congr fun pair _ => (determined pair.1).symm
    have classified : ∀ others : List (α × β), (∀ pair ∈ others, (f pair.1).isSome) →
        ∀ k ∈ others.map fun pair => kind pair.1, (classOf k).isSome := by
      intro others isClassified k membership
      obtain ⟨pair, inOthers, rfl⟩ := List.mem_map.mp membership
      rw [← determined]
      exact isClassified pair inOthers
    apply perm_of_ofClass_perm classOf (classified pairs matching.classified)
      (classified pairs' matching'.classified)
    intro c
    rw [atClass, atClass, matching.classes c, matching'.classes c]
    exact (each c).kinds
  partners := by
    have classified : ∀ {zs : List α} {others : List (α × β)},
        Classwise matcher f g zs ys others → ∀ y ∈ others.map Prod.snd, (g y).isSome := by
      intro zs others isMatching y membership
      obtain ⟨pair, inOthers, rfl⟩ := List.mem_map.mp membership
      rw [← isMatching.agree inOthers]
      exact isMatching.classified pair inOthers
    apply perm_of_ofClass_perm g (classified matching) (classified matching')
    intro c
    rw [ofClass_map, ofClass_map, matching.ofClass_right c, matching'.ofClass_right c]
    exact (each c).partners

/-! ## What is left over -/

variable [DecidableEq α] [DecidableEq β]

omit [DecidableEq β] in
theorem SameUpToKind.unpairedLeft (same : SameUpToKind kind pairs pairs')
    (perm : (xs.map kind).Perm (xs'.map kind)) (nodup : xs.Nodup) (nodup' : xs'.Nodup)
    (pairsNodup : (pairs.map Prod.fst).Nodup) (pairsNodup' : (pairs'.map Prod.fst).Nodup)
    (subset : pairs.map Prod.fst ⊆ xs) (subset' : pairs'.map Prod.fst ⊆ xs') :
    ((unpairedLeft pairs xs).map kind).Perm ((unpairedLeft pairs' xs').map kind) := by
  have split := (perm_unpairedLeft nodup pairsNodup subset).map kind
  have split' := (perm_unpairedLeft nodup' pairsNodup' subset').map kind
  rw [List.map_append, List.map_map] at split split'
  have joined := split.symm.trans (perm.trans split')
  exact (List.perm_append_left_iff _).mp ((same.kinds.symm.append_right _).trans joined)

omit [DecidableEq α] in
theorem SameUpToKind.unpairedRight (same : SameUpToKind kind pairs pairs') (ys : List β) :
    unpairedRight pairs ys = unpairedRight pairs' ys := by
  apply List.filter_congr
  intro y _
  rw [decide_eq_decide, same.partners.mem_iff]

omit [DecidableEq β] in
/-- An item without a partner stands in a class with too few partners. -/
theorem Classwise.outnumbered_left (matching : Classwise Matcher.fifo f g xs ys pairs)
    {x : α} (unpaired : x ∈ Foundation.unpairedLeft pairs xs) {c : κ} (isClass : f x = some c) :
    (ofClass g c ys).length < (ofClass f c xs).length := by
  by_contra enough
  obtain ⟨isItem, free⟩ := mem_unpairedLeft.mp unpaired
  have served : (Matcher.fifo.run (ofClass f c xs) (ofClass g c ys)).map Prod.fst =
      ofClass f c xs := List.map_fst_zip (not_lt.mp enough)
  rw [← matching.classes c] at served
  have membership : x ∈ ofClass f c xs := mem_ofClass.mpr ⟨isItem, isClass⟩
  rw [← served] at membership
  exact free (List.map_subset _ (List.filter_subset_self _) membership)

omit [DecidableEq α] in
/-- First come, first served leaves the last partners of a class over. -/
theorem Classwise.mem_unpairedRight (matching : Classwise Matcher.fifo f g xs ys pairs)
    (nodup : ys.Nodup) {y : β} {c : κ} (isClass : g y = some c) :
    y ∈ Foundation.unpairedRight pairs ys ↔
      y ∈ (ofClass g c ys).drop (ofClass f c xs).length := by
  have split := List.take_append_drop (ofClass f c xs).length (ofClass g c ys)
  have classNodup : (ofClass g c ys).Nodup := ofClass_nodup nodup
  have apart := List.disjoint_take_drop classNodup (le_refl (ofClass f c xs).length)
  have taken : y ∈ pairs.map Prod.snd ↔
      y ∈ (ofClass g c ys).take (ofClass f c xs).length := by
    have served : (ofClass (fun pair : α × β => g pair.2) c pairs).map Prod.snd =
        (ofClass g c ys).take (ofClass f c xs).length := by
      rw [matching.ofClass_right c]
      change (List.zip _ _).map Prod.snd = _
      rw [List.zip_eq_zip_take_min, List.map_snd_zip (by simp), ← List.take_eq_take_min]
    rw [← served, ← ofClass_map, mem_ofClass]
    exact (and_iff_left isClass).symm
  rw [Foundation.mem_unpairedRight, taken]
  constructor
  · rintro ⟨isItem, free⟩
    have membership : y ∈ ofClass g c ys := mem_ofClass.mpr ⟨isItem, isClass⟩
    rw [← split] at membership
    exact (List.mem_append.mp membership).resolve_left free
  · intro last
    exact ⟨(mem_ofClass.mp (List.mem_of_mem_drop last)).1, fun first => apart first last⟩

/-- Pairs take as many items from a coarser class as partners. -/
theorem length_ofClass_unpaired {ι : Type*} [DecidableEq ι] {h : α → Option ι}
    {h' : β → Option ι} (nodup : xs.Nodup) (nodup' : ys.Nodup)
    (pairsNodup : (pairs.map Prod.fst).Nodup) (pairsNodup' : (pairs.map Prod.snd).Nodup)
    (subset : pairs.map Prod.fst ⊆ xs) (subset' : pairs.map Prod.snd ⊆ ys)
    (agree : ∀ pair ∈ pairs, h pair.1 = h' pair.2) (c : ι) :
    (ofClass h c xs).length + (ofClass h' c (Foundation.unpairedRight pairs ys)).length =
      (ofClass h' c ys).length + (ofClass h c (Foundation.unpairedLeft pairs xs)).length := by
  have left := (ofClass_perm h c (perm_unpairedLeft nodup pairsNodup subset)).length_eq
  have right := (ofClass_perm h' c (perm_unpairedRight nodup' pairsNodup' subset')).length_eq
  have paired : (ofClass h c (pairs.map Prod.fst)).length =
      (ofClass h' c (pairs.map Prod.snd)).length := by
    rw [ofClass_map, ofClass_map, List.length_map, List.length_map]
    congr 1
    exact ofClass_congr agree
  rw [ofClass_append, List.length_append] at left right
  omega

end Reorder

/-- The kinds of a class, when the kind determines the class. -/
theorem ofClass_kind_perm [DecidableEq κ] {f : α → Option κ} {kind : α → ζ}
    (classOf : ζ → Option κ) (determined : ∀ x, f x = classOf (kind x)) {xs xs' : List α}
    (perm : (xs.map kind).Perm (xs'.map kind)) (c : κ) :
    ((ofClass f c xs).map kind).Perm ((ofClass f c xs').map kind) := by
  have atClass : ∀ items : List α, (ofClass f c items).map kind =
      ofClass classOf c (items.map kind) := by
    intro items
    rw [ofClass_map]
    congr 1
    exact ofClass_congr fun x _ => determined x
  rw [atClass, atClass]
  exact ofClass_perm classOf c perm

/-! ## The matchers inside one class -/

section Matchers

variable {kind : α → ζ} {us us' : List α} {vs : List β}

/-- All items are of one kind. -/
def Uniform (kind : α → ζ) (items : List α) : Prop :=
  ∀ item ∈ items, ∀ other ∈ items, kind item = kind other

theorem Uniform.map_eq_replicate {items : List α} (uniform : Uniform kind items) {item : α}
    (membership : item ∈ items) : items.map kind = List.replicate items.length (kind item) := by
  rw [List.eq_replicate_iff]
  refine ⟨List.length_map _, ?_⟩
  intro k isKind
  obtain ⟨other, inItems, rfl⟩ := List.mem_map.mp isKind
  exact uniform other inItems item membership

/-- Items of one kind in another order are the same list of kinds. -/
theorem Uniform.map_eq (uniform : Uniform kind us) (perm : (us.map kind).Perm (us'.map kind)) :
    us.map kind = us'.map kind := by
  cases us with
  | nil => exact (List.nil_perm.mp perm).symm
  | cons u rest =>
    have replicated := uniform.map_eq_replicate (List.mem_cons_self)
    rw [replicated] at perm ⊢
    exact (List.replicate_perm.mp perm)

/-- First come, first served: nobody is left out, nobody is served, or all are alike. -/
theorem fifo_sameUpToKind (perm : (us.map kind).Perm (us'.map kind))
    (settled : us.length ≤ vs.length ∨ vs = [] ∨ Uniform kind us) :
    SameUpToKind kind (Matcher.fifo.run us vs) (Matcher.fifo.run us' vs) := by
  have lengths : us.length = us'.length := by simpa using perm.length_eq
  have served : ∀ items : List α, ((Matcher.fifo.run items vs).map fun pair => kind pair.1) =
      (items.map kind).take vs.length := by
    intro items
    change ((items.zip vs).map fun pair => kind pair.1) = _
    clear settled
    induction items generalizing vs with
    | nil => simp
    | cons item rest ih =>
      cases vs with
      | nil => simp
      | cons v vs => simpa using ih
  have taken : ∀ items : List α, (Matcher.fifo.run items vs).map Prod.snd =
      vs.take items.length := by
    intro items
    change (items.zip vs).map Prod.snd = _
    clear settled served
    induction items generalizing vs with
    | nil => simp
    | cons item rest ih =>
      cases vs with
      | nil => simp
      | cons v vs => simpa using ih
  refine ⟨?_, ?_⟩
  · rw [served, served]
    rcases settled with enough | none | uniform
    · rw [List.take_of_length_le (by simpa using enough),
        List.take_of_length_le (by simpa [← lengths] using enough)]
      exact perm
    · simp [none]
    · rw [uniform.map_eq perm]
  · rw [taken, taken, lengths]

/-- A matcher that sees only the kinds treats alike items alike. -/
theorem uniform_sameUpToKind {matcher : Matcher α β} (onKinds : Matcher ζ β)
    (natural : ∀ items : List α, (matcher.run items vs).map (Prod.map kind id) =
      onKinds.run (items.map kind) vs)
    (perm : (us.map kind).Perm (us'.map kind)) (settled : vs = [] ∨ Uniform kind us) :
    SameUpToKind kind (matcher.run us vs) (matcher.run us' vs) := by
  rcases settled with none | uniform
  · subst none
    rw [Matcher.run_nil_right, Matcher.run_nil_right]
    exact ⟨List.Perm.refl _, List.Perm.refl _⟩
  · have sameRun : (matcher.run us vs).map (Prod.map kind id) =
        (matcher.run us' vs).map (Prod.map kind id) := by
      rw [natural, natural, uniform.map_eq perm]
    constructor
    · have kinds := congrArg (List.map Prod.fst) sameRun
      rw [List.map_map, List.map_map] at kinds
      exact List.Perm.of_eq kinds
    · have partners := congrArg (List.map Prod.snd) sameRun
      rw [List.map_map, List.map_map] at partners
      exact List.Perm.of_eq partners

/-- The one possible pair does not depend on any order. -/
theorem single_sameUpToKind (perm : (us.map kind).Perm (us'.map kind)) :
    SameUpToKind kind ((Matcher.single : Matcher α β).run us vs)
      (Matcher.single.run us' vs) := by
  have lengths : us.length = us'.length := by simpa using perm.length_eq
  cases us with
  | nil =>
    have empty : us' = [] := List.length_eq_zero_iff.mp lengths.symm
    rw [empty]
    exact ⟨List.Perm.refl _, List.Perm.refl _⟩
  | cons u rest =>
    cases rest with
    | nil =>
      obtain ⟨u', rfl⟩ := List.length_eq_one_iff.mp lengths.symm
      refine uniform_sameUpToKind Matcher.single ?_ perm (.inr ?_)
      · intro items
        simpa using Matcher.single_run_map kind id items vs
      · simp [Uniform]
    | cons second rest =>
      obtain ⟨first, next, others, rfl⟩ : ∃ first next others,
          us' = first :: next :: others := by
        match us', lengths with
        | first :: next :: others, _ => exact ⟨first, next, others, rfl⟩
      simp only [Matcher.single]
      exact ⟨List.Perm.refl _, List.Perm.refl _⟩

end Matchers

end Foundation
