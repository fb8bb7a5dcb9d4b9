import MailSwiftSync.Foundation.HashJoin

/-!
# Matchings of renamed items

A matching carries over to other names for its items and other labels for its
classes, as long as the labels coincide in the same places.
-/

namespace Foundation

variable {α β γ δ κ ι φ : Type*}

/-- Two pairs of class functions with the same equalities. -/
structure SamePattern (f : α → Option κ) (g : β → Option κ) (f' : α → Option ι)
    (g' : β → Option ι) (xs : List α) (ys : List β) : Prop where
  classified : ∀ x ∈ xs, (f' x).isSome = (f x).isSome
  within : ∀ x ∈ xs, ∀ x' ∈ xs, (f x).isSome → (f' x' = f' x ↔ f x' = f x)
  across : ∀ x ∈ xs, ∀ y ∈ ys, (f x).isSome → (g' y = f' x ↔ g y = f x)

/-- Matchings carry over to renamed items when the classes have the same pattern. -/
theorem Classwise.rename [DecidableEq κ] [DecidableEq ι] {matcher : Matcher α β}
    {f : α → Option κ} {g : β → Option κ} {xs us : List α} {ys vs : List β}
    {pairs : List (α × β)} (matching : Classwise matcher f g xs ys pairs)
    (f' : γ → Option ι) (g' : δ → Option ι) (a : α → γ) (b : β → δ)
    (pattern : SamePattern f g (fun x => f' (a x)) (fun y => g' (b y)) us vs)
    (left : xs ⊆ us) (right : ys ⊆ vs) {matcher' : Matcher γ δ}
    (natural : ∀ us vs, us ⊆ xs → vs ⊆ ys →
      (matcher.run us vs).map (Prod.map a b) = matcher'.run (us.map a) (vs.map b)) :
    Classwise matcher' f' g' (xs.map a) (ys.map b) (pairs.map (Prod.map a b)) := by
  have reclassified : Classwise matcher (fun x => f' (a x)) (fun y => g' (b y)) xs ys pairs :=
    matching.reclassify (fun x isX => pattern.classified x (left isX))
      (fun x isX x' isX' => pattern.within x (left isX) x' (left isX'))
      fun x isX y isY => pattern.across x (left isX) y (right isY)
  exact reclassified.map (fun _ _ => rfl) (fun _ _ => rfl) natural

theorem Matcher.fifo_run_map (a : α → γ) (b : β → δ) (us : List α) (vs : List β) :
    ((fifo : Matcher α β).run us vs).map (Prod.map a b) =
      fifo.run (us.map a) (vs.map b) := by
  simp only [fifo, List.zip_map]

theorem Matcher.single_run_map (a : α → γ) (b : β → δ) (us : List α) (vs : List β) :
    ((single : Matcher α β).run us vs).map (Prod.map a b) =
      single.run (us.map a) (vs.map b) := by
  cases us with
  | nil => simp
  | cons u us =>
    cases us with
    | cons u' us => simp [single]
    | nil =>
      cases vs with
      | nil => simp
      | cons v vs =>
        cases vs with
        | nil => simp [single]
        | cons v' vs => simp [single]

section Nearest

variable [LinearOrder φ] {expected : α → φ} {place : β → φ} {expected' : γ → φ}
  {place' : δ → φ} {a : α → γ} {b : β → δ}

theorem takeNearest_map {x : α} {ys : List β} (item : expected' (a x) = expected x)
    (places : ∀ y ∈ ys, place' (b y) = place y) :
    takeNearest expected' place' (ys.map b) (a x) =
      (takeNearest expected place ys x).map (Prod.map b (List.map b)) := by
  have samePlaces : (ys.map b).map place' = ys.map place := by
    rw [List.map_map]
    exact List.map_congr_left places
  rw [takeNearest, takeNearest, item, samePlaces]
  cases nearestPlace (expected x) (ys.map place) with
  | none => rfl
  | some chosen =>
    have atPlace : ∀ y ∈ ys, decide (place' (b y) = chosen) = decide (place y = chosen) :=
      fun y membership => by rw [places y membership]
    have found : (ys.map b).find? (fun y => place' y = chosen) =
        (ys.find? fun y => place y = chosen).map b := by
      rw [List.find?_map, ← List.head?_filter, ← List.head?_filter]
      exact congrArg (fun rows => (List.head? rows).map b) (List.filter_congr atPlace)
    have rest : (ys.map b).eraseP (fun y => place' y = chosen) =
        (ys.eraseP fun y => place y = chosen).map b := by
      rw [List.eraseP_map]
      congr 1
      clear samePlaces found
      induction ys with
      | nil => rfl
      | cons y ys ih =>
        simp only [List.eraseP_cons, Function.comp_apply, atPlace y (by simp),
          ih (fun y membership => places y (by simp [membership]))
            fun y membership => atPlace y (by simp [membership])]
    rw [Option.bind_some, Option.bind_some, found, rest, Option.map_map, Option.map_map]
    rfl

theorem Matcher.nearest_run_map (expected : α → φ) (place : β → φ) (expected' : γ → φ)
    (place' : δ → φ) (a : α → γ) (b : β → δ) {us : List α} {vs : List β}
    (items : ∀ u ∈ us, expected' (a u) = expected u)
    (places : ∀ v ∈ vs, place' (b v) = place v) :
    ((nearest expected place).run us vs).map (Prod.map a b) =
      (nearest expected' place').run (us.map a) (vs.map b) := by
  simp only [nearest, ofTake]
  induction us generalizing vs with
  | nil => rfl
  | cons u us ih =>
    have restItems := fun u membership => items u (List.mem_cons_of_mem _ membership)
    have renamed := takeNearest_map (items u (by simp)) places
    rw [List.map_cons]
    cases taken : takeNearest expected place vs u with
    | none =>
      rw [taken] at renamed
      rw [drain_cons_none taken, drain_cons_none renamed, ih restItems places]
    | some result =>
      obtain ⟨v, rest⟩ := result
      rw [taken] at renamed
      have restPlaces : ∀ v ∈ rest, place' (b v) = place v := fun v membership =>
        places v ((perm_of_takeNearest taken).mem_iff.mpr (by simp [membership]))
      rw [drain_cons_some taken, drain_cons_some renamed, List.map_cons,
        ih restItems restPlaces]
      rfl

end Nearest

end Foundation
