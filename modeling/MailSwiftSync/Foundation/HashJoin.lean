import Mathlib.Order.Basic
import Mathlib.Data.List.MinMax
import MailSwiftSync.Foundation.Matching

/-!
# Hash joins as classwise matchings

Loops that keep one store for all classes: a map of queues, or a map from class
to ordered shelves of queues.  Each such loop is shown to make, inside every
class, exactly the pairs of a loop over the plain list of that class.
-/

namespace Foundation

variable {α β σ κ ι φ : Type*}

/-! ## One store for all classes -/

section Simulation

variable [DecidableEq κ]

/-- A loop over a shared store, seen at one class, is the loop over that class
alone.  `Holds store contents` relates the store to its contents per class. -/
theorem ofClass_drain (take : σ → α → Option (β × σ)) (cls : α → Option κ)
    (pick : List β → α → Option (β × List β))
    (Holds : σ → (κ → List β) → Prop)
    (skip : ∀ store item, cls item = none → take store item = none)
    (stuck : ∀ store contents item c, Holds store contents → cls item = some c →
      pick (contents c) item = none → take store item = none)
    (taken : ∀ store contents item c partner rest, Holds store contents →
      cls item = some c → pick (contents c) item = some (partner, rest) →
      ∃ store', take store item = some (partner, store') ∧
        Holds store' (Function.update contents c rest))
    (items : List α) (store : σ) (contents : κ → List β) (holds : Holds store contents)
    (c : κ) :
    ofClass (fun pair => cls pair.1) c (drain take items store) =
      drain pick (ofClass cls c items) (contents c) := by
  induction items generalizing store contents with
  | nil => simp [drain]
  | cons item rest ih =>
    cases labelled : cls item with
    | none =>
      have notClass : cls item ≠ some c := by simp [labelled]
      rw [drain_cons_none (skip store item labelled), ofClass_cons_of_ne notClass]
      exact ih store contents holds
    | some label =>
      cases picked : pick (contents label) item with
      | none =>
        rw [drain_cons_none (stuck store contents item label holds labelled picked),
          ih store contents holds]
        by_cases same : label = c
        · subst same
          rw [ofClass_cons_of_eq labelled, drain_cons_none picked]
        · have notClass : cls item ≠ some c := by simpa [labelled] using same
          rw [ofClass_cons_of_ne notClass]
      | some result =>
        obtain ⟨partner, remaining⟩ := result
        obtain ⟨store', step, holds'⟩ :=
          taken store contents item label partner remaining holds labelled picked
        rw [drain_cons_some step]
        by_cases same : label = c
        · subst same
          rw [ofClass_cons_of_eq (by exact labelled), ih store' _ holds',
            ofClass_cons_of_eq labelled, drain_cons_some picked,
            Function.update_self]
        · have notClass : cls item ≠ some c := by simpa [labelled] using same
          rw [ofClass_cons_of_ne (by exact notClass), ih store' _ holds',
            ofClass_cons_of_ne notClass, Function.update_of_ne (Ne.symm same)]

end Simulation

/-! ## Queues -/

section Queues

variable [DecidableEq κ]

/-- Give every item the front of its class's queue. -/
def popEach (cls : α → Option κ) (items : List α) (queues : Buckets κ β) :
    List (α × β) :=
  drain (fun queues item => (cls item).bind queues.popFront) items queues

/-- Take the first candidate, whatever the item. -/
def popHead : List β → α → Option (β × List β)
  | [], _ => none
  | y :: rest, _ => some (y, rest)

theorem drain_popHead (xs : List α) (ys : List β) :
    drain popHead xs ys = xs.zip ys := by
  induction xs generalizing ys with
  | nil => simp [drain]
  | cons x xs ih =>
    cases ys with
    | nil => rw [drain_cons_none (by rfl), ih, List.zip_nil_right, List.zip_nil_right]
    | cons y ys => rw [drain_cons_some (by rfl), ih, List.zip_cons_cons]

/-- A hash join that consumes queues pairs every class first come, first served. -/
theorem classwise_popEach (f : α → Option κ) (g : β → Option κ) (xs : List α)
    (ys : List β) :
    Classwise Matcher.fifo f g xs ys (popEach f xs (Buckets.index g ys)) where
  classified := by
    intro pair membership
    obtain ⟨queues, served⟩ := taken_of_mem_drain membership
    cases labelled : f pair.1 with
    | none => simp [labelled] at served
    | some c => simp
  classes := by
    intro c
    have simulated := ofClass_drain
      (fun (queues : Buckets κ β) item => (f item).bind queues.popFront) f popHead
      (fun queues contents => ∀ label, queues.get label = contents label)
      (by
        intro queues item unlabelled
        simp [unlabelled])
      (by
        intro queues contents item label holds labelled empty
        have emptyQueue : contents label = [] := by
          cases contentsEq : contents label with
          | nil => rfl
          | cons y rest => simp [contentsEq, popHead] at empty
        simp [labelled, Buckets.popFront, holds, emptyQueue])
      (by
        intro queues contents item label partner rest holds labelled picked
        have queueEq : contents label = partner :: rest := by
          cases contentsEq : contents label with
          | nil => simp [contentsEq, popHead] at picked
          | cons y tail => simpa [contentsEq, popHead] using picked
        refine ⟨queues.insert label rest, ?_, ?_⟩
        · simp [labelled, Buckets.popFront, holds, queueEq]
        · intro other
          rw [Buckets.get_insert, Function.update_apply, holds])
      xs (Buckets.index g ys) (fun label => ofClass g label ys)
      (fun label => Buckets.get_index g ys label) c
    rw [popEach, simulated, drain_popHead]
    rfl

end Queues

/-! ## The nearest occupied shelf -/

section Nearest

variable [LinearOrder φ]

/-- The greatest place below the expected one, or else the smallest above it. -/
def nearestPlace (expected : φ) (places : List φ) : Option φ :=
  (places.filter (· < expected)).max? <|> (places.filter (expected < ·)).min?

theorem nearestPlace_mem {expected place : φ} {places : List φ}
    (nearest : nearestPlace expected places = some place) : place ∈ places := by
  rw [nearestPlace, Option.orElse_eq_some] at nearest
  rcases nearest with below | ⟨_, above⟩
  · exact (List.mem_filter.mp (List.max?_mem below)).1
  · exact (List.mem_filter.mp (List.min?_mem above)).1

theorem max?_congr {left right : List φ} (same : ∀ place, place ∈ left ↔ place ∈ right) :
    left.max? = right.max? := by
  cases leftMax : left.max? with
  | none =>
    have leftNil := List.max?_eq_none_iff.mp leftMax
    have rightNil : right = [] := by
      apply List.eq_nil_iff_forall_not_mem.mpr
      intro place membership
      simpa [leftNil] using (same place).mpr membership
    simp [rightNil]
  | some greatest =>
    obtain ⟨membership, bound⟩ := List.max?_eq_some_iff.mp leftMax
    exact (List.max?_eq_some_iff.mpr ⟨(same _).mp membership,
      fun place inRight => bound place ((same place).mpr inRight)⟩).symm

theorem min?_congr {left right : List φ} (same : ∀ place, place ∈ left ↔ place ∈ right) :
    left.min? = right.min? := by
  cases leftMin : left.min? with
  | none =>
    have leftNil := List.min?_eq_none_iff.mp leftMin
    have rightNil : right = [] := by
      apply List.eq_nil_iff_forall_not_mem.mpr
      intro place membership
      simpa [leftNil] using (same place).mpr membership
    simp [rightNil]
  | some least =>
    obtain ⟨membership, bound⟩ := List.min?_eq_some_iff.mp leftMin
    exact (List.min?_eq_some_iff.mpr ⟨(same _).mp membership,
      fun place inRight => bound place ((same place).mpr inRight)⟩).symm

/-- Only the set of occupied places matters. -/
theorem nearestPlace_congr (expected : φ) {left right : List φ}
    (same : ∀ place, place ∈ left ↔ place ∈ right) :
    nearestPlace expected left = nearestPlace expected right := by
  have below : (left.filter (· < expected)).max? = (right.filter (· < expected)).max? :=
    max?_congr fun place => by simp [same place]
  have above : (left.filter (expected < ·)).min? = (right.filter (expected < ·)).min? :=
    min?_congr fun place => by simp [same place]
  rw [nearestPlace, nearestPlace, below, above]

/-- Take the first candidate at the nearest occupied place. -/
def takeNearest (expected : α → φ) (place : β → φ) (ys : List β) (x : α) :
    Option (β × List β) :=
  (nearestPlace (expected x) (ys.map place)).bind fun chosen =>
    (ys.find? fun y => place y = chosen).map fun y =>
      (y, ys.eraseP fun y => place y = chosen)

variable {place : β → φ} {ys : List β} {expected : α → φ}

/-- What is taken stands first among the candidates at its place. -/
theorem takeNearest_split {x : α}
    {y : β} {rest : List β} (taken : takeNearest expected place ys x = some (y, rest)) :
    nearestPlace (expected x) (ys.map place) = some (place y) ∧
      ∃ before after, ys = before ++ y :: after ∧ rest = before ++ after ∧
        ∀ other ∈ before, place other ≠ place y := by
  simp only [takeNearest, Option.bind_eq_some_iff, Option.map_eq_some_iff,
    Prod.mk.injEq] at taken
  obtain ⟨chosen, nearest, found, search, rfl, rfl⟩ := taken
  obtain ⟨isPlace, before, after, split, notBefore⟩ :=
    List.find?_eq_some_iff_append.mp search
  have placeEq : place found = chosen := of_decide_eq_true isPlace
  subst placeEq
  have notAtPlace : ∀ other ∈ before, ¬decide (place other = place found) = true := by
    simpa using notBefore
  refine ⟨nearest, before, after, split, ?_, by simpa using notBefore⟩
  rw [split, List.eraseP_append_right _ notAtPlace]
  simp

theorem takeNearest_eq_none {x : α} :
    takeNearest expected place ys x = none ↔
      nearestPlace (expected x) (ys.map place) = none := by
  cases nearest : nearestPlace (expected x) (ys.map place) with
  | none => simp [takeNearest, nearest]
  | some chosen =>
    obtain ⟨y, membership, isPlace⟩ := List.mem_map.mp (nearestPlace_mem nearest)
    simp only [takeNearest, nearest, Option.bind_some, Option.map_eq_none_iff,
      List.find?_eq_none, decide_eq_true_eq, reduceCtorEq, iff_false, not_forall]
    exact ⟨y, membership, not_not.mpr isPlace⟩

theorem perm_of_takeNearest {x : α}
    {y : β} {rest : List β} (taken : takeNearest expected place ys x = some (y, rest)) :
    ys.Perm (y :: rest) := by
  obtain ⟨_, before, after, rfl, rfl, _⟩ := takeNearest_split taken
  exact List.perm_middle

/-- Every item takes the first candidate at the nearest occupied place. -/
def Matcher.nearest (expected : α → φ) (place : β → φ) : Matcher α β :=
  Matcher.ofTake (takeNearest expected place) fun _ _ _ _ => perm_of_takeNearest

/-- Shelves of queues, ordered by place. -/
abbrev Shelves (κ φ β : Type*) : Type _ := AList fun _ : κ => Buckets φ β

/-- Take the front of the nearest occupied shelf and drop the shelf once empty. -/
def takeShelf (expected : φ) (shelves : Buckets φ β) : Option (β × Buckets φ β) :=
  (nearestPlace expected shelves.keys).bind fun chosen =>
    (shelves.popFront chosen).map fun (y, rest) =>
      (y, if rest.get chosen = [] then rest.erase chosen else rest)

/-- Shelves that hold exactly the candidates of a list, each shelf occupied. -/
structure Arranged (place : β → φ) (shelves : Buckets φ β) (ys : List β) : Prop where
  queues : ∀ spot, shelves.get spot = ys.filter (place · = spot)
  occupied : ∀ spot, spot ∈ shelves ↔ ∃ y ∈ ys, place y = spot

theorem Arranged.empty (place : β → φ) : Arranged place ∅ [] where
  queues := by simp
  occupied := by simp

variable {shelves : Buckets φ β}

theorem Arranged.push (arranged : Arranged place shelves ys) (y : β) :
    Arranged place (shelves.push (place y) y) (ys ++ [y]) where
  queues := by
    intro spot
    rw [Buckets.get_push, arranged.queues, List.filter_append]
    simp [List.filter_cons, @eq_comm _ spot]
  occupied := by
    intro spot
    rw [Buckets.mem_push, arranged.occupied]
    simp only [List.mem_append, List.mem_singleton]
    constructor
    · rintro (rfl | ⟨other, membership, rfl⟩)
      · exact ⟨y, .inr rfl, rfl⟩
      · exact ⟨other, .inl membership, rfl⟩
    · rintro ⟨other, membership | rfl, rfl⟩
      · exact .inr ⟨other, membership, rfl⟩
      · exact .inl rfl

theorem Arranged.nearest (arranged : Arranged place shelves ys) (expected : φ) :
    nearestPlace expected shelves.keys = nearestPlace expected (ys.map place) := by
  apply nearestPlace_congr
  intro spot
  rw [← AList.mem_keys, arranged.occupied, List.mem_map]

theorem Arranged.takeShelf_none {x : α} (arranged : Arranged place shelves ys)
    (stuck : takeNearest expected place ys x = none) : takeShelf (expected x) shelves = none := by
  rw [takeShelf, arranged.nearest, takeNearest_eq_none.mp stuck]
  rfl

theorem Arranged.takeShelf_some {x : α} (arranged : Arranged place shelves ys)
    {y : β} {rest : List β} (taken : takeNearest expected place ys x = some (y, rest)) :
    ∃ shelves', takeShelf (expected x) shelves = some (y, shelves') ∧
      Arranged place shelves' rest := by
  obtain ⟨nearest, before, after, rfl, rfl, notBefore⟩ := takeNearest_split taken
  have beforeNil : before.filter (place · = place y) = [] := by
    simpa using notBefore
  have queue : shelves.get (place y) = y :: after.filter (place · = place y) := by
    rw [arranged.queues, List.filter_append, beforeNil]
    simp
  have otherQueues : ∀ spot, spot ≠ place y →
      (before ++ y :: after).filter (place · = spot) =
        (before ++ after).filter (place · = spot) := by
    intro spot different
    simp [List.filter_append, Ne.symm different]
  have ownQueue : (before ++ after).filter (place · = place y) =
      after.filter (place · = place y) := by
    rw [List.filter_append, beforeNil, List.nil_append]
  set remaining := after.filter (place · = place y) with remainingDef
  refine ⟨if remaining = [] then (shelves.insert (place y) remaining).erase (place y)
    else shelves.insert (place y) remaining, ?_, ?_, ?_⟩
  · rw [takeShelf, arranged.nearest, nearest]
    simp [Buckets.popFront, queue]
  · intro spot
    by_cases same : spot = place y
    · subst same
      rw [ownQueue]
      split
      next emptied => rw [Buckets.get_erase, if_pos rfl, emptied]
      next => rw [Buckets.get_insert_self]
    · have untouched : Buckets.get (shelves.insert (place y) remaining) spot =
          (before ++ after).filter (place · = spot) := by
        rw [Buckets.get_insert_of_ne _ _ same, arranged.queues, otherQueues spot same]
      split
      · rw [Buckets.get_erase, if_neg same, untouched]
      · exact untouched
  · intro spot
    by_cases same : spot = place y
    · subst same
      have stillOccupied : (∃ other ∈ before ++ after, place other = place y) ↔
          remaining ≠ [] := by
        rw [← ownQueue, ne_eq, List.filter_eq_nil_iff]
        push Not
        simp
      rw [stillOccupied]
      split
      next emptied => simp [emptied]
      next occupied => simp [occupied]
    · have untouched : spot ∈ shelves ↔ ∃ other ∈ before ++ after, place other = spot := by
        rw [arranged.occupied]
        simp only [List.mem_append, List.mem_cons]
        constructor
        · rintro ⟨other, inBefore | rfl | inAfter, rfl⟩
          · exact ⟨other, .inl inBefore, rfl⟩
          · exact absurd rfl same
          · exact ⟨other, .inr inAfter, rfl⟩
        · rintro ⟨other, inBefore | inAfter, rfl⟩
          · exact ⟨other, .inl inBefore, rfl⟩
          · exact ⟨other, .inr (.inr inAfter), rfl⟩
      split
      · simp [same, untouched]
      · simp [same, untouched]

namespace Shelves

variable [DecidableEq κ]

/-- The shelves of a class, none when the class is absent. -/
def get (store : Shelves κ φ β) (c : κ) : Buckets φ β :=
  (store.lookup c).getD ∅

/-- `entry(class).or_default().entry(place).or_default().push_back(item)`. -/
def file (cls : β → Option κ) (place : β → φ) (store : Shelves κ φ β) (y : β) :
    Shelves κ φ β :=
  match cls y with
  | none => store
  | some c => store.insert c ((store.get c).push (place y) y)

/-- Sort every item onto the shelf of its class and place. -/
def index (cls : β → Option κ) (place : β → φ) (ys : List β) : Shelves κ φ β :=
  ys.foldl (file cls place) ∅

omit [LinearOrder φ] in
theorem get_insert (store : Shelves κ φ β) (c other : κ) (shelves : Buckets φ β) :
    get (store.insert c shelves) other = if other = c then shelves else store.get other := by
  by_cases same : other = c
  · subst same
    simp [get]
  · simp [get, same, AList.lookup_insert_ne same]

theorem arranged_index (cls : β → Option κ) (place : β → φ) (ys : List β) (c : κ) :
    Arranged place ((index cls place ys).get c) (ofClass cls c ys) := by
  have general : ∀ (store : Shelves κ φ β) (filed : List β),
      Arranged place (store.get c) (ofClass cls c filed) →
      Arranged place (get (ys.foldl (file cls place) store) c)
        (ofClass cls c (filed ++ ys)) := by
    induction ys with
    | nil => simp
    | cons y rest ih =>
      intro store filed arranged
      have step : Arranged place ((file cls place store y).get c)
          (ofClass cls c (filed ++ [y])) := by
        rw [ofClass_append]
        cases labelled : cls y with
        | none => simpa [file, labelled, ofClass] using arranged
        | some label =>
          simp only [file, labelled, get_insert]
          by_cases same : c = label
          · subst same
            rw [if_pos rfl, ofClass_cons_of_eq labelled]
            exact arranged.push y
          · have notClass : cls y ≠ some c := by
              rw [labelled]
              simpa using Ne.symm same
            rw [if_neg same, ofClass_cons_of_ne notClass]
            simpa using arranged
      simpa using ih _ _ step
  have start : Arranged place (get (∅ : Shelves κ φ β) c) (ofClass cls c []) := by
    simpa [get] using Arranged.empty place
  simpa [index] using general ∅ [] start

end Shelves

/-- Give every item the front of the nearest occupied shelf of its class. -/
def shelfEach [DecidableEq κ] (cls : α → Option κ) (expected : α → φ) (items : List α)
    (store : Shelves κ φ β) : List (α × β) :=
  drain (fun store item => (cls item).bind fun c =>
    (takeShelf (expected item) (store.get c)).map fun (y, shelves) =>
      (y, store.insert c shelves)) items store

/-- A loop over shared shelves sends every class to its nearest occupied places. -/
theorem classwise_shelfEach [DecidableEq κ] (f : α → Option κ) (g : β → Option κ)
    (expected : α → φ) (place : β → φ) (xs : List α) (ys : List β) :
    Classwise (Matcher.nearest expected place) f g xs ys
      (shelfEach f expected xs (Shelves.index g place ys)) where
  classified := by
    intro pair membership
    obtain ⟨store, served⟩ := taken_of_mem_drain membership
    cases labelled : f pair.1 with
    | none => simp [labelled] at served
    | some c => simp
  classes := by
    intro c
    exact ofClass_drain _ f (takeNearest expected place)
      (fun (store : Shelves κ φ β) contents =>
        ∀ label, Arranged place (store.get label) (contents label))
      (by
        intro store item unlabelled
        simp [unlabelled])
      (by
        intro store contents item label holds labelled stuck
        simp [labelled, (holds label).takeShelf_none stuck])
      (by
        intro store contents item label partner rest holds labelled taken
        obtain ⟨shelves, step, arranged⟩ := (holds label).takeShelf_some taken
        refine ⟨store.insert label shelves, by simp [labelled, step], ?_⟩
        intro other
        rw [Shelves.get_insert, Function.update_apply]
        split
        · exact arranged
        · exact holds other)
      xs (Shelves.index g place ys) (fun label => ofClass g label ys)
      (Shelves.arranged_index g place ys) c

end Nearest

/-! ## Matching group after group -/

section Groups

variable [DecidableEq κ] [DecidableEq ι]

/-- The class of an item inside its group. -/
def withinGroup (ident : α → Option ι) (cls : α → Option κ) (item : α) :
    Option (ι × κ) :=
  (ident item).bind fun group => (cls item).map (Prod.mk group)

omit [DecidableEq κ] [DecidableEq ι] in
theorem withinGroup_eq_some {ident : α → Option ι} {cls : α → Option κ} {item : α}
    {group : ι} {c : κ} :
    withinGroup ident cls item = some (group, c) ↔
      ident item = some group ∧ cls item = some c := by
  simp only [withinGroup, Option.bind_eq_some_iff, Option.map_eq_some_iff, Prod.mk.injEq]
  constructor
  · rintro ⟨_, isGroup, _, isClass, rfl, rfl⟩
    exact ⟨isGroup, isClass⟩
  · rintro ⟨isGroup, isClass⟩
    exact ⟨group, isGroup, c, isClass, rfl, rfl⟩

theorem ofClass_withinGroup (ident : α → Option ι) (cls : α → Option κ) (group : ι) (c : κ)
    (items : List α) :
    ofClass (withinGroup ident cls) (group, c) items =
      ofClass cls c (ofClass ident group items) := by
  simp only [ofClass, List.filter_filter]
  apply List.filter_congr
  intro item _
  rw [decide_eq_decide.mpr withinGroup_eq_some, Bool.decide_and, Bool.and_comm]

/-- Matching the common groups one after the other matches the whole lists. -/
theorem Classwise.groups {matcher : Matcher α β} (ident : α → Option ι)
    (ident' : β → Option ι) {f : α → Option κ} {g : β → Option κ} {xs : List α}
    {ys : List β} {groups : List ι} (nodup : groups.Nodup) {pairs : ι → List (α × β)}
    (complete : ∀ group, group ∉ groups →
      ofClass ident group xs = [] ∨ ofClass ident' group ys = [])
    (each : ∀ group ∈ groups, Classwise matcher f g (ofClass ident group xs)
      (ofClass ident' group ys) (pairs group)) :
    Classwise matcher (withinGroup ident f) (withinGroup ident' g) xs ys
      (groups.flatMap pairs) := by
  have identOfMem : ∀ group ∈ groups, ∀ pair ∈ pairs group, ident pair.1 = some group := by
    intro group inGroups pair membership
    exact (mem_ofClass.mp ((each group inGroups).mem_left membership)).2
  refine ⟨?_, ?_⟩
  · intro pair membership
    obtain ⟨group, inGroups, inPairs⟩ := List.mem_flatMap.mp membership
    obtain ⟨c, isClass⟩ :=
      Option.isSome_iff_exists.mp ((each group inGroups).classified pair inPairs)
    rw [withinGroup_eq_some.mpr ⟨identOfMem group inGroups pair inPairs, isClass⟩]
    rfl
  · rintro ⟨group, c⟩
    have pairClass : ofClass (fun pair : α × β => withinGroup ident f pair.1) (group, c)
        (groups.flatMap pairs) = groups.flatMap fun other =>
          ofClass (fun pair : α × β => withinGroup ident f pair.1) (group, c)
            (pairs other) := by
      simp only [ofClass, List.filter_flatMap]
    have otherGroups : ∀ other ∈ groups, other ≠ group →
        ofClass (fun pair : α × β => withinGroup ident f pair.1) (group, c)
          (pairs other) = [] := by
      intro other inGroups different
      apply ofClass_eq_nil
      intro pair membership isClass
      have ownGroup := identOfMem other inGroups pair membership
      rw [(withinGroup_eq_some.mp isClass).1] at ownGroup
      exact different (Option.some.inj ownGroup).symm
    rw [pairClass, ofClass_withinGroup, ofClass_withinGroup]
    by_cases inGroups : group ∈ groups
    · rw [flatMap_eq_of_unique nodup inGroups otherGroups, ← (each group inGroups).classes c]
      apply ofClass_iff_congr
      intro pair membership
      rw [withinGroup_eq_some]
      exact and_iff_right (identOfMem group inGroups pair membership)
    · have noPairs : groups.flatMap (fun other =>
          ofClass (fun pair : α × β => withinGroup ident f pair.1) (group, c)
            (pairs other)) = [] := by
        rw [List.flatMap_eq_nil_iff]
        intro other inGroups'
        exact otherGroups other inGroups' fun equal => inGroups (equal ▸ inGroups')
      rw [noPairs]
      rcases complete group inGroups with leftNil | rightNil
      · rw [leftNil, ofClass_nil, Matcher.run_nil_left]
      · rw [rightNil, ofClass_nil, Matcher.run_nil_right]

end Groups

end Foundation
