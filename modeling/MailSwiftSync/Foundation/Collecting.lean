import Mathlib.Data.List.AList
import MailSwiftSync.Foundation.Metered

/-!
# Collecting entries under distinct keys

A fallible fold that reads an entry from every item and refuses a key it already has.  It succeeds
exactly when every item can be read and the keys are distinct, and then it has the entries read.
-/

namespace Foundation

variable {ρ ν ε : Type} {κ : Type} [DecidableEq κ]

/-- Add the entry of an item, unless its key is there. -/
def collect (read : ρ → Except ε (κ × ν)) (refuse : κ → ε) (entries : AList fun _ : κ => ν)
    (item : ρ) : Except ε (AList fun _ : κ => ν) := do
  let entry ← read item
  if entry.1 ∈ entries then .error (refuse entry.1) else return entries.insert entry.1 entry.2

variable {read : ρ → Except ε (κ × ν)} {refuse : κ → ε} {entry : ρ → κ × ν}

/-- What one item adds. -/
theorem collect_eq_ok {item : ρ} {entries after : AList fun _ : κ => ν}
    (isEntry : ∀ pair, read item = .ok pair → pair = entry item) :
    collect read refuse entries item = .ok after ↔
      read item = .ok (entry item) ∧ (entry item).1 ∉ entries ∧
        after = entries.insert (entry item).1 (entry item).2 := by
  rw [collect]
  cases isRead : read item with
  | error error => simp [error_bind]
  | ok pair =>
    obtain rfl := isEntry pair isRead
    rw [ok_bind]
    by_cases isThere : (entry item).1 ∈ entries
    · simp [isThere]
    · rw [if_neg isThere, pure_eq_ok]
      simp [isThere, eq_comm]

/-- The fold succeeds when every item is read, under a key of its own. -/
theorem foldlM_collect {items : List ρ}
    (areEntries : ∀ item ∈ items, ∀ pair, read item = .ok pair → pair = entry item)
    {before after : AList fun _ : κ => ν} :
    items.foldlM (collect read refuse) before = .ok after ↔
      (∀ item ∈ items, read item = .ok (entry item) ∧ (entry item).1 ∉ before) ∧
        (items.map fun item => (entry item).1).Nodup ∧
        after = items.foldl (fun entries item => entries.insert (entry item).1 (entry item).2)
          before := by
  induction items generalizing before with
  | nil =>
    rw [List.foldlM_nil, pure_eq_ok]
    simp [eq_comm]
  | cons item items ih =>
    obtain ⟨isEntry, areLater⟩ := List.forall_mem_cons.mp areEntries
    rw [List.foldlM_cons, bind_eq_ok]
    simp only [collect_eq_ok isEntry, ih areLater, List.forall_mem_cons, List.map_cons,
      List.nodup_cons, List.foldl_cons]
    constructor
    · rintro ⟨middle, ⟨isRead, isNew, rfl⟩, areRead, nodup, isAfter⟩
      refine ⟨⟨⟨isRead, isNew⟩, fun other isOther => ⟨(areRead other isOther).1, ?_⟩⟩,
        ⟨?_, nodup⟩, isAfter⟩
      · have notThere := (areRead other isOther).2
        rw [AList.mem_insert, not_or] at notThere
        exact notThere.2
      · intro isLater
        obtain ⟨other, isOther, sameKey⟩ := List.mem_map.mp isLater
        have notThere := (areRead other isOther).2
        rw [AList.mem_insert, not_or] at notThere
        exact notThere.1 sameKey
    · rintro ⟨⟨⟨isRead, isNew⟩, areRead⟩, ⟨notLater, nodup⟩, isAfter⟩
      refine ⟨_, ⟨isRead, isNew, rfl⟩, fun other isOther => ⟨(areRead other isOther).1, ?_⟩,
        nodup, isAfter⟩
      rw [AList.mem_insert, not_or]
      exact ⟨fun sameKey => notLater (sameKey ▸ List.mem_map_of_mem isOther),
        (areRead other isOther).2⟩

/-- The entries there are after insertions under distinct keys. -/
theorem lookup_foldl_insert {items : List ρ}
    (nodup : (items.map fun item => (entry item).1).Nodup) (before : AList fun _ : κ => ν)
    (isNew : ∀ item ∈ items, (entry item).1 ∉ before) (key : κ) (value : ν) :
    (items.foldl (fun entries item => entries.insert (entry item).1 (entry item).2)
        before).lookup key = some value ↔
      before.lookup key = some value ∨ ∃ item ∈ items, entry item = (key, value) := by
  induction items generalizing before with
  | nil => simp
  | cons item items ih =>
    rw [List.map_cons, List.nodup_cons] at nodup
    obtain ⟨notThere, areNew⟩ := List.forall_mem_cons.mp isNew
    have stillNew : ∀ other ∈ items,
        (entry other).1 ∉ before.insert (entry item).1 (entry item).2 := by
      intro other isOther
      rw [AList.mem_insert, not_or]
      exact ⟨fun sameKey => nodup.1 (sameKey ▸ List.mem_map_of_mem isOther),
        areNew other isOther⟩
    rw [List.foldl_cons, ih nodup.2 _ stillNew]
    by_cases isKey : key = (entry item).1
    · subst isKey
      have absent : before.lookup (entry item).1 = none := AList.lookup_eq_none.mpr notThere
      rw [AList.lookup_insert, absent]
      simp [Prod.ext_iff]
    · have differs : entry item ≠ (key, value) := fun same => isKey (by rw [same])
      rw [AList.lookup_insert_ne isKey]
      simp [differs]

/-- Collecting succeeds when every item is read, under a key of its own. -/
theorem exists_collect_iff {items : List ρ}
    (areEntries : ∀ item ∈ items, ∀ pair, read item = .ok pair → pair = entry item) :
    (∃ after, items.foldlM (collect read refuse) ∅ = .ok after) ↔
      (∀ item ∈ items, read item = .ok (entry item)) ∧
        (items.map fun item => (entry item).1).Nodup := by
  simp only [foldlM_collect areEntries, AList.notMem_empty, not_false_eq_true, and_true,
    ← and_assoc, exists_eq_right]

/-- What has been collected. -/
theorem lookup_collect {items : List ρ}
    (areEntries : ∀ item ∈ items, ∀ pair, read item = .ok pair → pair = entry item)
    {after : AList fun _ : κ => ν}
    (collected : items.foldlM (collect read refuse) ∅ = .ok after) (key : κ) (value : ν) :
    after.lookup key = some value ↔ ∃ item ∈ items, entry item = (key, value) := by
  obtain ⟨-, nodup, rfl⟩ := (foldlM_collect areEntries).mp collected
  rw [lookup_foldl_insert nodup ∅ fun _ _ => AList.notMem_empty _]
  simp

end Foundation
