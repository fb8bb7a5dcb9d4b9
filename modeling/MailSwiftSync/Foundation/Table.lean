import Mathlib.Data.List.Nodup
import Mathlib.Data.List.Perm.Subperm

/-!
# Keyed tables

A table is a list of rows with distinct primary keys, in insertion order.  Rows are
found by key, inserted under a fresh key, changed in place without touching their
keys, and deleted.
-/

namespace Foundation

/-- Rows with distinct keys. -/
structure Table {ρ κ : Type*} (key : ρ → κ) where
  rows : List ρ
  primaryKey : (rows.map key).Nodup

namespace Table

variable {ρ κ : Type*} {key : ρ → κ}

instance : Membership ρ (Table key) where
  mem table row := row ∈ table.rows

instance [DecidableEq ρ] (row : ρ) (table : Table key) : Decidable (row ∈ table) :=
  inferInstanceAs (Decidable (row ∈ table.rows))

variable {table : Table key} {row : ρ}

@[simp] theorem mem_rows : row ∈ table.rows ↔ row ∈ table :=
  Iff.rfl

/-- The table without rows. -/
def empty : Table key where
  rows := []
  primaryKey := List.nodup_nil

@[simp] theorem not_mem_empty (row : ρ) : row ∉ (empty : Table key) :=
  List.not_mem_nil

theorem eq_of_rows {table other : Table key} (sameRows : table.rows = other.rows) :
    table = other := by
  cases table
  cases other
  cases sameRows
  rfl

theorem eq_of_key {row other : ρ} (isRow : row ∈ table)
    (isOther : other ∈ table) (same : key row = key other) : row = other :=
  List.inj_on_of_nodup_map table.primaryKey isRow isOther same

/-! ## Looking up -/

/-- The row of a key. -/
def find [DecidableEq κ] (table : Table key) (k : κ) : Option ρ :=
  table.rows.find? fun row => key row = k

variable {k : κ}

theorem find_eq_some [DecidableEq κ] : table.find k = some row ↔ row ∈ table ∧ key row = k := by
  constructor
  · intro found
    exact ⟨List.mem_of_find?_eq_some found, by simpa using List.find?_some found⟩
  · intro ⟨isRow, isKey⟩
    cases found : table.find k with
    | none =>
      have absent := List.find?_eq_none.mp found row isRow
      exact absurd isKey (by simpa using absent)
    | some other =>
      have isOther : other ∈ table := List.mem_of_find?_eq_some found
      have otherKey : key other = k := by simpa using List.find?_some found
      rw [eq_of_key isOther isRow (otherKey.trans isKey.symm)]

theorem find_eq_none [DecidableEq κ] : table.find k = none ↔ ∀ row ∈ table, key row ≠ k := by
  rw [find, List.find?_eq_none]
  simp only [decide_eq_true_eq, mem_rows]

/-- Whether some row satisfies a condition: `EXISTS(SELECT 1 …)`. -/
def any (table : Table key) (condition : ρ → Bool) : Bool :=
  table.rows.any condition

variable {condition : ρ → Bool}

@[simp] theorem any_eq_true : table.any condition = true ↔ ∃ row ∈ table, condition row = true :=
  List.any_eq_true

@[simp] theorem any_eq_false : table.any condition = false ↔ ∀ row ∈ table, ¬condition row = true :=
  List.any_eq_false

/-- The rows that satisfy a condition: `SELECT … WHERE …`. -/
def select (table : Table key) (condition : ρ → Bool) : List ρ :=
  table.rows.filter condition

@[simp] theorem mem_select : row ∈ table.select condition ↔ row ∈ table ∧ condition row = true :=
  List.mem_filter

/-- Rows whose keys are among some, but not among them a given one, are fewer than these. -/
theorem length_filter_lt [DecidableEq κ] {keys : List κ}
    (isKey : k ∈ keys) (absent : ∀ row ∈ table, key row ≠ k) :
    (table.rows.filter (key · ∈ keys)).length < keys.length := by
  have nodup : ((table.rows.filter (key · ∈ keys)).map key).Nodup :=
    table.primaryKey.sublist (List.filter_sublist.map _)
  have within : (table.rows.filter (key · ∈ keys)).map key ⊆ keys.erase k := by
    intro other isOther
    obtain ⟨row, isRow, rfl⟩ := List.mem_map.mp isOther
    obtain ⟨isRow, hasKey⟩ := List.mem_filter.mp isRow
    exact (List.mem_erase_of_ne (absent row isRow)).mpr (of_decide_eq_true hasKey)
  have bound := (List.subperm_of_subset nodup within).length_le
  rw [List.length_map, List.length_erase_of_mem isKey] at bound
  have positive := List.length_pos_of_mem isKey
  omega

/-! ## Writing -/

/-- `INSERT`: the key must be new. -/
def insert [DecidableEq κ] (table : Table key) (row : ρ) : Option (Table key) :=
  if fresh : key row ∉ table.rows.map key then
    some {
      rows := table.rows ++ [row]
      primaryKey := by
        rw [List.map_append, List.map_singleton]
        exact List.nodup_append.mpr ⟨table.primaryKey, List.nodup_singleton _,
          fun k isKey k' isNew same => fresh (List.mem_singleton.mp isNew ▸ same ▸ isKey)⟩ }
  else none

theorem insert_eq_some [DecidableEq κ] {table table' : Table key}
    (inserted : table.insert row = some table') :
    (∀ other ∈ table, key other ≠ key row) ∧ table'.rows = table.rows ++ [row] := by
  rw [insert] at inserted
  split_ifs at inserted with fresh
  obtain rfl := Option.some.inj inserted
  refine ⟨fun other isOther same => fresh (List.mem_map.mpr ⟨other, isOther, same⟩), rfl⟩

theorem insert_of_fresh [DecidableEq κ]
    (fresh : ∀ other ∈ table, key other ≠ key row) : ∃ table', table.insert row = some table' := by
  have absent : key row ∉ table.rows.map key := by
    intro isKey
    obtain ⟨other, isOther, sameKey⟩ := List.mem_map.mp isKey
    exact fresh other isOther sameKey
  exact ⟨_, dif_pos absent⟩

theorem mem_insert [DecidableEq κ] {table table' : Table key}
    (inserted : table.insert row = some table') {other : ρ} :
    other ∈ table' ↔ other ∈ table ∨ other = row := by
  rw [← mem_rows, (insert_eq_some inserted).2, List.mem_append, List.mem_singleton, mem_rows]

/-- `UPDATE`: rows that satisfy a condition change, their keys do not. -/
def update (table : Table key) (condition : ρ → Bool) (change : ρ → ρ)
    (keepsKey : ∀ row, key (change row) = key row := by intro _; rfl) : Table key where
  rows := table.rows.map fun row => if condition row then change row else row
  primaryKey := by
    rw [List.map_map]
    have keys : (key ∘ fun row => if condition row then change row else row) = key := by
      funext row
      by_cases hit : condition row = true
      · simp [hit, keepsKey]
      · simp [hit]
    rw [keys]
    exact table.primaryKey

variable {change : ρ → ρ}

theorem mem_update {keepsKey : ∀ row, key (change row) = key row} :
    row ∈ table.update condition change keepsKey ↔
      ∃ old ∈ table, row = if condition old then change old else old := by
  rw [← mem_rows, update, List.mem_map]
  simp only [mem_rows, eq_comm]

/-- A row that is not selected stays. -/
theorem mem_update_of_untouched (keepsKey : ∀ row, key (change row) = key row) (isRow : row ∈ table)
    (untouched : condition row = false) : row ∈ table.update condition change keepsKey :=
  mem_update.mpr ⟨row, isRow, by rw [untouched]; rfl⟩

/-- An update that selects one row. -/
theorem mem_update_one
    (keepsKey : ∀ row, key (change row) = key row) {selected row : ρ} (isRow : selected ∈ table)
    (isSelected : condition selected = true)
    (only : ∀ other ∈ table, condition other = true → other = selected) :
    row ∈ table.update condition change keepsKey ↔
      row = change selected ∨ (row ∈ table ∧ row ≠ selected) := by
  rw [mem_update]
  constructor
  · rintro ⟨old, isOld, rfl⟩
    split
    · next hit => exact .inl (congrArg change (only old isOld hit))
    · next miss => exact .inr ⟨isOld, fun same => miss (same ▸ isSelected)⟩
  · rintro (rfl | ⟨isOld, different⟩)
    · exact ⟨selected, isRow, (if_pos isSelected).symm⟩
    · exact ⟨row, isOld, (if_neg fun hit => different (only row isOld hit)).symm⟩

/-- An update that selects nothing changes nothing. -/
theorem update_of_none {keepsKey : ∀ row, key (change row) = key row}
    (none : ∀ row ∈ table, condition row = false) :
    table.update condition change keepsKey = table := by
  apply eq_of_rows
  rw [update]
  refine (List.map_congr_left fun row isRow => ?_).trans (List.map_id _)
  rw [none row isRow]
  rfl

/-! ## Row by row -/

/-- A rewriting of tables that acts on each row alone. -/
def Rowwise (rewrite : Table key → Table key) (change : ρ → ρ) : Prop :=
  ∀ table, (rewrite table).rows = table.rows.map change

theorem Rowwise.comp {first second : Table key → Table key} {change change' : ρ → ρ}
    (later : Rowwise second change') (earlier : Rowwise first change) :
    Rowwise (fun table => second (first table)) (fun row => change' (change row)) := by
  intro table
  rw [later, earlier, List.map_map]
  rfl

theorem Rowwise.foldl {ι : Type*} {rewrite : ι → Table key → Table key} {change : ι → ρ → ρ}
    (each : ∀ item, Rowwise (rewrite item) (change item)) (items : List ι) :
    Rowwise (fun table => items.foldl (fun table item => rewrite item table) table)
      (fun row => items.foldl (fun row item => change item row) row) := by
  induction items with
  | nil => exact fun table => (List.map_id _).symm
  | cons item items ih => exact ih.comp (each item)

theorem Rowwise.mem {rewrite : Table key → Table key} (rowwise : Rowwise rewrite change) :
    row ∈ rewrite table ↔ ∃ old ∈ table, row = change old := by
  rw [← mem_rows, rowwise, List.mem_map]
  simp only [mem_rows, eq_comm]

/-- Lookups after an update. -/
theorem find_update [DecidableEq κ] {keepsKey : ∀ row, key (change row) = key row} :
    (table.update condition change keepsKey).find k =
      (table.find k).map fun row => if condition row then change row else row := by
  have sameKey : ∀ row, key (if condition row then change row else row) = key row := by
    intro row
    split
    · exact keepsKey row
    · rfl
  apply Option.ext
  intro row
  rw [find_eq_some, mem_update, Option.map_eq_some_iff]
  constructor
  · rintro ⟨⟨old, isOld, rfl⟩, isKey⟩
    exact ⟨old, find_eq_some.mpr ⟨isOld, (sameKey old).symm.trans isKey⟩, rfl⟩
  · rintro ⟨old, found, rfl⟩
    obtain ⟨isOld, isKey⟩ := find_eq_some.mp found
    exact ⟨⟨old, isOld, rfl⟩, (sameKey old).trans isKey⟩

/-- Lookups after an insertion. -/
theorem find_insert [DecidableEq κ] {table table' : Table key}
    (inserted : table.insert row = some table') :
    table'.find k = if key row = k then some row else table.find k := by
  apply Option.ext
  intro other
  rw [find_eq_some, mem_insert inserted]
  split
  · next isKey =>
      constructor
      · rintro ⟨isOld | same, otherKey⟩
        · exact absurd (otherKey.trans isKey.symm) ((insert_eq_some inserted).1 other isOld)
        · rw [same]
      · rintro ⟨⟩
        exact ⟨.inr rfl, isKey⟩
  · next notKey =>
      rw [find_eq_some]
      constructor
      · rintro ⟨isOld | same, otherKey⟩
        · exact ⟨isOld, otherKey⟩
        · exact absurd (same ▸ otherKey) notKey
      · rintro ⟨isOld, otherKey⟩
        exact ⟨.inl isOld, otherKey⟩

/-- `DELETE`. -/
def delete (table : Table key) (condition : ρ → Bool) : Table key where
  rows := table.rows.filter fun row => !condition row
  primaryKey := table.primaryKey.sublist (List.filter_sublist.map _)

@[simp] theorem mem_delete :
    row ∈ table.delete condition ↔ row ∈ table ∧ condition row = false := by
  rw [← mem_rows, delete, List.mem_filter, Bool.not_eq_true']
  rfl

/-- Lookups after a deletion. -/
theorem find_delete [DecidableEq κ] :
    (table.delete condition).find k = (table.find k).filter fun row => !condition row := by
  apply Option.ext
  intro row
  rw [find_eq_some, mem_delete, Option.filter_eq_some_iff, find_eq_some, Bool.not_eq_true',
    and_right_comm]

/-- `INSERT … ON CONFLICT DO UPDATE`: the row of a key is replaced. -/
def upsert [DecidableEq κ] (table : Table key) (row : ρ) : Table key where
  rows := table.rows.filter (key · ≠ key row) ++ [row]
  primaryKey := by
    rw [List.map_append, List.map_singleton]
    refine List.nodup_append.mpr ⟨table.primaryKey.sublist (List.filter_sublist.map _),
      List.nodup_singleton _, ?_⟩
    intro k isKey k' isNew same
    obtain ⟨other, isOther, rfl⟩ := List.mem_map.mp isKey
    exact of_decide_eq_true (List.mem_filter.mp isOther).2
      (same.trans (List.mem_singleton.mp isNew))

@[simp] theorem mem_upsert [DecidableEq κ] {row other : ρ} :
    other ∈ table.upsert row ↔ other = row ∨ (other ∈ table ∧ key other ≠ key row) := by
  rw [← mem_rows, upsert, List.mem_append, List.mem_filter, List.mem_singleton,
    decide_eq_true_eq, or_comm]
  rfl

theorem find_upsert_self [DecidableEq κ] : (table.upsert row).find (key row) = some row :=
  find_eq_some.mpr ⟨mem_upsert.mpr (.inl rfl), rfl⟩

theorem find_upsert_of_ne [DecidableEq κ]
    (different : key row ≠ k) : (table.upsert row).find k = table.find k := by
  apply Option.ext
  intro other
  rw [find_eq_some, find_eq_some, mem_upsert]
  constructor
  · rintro ⟨rfl | isOld, isKey⟩
    · exact absurd isKey different
    · exact ⟨isOld.1, isKey⟩
  · rintro ⟨isOld, rfl⟩
    exact ⟨.inr ⟨isOld, different.symm⟩, rfl⟩

/-! ## One row and the others -/

/-- The rows of other keys. -/
def others [DecidableEq κ] (table : Table key) (k : κ) : List ρ :=
  table.rows.filter (key · ≠ k)

theorem filter_key [DecidableEq κ]
    (found : table.find k = some row) : table.rows.filter (key · = k) = [row] := by
  obtain ⟨isRow, isKey⟩ := find_eq_some.mp found
  have same : ∀ other ∈ table.rows.filter (key · = k), other = row := by
    intro other isOther
    obtain ⟨isOther, otherKey⟩ := List.mem_filter.mp isOther
    exact eq_of_key isOther isRow ((of_decide_eq_true otherKey).trans isKey.symm)
  have nodup : (table.rows.filter (key · = k)).Nodup :=
    (List.Nodup.of_map key table.primaryKey).filter _
  have member : row ∈ table.rows.filter (key · = k) :=
    List.mem_filter.mpr ⟨isRow, decide_eq_true isKey⟩
  rw [List.eq_replicate_of_mem same] at nodup member ⊢
  have positive := List.length_pos_of_mem member
  rw [List.length_replicate] at positive
  have one := Nat.le_antisymm (List.nodup_replicate.mp nodup) positive
  rw [one]
  rfl

theorem perm_of_find [DecidableEq κ]
    (found : table.find k = some row) : table.rows.Perm (row :: table.others k) := by
  have parts := List.filter_append_perm (fun row => decide (key row = k)) table.rows
  rw [filter_key found] at parts
  simpa [others] using parts.symm

theorem others_of_none [DecidableEq κ]
    (absent : table.find k = none) : table.others k = table.rows := by
  rw [others, List.filter_eq_self]
  intro row isRow
  exact decide_eq_true (find_eq_none.mp absent row isRow)

theorem perm_upsert [DecidableEq κ] :
    (table.upsert row).rows.Perm (row :: table.others (key row)) :=
  List.perm_append_singleton row _

theorem rows_delete_key [DecidableEq κ] : (table.delete (key · = k)).rows = table.others k := by
  rw [delete, others]
  simp only [ne_eq, decide_not]

/-! ## Other rows under the same keys -/

section

variable {σ : Type*} {newKey : σ → κ} {change : ρ → σ}

/-- Rows of another kind under the same keys. -/
def mapRows (table : Table key) (change : ρ → σ)
    (keepsKey : ∀ row, newKey (change row) = key row) : Table newKey where
  rows := table.rows.map change
  primaryKey := by
    rw [List.map_map, show newKey ∘ change = key from funext keepsKey]
    exact table.primaryKey

variable {table : Table key} (keepsKey : ∀ row, newKey (change row) = key row)

theorem find_mapRows [DecidableEq κ] :
    (table.mapRows change keepsKey).find k = (table.find k).map change := by
  rw [find, find, mapRows, List.find?_map]
  congr 2
  funext row
  exact decide_eq_decide.mpr (by rw [keepsKey])

theorem mapRows_upsert [DecidableEq κ] :
    (table.upsert row).mapRows change keepsKey =
      (table.mapRows change keepsKey).upsert (change row) := by
  apply eq_of_rows
  change (table.rows.filter (key · ≠ key row) ++ [row]).map change =
    (table.rows.map change).filter (newKey · ≠ newKey (change row)) ++ [change row]
  rw [List.map_append, List.map_singleton, List.filter_map]
  congr 3
  funext other
  exact decide_eq_decide.mpr (by rw [keepsKey, keepsKey])

theorem mapRows_delete [DecidableEq κ] :
    (table.delete (key · = k)).mapRows change keepsKey =
      (table.mapRows change keepsKey).delete (newKey · = k) := by
  apply eq_of_rows
  change (table.rows.filter fun row => !decide (key row = k)).map change =
    (table.rows.map change).filter fun row => !decide (newKey row = k)
  rw [List.filter_map]
  congr 2
  funext other
  exact congrArg not (decide_eq_decide.mpr (by rw [keepsKey]))

end

end Table

end Foundation
