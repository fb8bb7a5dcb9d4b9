import Mathlib.Data.List.Perm.Basic
import Mathlib.Data.List.Sort
import MailSwiftSync.Foundation.Table

/-!
# Queues of the batch scheduler

Ready tasks wait in one queue per tenant, served round-robin.  Tasks that have to wait for
a time are parked in a timer queue.  Both keep what is put into them until it is taken out.
-/

namespace MailSwiftSync

open Foundation

/-! ## Fair queues -/

/-- The items of one tenant. -/
structure TenantQueue (α : Type) where
  tenant : String
  items : List α

/-- Round-robin queues keyed by tenant. -/
structure FairQueue (α : Type) where
  order : List String := []
  queues : Table (TenantQueue.tenant (α := α)) := .empty
  len : Nat := 0

namespace FairQueue

variable {α : Type}

/-- Queue an item behind its tenant's others or ahead of them. -/
def push (queue : FairQueue α) (tenant : String) (item : α) (front : Bool) : FairQueue α :=
  let items := (queue.queues.find tenant).elim [] (·.items)
  { order := if (queue.queues.find tenant).isSome then queue.order else queue.order ++ [tenant]
    queues := queue.queues.upsert
      { tenant, items := if front then item :: items else items ++ [item] }
    len := queue.len + 1 }

/-- Serve the oldest item of the next tenant and rotate the tenant to the back. -/
def popNext (queue : FairQueue α) : Option α × FairQueue α :=
  match queue.order with
  | [] => (none, queue)
  | tenant :: order =>
    match queue.queues.find tenant with
    | none => (none, { queue with order })
    | some { items := [], .. } =>
      (none, { queue with order, queues := queue.queues.delete (·.tenant = tenant) })
    | some { items := [item], .. } =>
      (some item, {
        order
        queues := queue.queues.delete (·.tenant = tenant)
        len := queue.len - 1 })
    | some { items := item :: rest, .. } =>
      (some item, {
        order := order ++ [tenant]
        queues := queue.queues.upsert { tenant, items := rest }
        len := queue.len - 1 })

/-- The items in a queue; also what draining it yields. -/
def items (queue : FairQueue α) : List α :=
  queue.queues.rows.flatMap (·.items)

/-- The tenants in the order are those with items. -/
structure WellFormed (queue : FairQueue α) : Prop where
  tenants : queue.order.Perm (queue.queues.rows.map (·.tenant))
  occupied : ∀ row ∈ queue.queues, row.items ≠ []
  counted : queue.len = queue.items.length

theorem wellFormed_empty : WellFormed (α := α) {} where
  tenants := .refl _
  occupied := fun row isRow => absurd isRow (Table.not_mem_empty row)
  counted := rfl

variable {queue : FairQueue α} {tenant : String} {item : α} {front : Bool}

/-- The items of the other tenants. -/
def itemsOfOthers (queue : FairQueue α) (tenant : String) : List α :=
  (queue.queues.others tenant).flatMap (·.items)

theorem items_of_find {row : TenantQueue α} (found : queue.queues.find tenant = some row) :
    queue.items.Perm (row.items ++ queue.itemsOfOthers tenant) :=
  (Table.perm_of_find found).flatMap_right _

theorem items_upsert (row : TenantQueue α) (order : List String) (len : Nat) :
    (items { order, queues := queue.queues.upsert row, len }).Perm
      (row.items ++ queue.itemsOfOthers row.tenant) :=
  Table.perm_upsert.flatMap_right _

theorem tenants_upsert (row : TenantQueue α) :
    ((queue.queues.upsert row).rows.map (·.tenant)).Perm
      (row.tenant :: (queue.queues.others row.tenant).map (·.tenant)) :=
  Table.perm_upsert.map TenantQueue.tenant

theorem tenants_of_find {row : TenantQueue α} (found : queue.queues.find tenant = some row) :
    (queue.queues.rows.map (·.tenant)).Perm
      (tenant :: (queue.queues.others tenant).map (·.tenant)) := by
  have parts := (Table.perm_of_find found).map TenantQueue.tenant
  rw [List.map_cons, (Table.find_eq_some.mp found).2] at parts
  exact parts

theorem items_push : (queue.push tenant item front).items.Perm (item :: queue.items) := by
  have added : ∀ old : List α,
      (if front then item :: old else old ++ [item]).Perm (item :: old) := by
    intro old
    split
    · exact .refl _
    · exact List.perm_append_singleton item old
  refine (items_upsert _ _ _).trans ?_
  cases found : queue.queues.find tenant with
  | some row =>
    refine ((added row.items).append_right _).trans ?_
    exact .cons item (items_of_find found).symm
  | none =>
    refine ((added []).append_right _).trans (.cons item ?_)
    rw [itemsOfOthers, Table.others_of_none found]
    exact .refl _

theorem WellFormed.push (wellFormed : queue.WellFormed) :
    (queue.push tenant item front).WellFormed where
  tenants := by
    refine .trans ?_ (tenants_upsert _).symm
    rw [FairQueue.push]
    cases found : queue.queues.find tenant with
    | some row => exact wellFormed.tenants.trans (tenants_of_find found)
    | none =>
      rw [Table.others_of_none found]
      exact (List.perm_append_singleton tenant _).trans (.cons tenant wellFormed.tenants)
  occupied := by
    intro row isRow
    cases Table.mem_upsert.mp isRow with
    | inl isNew =>
      rw [isNew]
      cases front <;> simp
    | inr isOld => exact wellFormed.occupied row isOld.1
  counted := by
    rw [items_push.length_eq, List.length_cons, ← wellFormed.counted]
    rfl

theorem items_delete (order : List String) (len : Nat) :
    items { order, queues := queue.queues.delete (·.tenant = tenant), len } =
      queue.itemsOfOthers tenant := by
  rw [items, Table.rows_delete_key]
  rfl

/-- The last item of a tenant is gone. -/
theorem WellFormed.delete (wellFormed : queue.WellFormed) {order : List String}
    (remaining : order.Perm ((queue.queues.others tenant).map (·.tenant))) :
    WellFormed {
      order
      queues := queue.queues.delete (·.tenant = tenant)
      len := (queue.itemsOfOthers tenant).length } where
  tenants := by
    rw [Table.rows_delete_key]
    exact remaining
  occupied := fun row isRow => wellFormed.occupied row (Table.mem_delete.mp isRow).1
  counted := by rw [items_delete]

/-- A tenant with further items is at the back. -/
theorem WellFormed.rotate (wellFormed : queue.WellFormed) {order : List String}
    (remaining : order.Perm ((queue.queues.others tenant).map (·.tenant))) {rest : List α}
    (more : rest ≠ []) :
    WellFormed {
      order := order ++ [tenant]
      queues := queue.queues.upsert { tenant, items := rest }
      len := rest.length + (queue.itemsOfOthers tenant).length } where
  tenants := by
    refine .trans ?_ (tenants_upsert _).symm
    exact (List.perm_append_singleton tenant order).trans (.cons tenant remaining)
  occupied := by
    intro row isRow
    cases Table.mem_upsert.mp isRow with
    | inl isNew =>
      rw [isNew]
      exact more
    | inr isOld => exact wellFormed.occupied row isOld.1
  counted := by rw [(items_upsert _ _ _).length_eq, List.length_append]

theorem WellFormed.find_next (wellFormed : queue.WellFormed) {order : List String}
    (ordered : queue.order = tenant :: order) :
    ∃ row, queue.queues.find tenant = some row ∧
      order.Perm ((queue.queues.others tenant).map (·.tenant)) := by
  have tenants := wellFormed.tenants
  rw [ordered] at tenants
  obtain ⟨row, isRow, isTenant⟩ := List.mem_map.mp (tenants.subset List.mem_cons_self)
  have found : queue.queues.find tenant = some row := Table.find_eq_some.mpr ⟨isRow, isTenant⟩
  exact ⟨row, found, (tenants.trans (tenants_of_find found)).cons_inv⟩

/-- Taking an item out takes nothing else out, and fails only on an empty queue. -/
theorem WellFormed.popNext (wellFormed : queue.WellFormed) :
    (queue.popNext = (none, queue) ∧ queue.items = []) ∨
      ∃ item rest, queue.popNext = (some item, rest) ∧ rest.WellFormed ∧
        queue.items.Perm (item :: rest.items) := by
  cases ordered : queue.order with
  | nil =>
    left
    have tenants := wellFormed.tenants
    rw [ordered] at tenants
    have empty : queue.queues.rows = [] := List.map_eq_nil_iff.mp tenants.symm.eq_nil
    exact ⟨by rw [FairQueue.popNext, ordered], by rw [items, empty]; rfl⟩
  | cons tenant order =>
    right
    obtain ⟨⟨name, stored⟩, found, remaining⟩ := wellFormed.find_next ordered
    have parts : queue.items.Perm (stored ++ queue.itemsOfOthers tenant) := items_of_find found
    cases stored with
    | nil => exact absurd rfl (wellFormed.occupied _ (Table.find_eq_some.mp found).1)
    | cons item rest =>
      have length : queue.len - 1 = rest.length + (queue.itemsOfOthers tenant).length := by
        rw [wellFormed.counted, parts.length_eq, List.length_append, List.length_cons]
        omega
      cases rest with
      | nil =>
        refine ⟨item, _, by simp only [FairQueue.popNext, ordered, found]; rfl, ?_, ?_⟩
        · rw [length, List.length_nil, Nat.zero_add]
          exact wellFormed.delete remaining
        · rw [items_delete]
          exact parts
      | cons second rest =>
        refine ⟨item, _, by simp only [FairQueue.popNext, ordered, found]; rfl, ?_, ?_⟩
        · rw [length]
          exact wellFormed.rotate remaining (List.cons_ne_nil second rest)
        · exact parts.trans (.cons item (items_upsert ⟨tenant, second :: rest⟩ _ _).symm)

end FairQueue

/-! ## Timers -/

/-- A parked item and the number it is parked under. -/
structure Parked (α : Type) where
  sequence : Nat
  item : α

/-- Items parked until a time, earliest first.  The heap is a list in the order in which
its entries are popped. -/
structure TimerQueue (α : Type) where
  heap : List (Nat × Nat) := []
  tasks : Table (Parked.sequence (α := α)) := .empty
  sequence : Nat := 0

/-- The earlier time first, and the item parked first at the same time. -/
def dueBefore (first second : Nat × Nat) : Prop :=
  first.1 < second.1 ∨ first.1 = second.1 ∧ first.2 ≤ second.2

instance : DecidableRel dueBefore :=
  fun _ _ => inferInstanceAs (Decidable (_ ∨ _))

namespace TimerQueue

variable {α : Type}

def len (timers : TimerQueue α) : Nat := timers.tasks.rows.length

def park (timers : TimerQueue α) (time : Nat) (item : α) : TimerQueue α :=
  let sequence := timers.sequence + 1
  { heap := timers.heap.orderedInsert dueBefore (time, sequence)
    tasks := timers.tasks.upsert { sequence, item }
    sequence }

/-- Take out the first item that is due. -/
def popDue (timers : TimerQueue α) (now : Nat) : Option α × TimerQueue α :=
  match timers.heap with
  | [] => (none, timers)
  | (time, sequence) :: heap =>
    if now < time then (none, timers)
    else
      ((timers.tasks.find sequence).map (·.item),
        { timers with heap, tasks := timers.tasks.delete (·.sequence = sequence) })

/-- The items in a timer queue; also what draining it yields. -/
def items (timers : TimerQueue α) : List α :=
  timers.tasks.rows.map (·.item)

/-- The numbers on the heap are those of the parked items. -/
structure WellFormed (timers : TimerQueue α) : Prop where
  sequences : (timers.heap.map Prod.snd).Perm (timers.tasks.rows.map (·.sequence))
  numbered : ∀ parked ∈ timers.tasks, parked.sequence ≤ timers.sequence

theorem wellFormed_empty : WellFormed (α := α) {} where
  sequences := .refl _
  numbered := fun parked isParked => absurd isParked (Table.not_mem_empty parked)

variable {timers : TimerQueue α} {time : Nat} {item : α}

theorem length_items : timers.items.length = timers.len :=
  List.length_map _

theorem WellFormed.find_fresh (wellFormed : timers.WellFormed) :
    timers.tasks.find (timers.sequence + 1) = none := by
  rw [Table.find_eq_none]
  intro parked isParked same
  have bound := wellFormed.numbered parked isParked
  omega

theorem WellFormed.rows_park (wellFormed : timers.WellFormed) :
    (timers.park time item).tasks.rows.Perm
      (⟨timers.sequence + 1, item⟩ :: timers.tasks.rows) := by
  refine Table.perm_upsert.trans ?_
  rw [Table.others_of_none wellFormed.find_fresh]

theorem WellFormed.items_park (wellFormed : timers.WellFormed) :
    (timers.park time item).items.Perm (item :: timers.items) :=
  wellFormed.rows_park.map Parked.item

theorem WellFormed.park (wellFormed : timers.WellFormed) :
    (timers.park time item).WellFormed where
  sequences := by
    refine ((List.perm_orderedInsert dueBefore _ _).map Prod.snd).trans ?_
    refine .trans ?_ (wellFormed.rows_park.map Parked.sequence).symm
    exact .cons _ wellFormed.sequences
  numbered := by
    intro parked isParked
    cases Table.mem_upsert.mp isParked with
    | inl isNew =>
      rw [isNew]
      exact Nat.le_refl _
    | inr isOld => exact (wellFormed.numbered parked isOld.1).trans (Nat.le_succ _)

/-- An item is taken out alone, or nothing changes. -/
theorem WellFormed.popDue (wellFormed : timers.WellFormed) (now : Nat) :
    timers.popDue now = (none, timers) ∨
      ∃ item rest, timers.popDue now = (some item, rest) ∧ rest.WellFormed ∧
        timers.items.Perm (item :: rest.items) := by
  have sequences := wellFormed.sequences
  cases heaped : timers.heap with
  | nil =>
    left
    rw [TimerQueue.popDue, heaped]
  | cons entry heap =>
    obtain ⟨time, sequence⟩ := entry
    by_cases early : now < time
    · left
      rw [TimerQueue.popDue, heaped]
      exact if_pos early
    · right
      rw [heaped] at sequences
      obtain ⟨⟨number, item⟩, isParked, isSequence⟩ :=
        List.mem_map.mp (sequences.subset List.mem_cons_self)
      have found : timers.tasks.find sequence = some ⟨number, item⟩ :=
        Table.find_eq_some.mpr ⟨isParked, isSequence⟩
      have parts := Table.perm_of_find found
      refine ⟨item, { timers with heap, tasks := timers.tasks.delete (·.sequence = sequence) },
        by simp only [TimerQueue.popDue, heaped, if_neg early, found]; rfl, ⟨?_, ?_⟩, ?_⟩
      · rw [Table.rows_delete_key]
        have numbers := parts.map Parked.sequence
        rw [List.map_cons, isSequence] at numbers
        exact (sequences.trans numbers).cons_inv
      · exact fun parked isOther => wellFormed.numbered parked (Table.mem_delete.mp isOther).1
      · have split := parts.map Parked.item
        rw [List.map_cons, ← Table.rows_delete_key] at split
        exact split

end TimerQueue

end MailSwiftSync
