import Mathlib.Data.List.Perm.Basic
import Mathlib.Data.List.Dedup
import Mathlib.Algebra.BigOperators.Group.Finset.Piecewise

/-!
# Lists seen class by class

A partial classification `cls : α → Option κ` cuts a list into one sublist per
class; elements of class `none` belong to no sublist.  Grouped algorithms (hash
joins, per-group queues, window functions) never look across classes, so two of
them agree as multisets as soon as they agree on every class.
-/

namespace Foundation

variable {α β κ ι : Type*}

section Classes

variable [DecidableEq κ]

/-- The elements of class `c`, in list order. -/
def ofClass (cls : α → Option κ) (c : κ) (items : List α) : List α :=
  items.filter fun item => cls item = some c

@[simp] theorem ofClass_nil (cls : α → Option κ) (c : κ) :
    ofClass cls c [] = [] := rfl

variable {cls : α → Option κ}

theorem ofClass_cons_of_eq {c : κ} {item : α} (isClass : cls item = some c) (items : List α) :
    ofClass cls c (item :: items) = item :: ofClass cls c items := by
  simp [ofClass, isClass]

theorem ofClass_cons_of_ne {c : κ} {item : α} (notClass : cls item ≠ some c) (items : List α) :
    ofClass cls c (item :: items) = ofClass cls c items := by
  simp [ofClass, notClass]

variable {items : List α}

@[simp] theorem mem_ofClass {c : κ} {item : α} :
    item ∈ ofClass cls c items ↔ item ∈ items ∧ cls item = some c := by
  simp [ofClass]

theorem ofClass_append (cls : α → Option κ) (c : κ) (left right : List α) :
    ofClass cls c (left ++ right) = ofClass cls c left ++ ofClass cls c right := by
  simp [ofClass]

theorem ofClass_map (cls : β → Option κ) (c : κ) (image : α → β) (items : List α) :
    ofClass cls c (items.map image) =
      (ofClass (fun item => cls (image item)) c items).map image := by
  simp only [ofClass, List.filter_map]
  rfl

theorem ofClass_congr {cls other : α → Option κ} {c : κ}
    (agree : ∀ item ∈ items, cls item = other item) :
    ofClass cls c items = ofClass other c items := by
  apply List.filter_congr
  intro item membership
  rw [agree item membership]

theorem ofClass_iff_congr {other : α → Option ι} [DecidableEq ι] {c : κ} {d : ι}
    (agree : ∀ item ∈ items, (cls item = some c ↔ other item = some d)) :
    ofClass cls c items = ofClass other d items := by
  apply List.filter_congr
  intro item membership
  exact decide_eq_decide.mpr (agree item membership)

theorem ofClass_eq_nil {c : κ}
    (unused : ∀ item ∈ items, cls item ≠ some c) : ofClass cls c items = [] := by
  simpa [ofClass] using unused

theorem ofClass_filter_comm (cls : α → Option κ) (c : κ) (keep : α → Bool)
    (items : List α) :
    ofClass cls c (items.filter keep) = (ofClass cls c items).filter keep := by
  simp only [ofClass, List.filter_filter, Bool.and_comm]

theorem ofClass_skip (cls : α → Option κ) (c : κ) (skip : α → Prop) [DecidablePred skip]
    (items : List α) :
    ofClass (fun item => if skip item then none else cls item) c items =
      ofClass cls c (items.filter (¬skip ·)) := by
  rw [ofClass, ofClass, List.filter_filter]
  apply List.filter_congr
  intro item _
  by_cases skipped : skip item <;> simp [skipped]

theorem map_ofClass_labelled {γ : Type*} (cls : α → Option κ) (label : α → γ) (c : κ)
    (items : List α) :
    (ofClass cls c items).map (fun item => (cls item, label item)) =
      ((ofClass cls c items).map label).map (Prod.mk (some c)) := by
  rw [List.map_map]
  apply List.map_congr_left
  intro item inClass
  rw [(mem_ofClass.mp inClass).2]
  rfl

theorem ofClass_perm (cls : α → Option κ) (c : κ) {left right : List α}
    (perm : left.Perm right) :
    (ofClass cls c left).Perm (ofClass cls c right) :=
  perm.filter _

theorem ofClass_nodup {c : κ} (nodup : items.Nodup) : (ofClass cls c items).Nodup :=
  nodup.filter _

/-- How often a class occurs is the size of the class. -/
theorem count_filterMap_eq_length_ofClass [BEq κ] [LawfulBEq κ] (cls : α → Option κ) (c : κ)
    (items : List α) :
    (items.filterMap cls).count c = (ofClass cls c items).length := by
  induction items with
  | nil => simp
  | cons item rest ih =>
    cases labelled : cls item with
    | none =>
      have notClass : cls item ≠ some c := by simp [labelled]
      rw [List.filterMap_cons_none labelled, ofClass_cons_of_ne notClass, ih]
    | some label =>
      rw [List.filterMap_cons_some labelled]
      by_cases same : label = c
      · subst same
        rw [ofClass_cons_of_eq labelled, List.count_cons_self, ih, List.length_cons]
      · have notClass : cls item ≠ some c := by simpa [labelled] using same
        rw [ofClass_cons_of_ne notClass, List.count_cons_of_ne same, ih]

/-- Fully classified lists that agree on every class agree as multisets. -/
theorem perm_of_ofClass_perm (cls : α → Option κ) {left right : List α}
    (leftClassified : ∀ item ∈ left, (cls item).isSome)
    (rightClassified : ∀ item ∈ right, (cls item).isSome)
    (classes : ∀ c, (ofClass cls c left).Perm (ofClass cls c right)) :
    left.Perm right := by
  classical
  have countEq : ∀ (items : List α) (item : α) (c : κ), cls item = some c →
      (ofClass cls c items).count item = items.count item := by
    intro items item c isClass
    exact List.count_filter (by simp [isClass])
  rw [List.perm_iff_count]
  intro item
  cases labelled : cls item with
  | none =>
    have absentLeft : item ∉ left := fun membership => by
      simpa [labelled] using leftClassified item membership
    have absentRight : item ∉ right := fun membership => by
      simpa [labelled] using rightClassified item membership
    rw [List.count_eq_zero_of_not_mem absentLeft,
      List.count_eq_zero_of_not_mem absentRight]
  | some c =>
    rw [← countEq left item c labelled, ← countEq right item c labelled]
    exact (classes c).count_eq item

/-- A fully classified list is duplicate-free when every class is. -/
theorem nodup_of_ofClass (cls : α → Option κ) (classified : ∀ item ∈ items, (cls item).isSome)
    (classes : ∀ c, (ofClass cls c items).Nodup) : items.Nodup := by
  classical
  rw [List.nodup_iff_count_le_one]
  intro item
  by_cases membership : item ∈ items
  · obtain ⟨c, isClass⟩ := Option.isSome_iff_exists.mp (classified item membership)
    have countEq : (ofClass cls c items).count item = items.count item :=
      List.count_filter (by simp [isClass])
    rw [← countEq]
    exact List.nodup_iff_count_le_one.mp (classes c) item
  · rw [List.count_eq_zero_of_not_mem membership]
    exact Nat.zero_le 1

/-- The length of a fully classified list is the sum of its class sizes, over
any finite set of classes that contains those in use. -/
theorem length_eq_sum_ofClass (cls : α → Option κ) (labels : Finset κ)
    (items : List α)
    (covered : ∀ item ∈ items, ∃ c ∈ labels, cls item = some c) :
    items.length = ∑ c ∈ labels, (ofClass cls c items).length := by
  induction items with
  | nil => simp
  | cons item rest ih =>
    obtain ⟨c, inLabels, isClass⟩ := covered item (by simp)
    have headOnly : ∀ label, (ofClass cls label (item :: rest)).length =
        (ofClass cls label rest).length + if label = c then 1 else 0 := by
      intro label
      by_cases same : label = c
      · subst same
        simp [ofClass_cons_of_eq isClass]
      · have notClass : cls item ≠ some label := by
          rw [isClass]
          simpa using Ne.symm same
        simp [ofClass_cons_of_ne notClass, same]
    have restCovered : ∀ other ∈ rest, ∃ label ∈ labels, cls other = some label :=
      fun other membership => covered other (by simp [membership])
    simp only [headOnly, Finset.sum_add_distrib, Finset.sum_ite_eq', inLabels,
      if_true, List.length_cons, ← ih restCovered]

end Classes

end Foundation
