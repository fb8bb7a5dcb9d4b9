import Mathlib.Data.List.AList
import MailSwiftSync.Foundation.Classes

/-!
# Hash maps of queues

A map from keys to queues of values, as programs build it with
`entry(key).or_default().push_back(value)` and consume it with
`get_mut(key).and_then(pop_front)`.  Filling such a map from a list splits the
list by class, so the contents of a bucket are read off with `ofClass`.
-/

namespace Foundation

variable {α κ ν : Type*} [DecidableEq κ]

/-- A map from keys to queues; the list order is the map's iteration order. -/
abbrev Buckets (κ ν : Type*) : Type _ := AList fun _ : κ => List ν

namespace Buckets

/-- The queue stored at a key, empty when the key is absent. -/
def get (buckets : Buckets κ ν) (key : κ) : List ν :=
  (buckets.lookup key).getD []

/-- `entry(key).or_default().push_back(value)`. -/
def push (buckets : Buckets κ ν) (key : κ) (value : ν) : Buckets κ ν :=
  buckets.insert key (buckets.get key ++ [value])

/-- `get_mut(key).and_then(pop_front)`, with the map that remains. -/
def popFront (buckets : Buckets κ ν) (key : κ) : Option (ν × Buckets κ ν) :=
  match buckets.get key with
  | [] => none
  | value :: rest => some (value, buckets.insert key rest)

/-- Put an item into the bucket of its class, if it has one. -/
def file (cls : α → Option κ) (buckets : Buckets κ α) (item : α) : Buckets κ α :=
  match cls item with
  | none => buckets
  | some key => buckets.push key item

/-- Sort every item of a list into the bucket of its class. -/
def index (cls : α → Option κ) (items : List α) : Buckets κ α :=
  items.foldl (file cls) ∅

@[simp] theorem get_empty (key : κ) : get (∅ : Buckets κ ν) key = [] := by
  simp [get]

@[simp] theorem get_insert_self (buckets : Buckets κ ν) (key : κ) (queue : List ν) :
    get (buckets.insert key queue) key = queue := by
  simp [get]

theorem get_insert_of_ne (buckets : Buckets κ ν) {key other : κ} (queue : List ν)
    (different : other ≠ key) :
    get (buckets.insert key queue) other = buckets.get other := by
  simp [get, AList.lookup_insert_ne different]

theorem get_insert (buckets : Buckets κ ν) (key other : κ) (queue : List ν) :
    get (buckets.insert key queue) other =
      if other = key then queue else buckets.get other := by
  by_cases same : other = key
  · subst same
    simp
  · simp [same, get_insert_of_ne buckets queue same]

theorem get_push (buckets : Buckets κ ν) (key other : κ) (value : ν) :
    get (buckets.push key value) other =
      buckets.get other ++ if other = key then [value] else [] := by
  by_cases same : other = key
  · subst same
    simp [push]
  · simp [push, same, get_insert_of_ne buckets _ same]

theorem mem_push (buckets : Buckets κ ν) (key other : κ) (value : ν) :
    other ∈ buckets.push key value ↔ other = key ∨ other ∈ buckets := by
  simp [push]

theorem get_erase (buckets : Buckets κ ν) (key other : κ) :
    get (buckets.erase key) other = if other = key then [] else buckets.get other := by
  by_cases same : other = key
  · subst same
    simp [get]
  · simp [get, same, AList.lookup_erase_ne same]

theorem get_file (cls : α → Option κ) (buckets : Buckets κ α) (item : α) (key : κ) :
    get (file cls buckets item) key = buckets.get key ++ ofClass cls key [item] := by
  cases labelled : cls item with
  | none => simp [file, labelled, ofClass]
  | some label =>
    simp only [file, labelled, get_push, ofClass, Option.some.injEq, List.filter_cons,
      List.filter_nil, decide_eq_true_eq, @eq_comm _ label key]

theorem mem_file (cls : α → Option κ) (buckets : Buckets κ α) (item : α) (key : κ) :
    key ∈ file cls buckets item ↔ key ∈ buckets ∨ cls item = some key := by
  cases labelled : cls item with
  | none => simp [file, labelled]
  | some label =>
    simp only [file, labelled, mem_push, Option.some.injEq]
    rw [or_comm, @eq_comm _ label key]

theorem index_congr {cls : α → Option κ} (other : α → Option κ) {items : List α}
    (agree : ∀ item ∈ items, cls item = other item) :
    index cls items = index other items := by
  apply List.foldl_ext
  intro buckets item membership
  rw [file, file, agree item membership]

/-- A filled map holds, at every key, the items of that class in list order. -/
@[simp] theorem get_index (cls : α → Option κ) (items : List α) (key : κ) :
    (index cls items).get key = ofClass cls key items := by
  have general : ∀ start : Buckets κ α, get (items.foldl (file cls) start) key =
      start.get key ++ ofClass cls key items := by
    induction items with
    | nil => simp
    | cons item rest ih =>
      intro start
      rw [List.foldl_cons, ih, get_file, List.append_assoc, ← ofClass_append]
      rfl
  simpa [index] using general ∅

/-- The keys of a filled map are the classes in use. -/
theorem mem_index (cls : α → Option κ) (items : List α) (key : κ) :
    key ∈ index cls items ↔ ∃ item ∈ items, cls item = some key := by
  have general : ∀ start : Buckets κ α, key ∈ items.foldl (file cls) start ↔
      key ∈ start ∨ ∃ item ∈ items, cls item = some key := by
    induction items with
    | nil => simp
    | cons item rest ih =>
      intro start
      simp [ih, mem_file, or_assoc]
  simpa [index] using general ∅

/-- Sorting the queues of a map in place leaves its keys as they are. -/
def mapQueues (arrange : List ν → List ν) (buckets : Buckets κ ν) : Buckets κ ν :=
  ⟨buckets.entries.map fun entry => ⟨entry.1, arrange entry.2⟩, by
    have keysEqual : (buckets.entries.map fun entry =>
        (⟨entry.1, arrange entry.2⟩ : Sigma fun _ : κ => List ν)).keys =
        buckets.entries.keys := by
      simp [List.keys, Function.comp_def]
    rw [List.NodupKeys, keysEqual]
    exact buckets.nodupKeys⟩

omit [DecidableEq κ] in
@[simp] theorem keys_mapQueues (arrange : List ν → List ν) (buckets : Buckets κ ν) :
    (buckets.mapQueues arrange).keys = buckets.keys := by
  simp [mapQueues, AList.keys, List.keys, Function.comp_def]

theorem get_mapQueues {arrange : List ν → List ν} (arrangeNil : arrange [] = [])
    (buckets : Buckets κ ν) (key : κ) :
    (buckets.mapQueues arrange).get key = arrange (buckets.get key) := by
  have lookupMap : ∀ entries : List (Sigma fun _ : κ => List ν),
      (List.dlookup key (entries.map fun entry =>
        (⟨entry.1, arrange entry.2⟩ : Sigma fun _ : κ => List ν))).getD [] =
        arrange ((List.dlookup key entries).getD []) := by
    intro entries
    induction entries with
    | nil => simp [arrangeNil]
    | cons entry rest ih =>
      obtain ⟨label, queue⟩ := entry
      by_cases same : key = label
      · subst same
        simp
      · have skip : ∀ (other : List ν) (tail : List (Sigma fun _ : κ => List ν)),
            List.dlookup key (⟨label, other⟩ :: tail) = List.dlookup key tail :=
          fun other tail => List.dlookup_cons_ne tail ⟨label, other⟩ same
        simpa [skip] using ih
  exact lookupMap buckets.entries

end Buckets

end Foundation
