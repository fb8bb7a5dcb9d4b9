import Mathlib.Data.Finset.Card
import Mathlib.Data.Finset.Prod
import Mathlib.Order.Bounds.Basic
import Mathlib.Order.Interval.Finset.Nat

/-!
# Tables

A table is a list of rows.  The operations grow it to the left, to the right and below; each of
them is described by what it does to a table with a given entry at each place.  The box of some
places is the smallest range of rows and columns that contains them.
-/

namespace Foundation

variable {α : Type*}

/-! ## Tables with given entries -/

/-- The table of a height and a width with the given entries. -/
def tabulate (height width : Nat) (entry : Nat → Nat → α) : List (List α) :=
  (List.range height).map fun i => (List.range width).map (entry i)

/-- The entry of a table at a place. -/
def entryAt (rows : List (List α)) (i j : Nat) : Option α := rows[i]?.bind (·[j]?)

theorem tabulate_congr {height width : Nat} {first second : Nat → Nat → α}
    (same : ∀ i < height, ∀ j < width, first i j = second i j) :
    tabulate height width first = tabulate height width second := by
  apply List.map_congr_left
  intro i inHeight
  apply List.map_congr_left
  intro j inWidth
  exact same i (List.mem_range.mp inHeight) j (List.mem_range.mp inWidth)

@[simp] theorem length_tabulate (height width : Nat) (entry : Nat → Nat → α) :
    (tabulate height width entry).length = height := by
  simp [tabulate]

theorem length_of_mem_tabulate {height width : Nat} {entry : Nat → Nat → α} {row : List α}
    (isRow : row ∈ tabulate height width entry) : row.length = width := by
  obtain ⟨i, -, rfl⟩ := List.mem_map.mp isRow
  simp

theorem getElem?_tabulate {height : Nat} (width : Nat) (entry : Nat → Nat → α) {i : Nat}
    (inHeight : i < height) :
    (tabulate height width entry)[i]? = some ((List.range width).map (entry i)) := by
  simp [tabulate, inHeight]

theorem entryAt_tabulate (height width : Nat) (entry : Nat → Nat → α) (i j : Nat) :
    entryAt (tabulate height width entry) i j =
      if i < height ∧ j < width then some (entry i j) else none := by
  by_cases inHeight : i < height
  · rw [entryAt, getElem?_tabulate width entry inHeight]
    by_cases inWidth : j < width
    · simp [inHeight, inWidth]
    · simp [inWidth]
  · simp [entryAt, tabulate, inHeight]

/-! ## Growing a table -/

/-- Put blank columns before the others. -/
def insertColumns (blank : α) (count : Nat) (rows : List (List α)) : List (List α) :=
  rows.map (List.replicate count blank ++ ·)

/-- Cut or fill up each row. -/
def resizeColumns (blank : α) (width : Nat) (rows : List (List α)) : List (List α) :=
  rows.map fun row => row.take width ++ List.replicate (width - row.length) blank

/-- Put blank rows after the others until there are enough of them. -/
def pushRows (blank : α) (height width : Nat) (rows : List (List α)) : List (List α) :=
  rows ++ List.replicate (height - rows.length) (List.replicate width blank)

/-- Replace an entry; a place outside of the table has none. -/
def setEntry (rows : List (List α)) (i j : Nat) (value : α) : Option (List (List α)) :=
  rows[i]?.bind fun row => if j < row.length then some (rows.set i (row.set j value)) else none

theorem insertColumns_tabulate (blank : α) (count height width : Nat) (entry : Nat → Nat → α) :
    insertColumns blank count (tabulate height width entry) =
      tabulate height (count + width)
        fun i j => if j < count then blank else entry i (j - count) := by
  rw [insertColumns, tabulate, tabulate, List.map_map]
  apply List.map_congr_left
  intro i _
  apply List.ext_getElem
  · simp
  · intro j inFirst inSecond
    by_cases inserted : j < count
    · simp [inserted]
    · simp [inserted, List.getElem_append]

theorem resizeColumns_tabulate (blank : α) {width wider : Nat} (grows : width ≤ wider)
    (height : Nat) (entry : Nat → Nat → α) :
    resizeColumns blank wider (tabulate height width entry) =
      tabulate height wider fun i j => if j < width then entry i j else blank := by
  rw [resizeColumns, tabulate, tabulate, List.map_map]
  apply List.map_congr_left
  intro i _
  apply List.ext_getElem
  · simp [grows]
  · intro j inFirst inSecond
    have taken : ((List.range width).map (entry i)).take wider =
        (List.range width).map (entry i) := by
      rw [List.take_of_length_le]
      simpa using grows
    by_cases inWidth : j < width
    · simp [taken, inWidth]
    · simp [taken, inWidth, List.getElem_append]

theorem pushRows_tabulate (blank : α) {height higher : Nat} (grows : height ≤ higher)
    (width : Nat) (entry : Nat → Nat → α) :
    pushRows blank higher width (tabulate height width entry) =
      tabulate higher width fun i j => if i < height then entry i j else blank := by
  apply List.ext_getElem
  · simp [pushRows, grows]
  · intro i inFirst inSecond
    by_cases inHeight : i < height
    · simp [pushRows, tabulate, inHeight]
    · have blankRow : (List.range width).map (fun _ => blank) = List.replicate width blank := by
        simp
      simp [pushRows, tabulate, inHeight, List.getElem_append]

theorem setEntry_tabulate {height width i j : Nat} (inHeight : i < height) (inWidth : j < width)
    (entry : Nat → Nat → α) (value : α) :
    setEntry (tabulate height width entry) i j value = some (tabulate height width
      fun i' j' => if i' = i ∧ j' = j then value else entry i' j') := by
  rw [setEntry, getElem?_tabulate width entry inHeight, Option.bind_some,
    if_pos (by simpa using inWidth)]
  congr 1
  apply List.ext_getElem
  · simp
  · intro i' inFirst inSecond
    apply List.ext_getElem
    · by_cases sameRow : i = i'
      · simp [tabulate, sameRow]
      · simp [tabulate, sameRow]
    · intro j' inFirst inSecond
      by_cases sameRow : i = i'
      · by_cases sameColumn : j = j'
        · simp [tabulate, sameRow, sameColumn]
        · simp [tabulate, sameRow, sameColumn, Ne.symm sameColumn]
      · simp [tabulate, sameRow, Ne.symm sameRow]

/-! ## Boxes -/

/-- A range of rows and columns, both ends included. -/
structure Box where
  firstRow : Nat
  lastRow : Nat
  firstColumn : Nat
  lastColumn : Nat
deriving DecidableEq, Repr

namespace Box

def height (box : Box) : Nat := box.lastRow - box.firstRow + 1

def width (box : Box) : Nat := box.lastColumn - box.firstColumn + 1

def area (box : Box) : Nat := box.width * box.height

/-- The box of one place. -/
def single (place : Nat × Nat) : Box := ⟨place.1, place.1, place.2, place.2⟩

/-- The box with one place more. -/
def extend (box : Box) (place : Nat × Nat) : Box :=
  { firstRow := min box.firstRow place.1
    lastRow := max box.lastRow place.1
    firstColumn := min box.firstColumn place.2
    lastColumn := max box.lastColumn place.2 }

/-- The box is the smallest one around some places. -/
structure Bounds (box : Box) (places : List (Nat × Nat)) : Prop where
  firstRow : IsLeast {i | ∃ place ∈ places, place.1 = i} box.firstRow
  lastRow : IsGreatest {i | ∃ place ∈ places, place.1 = i} box.lastRow
  firstColumn : IsLeast {j | ∃ place ∈ places, place.2 = j} box.firstColumn
  lastColumn : IsGreatest {j | ∃ place ∈ places, place.2 = j} box.lastColumn

theorem bounds_single (place : Nat × Nat) : (single place).Bounds [place] := by
  constructor <;> simp [single]

/-- The values of a list with one more at its end. -/
theorem values_append (value : Nat × Nat → Nat) (places : List (Nat × Nat))
    (place : Nat × Nat) :
    {i | ∃ other ∈ places ++ [place], value other = i} =
      insert (value place) {i | ∃ other ∈ places, value other = i} := by
  ext i
  simp only [List.mem_append, List.mem_singleton, Set.mem_ofPred_eq, Set.mem_insert_iff]
  constructor
  · rintro ⟨other, isMember | rfl, rfl⟩
    · exact .inr ⟨other, isMember, rfl⟩
    · exact .inl rfl
  · rintro (rfl | ⟨other, isMember, rfl⟩)
    · exact ⟨place, .inr rfl, rfl⟩
    · exact ⟨other, .inl isMember, rfl⟩

theorem Bounds.extend {box : Box} {places : List (Nat × Nat)} (bounds : box.Bounds places)
    (place : Nat × Nat) : (box.extend place).Bounds (places ++ [place]) := by
  have firstRow := bounds.firstRow.insert place.1
  have lastRow := bounds.lastRow.insert place.1
  have firstColumn := bounds.firstColumn.insert place.2
  have lastColumn := bounds.lastColumn.insert place.2
  rw [min_comm] at firstRow firstColumn
  rw [max_comm] at lastRow lastColumn
  constructor
  · rw [values_append Prod.fst]
    exact firstRow
  · rw [values_append Prod.fst]
    exact lastRow
  · rw [values_append Prod.snd]
    exact firstColumn
  · rw [values_append Prod.snd]
    exact lastColumn

namespace Bounds

variable {box : Box} {places : List (Nat × Nat)} {place : Nat × Nat}

theorem firstRow_le (bounds : box.Bounds places) (isMember : place ∈ places) :
    box.firstRow ≤ place.1 :=
  bounds.firstRow.2 ⟨place, isMember, rfl⟩

theorem le_lastRow (bounds : box.Bounds places) (isMember : place ∈ places) :
    place.1 ≤ box.lastRow :=
  bounds.lastRow.2 ⟨place, isMember, rfl⟩

theorem firstColumn_le (bounds : box.Bounds places) (isMember : place ∈ places) :
    box.firstColumn ≤ place.2 :=
  bounds.firstColumn.2 ⟨place, isMember, rfl⟩

theorem le_lastColumn (bounds : box.Bounds places) (isMember : place ∈ places) :
    place.2 ≤ box.lastColumn :=
  bounds.lastColumn.2 ⟨place, isMember, rfl⟩

/-- Different places of a box are no more than its area. -/
theorem length_le_area (bounds : box.Bounds places) (nodup : places.Nodup) :
    places.length ≤ box.area := by
  have inside : places.toFinset ⊆
      Finset.Icc box.firstRow box.lastRow ×ˢ Finset.Icc box.firstColumn box.lastColumn := by
    intro place isMember
    rw [List.mem_toFinset] at isMember
    rw [Finset.mem_product, Finset.mem_Icc, Finset.mem_Icc]
    exact ⟨⟨bounds.firstRow_le isMember, bounds.le_lastRow isMember⟩,
      bounds.firstColumn_le isMember, bounds.le_lastColumn isMember⟩
  have few := Finset.card_le_card inside
  have rows : box.lastRow + 1 - box.firstRow ≤ box.height := by
    rw [height]
    omega
  have columns : box.lastColumn + 1 - box.firstColumn ≤ box.width := by
    rw [width]
    omega
  rw [List.toFinset_card_of_nodup nodup, Finset.card_product, Nat.card_Icc, Nat.card_Icc] at few
  calc places.length
      ≤ (box.lastRow + 1 - box.firstRow) * (box.lastColumn + 1 - box.firstColumn) := few
    _ ≤ box.height * box.width := Nat.mul_le_mul rows columns
    _ = box.area := Nat.mul_comm _ _

end Bounds

end Box

/-- The smallest box around some places. -/
def boundingBox (places : List (Nat × Nat)) : Option Box :=
  places.foldl (fun box place => some (box.elim (Box.single place) (·.extend place))) none

@[simp] theorem boundingBox_nil : boundingBox [] = none := rfl

theorem boundingBox_append (places : List (Nat × Nat)) (place : Nat × Nat) :
    boundingBox (places ++ [place]) =
      some ((boundingBox places).elim (Box.single place) (·.extend place)) := by
  rw [boundingBox, List.foldl_append]
  rfl

/-- Some places have a smallest box. -/
theorem boundingBox_bounds {places : List (Nat × Nat)} (nonempty : places ≠ []) :
    ∃ box, boundingBox places = some box ∧ box.Bounds places := by
  induction places using List.reverseRecOn with
  | nil => exact absurd rfl nonempty
  | append_singleton places place ih =>
    rw [boundingBox_append]
    by_cases isFirst : places = []
    · rw [isFirst]
      exact ⟨_, rfl, Box.bounds_single place⟩
    · obtain ⟨box, isBox, bounds⟩ := ih isFirst
      rw [isBox]
      exact ⟨_, rfl, bounds.extend place⟩

/-- The area of the smallest box around some places. -/
def boundingArea (places : List (Nat × Nat)) : Nat := (boundingBox places).elim 0 Box.area

theorem length_le_boundingArea {places : List (Nat × Nat)} (nodup : places.Nodup) :
    places.length ≤ boundingArea places := by
  by_cases isEmpty : places = []
  · rw [isEmpty]
    exact Nat.zero_le _
  · obtain ⟨box, isBox, bounds⟩ := boundingBox_bounds isEmpty
    rw [boundingArea, isBox]
    exact bounds.length_le_area nodup

end Foundation
