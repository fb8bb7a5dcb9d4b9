import Mathlib.Data.Prod.Lex
import MailSwiftSync.BulkImport.Worksheet

/-!
# The picture of some cells

The matrix that cells in reading order are appended to is their picture: as large as their box,
with the text of each cell at its place and nothing elsewhere.
-/

namespace MailSwiftSync.BulkImport

open Foundation

/-! ## Places -/

namespace SheetCell

/-- The row and the column of a cell. -/
def place (cell : SheetCell) : Nat × Nat := (cell.row, cell.column)

/-- The coordinates are positive and within the limits of an import. -/
structure InLimits (cell : SheetCell) : Prop where
  row_pos : 0 < cell.row
  row_le : cell.row ≤ maxBulkImportRows + 1
  column_pos : 0 < cell.column
  column_le : cell.column ≤ maxBulkImportColumns

/-- Reading order: by rows, and by columns within a row. -/
def Before (first second : SheetCell) : Prop := toLex first.place < toLex second.place

theorem Before.row_le {first second : SheetCell} (before : first.Before second) :
    first.row ≤ second.row := by
  cases Prod.Lex.toLex_lt_toLex.mp before with
  | inl higher => exact Nat.le_of_lt higher
  | inr sameRow => exact Nat.le_of_eq sameRow.1

theorem Before.place_ne {first second : SheetCell} (before : first.Before second) :
    first.place ≠ second.place := by
  intro same
  rw [Before, same] at before
  exact lt_irrefl _ before

end SheetCell

/-- The places of some cells. -/
def places (cells : List SheetCell) : List (Nat × Nat) := cells.map SheetCell.place

theorem places_append (cells : List SheetCell) (cell : SheetCell) :
    places (cells ++ [cell]) = places cells ++ [cell.place] := by
  rw [places, List.map_append]
  rfl

/-- The text at a place. -/
def valueAt (cells : List SheetCell) (row column : Nat) : String :=
  ((cells.find? fun cell => cell.place == (row, column)).map SheetCell.value).getD ""

theorem valueAt_append {cells : List SheetCell} {cell : SheetCell}
    (fresh : ∀ other ∈ cells, other.place ≠ cell.place) (row column : Nat) :
    valueAt (cells ++ [cell]) row column =
      if cell.place = (row, column) then cell.value else valueAt cells row column := by
  rw [valueAt, List.find?_append]
  by_cases here : cell.place = (row, column)
  · have noOther : cells.find? (fun cell => cell.place == (row, column)) = none := by
      rw [List.find?_eq_none]
      intro other isMember
      rw [← here, beq_iff_eq]
      exact fresh other isMember
    simp [noOther, here]
  · simp [valueAt, here]

/-- There is nothing at a place without a cell. -/
theorem valueAt_eq_empty {cells : List SheetCell} {row column : Nat}
    (noCell : ∀ cell ∈ cells, cell.place ≠ (row, column)) : valueAt cells row column = "" := by
  have notFound : cells.find? (fun cell => cell.place == (row, column)) = none := by
    rw [List.find?_eq_none]
    intro cell isMember
    rw [beq_iff_eq]
    exact noCell cell isMember
  rw [valueAt, notFound]
  rfl

/-- The text of a cell is found at its place. -/
theorem valueAt_of_mem {cells : List SheetCell} (ordered : cells.Pairwise SheetCell.Before)
    {cell : SheetCell} (isMember : cell ∈ cells) :
    valueAt cells cell.row cell.column = cell.value := by
  induction cells using List.reverseRecOn with
  | nil => exact absurd isMember List.not_mem_nil
  | append_singleton cells last ih =>
    obtain ⟨earlier, -, beforeLast⟩ := List.pairwise_append.mp ordered
    have fresh : ∀ other ∈ cells, other.place ≠ last.place := fun other isOther =>
      (beforeLast other isOther last List.mem_cons_self).place_ne
    rw [valueAt_append fresh]
    cases List.mem_append.mp isMember with
    | inl isEarlier =>
      exact (if_neg (fresh cell isEarlier).symm).trans (ih earlier isEarlier)
    | inr isLast =>
      rw [List.mem_singleton.mp isLast]
      exact if_pos rfl

/-- The matrix of a box around some cells. -/
def picture (box : Box) (cells : List SheetCell) : List (List String) :=
  tabulate box.height box.width fun i j =>
    valueAt cells (box.firstRow + i) (box.firstColumn + j)

/-- The matrix and the used range of some cells. -/
def sheetOf (cells : List SheetCell) : Sheet :=
  (boundingBox (places cells)).elim {} fun box =>
    { rows := picture box cells
      firstRow := some box.firstRow
      firstColumn := some box.firstColumn
      lastColumn := some box.lastColumn }

/-! ## Growing the matrix -/

theorem growRows_nil (width rowCount : Nat) :
    growRows [] 0 width rowCount = tabulate rowCount width fun _ _ => "" := by
  have noRows : growRows [] 0 width rowCount = pushRows "" rowCount width [] := by
    rw [growRows, if_neg (Nat.lt_irrefl 0)]
    by_cases widens : 0 < width
    · exact congrArg (pushRows "" rowCount width) (if_pos widens)
    · exact congrArg (pushRows "" rowCount width) (if_neg widens)
  rw [noRows]
  exact pushRows_tabulate "" (Nat.zero_le rowCount) width fun _ _ => ""

/-- A table grows around its entries. -/
theorem growRows_tabulate {height width shift wider higher : Nat} (nonempty : 0 < height)
    (widens : shift + width ≤ wider) (heightens : height ≤ higher)
    (entry : Nat → Nat → String) :
    growRows (tabulate height width entry) shift wider higher = tabulate higher wider
      fun i j => if i < height then
        if j < shift + width then if j < shift then "" else entry i (j - shift) else ""
      else "" := by
  have shifted : (if 0 < shift then insertColumns "" shift (tabulate height width entry)
      else tabulate height width entry) =
      tabulate height (shift + width) fun i j => if j < shift then "" else entry i (j - shift) := by
    by_cases shifts : 0 < shift
    · rw [if_pos shifts, insertColumns_tabulate]
    · rw [Nat.eq_zero_of_not_pos shifts, if_neg (Nat.lt_irrefl 0), Nat.zero_add]
      rfl
  have firstWidth : ∀ entries : Nat → Nat → String,
      (((tabulate height (shift + width) entries).head?.map List.length).getD 0) =
        shift + width := by
    intro entries
    rw [List.head?_eq_getElem?, getElem?_tabulate _ _ nonempty]
    simp
  rw [growRows, shifted, firstWidth, ← pushRows_tabulate "" heightens]
  congr 1
  by_cases isWider : wider > shift + width
  · rw [if_pos isWider, resizeColumns_tabulate "" widens]
  · have sameWidth : wider = shift + width := Nat.le_antisymm (Nat.le_of_not_lt isWider) widens
    rw [if_neg isWider, sameWidth]
    apply tabulate_congr
    intro i _ j inWidth
    rw [if_pos inWidth]

/-! ## Appending a cell -/

section AppendCell

variable {cells : List SheetCell} {cell : SheetCell}

theorem checkedSize {first last : Nat} (inOrder : first ≤ last) (isSmall : last < 2 ^ 32) :
    (checkedSub last first).bind (checkedAdd · 1) = some (last - first + 1) := by
  have fits : last - first + 1 < usizeLimit := by
    rw [usizeLimit]
    omega
  rw [checkedSub, if_pos inOrder, Option.bind_some, checkedAdd, if_pos fits]

theorem checkedMul_exceeds {limit : Nat} (small : limit < usizeLimit) (left right : Nat) :
    (checkedMul left right).all (· > limit) = decide (limit < left * right) := by
  rw [checkedMul]
  by_cases fits : left * right < usizeLimit
  · rw [if_pos fits]
    rfl
  · rw [if_neg fits]
    exact (decide_eq_true (Nat.lt_of_lt_of_le small (Nat.le_of_not_lt fits))).symm

/-- Appending to a sheet with the range of a box gives the range of the larger box. -/
theorem appendCell_eq {box : Box} {sheet : Sheet} (firstRow : sheet.firstRow = some box.firstRow)
    (firstColumn : sheet.firstColumn = some box.firstColumn)
    (lastColumn : sheet.lastColumn = some box.lastColumn)
    (below : box.firstRow ≤ cell.row) (limits : cell.InLimits)
    (columns : box.lastColumn ≤ maxBulkImportColumns) :
    appendCell sheet cell =
      if maxBulkImportWorksheetCells <
          (box.extend cell.place).width * (cell.row - box.firstRow + 1) then .error .range
      else
        (setEntry (growRows sheet.rows (box.firstColumn - (box.extend cell.place).firstColumn)
            (box.extend cell.place).width (cell.row - box.firstRow + 1))
          (cell.row - box.firstRow) (cell.column - (box.extend cell.place).firstColumn)
          cell.value).elim (.error .panicked) fun rows => .ok
            { rows := rows
              firstRow := some box.firstRow
              firstColumn := some (box.extend cell.place).firstColumn
              lastColumn := some (box.extend cell.place).lastColumn } := by
  have width : (checkedSub (max box.lastColumn cell.column) (min box.firstColumn cell.column)).bind
      (checkedAdd · 1) = some ((box.extend cell.place).width) := by
    apply checkedSize
    · exact le_trans (min_le_right _ _) (le_max_right _ _)
    · have isSmall := limits.column_le
      rw [maxBulkImportColumns] at isSmall columns
      omega
  have rowCount : (checkedSub cell.row box.firstRow).bind (checkedAdd · 1) =
      some (cell.row - box.firstRow + 1) := by
    apply checkedSize below
    have isSmall := limits.row_le
    rw [maxBulkImportRows] at isSmall
    omega
  rw [appendCell, firstRow, firstColumn, lastColumn]
  simp only [Option.getD_some, width, rowCount, orRefuse, Option.elim_some, refuse,
    Except.mapError]
  change (if (checkedMul _ _).all (· > maxBulkImportWorksheetCells) then _ else _) = _
  rw [checkedMul_exceeds (by decide)]
  simp only [decide_eq_true_eq]
  rfl

/-- The first cell. -/
theorem appendCell_first (limits : cell.InLimits) :
    appendCell {} cell = .ok (sheetOf [cell]) := by
  have columnSize : (checkedSub cell.column cell.column).bind (checkedAdd · 1) = some 1 := by
    have isSmall := limits.column_le
    rw [maxBulkImportColumns] at isSmall
    rw [checkedSize le_rfl (by omega), Nat.sub_self]
  have rowSize : (checkedSub cell.row cell.row).bind (checkedAdd · 1) = some 1 := by
    have isSmall := limits.row_le
    rw [maxBulkImportRows] at isSmall
    rw [checkedSize le_rfl (by omega), Nat.sub_self]
  have alone : sheetOf [cell] =
      { rows := [[cell.value]]
        firstRow := some cell.row
        firstColumn := some cell.column
        lastColumn := some cell.column } := by
    have value : valueAt [cell] (cell.row + 0) (cell.column + 0) = cell.value :=
      valueAt_of_mem (List.pairwise_singleton _ _) List.mem_cons_self
    have rows : picture (Box.single cell.place) [cell] = [[cell.value]] := by
      rw [← value, picture, Box.height, Box.width, Box.single]
      simp [tabulate, SheetCell.place]
    change Sheet.mk (picture (Box.single cell.place) [cell]) _ _ _ = _
    rw [rows]
    rfl
  rw [appendCell, alone]
  simp only [Option.getD_none, max_self, min_self, columnSize, rowSize, orRefuse,
    refuse, Except.mapError, Option.elim_some, Nat.sub_self, growRows_nil]
  rfl

/-- The picture around the cells grows by a cell below them, or to its side in their last row. -/
theorem growRows_picture {box : Box} (bounds : box.Bounds (places cells))
    (firstAbove : box.firstRow ≤ box.lastRow) (firstLeft : box.firstColumn ≤ box.lastColumn)
    (lastAbove : box.lastRow ≤ cell.row) (fresh : ∀ other ∈ cells, other.place ≠ cell.place) :
    setEntry (growRows (picture box cells) (box.firstColumn - (box.extend cell.place).firstColumn)
        (box.extend cell.place).width (cell.row - box.firstRow + 1))
      (cell.row - box.firstRow) (cell.column - (box.extend cell.place).firstColumn) cell.value =
      some (picture (box.extend cell.place) (cells ++ [cell])) := by
  let larger := box.extend cell.place
  have firstRow : larger.firstRow = box.firstRow := min_eq_left (le_trans firstAbove lastAbove)
  have height : larger.height = cell.row - box.firstRow + 1 := by
    have lastRow : larger.lastRow = cell.row := max_eq_right lastAbove
    rw [Box.height, firstRow, lastRow]
  have leftOfBox : larger.firstColumn ≤ box.firstColumn := min_le_left _ _
  have leftOfCell : larger.firstColumn ≤ cell.column := min_le_right _ _
  have rightOfBox : box.lastColumn ≤ larger.lastColumn := le_max_left _ _
  have rightOfCell : cell.column ≤ larger.lastColumn := le_max_right _ _
  have widens : box.firstColumn - larger.firstColumn + box.width ≤ larger.width := by
    rw [Box.width, Box.width]
    omega
  have heightens : box.height ≤ cell.row - box.firstRow + 1 := by
    rw [Box.height]
    omega
  have nonempty : 0 < box.height := Nat.succ_pos _
  have inWidth : cell.column - larger.firstColumn < larger.width := by
    rw [Box.width]
    omega
  have outside : ∀ row column, row < box.firstRow ∨ box.lastRow < row ∨
      column < box.firstColumn ∨ box.lastColumn < column → valueAt cells row column = "" := by
    intro row column isOutside
    apply valueAt_eq_empty
    intro other isOther samePlace
    have isPlace : (row, column) ∈ places cells := samePlace ▸ List.mem_map_of_mem isOther
    have below := bounds.firstRow_le isPlace
    have above := bounds.le_lastRow isPlace
    have rightOf := bounds.firstColumn_le isPlace
    have leftOf := bounds.le_lastColumn isPlace
    simp only at below above rightOf leftOf
    omega
  change setEntry (growRows (picture box cells) (box.firstColumn - larger.firstColumn) larger.width
    _) _ (cell.column - larger.firstColumn) _ = some (picture larger _)
  rw [picture, growRows_tabulate nonempty widens heightens,
    setEntry_tabulate (Nat.lt_succ_self _) inWidth, picture, height, firstRow]
  congr 1
  apply tabulate_congr
  intro i inHeight j inLarger
  rw [valueAt_append fresh]
  by_cases isCell : i = cell.row - box.firstRow ∧ j = cell.column - larger.firstColumn
  · have samePlace : cell.place = (box.firstRow + i, larger.firstColumn + j) := by
      rw [SheetCell.place, isCell.1, isCell.2, Nat.add_sub_cancel' leftOfCell,
        Nat.add_sub_cancel' (le_trans firstAbove lastAbove)]
    rw [if_pos isCell, if_pos samePlace]
  · have otherPlace : cell.place ≠ (box.firstRow + i, larger.firstColumn + j) := by
      intro samePlace
      rw [SheetCell.place, Prod.mk.injEq] at samePlace
      omega
    rw [if_neg isCell, if_neg otherPlace]
    by_cases inRows : i < box.height
    · by_cases beforeEnd : j < box.firstColumn - larger.firstColumn + box.width
      · by_cases isShift : j < box.firstColumn - larger.firstColumn
        · rw [if_pos inRows, if_pos beforeEnd, if_pos isShift, outside]
          omega
        · have sameColumn : box.firstColumn + (j - (box.firstColumn - larger.firstColumn)) =
              larger.firstColumn + j := by
            omega
          rw [if_pos inRows, if_pos beforeEnd, if_neg isShift, sameColumn]
      · rw [if_pos inRows, if_neg beforeEnd, outside]
        rw [Box.width] at beforeEnd
        omega
    · rw [if_neg inRows, outside]
      rw [Box.height] at inRows
      omega

/-- Appending a cell after the others keeps the picture, unless the range becomes too large. -/
theorem appendCell_sheetOf (after : ∀ other ∈ cells, other.Before cell)
    (limits : ∀ other ∈ cells ++ [cell], other.InLimits) :
    appendCell (sheetOf cells) cell =
      if maxBulkImportWorksheetCells < boundingArea (places (cells ++ [cell])) then .error .range
      else .ok (sheetOf (cells ++ [cell])) := by
  have cellLimits := limits cell (List.mem_append_right _ List.mem_cons_self)
  by_cases isFirst : cells = []
  · have area : boundingArea (places ([] ++ [cell])) = 1 := by
      change (cell.column - cell.column + 1) * (cell.row - cell.row + 1) = 1
      rw [Nat.sub_self, Nat.sub_self]
    rw [isFirst, area, if_neg (by decide)]
    exact appendCell_first cellLimits
  · have somePlaces : places cells ≠ [] := by
      rw [places, ne_eq, List.map_eq_nil_iff]
      exact isFirst
    obtain ⟨box, isBox, bounds⟩ := boundingBox_bounds somePlaces
    have placed : ∀ other ∈ cells, other.place ∈ places cells := fun other isOther =>
      List.mem_map_of_mem isOther
    have ofPlace : ∀ place ∈ places cells, ∃ other ∈ cells, other.place = place :=
      fun place isPlace => List.mem_map.mp isPlace
    -- the used range is within the limits, and above the cell
    obtain ⟨rightmost, isRightmost, atLast⟩ := bounds.lastColumn.1
    obtain ⟨right, isRight, rfl⟩ := ofPlace rightmost isRightmost
    have columns : box.lastColumn ≤ maxBulkImportColumns := by
      rw [← atLast]
      exact (limits right (List.mem_append_left _ isRight)).column_le
    obtain ⟨lowest, isLowest, atBottom⟩ := bounds.lastRow.1
    obtain ⟨bottom, isBottom, rfl⟩ := ofPlace lowest isLowest
    have lastAbove : box.lastRow ≤ cell.row := by
      rw [← atBottom]
      exact (after bottom isBottom).row_le
    have firstAbove : box.firstRow ≤ box.lastRow := by
      rw [← atBottom]
      exact bounds.firstRow_le isLowest
    have firstLeft : box.firstColumn ≤ box.lastColumn := by
      rw [← atLast]
      exact bounds.firstColumn_le isRightmost
    have sheet : sheetOf cells =
        { rows := picture box cells
          firstRow := some box.firstRow
          firstColumn := some box.firstColumn
          lastColumn := some box.lastColumn } := by
      rw [sheetOf, isBox]
      rfl
    have largerBox : boundingBox (places (cells ++ [cell])) = some (box.extend cell.place) := by
      rw [places_append, boundingBox_append, isBox]
      rfl
    have largerFirstRow : (box.extend cell.place).firstRow = box.firstRow :=
      min_eq_left (le_trans firstAbove lastAbove)
    have largerLastRow : (box.extend cell.place).lastRow = cell.row := max_eq_right lastAbove
    have largerHeight : (box.extend cell.place).height = cell.row - box.firstRow + 1 := by
      rw [Box.height, largerFirstRow, largerLastRow]
    have area : boundingArea (places (cells ++ [cell])) =
        (box.extend cell.place).width * (cell.row - box.firstRow + 1) := by
      rw [boundingArea, largerBox, ← largerHeight]
      rfl
    rw [appendCell_eq (by rw [sheet]) (by rw [sheet]) (by rw [sheet])
      (le_trans firstAbove lastAbove) cellLimits columns, area]
    by_cases exceeds : maxBulkImportWorksheetCells <
        (box.extend cell.place).width * (cell.row - box.firstRow + 1)
    · rw [if_pos exceeds, if_pos exceeds]
    · have fresh : ∀ other ∈ cells, other.place ≠ cell.place := fun other isOther =>
        (after other isOther).place_ne
      have rows : (sheetOf cells).rows = picture box cells := by rw [sheet]
      rw [if_neg exceeds, if_neg exceeds, rows,
        growRows_picture bounds firstAbove firstLeft lastAbove fresh, sheetOf, largerBox,
        Option.elim_some, Option.elim_some, largerFirstRow]

end AppendCell

end MailSwiftSync.BulkImport
