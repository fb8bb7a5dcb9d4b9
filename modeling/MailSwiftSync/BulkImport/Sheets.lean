import MailSwiftSync.BulkImport.Reading

/-!
# Sheets

A sheet is a sequence of rows of cells.  A row may name its number and a cell its place; those that
do not come right after the one before.  The cells that the reader finds in the events of a sheet
are the cells of the sheet at these places.
-/

namespace MailSwiftSync.BulkImport

open Foundation

/-! ## Rows and cells -/

/-- A cell, with a text or empty. -/
structure CellElement where
  named : Bool
  column : Nat
  text : Option String
deriving DecidableEq, Repr

structure RowElement where
  named : Bool
  number : Nat
  cells : List CellElement
deriving DecidableEq, Repr

/-- The cells come after a column, and directly after when they are not named. -/
def CellsFollow : Nat → List CellElement → Prop
  | _, [] => True
  | previous, cell :: cells =>
    previous < cell.column ∧ cell.column ≤ maxBulkImportColumns ∧
      (cell.named = false → cell.column = previous + 1) ∧
      (∀ text ∈ cell.text, text.utf8ByteSize ≤ maxBulkImportCellBytes) ∧
      CellsFollow cell.column cells

/-- The rows come after a row, and directly after when they are not named. -/
def RowsFollow : Nat → List RowElement → Prop
  | _, [] => True
  | previous, row :: rows =>
    previous < row.number ∧ row.number ≤ maxBulkImportRows + 1 ∧
      (row.named = false → row.number = previous + 1) ∧
      CellsFollow 0 row.cells ∧ RowsFollow row.number rows

/-- A reference, when there is one. -/
def referenceAttribute (named : Bool) (reference : String) : List XmlAttribute :=
  if named then [.named "r" (.ok reference)] else []

/-- The events of a cell. -/
def CellElement.events (row : Nat) (cell : CellElement) : List XmlEvent :=
  let reference := referenceAttribute cell.named (cellName cell.column row)
  match cell.text with
  | none => [.empty "c" reference]
  | some text =>
    [.start "c" (reference ++ [.named "t" (.ok "str")]), .start "v" [], .text text,
      .finish "v", .finish "c"]

/-- The events of a row. -/
def RowElement.events (row : RowElement) : List XmlEvent :=
  .start "row" (referenceAttribute row.named (String.ofList (Nat.toDigits 10 row.number))) ::
    (row.cells.flatMap (·.events row.number) ++ [.finish "row"])

/-- The events of a worksheet with some rows. -/
def sheetEvents (rows : List RowElement) : List XmlEvent :=
  .start "worksheet" [] :: .start "sheetData" [] ::
    (rows.flatMap RowElement.events ++ [.finish "sheetData", .finish "worksheet"])

/-- A cell at its place in a row. -/
def CellElement.placed (row : Nat) (cell : CellElement) : SheetCell :=
  { row := row, column := cell.column, value := cell.text.getD "" }

/-- The cells of some rows at their places. -/
def sheetCells (rows : List RowElement) : List SheetCell :=
  rows.flatMap fun row => row.cells.map (·.placed row.number)

/-! ## Reading a sheet -/

section Runs

variable {platform : SheetPlatform} {sharedStrings : List String}

/-- The state between the cells of a row. -/
def inside (row column : Nat) (valueSeen : Bool) : Scan :=
  { rootSeen := true
    sheetDataSeen := true
    inSheetData := true
    valueSeen := valueSeen
    currentRow := row
    currentColumn := column }

theorem run_cons {scan next : Scan} {event : XmlEvent} {emitted : Option SheetCell}
    (isStep : scan.event platform sharedStrings event = .ok (next, emitted))
    (events : List XmlEvent) :
    scan.run platform sharedStrings (event :: events) =
      (emitted.toList ++ (next.run platform sharedStrings events).1,
        (next.run platform sharedStrings events).2) := by
  rw [Scan.run, isStep]

theorem validateCoordinates_valid {row column : Nat} (rowPositive : 0 < row)
    (rowFits : row ≤ maxBulkImportRows + 1) (columnPositive : 0 < column)
    (columnFits : column ≤ maxBulkImportColumns) : validateCoordinates row column = .ok () := by
  have rowLimit : saturatingAdd maxBulkImportRows 1 = maxBulkImportRows + 1 := by decide
  rw [validateCoordinates, rowLimit, if_neg (by omega), if_neg (by omega)]

/-- A row moves to its number. -/
theorem openRow_element {previous column : Nat} {valueSeen named : Bool} {number : Nat}
    (later : previous < number) (fits : number ≤ maxBulkImportRows + 1)
    (follows : named = false → number = previous + 1) :
    (inside previous column valueSeen).openRow
        (referenceAttribute named (String.ofList (Nat.toDigits 10 number))) =
      .ok (inside number 0 valueSeen) := by
  have smallNumber : number < 2 ^ 64 := by
    rw [maxBulkImportRows] at fits
    omega
  have reference : ((attributeOf (referenceAttribute named
      (String.ofList (Nat.toDigits 10 number))) "r").bind fun reference =>
        reference.elim (.ok (saturatingAdd previous 1)) (parsePositiveUsize · "row")) =
      .ok number := by
    cases named with
    | true =>
      change parsePositiveUsize (String.ofList (Nat.toDigits 10 number)) "row" = _
      rw [parsePositiveUsize, String.toList_ofList, Imap.parseU64_toDigits smallNumber,
        Option.filter_some, if_pos (decide_eq_true (Nat.zero_lt_of_lt later))]
      rfl
    | false =>
      have next : saturatingAdd previous 1 = number := by
        rw [follows rfl]
        rw [follows rfl] at smallNumber
        exact min_eq_left (by omega)
      change (.ok (saturatingAdd previous 1) : Except String Nat) = _
      rw [next]
  have valid : validateCoordinates number 1 = .ok () :=
    validateCoordinates_valid (Nat.zero_lt_of_lt later) fits (by decide) (by decide)
  have steps : (inside previous column valueSeen).openRow
      (referenceAttribute named (String.ofList (Nat.toDigits 10 number))) =
      ((attributeOf (referenceAttribute named
        (String.ofList (Nat.toDigits 10 number))) "r").bind fun reference =>
          reference.elim (.ok (saturatingAdd previous 1)) (parsePositiveUsize · "row")).bind
        fun row => (validateCoordinates row 1).bind fun _ =>
          if row ≤ previous then .error "XLSX worksheet rows are duplicate or out of order."
          else .ok (inside row 0 valueSeen) := by
    rw [Scan.openRow]
    change (attributeOf (referenceAttribute named _) "r").bind _ = _
    cases attributeOf (referenceAttribute named (String.ofList (Nat.toDigits 10 number))) "r" with
    | error error => rfl
    | ok reference => rfl
  rw [steps, reference]
  change (validateCoordinates number 1).bind _ = _
  rw [valid]
  exact if_neg (Nat.not_le_of_lt later)

/-- A cell moves to its place. -/
theorem openCell_element {row previous column : Nat} {valueSeen named : Bool}
    (rowPositive : 0 < row) (rowFits : row ≤ maxBulkImportRows + 1) (later : previous < column)
    (fits : column ≤ maxBulkImportColumns) (follows : named = false → column = previous + 1)
    (others : List XmlAttribute)
    (disjoint : attributeOf (referenceAttribute named (cellName column row) ++ others) "r" =
      .ok (if named then some (cellName column row) else none)) :
    (inside row previous valueSeen).openCell
        (referenceAttribute named (cellName column row) ++ others) =
      .ok (inside row column valueSeen) := by
  have place : cellPosition (referenceAttribute named (cellName column row) ++ others) row
      previous = .ok (row, column) := by
    have steps : cellPosition (referenceAttribute named (cellName column row) ++ others) row
        previous = (attributeOf (referenceAttribute named (cellName column row) ++ others)
          "r").bind fun reference => reference.elim
            (if row = 0 then .error "The first XLSX worksheet cell has no coordinate."
              else .ok (row, saturatingAdd previous 1))
            fun reference => (parseCellReference reference).map fun place =>
              (place.2, place.1) := by
      rw [cellPosition]
      cases attributeOf (referenceAttribute named (cellName column row) ++ others) "r" with
      | error error => rfl
      | ok reference =>
        cases reference with
        | none => rfl
        | some reference => rfl
    rw [steps, disjoint]
    cases named with
    | true =>
      change (parseCellReference (cellName column row)).map _ = _
      rw [parseCellReference_cellName (Nat.zero_lt_of_lt later) _ rowPositive _]
      · rfl
      · rw [maxBulkImportColumns] at fits
        exact lt_of_le_of_lt fits (by decide)
      · rw [maxBulkImportRows] at rowFits
        omega
    | false =>
      have next : saturatingAdd previous 1 = column := by
        rw [maxBulkImportColumns] at fits
        rw [follows rfl] at fits ⊢
        exact min_eq_left (by omega)
      change (if row = 0 then _ else _) = _
      rw [if_neg (Nat.ne_of_gt rowPositive), next]
  have inRow : ¬(!true || decide (row = 0)) = true := by
    rw [decide_eq_false (Nat.ne_of_gt rowPositive)]
    exact Bool.false_ne_true
  rw [Scan.openCell]
  change
    (if (!true || decide (row = 0)) = true then _ else (cellPosition _ row previous).bind _) = _
  rw [if_neg inRow, place]
  change (validateCoordinates row column).bind _ = _
  rw [validateCoordinates_valid rowPositive rowFits (Nat.zero_lt_of_lt later) fits]
  change (if row ≠ 0 ∧ row ≠ row then _ else if row < row ∨ column ≤ previous then _ else _) = _
  rw [if_neg (by omega), if_neg (by omega)]
  rfl

/-- The state inside of a cell with a text. -/
def insideCell (row column : Nat) (inValue valueSeen : Bool) (text : String) : Scan :=
  { inside row column valueSeen with
    inValue := inValue
    cell := some { row := row, column := column, kind := "str", value := text, inline := "" } }

/-- The text of a cell. -/
theorem addText_insideCell {row column : Nat} {text : String}
    (short : text.utf8ByteSize ≤ maxBulkImportCellBytes) :
    (insideCell row column true true "").addText (.ok text) =
      .ok (insideCell row column true true text) := by
  have bytes : checkedAdd "".utf8ByteSize text.utf8ByteSize = some text.utf8ByteSize := by
    have small : text.utf8ByteSize < usizeLimit := lt_of_le_of_lt short (by decide)
    rw [String.utf8ByteSize_empty, checkedAdd, Nat.zero_add, if_pos small]
  have shared : ¬text.utf8ByteSize > maxBulkImportSharedStringBytes :=
    Nat.not_lt_of_le (le_trans short (by decide))
  have appended : appendBounded "" text = .ok text := by
    rw [appendBounded, bytes]
    change (if text.utf8ByteSize > maxBulkImportCellBytes then _ else
      if text.utf8ByteSize > maxBulkImportSharedStringBytes then _ else _) = _
    rw [if_neg (Nat.not_lt_of_le short), if_neg shared, String.empty_append]
  change (appendBounded "" text).bind _ = _
  rw [appended]
  rfl

/-- The events of a cell complete the cell at its place. -/
theorem run_cell {row previous : Nat} {valueSeen : Bool} {cell : CellElement}
    (rowPositive : 0 < row) (rowFits : row ≤ maxBulkImportRows + 1)
    (later : previous < cell.column) (fits : cell.column ≤ maxBulkImportColumns)
    (follows : cell.named = false → cell.column = previous + 1)
    (short : ∀ text ∈ cell.text, text.utf8ByteSize ≤ maxBulkImportCellBytes)
    (events : List XmlEvent) :
    ∃ seen, (inside row previous valueSeen).run platform sharedStrings
        (cell.events row ++ events) =
      (cell.placed row :: ((inside row cell.column seen).run platform sharedStrings events).1,
        ((inside row cell.column seen).run platform sharedStrings events).2) := by
  obtain ⟨named, column, text⟩ := cell
  cases text with
  | none =>
    have opened := @openCell_element row previous column valueSeen named rowPositive rowFits
      later fits follows [] (by cases named <;> rfl)
    have isStep : (inside row previous valueSeen).event platform sharedStrings
        (.empty "c" (referenceAttribute named (cellName column row))) =
        .ok (inside row column valueSeen,
          some { row := row, column := column, value := "" }) := by
      rw [List.append_nil] at opened
      change ((inside row previous valueSeen).openCell _).map _ = _
      rw [opened]
      rfl
    refine ⟨valueSeen, ?_⟩
    change (inside row previous valueSeen).run platform sharedStrings
      (.empty "c" (referenceAttribute named (cellName column row)) :: events) = _
    rw [run_cons isStep]
    rfl
  | some text =>
    let reference := referenceAttribute named (cellName column row)
    have opened := @openCell_element row previous column valueSeen named rowPositive rowFits
      later fits follows [.named "t" (.ok "str")] (by cases named <;> rfl)
    have kind : attributeOf (reference ++ [.named "t" (.ok "str")]) "t" =
        .ok (some "str") := by
      cases named <;> rfl
    have cellStarts : (inside row previous valueSeen).event platform sharedStrings
        (.start "c" (reference ++ [.named "t" (.ok "str")])) =
        .ok (insideCell row column false false "", none) := by
      change (((inside row previous valueSeen).openCell _).bind _).map _ = _
      rw [opened]
      change ((attributeOf _ "t").bind _).map _ = _
      rw [kind]
      rfl
    have valueStarts : (insideCell row column false false "").event platform sharedStrings
        (.start "v" []) = .ok (insideCell row column true true "", none) := rfl
    have textIsAdded : (insideCell row column true true "").event platform sharedStrings
        (.text text) = .ok (insideCell row column true true text, none) := by
      change ((insideCell row column true true "").addText (.ok text)).map _ = _
      rw [addText_insideCell (short text rfl)]
      rfl
    have valueEnds : (insideCell row column true true text).event platform sharedStrings
        (.finish "v") = .ok (insideCell row column false true text, none) := rfl
    have cellEnds : (insideCell row column false true text).event platform sharedStrings
        (.finish "c") = .ok (inside row column true,
          some { row := row, column := column, value := text }) := rfl
    refine ⟨true, ?_⟩
    change (inside row previous valueSeen).run platform sharedStrings
      (.start "c" (reference ++ [.named "t" (.ok "str")]) :: .start "v" [] :: .text text ::
        .finish "v" :: .finish "c" :: events) = _
    rw [run_cons cellStarts, run_cons valueStarts, run_cons textIsAdded, run_cons valueEnds,
      run_cons cellEnds]
    rfl

theorem run_cells {row previous : Nat} {valueSeen : Bool} (rowPositive : 0 < row)
    (rowFits : row ≤ maxBulkImportRows + 1) {cells : List CellElement}
    (follow : CellsFollow previous cells) (events : List XmlEvent) :
    ∃ column seen, (inside row previous valueSeen).run platform sharedStrings
        (cells.flatMap (·.events row) ++ events) =
      (cells.map (·.placed row) ++
          ((inside row column seen).run platform sharedStrings events).1,
        ((inside row column seen).run platform sharedStrings events).2) := by
  induction cells generalizing previous valueSeen with
  | nil => exact ⟨previous, valueSeen, rfl⟩
  | cons cell cells ih =>
    obtain ⟨later, fits, follows, short, rest⟩ := follow
    obtain ⟨seen, isCell⟩ := @run_cell platform sharedStrings row previous valueSeen cell
      rowPositive rowFits later fits follows short (cells.flatMap (·.events row) ++ events)
    obtain ⟨column, lastSeen, areCells⟩ := @ih cell.column seen rest
    refine ⟨column, lastSeen, ?_⟩
    rw [List.flatMap_cons, List.append_assoc, isCell, areCells]
    rfl

theorem run_rows {previous column : Nat} {valueSeen : Bool} {rows : List RowElement}
    (follow : RowsFollow previous rows) (events : List XmlEvent) :
    ∃ row last seen, (inside previous column valueSeen).run platform sharedStrings
        (rows.flatMap RowElement.events ++ events) =
      (sheetCells rows ++ ((inside row last seen).run platform sharedStrings events).1,
        ((inside row last seen).run platform sharedStrings events).2) := by
  induction rows generalizing previous column valueSeen with
  | nil => exact ⟨previous, column, valueSeen, rfl⟩
  | cons row rows ih =>
    obtain ⟨later, fits, follows, cellsFollow, rest⟩ := follow
    have rowStarts : (inside previous column valueSeen).event platform sharedStrings
        (.start "row" (referenceAttribute row.named
          (String.ofList (Nat.toDigits 10 row.number)))) =
        .ok (inside row.number 0 valueSeen, none) := by
      change ((inside previous column valueSeen).openRow _).map _ = _
      rw [openRow_element later fits follows]
      rfl
    have rowEnds : ∀ column seen, (inside row.number column seen).event platform sharedStrings
        (.finish "row") = .ok (inside row.number column seen, none) := fun _ _ => rfl
    obtain ⟨lastColumn, cellSeen, areCells⟩ := @run_cells platform sharedStrings row.number 0
      valueSeen (Nat.zero_lt_of_lt later) fits row.cells cellsFollow
      (.finish "row" :: (rows.flatMap RowElement.events ++ events))
    obtain ⟨lastRow, last, seen, areRows⟩ := @ih row.number lastColumn cellSeen rest
    refine ⟨lastRow, last, seen, ?_⟩
    rw [List.flatMap_cons, RowElement.events, List.cons_append, List.cons_append,
      List.append_assoc, List.append_assoc, List.singleton_append, run_cons rowStarts, areCells,
      run_cons (rowEnds _ _), areRows, sheetCells, sheetCells, List.flatMap_cons,
      List.append_assoc]
    rfl

end Runs

/-- The cells of a sheet are found at their places. -/
theorem worksheetCells_sheetEvents (platform : SheetPlatform) (sharedStrings : List String)
    {rows : List RowElement} (follow : RowsFollow 0 rows) :
    worksheetCells platform sharedStrings (sheetEvents rows) = sheetCells rows := by
  have root : ({} : Scan).event platform sharedStrings (.start "worksheet" []) =
      .ok ({ rootSeen := true }, none) := rfl
  have data : ({ rootSeen := true } : Scan).event platform sharedStrings (.start "sheetData" []) =
      .ok (inside 0 0 false, none) := rfl
  have closing : ∀ row column seen, ((inside row column seen).run platform sharedStrings
      [.finish "sheetData", .finish "worksheet"]).1 = [] := fun _ _ _ => rfl
  obtain ⟨row, column, seen, areRows⟩ := @run_rows platform sharedStrings 0 0 false rows follow
    [.finish "sheetData", .finish "worksheet"]
  rw [worksheetCells, sheetEvents, run_cons root, run_cons data, areRows, closing,
    List.append_nil, Option.toList_none, List.nil_append, List.nil_append]

/-! ## Worksheets are read faithfully -/

/-- A worksheet is read faithfully or refused, and it is refused for its size exactly when the box
of some of its first cells is too large: for their range when these are no more cells than the
limit, and for their number otherwise.  The cells of a sheet are where its rows and references
put them, and references are read as they are written. -/
theorem readWorksheet_faithful (platform : SheetPlatform) (sharedStrings : List String)
    (events : List XmlEvent) :
    let cells := worksheetCells platform sharedStrings events
    (∀ firstRow rows, readWorksheet platform sharedStrings events = .ok (firstRow, rows) →
      ReadsFaithfully cells firstRow rows) ∧
    readWorksheet platform sharedStrings events ≠ .error .panicked ∧
    (readWorksheet platform sharedStrings events = .error .range ↔
      ∃ n ≤ cells.length, n ≤ maxBulkImportWorksheetCells ∧
        maxBulkImportWorksheetCells < boundingArea (places (cells.take n))) ∧
    (readWorksheet platform sharedStrings events = .error .range ∨
        readWorksheet platform sharedStrings events = .error .cellLimit ↔
      ∃ n ≤ cells.length,
        maxBulkImportWorksheetCells < boundingArea (places (cells.take n))) ∧
    (∀ rows, RowsFollow 0 rows → events = sheetEvents rows → cells = sheetCells rows) ∧
    ∀ column row, 0 < column → column < usizeLimit → 0 < row → row < 2 ^ 32 →
      parseCellReference (cellName column row) = .ok (column, row) := by
  intro cells
  have distinct : (places ([] ++ cells)).Nodup :=
    places_nodup (worksheetCells_ordered platform sharedStrings events).1
  have start : boundingArea (places []) ≤ maxBulkImportWorksheetCells := Nat.zero_le _
  have ofNone := firstRefusal_eq_none_iff distinct start
  simp only [List.nil_append] at ofNone
  have cases := firstRefusal_cases [] cells
  have isRange : readWorksheet platform sharedStrings events = .error .range ↔
      firstRefusal [] cells = some .range :=
    readWorksheet_eq_error_iff fun _ same => by cases same
  have isCellLimit : readWorksheet platform sharedStrings events = .error .cellLimit ↔
      firstRefusal [] cells = some .cellLimit :=
    readWorksheet_eq_error_iff fun _ same => by cases same
  refine ⟨?_, ?_, readWorksheet_eq_range_iff platform sharedStrings events, ?_, ?_, ?_⟩
  · intro firstRow rows isRead
    cases refusal : firstRefusal [] cells with
    | some error =>
      rw [readWorksheet_of_some refusal] at isRead
      cases isRead
    | none =>
      cases readWorksheet_of_none refusal with
      | inl refused =>
        obtain ⟨message, isRefused⟩ := refused
        rw [isRefused] at isRead
        cases isRead
      | inr isPicture =>
        rw [isPicture] at isRead
        cases isRead
        exact sheetOf_readsFaithfully
          (worksheetCells_ordered platform sharedStrings events).1
  · intro isPanic
    have refusal := (readWorksheet_eq_error_iff fun _ same => by cases same).mp isPanic
    change firstRefusal [] cells = some .panicked at refusal
    rw [refusal] at cases
    simp at cases
  · rw [isRange, isCellLimit]
    constructor
    · intro isLimit
      by_contra allFit
      have none : firstRefusal [] cells = none := by
        rw [ofNone]
        intro n inCells
        exact Nat.le_of_not_lt fun exceeds => allFit ⟨n, inCells, exceeds⟩
      rw [none] at isLimit
      simp at isLimit
    · rintro ⟨n, inCells, exceeds⟩
      rcases cases with isNone | isLimit | isLimit
      · exact absurd (ofNone.mp isNone n inCells) (Nat.not_le_of_lt exceeds)
      · exact .inr isLimit
      · exact .inl isLimit
  · rintro rows follow isSheet
    change worksheetCells platform sharedStrings events = sheetCells rows
    rw [isSheet]
    exact worksheetCells_sheetEvents platform sharedStrings follow
  · intro column row columnPositive columnFits rowPositive rowFits
    exact parseCellReference_cellName columnPositive columnFits rowPositive rowFits

/-! ## A sheet with too many cells -/

/-- The area around cells of some rows and columns. -/
theorem boundingArea_le {cells : List SheetCell} {rows columns : Nat}
    (within : ∀ cell ∈ cells, 0 < cell.row ∧ cell.row ≤ rows ∧ 0 < cell.column ∧
      cell.column ≤ columns) : boundingArea (places cells) ≤ columns * rows := by
  by_cases noPlaces : places cells = []
  · rw [noPlaces]
    exact Nat.zero_le _
  · obtain ⟨box, isBox, bounds⟩ := boundingBox_bounds noPlaces
    have ofValue : ∀ place ∈ places cells,
        0 < place.1 ∧ place.1 ≤ rows ∧ 0 < place.2 ∧ place.2 ≤ columns := by
      intro place isPlace
      obtain ⟨cell, isCell, rfl⟩ := List.mem_map.mp isPlace
      exact within cell isCell
    obtain ⟨top, isTop, atTop⟩ := bounds.firstRow.1
    obtain ⟨bottom, isBottom, atBottom⟩ := bounds.lastRow.1
    obtain ⟨left, isLeft, atLeft⟩ := bounds.firstColumn.1
    obtain ⟨right, isRight, atRight⟩ := bounds.lastColumn.1
    have topBounds := ofValue top isTop
    have bottomBounds := ofValue bottom isBottom
    have leftBounds := ofValue left isLeft
    have rightBounds := ofValue right isRight
    have width : box.width ≤ columns := by
      rw [Box.width]
      omega
    have height : box.height ≤ rows := by
      rw [Box.height]
      omega
    rw [boundingArea, isBox]
    exact Nat.mul_le_mul width height

namespace DenseSheet

/-- A row of empty cells without names. -/
def row (count number : Nat) : RowElement :=
  { named := false
    number := number
    cells := (List.range' 1 count).map fun column =>
      { named := false, column := column, text := none } }

/-- As many full rows as the limit allows, and one cell more. -/
def rows : List RowElement := (List.range' 1 15625).map (row 64) ++ [row 1 15626]

theorem cellsFollow (count : Nat) {previous : Nat}
    (fits : previous + count ≤ maxBulkImportColumns) :
    CellsFollow previous ((List.range' (previous + 1) count).map fun column =>
      { named := false, column := column, text := none }) := by
  induction count generalizing previous with
  | zero => trivial
  | succ count ih =>
    have fitsColumn : previous + 1 ≤ maxBulkImportColumns := by
      omega
    have rest := @ih (previous + 1) (by omega)
    refine ⟨Nat.lt_succ_self previous, fitsColumn, fun _ => rfl, ?_, rest⟩
    rintro text ⟨⟩

theorem rowsFollow (count : Nat) {previous : Nat} {last : List RowElement}
    (fits : previous + count ≤ maxBulkImportRows)
    (lastFollow : RowsFollow (previous + count) last) :
    RowsFollow previous ((List.range' (previous + 1) count).map (row 64) ++ last) := by
  induction count generalizing previous with
  | zero => exact lastFollow
  | succ count ih =>
    have next : previous + 1 + count = previous + (count + 1) := by
      omega
    have fitsRow : previous + 1 ≤ maxBulkImportRows + 1 := by
      omega
    have lastFollows : RowsFollow (previous + 1 + count) last := by
      rw [next]
      exact lastFollow
    have rest := @ih (previous + 1) (by omega) lastFollows
    exact ⟨Nat.lt_succ_self previous, fitsRow, fun _ => rfl, cellsFollow 64 (by decide), rest⟩

theorem follow : RowsFollow 0 rows := by
  apply rowsFollow 15625 (by decide)
  exact ⟨by decide, by decide, fun _ => rfl, cellsFollow 1 (by decide), trivial⟩

/-- The cells of the full rows. -/
def fullCells : List SheetCell := sheetCells ((List.range' 1 15625).map (row 64))

theorem sheetCells_rows :
    sheetCells rows = fullCells ++ [{ row := 15626, column := 1, value := "" }] := by
  rw [sheetCells, rows, List.flatMap_append]
  rfl

theorem length_fullCells : fullCells.length = 15625 * 64 := by
  have rowLength : ∀ number, ((row 64 number).cells.map (·.placed (row 64 number).number)).length =
      64 := by
    intro number
    simp [row]
  rw [fullCells, sheetCells, List.length_flatMap, List.map_map]
  simp only [Function.comp_def, rowLength, List.map_const', List.length_range',
    List.sum_replicate_nat]

theorem mem_fullCells {cell : SheetCell} (isCell : cell ∈ fullCells) :
    0 < cell.row ∧ cell.row ≤ 15625 ∧ 0 < cell.column ∧ cell.column ≤ 64 := by
  obtain ⟨element, isRow, inRow⟩ := List.mem_flatMap.mp isCell
  obtain ⟨number, inRows, rfl⟩ := List.mem_map.mp isRow
  obtain ⟨placed, isPlaced, rfl⟩ := List.mem_map.mp inRow
  obtain ⟨column, inColumns, rfl⟩ := List.mem_map.mp isPlaced
  rw [List.mem_range'_1] at inRows inColumns
  change 0 < number ∧ number ≤ 15625 ∧ 0 < column ∧ column ≤ 64
  omega

/-- The first cells up to the limit fit. -/
theorem take_fits {n : Nat} (few : n ≤ maxBulkImportWorksheetCells) :
    boundingArea (places ((sheetCells rows).take n)) ≤ maxBulkImportWorksheetCells := by
  have inFull : n ≤ fullCells.length := by
    rw [length_fullCells]
    exact few
  have within : ∀ cell ∈ fullCells.take n,
      0 < cell.row ∧ cell.row ≤ 15625 ∧ 0 < cell.column ∧ cell.column ≤ 64 :=
    fun cell isCell => mem_fullCells (List.mem_of_mem_take isCell)
  rw [sheetCells_rows, List.take_append_of_le_length inFull]
  exact boundingArea_le within

theorem exceeds (platform : SheetPlatform) :
    maxBulkImportWorksheetCells < boundingArea (places (sheetCells rows)) := by
  have ordered := (worksheetCells_ordered platform [] (sheetEvents rows)).1
  rw [worksheetCells_sheetEvents platform [] follow] at ordered
  have atMost := length_le_boundingArea (places_nodup ordered)
  have count : (places (sheetCells rows)).length = 1000001 := by
    rw [places, List.length_map, sheetCells_rows, List.length_append, length_fullCells]
    rfl
  rw [count] at atMost
  exact atMost

end DenseSheet

/-- A sheet with one cell more than the limit is refused for the number of its cells, though the
box around them is too large. -/
theorem dense_sheet_not_refused_for_range :
    ¬∀ (platform : SheetPlatform) (sharedStrings : List String) (events : List XmlEvent),
      readWorksheet platform sharedStrings events = .error .range ↔
        ∃ n ≤ (worksheetCells platform sharedStrings events).length,
          maxBulkImportWorksheetCells <
            boundingArea (places ((worksheetCells platform sharedStrings events).take n)) := by
  intro always
  let platform : SheetPlatform := { number := fun _ => none, debug := id }
  have areCells := worksheetCells_sheetEvents platform [] DenseSheet.follow
  have whole : readWorksheet platform [] (sheetEvents DenseSheet.rows) = .error .range := by
    rw [always, areCells]
    refine ⟨_, le_rfl, ?_⟩
    rw [List.take_length]
    exact DenseSheet.exceeds platform
  rw [readWorksheet_eq_range_iff, areCells] at whole
  obtain ⟨n, -, few, exceeds⟩ := whole
  exact absurd (DenseSheet.take_fits few) (Nat.not_le_of_lt exceeds)

end MailSwiftSync.BulkImport
