import MailSwiftSync.BulkImport.CellNames
import MailSwiftSync.BulkImport.Picture

/-!
# Reading worksheets

The reader puts each cell into the matrix when it is complete.  An event moves the current place
on, opens a cell or completes one; so the cells come in reading order, and the matrix is their
picture until one of them is refused.
-/

namespace MailSwiftSync.BulkImport

open Foundation

/-! ## Placing cells -/

/-- The refusal of the first of some cells that is one too many, or that makes the range too
large. -/
def firstRefusal (placed : List SheetCell) : List SheetCell → Option SheetError
  | [] => none
  | cell :: cells =>
    if maxBulkImportWorksheetCells < placed.length + 1 then some .cellLimit
    else if maxBulkImportWorksheetCells < boundingArea (places (placed ++ [cell])) then
      some .range
    else firstRefusal (placed ++ [cell]) cells

/-- The reader after some cells. -/
def SheetReader.after (scan : Scan) (cells : List SheetCell) : SheetReader :=
  { scan := scan, sheet := sheetOf cells, cellCount := cells.length }

theorem place_after {cells : List SheetCell} {cell : SheetCell} (scan : Scan)
    (few : cells.length ≤ maxBulkImportWorksheetCells)
    (after : ∀ other ∈ cells, other.Before cell)
    (limits : ∀ other ∈ cells ++ [cell], other.InLimits) :
    (SheetReader.after scan cells).place cell =
      if maxBulkImportWorksheetCells < cells.length + 1 then .error .cellLimit
      else if maxBulkImportWorksheetCells < boundingArea (places (cells ++ [cell])) then
        .error .range
      else .ok (SheetReader.after scan (cells ++ [cell])) := by
  have count : saturatingAdd cells.length 1 = cells.length + 1 := by
    rw [maxBulkImportWorksheetCells] at few
    exact min_eq_left (by omega)
  have steps : (SheetReader.after scan cells).place cell =
      (ensureCellCount (saturatingAdd cells.length 1)).bind fun _ =>
      (appendCell (sheetOf cells) cell).bind fun sheet =>
      .ok { scan := scan, sheet := sheet, cellCount := saturatingAdd cells.length 1 } := rfl
  rw [steps, count, appendCell_sheetOf after limits, ensureCellCount]
  by_cases tooMany : maxBulkImportWorksheetCells < cells.length + 1
  · rw [if_pos tooMany, if_pos tooMany]
    rfl
  · rw [if_neg tooMany, if_neg tooMany]
    by_cases tooLarge : maxBulkImportWorksheetCells < boundingArea (places (cells ++ [cell]))
    · rw [if_pos tooLarge, if_pos tooLarge]
      rfl
    · rw [if_neg tooLarge, if_neg tooLarge, SheetReader.after, List.length_append]
      rfl

/-! ## The refusals -/

theorem firstRefusal_eq_range_iff {placed : List SheetCell} (cells : List SheetCell)
    (fits : boundingArea (places placed) ≤ maxBulkImportWorksheetCells) :
    firstRefusal placed cells = some .range ↔
      ∃ n ≤ cells.length, placed.length + n ≤ maxBulkImportWorksheetCells ∧
        maxBulkImportWorksheetCells < boundingArea (places (placed ++ cells.take n)) := by
  induction cells generalizing placed with
  | nil =>
    simp only [firstRefusal, List.length_nil, Nat.le_zero, exists_eq_left, List.take_nil,
      List.append_nil, reduceCtorEq, false_iff]
    exact fun both => absurd fits (Nat.not_le_of_lt both.2)
  | cons cell cells ih =>
    have shift : ∀ n, (placed ++ (cell :: cells).take (n + 1)) =
        placed ++ [cell] ++ cells.take n := by
      intro n
      rw [List.take_succ_cons, List.append_cons]
    have notZero : ∀ n, maxBulkImportWorksheetCells <
        boundingArea (places (placed ++ (cell :: cells).take n)) → n ≠ 0 := by
      intro n exceeds isZero
      rw [isZero, List.take_zero, List.append_nil] at exceeds
      exact absurd fits (Nat.not_le_of_lt exceeds)
    rw [firstRefusal]
    by_cases tooMany : maxBulkImportWorksheetCells < placed.length + 1
    · rw [if_pos tooMany]
      constructor
      · intro isRange
        cases isRange
      · rintro ⟨n, -, few, exceeds⟩
        have positive := Nat.pos_of_ne_zero (notZero n exceeds)
        omega
    · rw [if_neg tooMany]
      by_cases tooLarge :
          maxBulkImportWorksheetCells < boundingArea (places (placed ++ [cell]))
      · rw [if_pos tooLarge]
        refine iff_of_true rfl ⟨1, Nat.succ_le_succ (Nat.zero_le _), Nat.le_of_not_lt tooMany, ?_⟩
        rw [shift 0, List.take_zero, List.append_nil]
        exact tooLarge
      · rw [if_neg tooLarge, ih (Nat.le_of_not_lt tooLarge), List.length_append]
        constructor
        · rintro ⟨n, inCells, few, exceeds⟩
          refine ⟨n + 1, Nat.succ_le_succ inCells, ?_, ?_⟩
          · rw [List.length_singleton] at few
            omega
          · rw [shift]
            exact exceeds
        · rintro ⟨n, inCells, few, exceeds⟩
          obtain ⟨m, rfl⟩ := Nat.exists_eq_succ_of_ne_zero (notZero n exceeds)
          rw [shift] at exceeds
          refine ⟨m, Nat.le_of_succ_le_succ inCells, ?_, exceeds⟩
          rw [List.length_singleton]
          omega

/-- Cells at different places are all placed when no beginning of them needs too large a range. -/
theorem firstRefusal_eq_none_iff {placed cells : List SheetCell}
    (distinct : (places (placed ++ cells)).Nodup)
    (fits : boundingArea (places placed) ≤ maxBulkImportWorksheetCells) :
    firstRefusal placed cells = none ↔ ∀ n ≤ cells.length,
      boundingArea (places (placed ++ cells.take n)) ≤ maxBulkImportWorksheetCells := by
  induction cells generalizing placed with
  | nil =>
    simp only [firstRefusal, List.length_nil, Nat.le_zero, forall_eq, List.take_nil,
      List.append_nil, true_iff]
    exact fits
  | cons cell cells ih =>
    rw [List.append_cons] at distinct
    have shift : ∀ n, (placed ++ (cell :: cells).take (n + 1)) =
        placed ++ [cell] ++ cells.take n := by
      intro n
      rw [List.take_succ_cons, List.append_cons]
    have first : (∀ n ≤ (cell :: cells).length, boundingArea (places (placed ++
        (cell :: cells).take n)) ≤ maxBulkImportWorksheetCells) →
        boundingArea (places (placed ++ [cell])) ≤ maxBulkImportWorksheetCells := by
      intro allFit
      have one := allFit 1 (Nat.succ_le_succ (Nat.zero_le _))
      rw [shift 0, List.take_zero, List.append_nil] at one
      exact one
    have many : placed.length + 1 ≤ boundingArea (places (placed ++ [cell])) := by
      rw [places, List.map_append] at distinct
      have atMost := length_le_boundingArea (List.Nodup.of_append_left distinct)
      rw [List.length_map, List.length_append] at atMost
      exact atMost
    rw [firstRefusal]
    by_cases tooLarge : maxBulkImportWorksheetCells < boundingArea (places (placed ++ [cell]))
    · have refused : (if maxBulkImportWorksheetCells < placed.length + 1 then
          some SheetError.cellLimit else if maxBulkImportWorksheetCells <
            boundingArea (places (placed ++ [cell])) then some .range
          else firstRefusal (placed ++ [cell]) cells) ≠ none := by
        rw [if_pos tooLarge]
        split <;> exact Option.some_ne_none _
      exact iff_of_false refused fun allFit => absurd (first allFit) (Nat.not_le_of_lt tooLarge)
    · have few : ¬maxBulkImportWorksheetCells < placed.length + 1 := by omega
      rw [if_neg few, if_neg tooLarge, ih distinct (Nat.le_of_not_lt tooLarge)]
      constructor
      · intro allFit n inCells
        cases n with
        | zero =>
          rw [List.take_zero, List.append_nil]
          exact fits
        | succ n =>
          rw [shift]
          exact allFit n (Nat.le_of_succ_le_succ inCells)
      · intro allFit n inCells
        rw [← shift]
        exact allFit (n + 1) (Nat.succ_le_succ inCells)

/-- Cells are refused for their number or their range only. -/
theorem firstRefusal_cases (placed cells : List SheetCell) :
    firstRefusal placed cells = none ∨ firstRefusal placed cells = some .cellLimit ∨
      firstRefusal placed cells = some .range := by
  induction cells generalizing placed with
  | nil => exact .inl rfl
  | cons cell cells ih =>
    rw [firstRefusal]
    split
    · exact .inr (.inl rfl)
    · split
      · exact .inr (.inr rfl)
      · exact ih _

/-! ## What an event does -/

/-- The cell that an open cell becomes, without its text. -/
def CellBuilder.opened (cell : CellBuilder) : SheetCell :=
  { row := cell.row, column := cell.column, value := "" }

theorem eq_of_ite_error {α : Type*} {condition : Prop} [Decidable condition] {error : String}
    {value result : α}
    (isResult : (if condition then .error error else .ok value) = Except.ok result) :
    value = result := by
  split at isResult
  · cases isResult
  · exact Except.ok.inj isResult

namespace Scan

variable {platform : SheetPlatform} {sharedStrings : List String} {scan next : Scan}

/-- The current place. -/
def current (scan : Scan) : Nat × Nat := (scan.currentRow, scan.currentColumn)

/-- The place stays or moves on, and so does an open cell. -/
def Moves (scan next : Scan) : Prop :=
  toLex scan.current ≤ toLex next.current ∧
    next.cell.map CellBuilder.opened = scan.cell.map CellBuilder.opened

theorem Moves.refl (scan : Scan) : Moves scan scan := ⟨le_rfl, rfl⟩

/-- What an event does, and the cell that it completes. -/
inductive Step (platform : SheetPlatform) (sharedStrings : List String) (scan next : Scan) :
    Option SheetCell → Prop
  | moves : Moves scan next → Step platform sharedStrings scan next none
  | opens (cell : CellBuilder) : scan.cell = none → next.cell = some cell →
      toLex scan.current < toLex next.current → cell.opened.place = next.current →
      cell.opened.InLimits → Step platform sharedStrings scan next none
  | completes (cell : SheetCell) : scan.cell = none → next.cell = none →
      toLex scan.current < toLex next.current → cell.place = next.current →
      cell.InLimits → Step platform sharedStrings scan next (some cell)
  | closes (cell : CellBuilder) (value : String) : scan.cell = some cell → next.cell = none →
      next.current = scan.current →
      convertCellValue platform cell sharedStrings = .ok value →
      Step platform sharedStrings scan next (some { cell.opened with value := value })

theorem validateCoordinates_ok {row column : Nat}
    (valid : validateCoordinates row column = .ok ()) :
    0 < row ∧ row ≤ maxBulkImportRows + 1 ∧ 0 < column ∧ column ≤ maxBulkImportColumns := by
  have rowLimit : saturatingAdd maxBulkImportRows 1 = maxBulkImportRows + 1 := by decide
  rw [validateCoordinates, rowLimit] at valid
  split at valid
  · cases valid
  · split at valid
    · cases valid
    · omega

theorem openRoot_moves {localName : String} (opened : openRoot scan localName = .ok next) :
    Moves scan next := by
  rw [← eq_of_ite_error opened]
  exact Moves.refl scan

theorem openSheetData_moves {inSheetData : Bool}
    (opened : openSheetData scan inSheetData = .ok next) : Moves scan next := by
  rw [← eq_of_ite_error opened]
  exact Moves.refl scan

theorem startValue_moves (started : startValue scan = .ok next) : Moves scan next := by
  rw [← eq_of_ite_error started]
  exact Moves.refl scan

theorem emptyValue_moves (isEmpty : emptyValue scan = .ok next) : Moves scan next := by
  rw [← eq_of_ite_error isEmpty]
  exact Moves.refl scan

theorem openInline_moves (opened : openInline scan = .ok next) : Moves scan next := by
  rw [← eq_of_ite_error opened]
  exact Moves.refl scan

theorem addText_moves {decoded : Except String String}
    (added : addText scan decoded = .ok next) : Moves scan next := by
  rw [addText] at added
  split at added
  · rw [← Except.ok.inj added]
    exact Moves.refl scan
  · rename_i cell isCell
    split at added
    · cases decoded with
      | error error => cases added
      | ok decoded =>
        simp only [bind, Except.bind] at added
        split at added
        · split at added
          · cases added
          · rw [← Except.ok.inj added]
            exact ⟨le_rfl, by rw [isCell]; rfl⟩
        · split at added
          · cases added
          · rw [← Except.ok.inj added]
            exact ⟨le_rfl, by rw [isCell]; rfl⟩
    · rw [← Except.ok.inj added]
      exact Moves.refl scan

variable {attributes : List XmlAttribute}

theorem openRow_moves (opened : openRow scan attributes = .ok next) : Moves scan next := by
  rw [openRow] at opened
  split at opened
  · cases opened
  · simp only [bind, Except.bind] at opened
    split at opened
    · cases opened
    · split at opened
      · cases opened
      · split at opened
        · cases opened
        · split at opened
          · cases opened
          · rename_i later
            rw [← Except.ok.inj opened]
            exact ⟨le_of_lt (Prod.Lex.toLex_lt_toLex.mpr (.inl (Nat.lt_of_not_le later))), rfl⟩

/-- A cell is opened after the current place, when no other cell is open. -/
theorem openCell_ok (opened : openCell scan attributes = .ok next) :
    scan.cell = none ∧ next.cell = none ∧ toLex scan.current < toLex next.current ∧
      0 < next.currentRow ∧ next.currentRow ≤ maxBulkImportRows + 1 ∧
      0 < next.currentColumn ∧ next.currentColumn ≤ maxBulkImportColumns := by
  rw [openCell] at opened
  split at opened
  · cases opened
  · rename_i inRow
    split at opened
    · cases opened
    · rename_i noCell
      have notOpen : scan.cell = none := by
        simpa using noCell
      simp only [bind, Except.bind] at opened
      split at opened
      · cases opened
      · rename_i place isPlace
        split at opened
        · cases opened
        · rename_i valid
          have limits := validateCoordinates_ok valid
          split at opened
          · cases opened
          · rename_i sameRow
            split at opened
            · cases opened
            · rename_i inOrder
              have hasRow : scan.currentRow ≠ 0 := by
                intro isZero
                simp [isZero] at inRow
              have moved : scan.currentRow = place.1 ∧ scan.currentColumn < place.2 := by
                omega
              rw [← Except.ok.inj opened]
              exact ⟨notOpen, notOpen, Prod.Lex.toLex_lt_toLex.mpr (.inr moved), limits⟩

theorem startCell_step (started : startCell scan attributes = .ok next) :
    Step platform sharedStrings scan next none := by
  simp only [startCell, bind, Except.bind] at started
  split at started
  · cases started
  · rename_i moved isMoved
    split at started
    · cases started
    · rename_i kind _
      obtain ⟨notOpen, -, later, rowPos, rowLe, columnPos, columnLe⟩ := openCell_ok isMoved
      rw [← Except.ok.inj started]
      exact .opens _ notOpen rfl later rfl ⟨rowPos, rowLe, columnPos, columnLe⟩

theorem startElement_step {localName : String}
    (started : startElement scan localName attributes = .ok next) :
    Step platform sharedStrings scan next none := by
  rw [startElement] at started
  split at started
  · exact .moves (openRoot_moves started)
  · split at started
    · exact .moves (openSheetData_moves started)
    · split at started
      · exact .moves (openRow_moves started)
      · split at started
        · exact startCell_step started
        · split at started
          · exact .moves (startValue_moves started)
          · split at started
            · exact .moves (openInline_moves started)
            · split at started
              · rw [← Except.ok.inj started]
                exact .moves (Moves.refl scan)
              · rw [← Except.ok.inj started]
                exact .moves (Moves.refl scan)

variable {emitted : Option SheetCell}

/-- A step that completes no cell. -/
theorem of_map_none {step : Except String Scan}
    (isStep : step.map (fun scan => (scan, (none : Option SheetCell))) = .ok (next, emitted)) :
    step = .ok next ∧ emitted = none := by
  cases step with
  | error error => cases isStep
  | ok value =>
    cases isStep
    exact ⟨rfl, rfl⟩

theorem emptyElement_step {localName : String}
    (isEmpty : emptyElement scan localName attributes = .ok (next, emitted)) :
    Step platform sharedStrings scan next emitted := by
  rw [emptyElement] at isEmpty
  split at isEmpty
  · obtain ⟨opened, rfl⟩ := of_map_none isEmpty
    exact .moves (openRoot_moves opened)
  · split at isEmpty
    · obtain ⟨opened, rfl⟩ := of_map_none isEmpty
      exact .moves (openSheetData_moves opened)
    · split at isEmpty
      · obtain ⟨opened, rfl⟩ := of_map_none isEmpty
        exact .moves (openRow_moves opened)
      · split at isEmpty
        · cases moved : openCell scan attributes with
          | error error =>
            rw [moved] at isEmpty
            cases isEmpty
          | ok opened =>
            rw [moved] at isEmpty
            obtain ⟨notOpen, stillNotOpen, later, rowPos, rowLe, columnPos, columnLe⟩ :=
              openCell_ok moved
            cases isEmpty
            exact .completes _ notOpen stillNotOpen later rfl
              ⟨rowPos, rowLe, columnPos, columnLe⟩
        · split at isEmpty
          · obtain ⟨isValue, rfl⟩ := of_map_none isEmpty
            exact .moves (emptyValue_moves isValue)
          · split at isEmpty
            · obtain ⟨opened, rfl⟩ := of_map_none isEmpty
              exact .moves (openInline_moves opened)
            · cases isEmpty
              exact .moves (Moves.refl scan)

theorem finishElement_step {localName : String}
    (finished : finishElement platform sharedStrings scan localName = .ok (next, emitted)) :
    Step platform sharedStrings scan next emitted := by
  rw [finishElement] at finished
  split at finished
  · cases finished
    exact .moves (Moves.refl scan)
  · split at finished
    · cases finished
      exact .moves (Moves.refl scan)
    · split at finished
      · cases finished
        exact .moves (Moves.refl scan)
      · split at finished
        · cases isCell : scan.cell with
          | none =>
            rw [finishCell, isCell] at finished
            cases finished
          | some cell =>
            rw [finishCell, isCell] at finished
            cases converted : convertCellValue platform cell sharedStrings with
            | error error =>
              simp only [orRefuse, Option.elim_some, bind, Except.bind, converted] at finished
              cases finished
            | ok value =>
              simp only [orRefuse, Option.elim_some, bind, Except.bind, converted] at finished
              cases finished
              exact .closes cell value isCell rfl rfl converted
        · cases finished
          exact .moves (Moves.refl scan)

/-- What an event can do. -/
theorem event_step {event : XmlEvent}
    (isStep : scan.event platform sharedStrings event = .ok (next, emitted)) :
    Step platform sharedStrings scan next emitted := by
  cases event with
  | start localName attributes =>
    obtain ⟨started, rfl⟩ := of_map_none isStep
    exact startElement_step started
  | empty localName attributes => exact emptyElement_step isStep
  | finish localName => exact finishElement_step isStep
  | text content =>
    obtain ⟨added, rfl⟩ := of_map_none isStep
    exact .moves (addText_moves added)
  | cData content =>
    obtain ⟨added, rfl⟩ := of_map_none isStep
    exact .moves (addText_moves added)
  | generalRef reference =>
    obtain ⟨added, rfl⟩ := of_map_none isStep
    exact .moves (addText_moves added)
  | docType => cases isStep
  | other =>
    cases isStep
    exact .moves (Moves.refl scan)
  | malformed error => cases isStep

/-! ## The order of the cells -/

/-- The cells completed so far are in order, before the cell that is open and not after the
current place. -/
structure Holds (scan : Scan) (cells : List SheetCell) : Prop where
  ordered : cells.Pairwise SheetCell.Before
  limits : ∀ cell ∈ cells, cell.InLimits
  reached : ∀ cell ∈ cells, toLex cell.place ≤ toLex scan.current
  openLimits : ∀ cell, scan.cell.map CellBuilder.opened = some cell → cell.InLimits
  openAfter : ∀ cell, scan.cell.map CellBuilder.opened = some cell →
    ∀ other ∈ cells, other.Before cell
  openReached : ∀ cell, scan.cell.map CellBuilder.opened = some cell →
    toLex cell.place ≤ toLex scan.current

theorem holds_nil : Holds {} [] where
  ordered := List.Pairwise.nil
  limits := fun _ isMember => absurd isMember List.not_mem_nil
  reached := fun _ isMember => absurd isMember List.not_mem_nil
  openLimits := fun _ isOpen => by cases isOpen
  openAfter := fun _ isOpen => by cases isOpen
  openReached := fun _ isOpen => by cases isOpen

/-- A cell after the others joins them. -/
theorem Holds.append {cells : List SheetCell} {cell : SheetCell} (holds : Holds scan cells)
    (noCell : next.cell = none) (reaches : toLex scan.current ≤ toLex next.current)
    (after : ∀ other ∈ cells, other.Before cell) (limits : cell.InLimits)
    (isReached : toLex cell.place ≤ toLex next.current) : Holds next (cells ++ [cell]) := by
  have noneOpen : ∀ other, next.cell.map CellBuilder.opened ≠ some other := by
    intro other isOpen
    rw [noCell] at isOpen
    cases isOpen
  constructor
  · rw [List.pairwise_append]
    refine ⟨holds.ordered, List.pairwise_singleton _ _, ?_⟩
    intro other isOther last isLast
    rw [List.mem_singleton.mp isLast]
    exact after other isOther
  · intro other isMember
    cases List.mem_append.mp isMember with
    | inl isOther => exact holds.limits other isOther
    | inr isLast => exact List.mem_singleton.mp isLast ▸ limits
  · intro other isMember
    cases List.mem_append.mp isMember with
    | inl isOther => exact le_trans (holds.reached other isOther) reaches
    | inr isLast => exact List.mem_singleton.mp isLast ▸ isReached
  · exact fun other isOpen => absurd isOpen (noneOpen other)
  · exact fun other isOpen => absurd isOpen (noneOpen other)
  · exact fun other isOpen => absurd isOpen (noneOpen other)

/-- Every event keeps the order. -/
theorem Holds.step {cells : List SheetCell}
    (holds : Holds scan cells) (isStep : Step platform sharedStrings scan next emitted) :
    Holds next (cells ++ emitted.toList) := by
  cases isStep with
  | moves isMove =>
    obtain ⟨reaches, sameCell⟩ := isMove
    rw [Option.toList_none, List.append_nil]
    exact
      { ordered := holds.ordered
        limits := holds.limits
        reached := fun cell isMember => le_trans (holds.reached cell isMember) reaches
        openLimits := fun cell isOpen => holds.openLimits cell (sameCell ▸ isOpen)
        openAfter := fun cell isOpen => holds.openAfter cell (sameCell ▸ isOpen)
        openReached := fun cell isOpen =>
          le_trans (holds.openReached cell (sameCell ▸ isOpen)) reaches }
  | opens cell noCell isCell later atCurrent limits =>
    have only : ∀ other, next.cell.map CellBuilder.opened = some other →
        cell.opened = other := by
      intro other isOpen
      rw [isCell] at isOpen
      exact Option.some.inj isOpen
    rw [Option.toList_none, List.append_nil]
    exact
      { ordered := holds.ordered
        limits := holds.limits
        reached := fun cell isMember =>
          le_trans (holds.reached cell isMember) (le_of_lt later)
        openLimits := fun other isOpen => only other isOpen ▸ limits
        openAfter := fun other isOpen earlier isMember => by
          rw [← only other isOpen, SheetCell.Before, atCurrent]
          exact lt_of_le_of_lt (holds.reached earlier isMember) later
        openReached := fun other isOpen => by
          rw [← only other isOpen, atCurrent] }
  | completes cell noCell stillNone later atCurrent limits =>
    apply holds.append stillNone (le_of_lt later) _ limits (le_of_eq (by rw [atCurrent]))
    intro other isMember
    rw [SheetCell.Before, atCurrent]
    exact lt_of_le_of_lt (holds.reached other isMember) later
  | closes cell value isCell noCell sameCurrent converted =>
    have isOpen : scan.cell.map CellBuilder.opened = some cell.opened := by
      rw [isCell]
      rfl
    have limits := holds.openLimits _ isOpen
    have after : ∀ other ∈ cells, other.Before { cell.opened with value := value } :=
      holds.openAfter cell.opened isOpen
    apply holds.append noCell (le_of_eq (by rw [sameCurrent])) after
    · exact ⟨limits.row_pos, limits.row_le, limits.column_pos, limits.column_le⟩
    · rw [sameCurrent]
      exact holds.openReached cell.opened isOpen

/-- The cells that some events complete, up to the first event that is refused, and the state after
the events or the refusal. -/
def run (platform : SheetPlatform) (sharedStrings : List String) (scan : Scan) :
    List XmlEvent → List SheetCell × Except String Scan
  | [] => ([], .ok scan)
  | event :: events =>
    match scan.event platform sharedStrings event with
    | .error error => ([], .error error)
    | .ok step =>
      let rest := run platform sharedStrings step.1 events
      (step.2.toList ++ rest.1, rest.2)

/-- The cells of every run are in order. -/
theorem Holds.run {cells : List SheetCell} (events : List XmlEvent) (holds : Holds scan cells) :
    (cells ++ (run platform sharedStrings scan events).1).Pairwise SheetCell.Before ∧
      ∀ cell ∈ cells ++ (run platform sharedStrings scan events).1, cell.InLimits := by
  induction events generalizing scan cells with
  | nil =>
    rw [Scan.run, List.append_nil]
    exact ⟨holds.ordered, holds.limits⟩
  | cons event events ih =>
    rw [Scan.run]
    cases isStep : scan.event platform sharedStrings event with
    | error error =>
      simp only [List.append_nil]
      exact ⟨holds.ordered, holds.limits⟩
    | ok step =>
      have next := ih (holds.step (event_step isStep))
      simp only [List.append_assoc] at next ⊢
      exact next

end Scan

/-! ## The reader and the picture -/

/-- The cells of a worksheet in reading order, up to the first event that is refused. -/
def worksheetCells (platform : SheetPlatform) (sharedStrings : List String)
    (events : List XmlEvent) : List SheetCell :=
  (Scan.run platform sharedStrings {} events).1

variable {platform : SheetPlatform}

/-- The reader keeps the picture of the cells until it refuses one of them. -/
theorem foldlM_event {sharedStrings : List String} {scan : Scan}
    {cells : List SheetCell} (events : List XmlEvent)
    (few : cells.length ≤ maxBulkImportWorksheetCells)
    (ordered : (cells ++ (scan.run platform sharedStrings events).1).Pairwise SheetCell.Before)
    (limits : ∀ cell ∈ cells ++ (scan.run platform sharedStrings events).1, cell.InLimits) :
    events.foldlM (SheetReader.event platform sharedStrings) (SheetReader.after scan cells) =
      (firstRefusal cells (scan.run platform sharedStrings events).1).elim
        ((refuse (scan.run platform sharedStrings events).2).map fun last =>
          SheetReader.after last (cells ++ (scan.run platform sharedStrings events).1))
        Except.error := by
  induction events generalizing scan cells with
  | nil =>
    rw [Scan.run, List.append_nil]
    rfl
  | cons event events ih =>
    rw [List.foldlM_cons]
    rw [Scan.run] at ordered limits ⊢
    cases isStep : scan.event platform sharedStrings event with
    | error error =>
      have failed : (SheetReader.after scan cells).event platform sharedStrings event =
          .error (.refused error) := by
        change (refuse (scan.event platform sharedStrings event)).bind _ = _
        rw [isStep]
        rfl
      rw [failed]
      rfl
    | ok step =>
      obtain ⟨next, emitted⟩ := step
      simp only [isStep] at ordered limits
      have moved : (SheetReader.after scan cells).event platform sharedStrings event =
          emitted.elim (.ok (SheetReader.after next cells))
            (SheetReader.after next cells).place := by
        change (refuse (scan.event platform sharedStrings event)).bind _ = _
        rw [isStep]
        rfl
      rw [moved]
      cases emitted with
      | none => exact ih few ordered limits
      | some cell =>
        have regroup : ∀ rest : List SheetCell,
            cells ++ ((some cell).toList ++ rest) = cells ++ [cell] ++ rest :=
          fun rest => (List.append_assoc cells [cell] rest).symm
        simp only [regroup] at ordered limits
        simp only [Option.elim_some, Option.toList_some, List.singleton_append, firstRefusal]
        have after : ∀ other ∈ cells, other.Before cell := by
          intro other isOther
          have earlier := (List.pairwise_append.mp ordered).1
          exact (List.pairwise_append.mp earlier).2.2 other isOther cell
            List.mem_cons_self
        rw [place_after next few after fun other isOther =>
          limits other (List.mem_append_left _ isOther)]
        by_cases tooMany : maxBulkImportWorksheetCells < cells.length + 1
        · rw [if_pos tooMany, if_pos tooMany]
          rfl
        · rw [if_neg tooMany, if_neg tooMany]
          by_cases tooLarge :
              maxBulkImportWorksheetCells < boundingArea (places (cells ++ [cell]))
          · rw [if_pos tooLarge, if_pos tooLarge]
            rfl
          · have stillFew : (cells ++ [cell]).length ≤ maxBulkImportWorksheetCells := by
              rw [List.length_append]
              exact Nat.le_of_not_lt tooMany
            rw [if_neg tooLarge, if_neg tooLarge]
            have rest := ih stillFew ordered limits
            rw [List.append_cons cells cell (Scan.run platform sharedStrings next events).1]
            exact rest

theorem worksheetCells_ordered (platform : SheetPlatform) (sharedStrings : List String)
    (events : List XmlEvent) :
    (worksheetCells platform sharedStrings events).Pairwise SheetCell.Before ∧
      ∀ cell ∈ worksheetCells platform sharedStrings events, cell.InLimits :=
  Scan.holds_nil.run events

/-- The whole reader, in terms of the cells. -/
theorem readWorksheet_eq (platform : SheetPlatform) (sharedStrings : List String)
    (events : List XmlEvent) :
    readWorksheet platform sharedStrings events =
      (firstRefusal [] (worksheetCells platform sharedStrings events)).elim
        ((refuse ((Scan.run platform sharedStrings {} events).2.bind Scan.complete)).map fun _ =>
          ((sheetOf (worksheetCells platform sharedStrings events)).firstRow.getD 1,
            (sheetOf (worksheetCells platform sharedStrings events)).rows))
        Except.error := by
  obtain ⟨ordered, limits⟩ := worksheetCells_ordered platform sharedStrings events
  have whole := @foldlM_event platform sharedStrings {} [] events (Nat.zero_le _) ordered limits
  have start : SheetReader.after {} [] = {} := rfl
  rw [start] at whole
  change (events.foldlM (SheetReader.event platform sharedStrings) {}).bind _ = _
  rw [whole]
  change Except.bind ((firstRefusal [] (worksheetCells platform sharedStrings events)).elim _ _) _ =
    _
  cases firstRefusal [] (worksheetCells platform sharedStrings events) with
  | some error => rfl
  | none =>
    cases outcome : (Scan.run platform sharedStrings {} events).2 with
    | error error => rfl
    | ok scan =>
      change (refuse scan.complete).bind _ = (refuse scan.complete).map _
      cases scan.complete with
      | error error => rfl
      | ok value => rfl

/-! ## Faithful reading -/

/-- The matrix has the cells of a worksheet at their places, counted from the first used row and
the first used column, and nothing else.  A worksheet without cells has an empty matrix. -/
def ReadsFaithfully (cells : List SheetCell) (firstRow : Nat) (rows : List (List String)) : Prop :=
  if cells = [] then rows = []
  else ∃ box : Box, box.Bounds (places cells) ∧ firstRow = box.firstRow ∧
    rows.length = box.lastRow - box.firstRow + 1 ∧
    (∀ row ∈ rows, row.length = box.lastColumn - box.firstColumn + 1) ∧
    (∀ cell ∈ cells, entryAt rows (cell.row - box.firstRow) (cell.column - box.firstColumn) =
      some cell.value) ∧
    ∀ i j text, entryAt rows i j = some text →
      (∀ cell ∈ cells, cell.place ≠ (box.firstRow + i, box.firstColumn + j)) → text = ""

theorem sheetOf_readsFaithfully {cells : List SheetCell}
    (ordered : cells.Pairwise SheetCell.Before) :
    ReadsFaithfully cells ((sheetOf cells).firstRow.getD 1) (sheetOf cells).rows := by
  by_cases noCells : cells = []
  · rw [ReadsFaithfully, if_pos noCells, noCells]
    rfl
  · have somePlaces : places cells ≠ [] := by
      rw [places, ne_eq, List.map_eq_nil_iff]
      exact noCells
    obtain ⟨box, isBox, bounds⟩ := boundingBox_bounds somePlaces
    have sheet : sheetOf cells =
        { rows := picture box cells
          firstRow := some box.firstRow
          firstColumn := some box.firstColumn
          lastColumn := some box.lastColumn } := by
      rw [sheetOf, isBox]
      rfl
    rw [ReadsFaithfully, if_neg noCells, sheet]
    refine ⟨box, bounds, rfl, length_tabulate _ _ _, ?_, ?_, ?_⟩
    · intro row isRow
      exact length_of_mem_tabulate isRow
    · intro cell isCell
      have isPlace : cell.place ∈ places cells := List.mem_map_of_mem isCell
      have below : box.firstRow ≤ cell.row := bounds.firstRow_le isPlace
      have above : cell.row ≤ box.lastRow := bounds.le_lastRow isPlace
      have rightOf : box.firstColumn ≤ cell.column := bounds.firstColumn_le isPlace
      have leftOf : cell.column ≤ box.lastColumn := bounds.le_lastColumn isPlace
      have inside : cell.row - box.firstRow < box.height ∧
          cell.column - box.firstColumn < box.width := by
        rw [Box.height, Box.width]
        omega
      rw [picture, entryAt_tabulate, if_pos inside, Nat.add_sub_cancel' below,
        Nat.add_sub_cancel' rightOf, valueAt_of_mem ordered isCell]
    · intro i j text isEntry noCell
      rw [picture, entryAt_tabulate] at isEntry
      split at isEntry
      · rw [← Option.some.inj isEntry]
        exact valueAt_eq_empty noCell
      · cases isEntry

theorem places_nodup {cells : List SheetCell} (ordered : cells.Pairwise SheetCell.Before) :
    (places cells).Nodup := by
  rw [places, List.nodup_iff_pairwise_ne, List.pairwise_map]
  exact ordered.imp SheetCell.Before.place_ne

/-- A reading that refuses no cell ends with the picture or with the refusal of an event. -/
theorem readWorksheet_of_none {sharedStrings : List String} {events : List XmlEvent}
    (noRefusal : firstRefusal [] (worksheetCells platform sharedStrings events) = none) :
    (∃ message, readWorksheet platform sharedStrings events = .error (.refused message)) ∨
      readWorksheet platform sharedStrings events =
        .ok ((sheetOf (worksheetCells platform sharedStrings events)).firstRow.getD 1,
          (sheetOf (worksheetCells platform sharedStrings events)).rows) := by
  rw [readWorksheet_eq, noRefusal, Option.elim_none]
  cases (Scan.run platform sharedStrings {} events).2.bind Scan.complete with
  | error message => exact .inl ⟨message, rfl⟩
  | ok value => exact .inr rfl

/-- A reading that refuses a cell. -/
theorem readWorksheet_of_some {sharedStrings : List String}
    {events : List XmlEvent} {error : SheetError}
    (refusal : firstRefusal [] (worksheetCells platform sharedStrings events) = some error) :
    readWorksheet platform sharedStrings events = .error error := by
  rw [readWorksheet_eq, refusal, Option.elim_some]

/-- A reading that is refused for the limits refuses a cell. -/
theorem readWorksheet_eq_error_iff {sharedStrings : List String}
    {events : List XmlEvent} {error : SheetError} (isLimit : ∀ message, error ≠ .refused message) :
    readWorksheet platform sharedStrings events = .error error ↔
      firstRefusal [] (worksheetCells platform sharedStrings events) = some error := by
  cases refusal : firstRefusal [] (worksheetCells platform sharedStrings events) with
  | none =>
    apply iff_of_false
    · intro isError
      cases readWorksheet_of_none refusal with
      | inl refused =>
        obtain ⟨message, isRefused⟩ := refused
        rw [isError] at isRefused
        exact isLimit message (Except.error.inj isRefused)
      | inr isRead =>
        rw [isError] at isRead
        cases isRead
    · exact (Option.some_ne_none error).symm
  | some other =>
    rw [readWorksheet_of_some refusal, Except.error.injEq, Option.some.injEq]

/-- A cell is refused for its range when the box of the cells up to it is too large, and these are
no more than the limit. -/
theorem readWorksheet_eq_range_iff (platform : SheetPlatform) (sharedStrings : List String)
    (events : List XmlEvent) :
    readWorksheet platform sharedStrings events = .error .range ↔
      ∃ n ≤ (worksheetCells platform sharedStrings events).length,
        n ≤ maxBulkImportWorksheetCells ∧ maxBulkImportWorksheetCells <
          boundingArea (places ((worksheetCells platform sharedStrings events).take n)) := by
  have start : boundingArea (places []) ≤ maxBulkImportWorksheetCells := Nat.zero_le _
  have ofRange :=
    firstRefusal_eq_range_iff (worksheetCells platform sharedStrings events) start
  simp only [List.length_nil, Nat.zero_add, List.nil_append] at ofRange
  rw [← ofRange]
  exact readWorksheet_eq_error_iff fun _ same => by cases same

end MailSwiftSync.BulkImport
