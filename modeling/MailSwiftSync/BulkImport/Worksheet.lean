import MailSwiftSync.Foundation.Grid
import MailSwiftSync.Imap.Text

/-!
# Worksheets

The reader of worksheets turns the events of an XML reader into a matrix of texts.  The events, and
what the XML reader decodes in them, are given; so are the reading and writing of floating-point
numbers and the quoting of texts in messages.
-/

namespace MailSwiftSync.BulkImport

open Foundation

def maxBulkImportRows : Nat := 100000

def maxBulkImportColumns : Nat := 64

def maxBulkImportCellBytes : Nat := 64 * 1024

def maxBulkImportWorksheetCells : Nat := 1000000

def maxBulkImportSharedStringBytes : Nat := 64 * 1024 * 1024

/-! ## Checked arithmetic -/

def usizeLimit : Nat := 2 ^ 64

def checkedAdd (left right : Nat) : Option Nat :=
  if left + right < usizeLimit then some (left + right) else none

def checkedSub (left right : Nat) : Option Nat :=
  if right ≤ left then some (left - right) else none

def checkedMul (left right : Nat) : Option Nat :=
  if left * right < usizeLimit then some (left * right) else none

/-! ## Errors -/

/-- Why a worksheet is not read.  An index outside of the matrix would end the program. -/
inductive SheetError where
  | refused (message : String)
  | cellLimit
  | range
  | panicked
deriving DecidableEq, Repr

/-- `ok_or_else`. -/
def orRefuse {α : Type*} (value : Option α) (message : String) : Except String α :=
  value.elim (.error message) .ok

/-- A refusal with its message. -/
def refuse {α : Type*} (value : Except String α) : Except SheetError α := value.mapError .refused

/-! ## Cell references -/

/-- `str::parse::<u32>`. -/
def parseU32 (text : List Char) : Option Nat := (Imap.parseU64 text).filter (· < 2 ^ 32)

/-- One letter of a column name. -/
def addColumnLetter (columns : Nat) (character : Char) : Except String Nat :=
  if !character.isAlpha then .error "The worksheet dimension has an invalid column."
  else
    let value := character.toUpper.toNat - 'A'.toNat + 1
    orRefuse ((checkedMul columns 26).bind (checkedAdd · value))
      "The worksheet dimension column is too large."

/-- The column and the row of a reference such as `B7`. -/
def parseCellReference (reference : String) : Except String (Nat × Nat) := do
  let letters := reference.toList.takeWhile (!·.isDigit)
  let digits := reference.toList.dropWhile (!·.isDigit)
  if digits.isEmpty then .error "The worksheet dimension has no row number."
  else
    let columns ← letters.foldlM addColumnLetter 0
    let rows ← orRefuse (parseU32 digits) "The worksheet dimension has an invalid row."
    if rows = 0 ∨ columns = 0 then
      .error "The worksheet dimension cell coordinates must be positive."
    else .ok (columns, rows)

/-! ## Events -/

inductive XmlAttribute where
  | malformed (error : String)
  | named (localName : String) (value : Except String String)

/-- A reference in a text: the character it stands for, when it is one, and the predefined
entity. -/
structure XmlReference where
  charRef : Except String (Option Char)
  predefined : Option String

inductive XmlEvent where
  | start (localName : String) (attributes : List XmlAttribute)
  | empty (localName : String) (attributes : List XmlAttribute)
  | finish (localName : String)
  | text (content : String)
  | cData (content : String)
  | generalRef (reference : XmlReference)
  | docType
  | other
  | malformed (error : String)

/-- The attribute of a name. -/
def attributeOf (attributes : List XmlAttribute) (name : String) :
    Except String (Option String) :=
  attributes.foldlM (fun value item =>
    match item with
    | .malformed error => .error ("Malformed XLSX XML attribute: " ++ error)
    | .named localName content =>
      if localName = name then
        if value.isSome then
          .error "An XLSX XML element has a duplicate attribute."
        else
          match content with
          | .error error =>
            .error ("Malformed XLSX XML attribute value: " ++ error)
          | .ok content => .ok (some content)
      else .ok value) none

def resolveReference (reference : XmlReference) : Except String String :=
  match reference.charRef with
  | .error error =>
    .error ("An XLSX XML character reference is invalid: " ++ error)
  | .ok (some character) => .ok (String.singleton character)
  | .ok none => orRefuse reference.predefined "An XLSX XML entity is not predefined."

/-! ## The cell being read -/

structure CellBuilder where
  row : Nat
  column : Nat
  kind : String
  value : String
  inline : String
deriving DecidableEq, Repr

/-- What the reader needs from elsewhere: how a number is read and written, `none` when the text
is no number and `some none` when the number is not finite, and how a text is quoted. -/
structure SheetPlatform where
  number : String → Option (Option String)
  debug : String → String

def convertCellValue (platform : SheetPlatform) (cell : CellBuilder)
    (sharedStrings : List String) : Except String String :=
  if cell.kind = "s" then do
    let index ← orRefuse (Imap.parseU64 cell.value.toList)
      "An XLSX cell has an invalid shared-string index."
    orRefuse sharedStrings[index]? "An XLSX cell references a missing shared string."
  else if cell.kind = "inlineStr" then .ok cell.inline
  else if cell.kind = "b" then
    if cell.value = "0" then .ok "FALSE"
    else if cell.value = "1" then .ok "TRUE"
    else .error "An XLSX boolean cell must contain exactly 0 or 1."
  else if cell.kind = "e" then
    .error "The selected XLSX worksheet contains an error-valued cell."
  else if cell.kind = "" ∨ cell.kind = "n" then
    if cell.value.isEmpty then .ok ""
    else do
      let number ← orRefuse (platform.number cell.value)
        "An XLSX numeric cell has an invalid value."
      orRefuse number "An XLSX numeric cell is not finite."
  else if cell.kind = "str" ∨ cell.kind = "d" then .ok cell.value
  else .error ("The selected XLSX worksheet uses unsupported cell type " ++
    platform.debug cell.kind ++ ".")

/-- `append_bounded` for the text of a cell, whose total is its own length. -/
def appendBounded (target value : String) : Except String String := do
  let newLen ← orRefuse (checkedAdd target.utf8ByteSize value.utf8ByteSize)
    "An XLSX text value exceeds the supported size."
  if newLen > maxBulkImportCellBytes then
    .error s!"An XLSX cell exceeds the {maxBulkImportCellBytes}-byte limit."
  else if newLen > maxBulkImportSharedStringBytes then
    .error "The XLSX shared strings exceed the configured byte limit."
  else .ok (target ++ value)

/-! ## The matrix -/

/-- A cell with its place and its text. -/
structure SheetCell where
  row : Nat
  column : Nat
  value : String
deriving DecidableEq, Repr

/-- The matrix, and the used range as far as it is known. -/
structure Sheet where
  rows : List (List String) := []
  firstRow : Option Nat := none
  firstColumn : Option Nat := none
  lastColumn : Option Nat := none
deriving DecidableEq, Repr

/-- The rows after the columns before, the columns after and the rows below that a cell needs. -/
def growRows (rows : List (List String)) (shift width rowCount : Nat) : List (List String) :=
  let shifted := if 0 < shift then insertColumns "" shift rows else rows
  let previousWidth := (shifted.head?.map List.length).getD 0
  let widened := if width > previousWidth then resizeColumns "" width shifted else shifted
  pushRows "" rowCount width widened

def appendCell (sheet : Sheet) (cell : SheetCell) : Except SheetError Sheet := do
  let startRow := sheet.firstRow.getD cell.row
  let startColumn := sheet.firstColumn.getD cell.column
  let endColumn := max (sheet.lastColumn.getD cell.column) cell.column
  let newStartColumn := min startColumn cell.column
  let width ← refuse (orRefuse ((checkedSub endColumn newStartColumn).bind (checkedAdd · 1))
    "The XLSX worksheet range is too wide.")
  let rowCount ← refuse (orRefuse ((checkedSub cell.row startRow).bind (checkedAdd · 1))
    "The XLSX worksheet range is too large.")
  if (checkedMul width rowCount).all (· > maxBulkImportWorksheetCells) then .error .range
  else
    let rows := growRows sheet.rows (startColumn - newStartColumn) width rowCount
    (setEntry rows (cell.row - startRow) (cell.column - newStartColumn) cell.value).elim
      (.error .panicked) fun rows => .ok
        { rows := rows
          firstRow := some startRow
          firstColumn := some newStartColumn
          lastColumn := some endColumn }

/-! ## Rows and cells -/

def validateCoordinates (row column : Nat) : Except String Unit :=
  if row = 0 ∨ row > saturatingAdd maxBulkImportRows 1 then
    .error s!"The worksheet contains a cell beyond the {maxBulkImportRows}-row import limit."
  else if column = 0 ∨ column > maxBulkImportColumns then
    .error s!"The worksheet contains a cell beyond the {maxBulkImportColumns}-column import limit."
  else .ok ()

def parsePositiveUsize (value label : String) : Except String Nat :=
  orRefuse ((Imap.parseU64 value.toList).filter (0 < ·))
    ("The XLSX worksheet " ++ label ++ " reference is invalid.")

/-- The row and the column of a cell. -/
def cellPosition (attributes : List XmlAttribute) (currentRow currentColumn : Nat) :
    Except String (Nat × Nat) := do
  match ← attributeOf attributes "r" with
  | none =>
    if currentRow = 0 then
      .error "The first XLSX worksheet cell has no coordinate."
    else .ok (currentRow, saturatingAdd currentColumn 1)
  | some reference =>
    let place ← parseCellReference reference
    .ok (place.2, place.1)

/-- The state of the reader apart from the matrix. -/
structure Scan where
  cell : Option CellBuilder := none
  rootSeen : Bool := false
  sheetDataSeen : Bool := false
  inSheetData : Bool := false
  inValue : Bool := false
  inInlineText : Bool := false
  valueSeen : Bool := false
  inlineSeen : Bool := false
  currentRow : Nat := 0
  currentColumn : Nat := 0
deriving DecidableEq, Repr

namespace Scan

variable (platform : SheetPlatform) (sharedStrings : List String) (scan : Scan)

/-- The first element has to be a worksheet. -/
def openRoot (localName : String) : Except String Scan :=
  if localName ≠ "worksheet" then
    .error "The workbook relationship does not target a worksheet part."
  else .ok { scan with rootSeen := true }

def openSheetData (inSheetData : Bool) : Except String Scan :=
  if scan.sheetDataSeen then
    .error "The XLSX worksheet has duplicate sheetData elements."
  else .ok { scan with sheetDataSeen := true, inSheetData := inSheetData || scan.inSheetData }

def openRow (attributes : List XmlAttribute) : Except String Scan := do
  if !scan.inSheetData then
    .error "The XLSX worksheet row is outside sheetData."
  else
    let reference ← attributeOf attributes "r"
    let row ← reference.elim (.ok (saturatingAdd scan.currentRow 1)) (parsePositiveUsize · "row")
    validateCoordinates row 1
    if row ≤ scan.currentRow then
      .error "XLSX worksheet rows are duplicate or out of order."
    else .ok { scan with currentRow := row, currentColumn := 0 }

/-- Move to the place of a cell. -/
def openCell (attributes : List XmlAttribute) : Except String Scan := do
  if !scan.inSheetData || scan.currentRow = 0 then
    .error "The XLSX worksheet cell is outside a row in sheetData."
  else if scan.cell.isSome then
    .error "The XLSX worksheet contains nested cells."
  else
    let place ← cellPosition attributes scan.currentRow scan.currentColumn
    validateCoordinates place.1 place.2
    if scan.currentRow ≠ 0 ∧ place.1 ≠ scan.currentRow then
      .error "An XLSX cell does not match its containing row."
    else if place.1 < scan.currentRow ∨ place.2 ≤ scan.currentColumn then
      .error "XLSX worksheet cells are duplicate or out of order."
    else .ok { scan with currentRow := place.1, currentColumn := place.2 }

/-- Begin the cell at the current place. -/
def startCell (attributes : List XmlAttribute) : Except String Scan := do
  let scan ← openCell scan attributes
  let kind ← attributeOf attributes "t"
  .ok { scan with
    cell := some
      { row := scan.currentRow
        column := scan.currentColumn
        kind := kind.getD ""
        value := ""
        inline := "" }
    valueSeen := false
    inlineSeen := false }

def startValue : Except String Scan :=
  if scan.inValue || scan.valueSeen then
    .error "An XLSX cell has nested or duplicate value elements."
  else .ok { scan with inValue := true, valueSeen := true }

def emptyValue : Except String Scan :=
  if scan.valueSeen then .error "An XLSX cell has duplicate value elements."
  else .ok { scan with valueSeen := true }

def openInline : Except String Scan :=
  if scan.inlineSeen then
    .error "An XLSX cell has duplicate inline-string elements."
  else .ok { scan with inlineSeen := true }

/-- The text of a value or of an inline string; other text is skipped. -/
def addText (decoded : Except String String) : Except String Scan :=
  match scan.cell with
  | none => .ok scan
  | some cell =>
    if scan.inValue || scan.inInlineText then do
      let decoded ← decoded
      if scan.inValue then
        let value ← appendBounded cell.value decoded
        .ok { scan with cell := some { cell with value := value } }
      else
        let inline ← appendBounded cell.inline decoded
        .ok { scan with cell := some { cell with inline := inline } }
    else .ok scan

def startElement (localName : String) (attributes : List XmlAttribute) :
    Except String Scan :=
  if !scan.rootSeen then openRoot scan localName
  else if localName = "sheetData" then openSheetData scan true
  else if localName = "row" then openRow scan attributes
  else if localName = "c" then startCell scan attributes
  else if scan.cell.isSome && localName = "v" then startValue scan
  else if scan.cell.isSome && localName = "is" then openInline scan
  else if scan.cell.isSome && localName = "t" then .ok { scan with inInlineText := true }
  else .ok scan

/-- An element without content; a cell of this kind is complete. -/
def emptyElement (localName : String) (attributes : List XmlAttribute) :
    Except String (Scan × Option SheetCell) :=
  if !scan.rootSeen then (openRoot scan localName).map (·, none)
  else if localName = "sheetData" then (openSheetData scan false).map (·, none)
  else if localName = "row" then (openRow scan attributes).map (·, none)
  else if localName = "c" then (openCell scan attributes).map fun scan =>
    (scan, some { row := scan.currentRow, column := scan.currentColumn, value := "" })
  else if scan.cell.isSome && localName = "v" then (emptyValue scan).map (·, none)
  else if scan.cell.isSome && localName = "is" then (openInline scan).map (·, none)
  else .ok (scan, none)

/-- The end of a cell completes it. -/
def finishCell : Except String (Scan × Option SheetCell) := do
  let parsed ← orRefuse scan.cell "The XLSX worksheet has an unmatched cell end."
  let value ← convertCellValue platform parsed sharedStrings
  .ok ({ scan with cell := none, inValue := false, inInlineText := false },
    some { row := parsed.row, column := parsed.column, value := value })

def finishElement (localName : String) : Except String (Scan × Option SheetCell) :=
  if localName = "sheetData" then .ok ({ scan with inSheetData := false }, none)
  else if localName = "v" then .ok ({ scan with inValue := false }, none)
  else if localName = "t" then .ok ({ scan with inInlineText := false }, none)
  else if localName = "c" then finishCell platform sharedStrings scan
  else .ok (scan, none)

/-- One event, and the cell that it completes. -/
def event : XmlEvent → Except String (Scan × Option SheetCell)
  | .start localName attributes => (startElement scan localName attributes).map (·, none)
  | .empty localName attributes => emptyElement scan localName attributes
  | .finish localName => finishElement platform sharedStrings scan localName
  | .text content => (addText scan (.ok content)).map (·, none)
  | .cData content => (addText scan (.ok content)).map (·, none)
  | .generalRef reference => (addText scan (resolveReference reference)).map (·, none)
  | .docType => .error "XLSX XML document types are not supported."
  | .other => .ok (scan, none)
  | .malformed error => .error ("The XLSX worksheet is malformed: " ++ error)

/-- The checks at the end of the events. -/
def complete : Except String Unit :=
  if !scan.rootSeen || !scan.sheetDataSeen then
    .error "The XLSX worksheet has no valid root or sheetData element."
  else if scan.cell.isSome || scan.inValue || scan.inInlineText || scan.inSheetData then
    .error "The XLSX worksheet ends inside a cell value."
  else .ok ()

end Scan

/-! ## The reader -/

structure SheetReader where
  scan : Scan := {}
  sheet : Sheet := {}
  cellCount : Nat := 0
deriving DecidableEq, Repr

def ensureCellCount (count : Nat) : Except SheetError Unit :=
  if count > maxBulkImportWorksheetCells then .error .cellLimit else .ok ()

/-- Count a cell and put it into the matrix. -/
def SheetReader.place (reader : SheetReader) (cell : SheetCell) : Except SheetError SheetReader :=
  do
    let cellCount := saturatingAdd reader.cellCount 1
    ensureCellCount cellCount
    let sheet ← appendCell reader.sheet cell
    .ok { reader with sheet := sheet, cellCount := cellCount }

def SheetReader.event (platform : SheetPlatform) (sharedStrings : List String)
    (reader : SheetReader) (event : XmlEvent) : Except SheetError SheetReader := do
  let step ← refuse (reader.scan.event platform sharedStrings event)
  step.2.elim (.ok { reader with scan := step.1 }) ({ reader with scan := step.1 }).place

/-- The number of the first used row, and the matrix. -/
def readWorksheet (platform : SheetPlatform) (sharedStrings : List String)
    (events : List XmlEvent) : Except SheetError (Nat × List (List String)) := do
  let reader ← events.foldlM (SheetReader.event platform sharedStrings) {}
  refuse reader.scan.complete
  .ok (reader.sheet.firstRow.getD 1, reader.sheet.rows)

end MailSwiftSync.BulkImport
