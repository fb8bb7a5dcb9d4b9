import MailSwiftSync.BulkImport.Worksheet

/-!
# Names of cells

The name of a cell is its column in letters followed by its row in digits.  The columns count
`A`, …, `Z`, `AA`, …, so the letters have the values 1 to 26.
-/

namespace MailSwiftSync.BulkImport

/-- The letter with a value from 1 to 26, less one. -/
def columnLetter (value : Nat) : Char := Char.ofNat ('A'.toNat + value)

/-- The letters of a column. -/
def columnLetters : Nat → List Char
  | 0 => []
  | column + 1 => columnLetters (column / 26) ++ [columnLetter (column % 26)]
termination_by column => column
decreasing_by exact Nat.lt_succ_of_le (Nat.div_le_self _ _)

/-- The name of the cell in a column and a row. -/
def cellName (column row : Nat) : String :=
  String.ofList (columnLetters column ++ Nat.toDigits 10 row)

theorem columnLetter_spec : ∀ value < 26, (columnLetter value).isAlpha = true ∧
    (columnLetter value).isDigit = false ∧
    (columnLetter value).toUpper.toNat - 'A'.toNat + 1 = value + 1 := by
  decide

/-- The letters of a column have its number. -/
theorem foldlM_columnLetters {column : Nat} (fits : column < usizeLimit) :
    (columnLetters column).foldlM addColumnLetter 0 = .ok column := by
  induction column using Nat.strongRecOn with
  | ind column ih =>
    cases column with
    | zero =>
      rw [columnLetters]
      rfl
    | succ column =>
      have smaller : column / 26 < column + 1 :=
        Nat.lt_succ_of_le (Nat.div_le_self column 26)
      obtain ⟨isAlpha, -, hasValue⟩ := columnLetter_spec (column % 26)
        (Nat.mod_lt column (by decide))
      have whole : column / 26 * 26 + (column % 26 + 1) = column + 1 := by
        omega
      have product : checkedMul (column / 26) 26 = some (column / 26 * 26) := by
        rw [checkedMul, if_pos (by omega)]
      have sum : checkedAdd (column / 26 * 26) (column % 26 + 1) = some (column + 1) := by
        rw [checkedAdd, whole, if_pos fits]
      have last : addColumnLetter (column / 26) (columnLetter (column % 26)) =
          .ok (column + 1) := by
        rw [addColumnLetter, isAlpha, hasValue, product]
        change orRefuse (checkedAdd (column / 26 * 26) (column % 26 + 1)) _ = _
        rw [sum]
        rfl
      rw [columnLetters, List.foldlM_append, ih _ smaller (lt_trans smaller fits)]
      change (addColumnLetter (column / 26) (columnLetter (column % 26))).bind _ = _
      rw [last]
      rfl

theorem isDigit_of_mem_columnLetters {column : Nat} {character : Char}
    (isLetter : character ∈ columnLetters column) : character.isDigit = false := by
  induction column using Nat.strongRecOn with
  | ind column ih =>
    cases column with
    | zero =>
      rw [columnLetters] at isLetter
      cases isLetter
    | succ column =>
      rw [columnLetters, List.mem_append, List.mem_singleton] at isLetter
      cases isLetter with
      | inl earlier =>
        exact ih _ (Nat.lt_succ_of_le (Nat.div_le_self column 26)) earlier
      | inr isLast =>
        rw [isLast]
        exact (columnLetter_spec (column % 26) (Nat.mod_lt column (by decide))).2.1

/-- The name of a cell is read as its column and its row. -/
theorem parseCellReference_cellName {column row : Nat} (columnPositive : 0 < column)
    (columnFits : column < usizeLimit) (rowPositive : 0 < row) (rowFits : row < 2 ^ 32) :
    parseCellReference (cellName column row) = .ok (column, row) := by
  have letters : ∀ character ∈ columnLetters column, (!character.isDigit) = true := by
    intro character isLetter
    rw [isDigit_of_mem_columnLetters isLetter]
    rfl
  have digits : ∃ first rest, Nat.toDigits 10 row = first :: rest ∧ (!first.isDigit) = false := by
    cases isDigits : Nat.toDigits 10 row with
    | nil => exact absurd isDigits Nat.toDigits_ne_nil
    | cons first rest =>
      have isDigit : first.isDigit = true := by
        apply Nat.isDigit_of_mem_toDigits (n := row) (by decide : 0 < 10) le_rfl
        rw [isDigits]
        exact List.mem_cons_self
      exact ⟨first, rest, rfl, by rw [isDigit]; rfl⟩
  obtain ⟨first, rest, isDigits, isDigit⟩ := digits
  have isLetters : (cellName column row).toList.takeWhile (!·.isDigit) = columnLetters column := by
    rw [cellName, String.toList_ofList, List.takeWhile_append_of_pos letters, isDigits,
      List.takeWhile_cons, isDigit]
    exact List.append_nil _
  have isRow : (cellName column row).toList.dropWhile (!·.isDigit) = Nat.toDigits 10 row := by
    rw [cellName, String.toList_ofList, List.dropWhile_append_of_pos letters, isDigits,
      List.dropWhile_cons, isDigit]
    rfl
  have rowNumber : parseU32 (Nat.toDigits 10 row) = some row := by
    rw [parseU32, Imap.parseU64_toDigits (lt_trans rowFits (by decide)), Option.filter_some,
      if_pos (decide_eq_true rowFits)]
  have positive : ¬(row = 0 ∨ column = 0) := by
    omega
  rw [parseCellReference, isLetters, isRow, isDigits]
  change ((columnLetters column).foldlM addColumnLetter 0).bind _ = _
  rw [foldlM_columnLetters columnFits, ← isDigits, rowNumber]
  change (if row = 0 ∨ column = 0 then _ else _) = _
  rw [if_neg positive]

end MailSwiftSync.BulkImport
