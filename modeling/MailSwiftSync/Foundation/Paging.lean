import Mathlib.Data.List.Basic
import Mathlib.Order.Nat

/-!
# Loops over pages of a table

A loop that reads at most `size` eligible rows after a cursor, handles them and
moves the cursor to the last of them.  As long as handling a row changes the
eligibility of no other row, the loop is one fold over all eligible rows.
-/

namespace Foundation

variable {α σ ε : Type*}

/-- The next rows after the cursor, at most `size` of them. -/
def page (rows : List α) (rowid : α → Nat) (eligible : σ → α → Bool) (size : Nat)
    (state : σ) (after : Nat) : List α :=
  (rows.filter fun row => after < rowid row ∧ eligible state row).take size

/-- Handle page after page until one is empty.  The first argument bounds the number
of pages; reaching the bound is an error. -/
def pageLoop (fetch : σ → Nat → List α) (rowid : α → Nat) (step : σ → α → Except ε σ)
    (exhausted : ε) : Nat → σ → Nat → Except ε σ
  | 0, _, _ => .error exhausted
  | bound + 1, state, after =>
    match (fetch state after).getLast? with
    | none => .ok state
    | some last => do
        let state ← (fetch state after).foldlM step state
        pageLoop fetch rowid step exhausted bound state (rowid last)

section Fold

variable {rows : List α} {rowid : α → Nat} {eligible : σ → α → Bool} {size : Nat}
  {step : σ → α → Except ε σ} {exhausted : ε}

theorem foldlM_eligible
    (stable : ∀ state, ∀ row ∈ rows, ∀ state', step state row = .ok state' →
      ∀ other ∈ rows, rowid other ≠ rowid row → eligible state' other = eligible state other)
    {handled : List α} (areRows : handled ⊆ rows) {state state' : σ}
    (run : handled.foldlM step state = .ok state') {other : α} (isRow : other ∈ rows)
    (apart : ∀ row ∈ handled, rowid other ≠ rowid row) :
    eligible state' other = eligible state other := by
  induction handled generalizing state with
  | nil =>
    obtain rfl := Except.ok.inj run
    rfl
  | cons row rest ih =>
    rw [List.foldlM_cons] at run
    cases first : step state row with
    | error error =>
      rw [first] at run
      cases run
    | ok next =>
      rw [first] at run
      obtain ⟨rowIn, restIn⟩ := List.cons_subset.mp areRows
      rw [ih restIn run fun later membership => apart later (by simp [membership])]
      exact stable state row rowIn next first other isRow (apart row (by simp))

/-- The loop is a single fold over the eligible rows. -/
theorem pageLoop_eq (sorted : rows.Pairwise fun left right => rowid left < rowid right)
    (sizePos : 0 < size)
    (stable : ∀ state, ∀ row ∈ rows, ∀ state', step state row = .ok state' →
      ∀ other ∈ rows, rowid other ≠ rowid row → eligible state' other = eligible state other)
    (bound : Nat) (state : σ) (after : Nat)
    (enough : (rows.filter fun row => after < rowid row ∧ eligible state row).length <
      bound) :
    pageLoop (page rows rowid eligible size) rowid step exhausted bound state after =
      (rows.filter fun row => after < rowid row ∧ eligible state row).foldlM step state := by
  induction bound generalizing state after with
  | zero => simp at enough
  | succ bound ih =>
    set todo := rows.filter fun row => after < rowid row ∧ eligible state row with todoDef
    have fetched : page rows rowid eligible size state after = todo.take size := rfl
    rw [pageLoop, fetched]
    cases last : (todo.take size).getLast? with
    | none =>
      have empty : todo = [] := by
        rw [List.getLast?_eq_none_iff, List.take_eq_nil_iff] at last
        exact last.resolve_left (by omega)
      rw [empty]
      rfl
    | some final =>
      have split : todo = todo.take size ++ todo.drop size :=
        (List.take_append_drop size todo).symm
      have todoSorted : todo.Pairwise fun left right => rowid left < rowid right :=
        sorted.filter _
      obtain ⟨front, frontEq⟩ := List.getLast?_eq_some_iff.mp last
      have finalIn : final ∈ todo.take size := by simp [frontEq]
      have upTo : ∀ row ∈ todo.take size, rowid row ≤ rowid final := by
        intro row membership
        have frontSorted := todoSorted.sublist (List.take_sublist size todo)
        rw [frontEq] at membership frontSorted
        rcases List.mem_append.mp membership with inFront | isFinal
        · exact le_of_lt ((List.pairwise_append.mp frontSorted).2.2 row inFront final
            (by simp))
        · rw [List.mem_singleton.mp isFinal]
      have beyond : ∀ row ∈ todo.drop size, rowid final < rowid row := by
        intro row membership
        rw [split] at todoSorted
        exact (List.pairwise_append.mp todoSorted).2.2 final finalIn row membership
      have taken : todo.take size ⊆ rows := fun row membership =>
        (List.mem_filter.mp (List.mem_of_mem_take membership)).1
      conv_rhs => rw [split, List.foldlM_append]
      cases run : (todo.take size).foldlM step state with
      | error error => rfl
      | ok next =>
        have remaining : (rows.filter fun row =>
            rowid final < rowid row ∧ eligible next row) = todo.drop size := by
          have afterFinal : (rows.filter fun row =>
              rowid final < rowid row ∧ eligible next row) =
              todo.filter fun row => rowid final < rowid row := by
            rw [todoDef, List.filter_filter]
            apply List.filter_congr
            intro row isRow
            by_cases later : rowid final < rowid row
            · have same : eligible next row = eligible state row :=
                foldlM_eligible stable taken run isRow fun other membership =>
                  ne_of_gt (lt_of_le_of_lt (upTo other membership) later)
              have pastCursor : after < rowid row := by
                have inTodo := List.mem_of_mem_take finalIn
                rw [todoDef, List.mem_filter] at inTodo
                have finalPast : after < rowid final := by
                  simpa using (of_decide_eq_true inTodo.2).1
                omega
              simp [later, same, pastCursor]
            · simp [later]
          rw [afterFinal]
          nth_rewrite 1 [split]
          rw [List.filter_append, List.filter_eq_nil_iff.mpr, List.filter_eq_self.mpr,
            List.nil_append]
          · simpa using beyond
          · simpa using upTo
        have shorter : (rows.filter fun row =>
            rowid final < rowid row ∧ eligible next row).length < bound := by
          have lengths := congrArg List.length split
          have nonempty := List.length_pos_of_mem finalIn
          rw [List.length_append] at lengths
          rw [remaining]
          omega
        change pageLoop _ rowid step exhausted bound next (rowid final) = _
        rw [ih next (rowid final) shorter, remaining]
        rfl

end Fold

end Foundation
