import Mathlib.Data.List.Basic

/-!
# Folds under a budget

A fallible fold whose only failure is an exhausted budget.  When every step
either adds the cost of its item or reports the budget error, the whole fold
succeeds exactly when the total cost fits.
-/

namespace Foundation

variable {α σ ε : Type*}

theorem ok_bind {α β : Type} (value : α) (next : α → Except ε β) :
    (Except.ok value >>= next) = next value := rfl

theorem error_bind {α β : Type} (error : ε) (next : α → Except ε β) :
    (Except.error error >>= next) = Except.error error := rfl

theorem bind_eq_ok {α β : Type} {action : Except ε α} {next : α → Except ε β}
    {result : β} :
    (action >>= next) = .ok result ↔ ∃ value, action = .ok value ∧ next value = .ok result := by
  cases action with
  | error error => simp [error_bind]
  | ok value => simp [ok_bind]

theorem pure_eq_ok {α : Type} {value result : α} :
    (pure value : Except ε α) = .ok result ↔ value = result :=
  Except.ok.injEq value result ▸ Iff.rfl

/-- An accepted result, read off a check of it. -/
theorem accepted_of_any {result : Except ε α} {check : α → Bool}
    (passed : result.toOption.any check = true) :
    ∃ after, result = .ok after ∧ check after = true := by
  cases result with
  | error error => cases passed
  | ok after => exact ⟨after, rfl, passed⟩

/-- What every successful step of a fold preserves holds after the whole fold; the
invariant may speak about the items that are done. -/
theorem foldlM_invariant {step : σ → α → Except ε σ} {motive : List α → σ → Prop}
    {items : List α} {start finish : σ} (initially : motive [] start)
    (preserved : ∀ done item before after, motive done before → step before item = .ok after →
      motive (done ++ [item]) after)
    (ran : items.foldlM step start = .ok finish) : motive items finish := by
  have position : ∀ todo done before, motive done before →
      todo.foldlM step before = .ok finish → motive (done ++ todo) finish := by
    intro todo
    induction todo with
    | nil =>
      intro done before held atEnd
      obtain rfl : before = finish := Except.ok.inj atEnd
      rwa [List.append_nil]
    | cons item rest ih =>
      intro done before held here
      rw [List.foldlM_cons] at here
      cases stepped : step before item with
      | error error =>
        rw [stepped] at here
        cases here
      | ok after =>
        rw [stepped] at here
        have next :=
          ih (done ++ [item]) after (preserved done item before after held stepped) here
        rwa [List.append_assoc, List.singleton_append] at next
  exact position items [] start initially ran

/-- A fold whose state after the items in `done` is `after done`. -/
theorem foldlM_metered {step : σ → α → Except ε σ} (after : List α → σ)
    (cost : List α → Nat) {limit : Nat} {exhausted : ε} {items : List α}
    (additive : ∀ done more, cost done ≤ cost (done ++ more))
    (stepEq : ∀ done item rest, done ++ item :: rest = items → cost done ≤ limit →
      step (after done) item =
        if cost (done ++ [item]) ≤ limit then .ok (after (done ++ [item]))
        else .error exhausted)
    (fits : cost [] ≤ limit) :
    items.foldlM step (after []) =
      if cost items ≤ limit then .ok (after items) else .error exhausted := by
  have position : ∀ todo done, done ++ todo = items → cost done ≤ limit →
      todo.foldlM step (after done) =
        if cost items ≤ limit then .ok (after items) else .error exhausted := by
    intro todo
    induction todo with
    | nil =>
      intro done atEnd within
      rw [List.append_nil] at atEnd
      subst atEnd
      rw [if_pos within]
      rfl
    | cons item rest ih =>
      intro done here within
      have next : done ++ [item] ++ rest = items := by
        rw [← here, List.append_assoc, List.singleton_append]
      rw [List.foldlM_cons, stepEq done item rest here within]
      split
      next stillWithin => exact ih (done ++ [item]) next stillWithin
      next exceeded =>
        have more := additive (done ++ [item]) rest
        rw [next] at more
        rw [if_neg (by omega)]
        rfl
  exact position items [] rfl fits

end Foundation
