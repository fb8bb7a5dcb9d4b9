import Mathlib.Data.List.Basic
import Mathlib.Data.List.MinMax
import Mathlib.Algebra.Order.Ring.Int
import Mathlib.Order.Basic

/-!
# Local clocks

A clock shows the instant plus an offset that changes at transitions.  It may therefore show a
time twice or never.
-/

namespace Foundation

/-- The offset of an instant, from an initial one and the later transitions. -/
def offsetFrom : Int → List (Int × Int) → Int → Int
  | offset, [], _ => offset
  | offset, (instant, next) :: later, t => if t < instant then offset else offsetFrom next later t

/-- The instants from a start on that show a time. -/
def instantsFrom (shown : Int) : Option Int → Int → List (Int × Int) → List Int
  | start, offset, [] => if start.all (· ≤ shown - offset) then [shown - offset] else []
  | start, offset, (instant, next) :: later =>
    (if start.all (· ≤ shown - offset) && decide (shown - offset < instant)
      then [shown - offset] else []) ++ instantsFrom shown (some instant) next later

/-- No transition, no change. -/
theorem offsetFrom_congr {offset s t : Int} {transitions : List (Int × Int)} (before : s ≤ t)
    (none : ∀ transition ∈ transitions, ¬(s < transition.1 ∧ transition.1 ≤ t)) :
    offsetFrom offset transitions s = offsetFrom offset transitions t := by
  induction transitions generalizing offset with
  | nil => rfl
  | cons transition later ih =>
    have here := none transition List.mem_cons_self
    have rest := @ih transition.2
      fun other isOther => none other (List.mem_cons_of_mem _ isOther)
    rw [offsetFrom, offsetFrom]
    split
    · next earlier => rw [if_pos (by omega)]
    · next earlier => rw [if_neg (by omega), rest]

theorem mem_instantsFrom {shown offset t : Int} {start : Option Int}
    {transitions : List (Int × Int)}
    (sorted : (transitions.map Prod.fst).Pairwise (· < ·))
    (after : ∀ s ∈ start, ∀ transition ∈ transitions, s ≤ transition.1) :
    t ∈ instantsFrom shown start offset transitions ↔
      (∀ s ∈ start, s ≤ t) ∧ t + offsetFrom offset transitions t = shown := by
  induction transitions generalizing start offset with
  | nil =>
    rw [instantsFrom, offsetFrom]
    split
    · next started =>
        rw [Option.all_eq_true] at started
        simp only [decide_eq_true_eq] at started
        rw [List.mem_singleton]
        constructor
        · intro isIt
          exact ⟨isIt ▸ started, by omega⟩
        · intro isIt
          omega
    · next notStarted =>
        rw [Option.all_eq_true] at notStarted
        simp only [decide_eq_true_eq] at notStarted
        refine iff_of_false List.not_mem_nil fun isIt => notStarted ?_
        intro s isStart
        have bound := isIt.1 s isStart
        omega
  | cons transition later ih =>
    rw [List.map_cons, List.pairwise_cons] at sorted
    have rest := @ih transition.2 (some transition.1) sorted.2 (by
      intro s isStart other isOther
      obtain rfl := Option.some.inj isStart
      exact le_of_lt (sorted.1 other.1 (List.mem_map_of_mem isOther)))
    rw [instantsFrom, List.mem_append, rest, offsetFrom]
    simp only [Option.mem_def, Option.some.injEq, forall_eq']
    have started : ∀ u, transition.1 ≤ u → ∀ s ∈ start, s ≤ u :=
      fun u isLater s isStart => le_trans (after s isStart transition List.mem_cons_self) isLater
    by_cases earlier : t < transition.1
    · rw [if_pos earlier]
      constructor
      · intro isIt
        rcases isIt with isHere | isLater
        · split at isHere
          · next inside =>
              rw [Bool.and_eq_true, Option.all_eq_true] at inside
              simp only [decide_eq_true_eq] at inside
              rw [List.mem_singleton] at isHere
              exact ⟨isHere ▸ inside.1, by omega⟩
          · cases isHere
        · omega
      · intro isIt
        left
        have same : shown - offset = t := by omega
        rw [same, if_pos, List.mem_singleton]
        rw [Bool.and_eq_true, Option.all_eq_true]
        simp only [decide_eq_true_eq]
        exact ⟨isIt.1, earlier⟩
    · rw [if_neg earlier]
      constructor
      · intro isIt
        rcases isIt with isHere | isLater
        · split at isHere
          · next inside =>
              rw [Bool.and_eq_true, decide_eq_true_eq] at inside
              rw [List.mem_singleton] at isHere
              omega
          · cases isHere
        · exact ⟨started t (not_lt.mp earlier), isLater.2⟩
      · intro isIt
        exact .inr ⟨not_lt.mp earlier, isIt.2⟩

theorem instantsFrom_sorted {shown offset : Int} {start : Option Int}
    {transitions : List (Int × Int)}
    (sorted : (transitions.map Prod.fst).Pairwise (· < ·)) :
    (instantsFrom shown start offset transitions).Pairwise (· < ·) := by
  induction transitions generalizing start offset with
  | nil =>
    rw [instantsFrom]
    split
    · exact List.pairwise_singleton _ _
    · exact List.Pairwise.nil
  | cons transition later ih =>
    rw [List.map_cons, List.pairwise_cons] at sorted
    rw [instantsFrom, List.pairwise_append]
    refine ⟨?_, ih sorted.2, ?_⟩
    · split
      · exact List.pairwise_singleton _ _
      · exact List.Pairwise.nil
    · intro t isHere u isLater
      have bound := (@mem_instantsFrom _ _ _ (some transition.1) _ sorted.2 (by
        intro s isStart other isOther
        obtain rfl := Option.some.inj isStart
        exact le_of_lt (sorted.1 other.1 (List.mem_map_of_mem isOther)))).mp isLater
      have isAfter := bound.1 transition.1 rfl
      split at isHere
      · next inside =>
          rw [Bool.and_eq_true, decide_eq_true_eq] at inside
          rw [List.mem_singleton] at isHere
          omega
      · cases isHere

/-- The rules of a time zone. -/
structure Zone where
  initial : Int
  transitions : List (Int × Int)
  sorted : (transitions.map Prod.fst).Pairwise (· < ·)

namespace Zone

variable (zone : Zone)

def offsetAt (t : Int) : Int := offsetFrom zone.initial zone.transitions t

/-- The time the clock shows at an instant. -/
def localAt (t : Int) : Int := t + zone.offsetAt t

/-- The instants at which the clock shows a time, in order. -/
def instantsOf (shown : Int) : List Int := instantsFrom shown none zone.initial zone.transitions

variable {zone}

theorem mem_instantsOf {shown t : Int} : t ∈ zone.instantsOf shown ↔ zone.localAt t = shown := by
  rw [instantsOf,
    mem_instantsFrom zone.sorted fun _ isStart => (Option.not_mem_none _ isStart).elim]
  exact ⟨And.right, fun same => ⟨fun _ isStart => (Option.not_mem_none _ isStart).elim, same⟩⟩

/-- The first change after an instant. -/
theorem exists_first {s t : Int}
    (changes : ∃ transition ∈ zone.transitions, s < transition.1 ∧ transition.1 ≤ t) :
    ∃ transition ∈ zone.transitions, s < transition.1 ∧ transition.1 ≤ t ∧
      ∀ other ∈ zone.transitions, s < other.1 → transition.1 ≤ other.1 := by
  obtain ⟨change, isChange, after, before⟩ := changes
  have pending : change ∈ zone.transitions.filter fun other => s < other.1 :=
    List.mem_filter.mpr ⟨isChange, decide_eq_true after⟩
  cases isFirst : (zone.transitions.filter fun other => s < other.1).argmin Prod.fst with
  | none =>
    rw [List.argmin_eq_none] at isFirst
    rw [isFirst] at pending
    cases pending
  | some first =>
    have isMember := List.mem_filter.mp (List.argmin_mem isFirst)
    have isLeast : ∀ other ∈ zone.transitions, s < other.1 → first.1 ≤ other.1 :=
      fun other isOther later =>
        List.le_of_mem_argmin (List.mem_filter.mpr ⟨isOther, decide_eq_true later⟩) isFirst
    exact ⟨first, isMember.1, of_decide_eq_true isMember.2,
      le_trans (isLeast change isChange after) before, isLeast⟩

/-- The clock runs evenly between transitions. -/
theorem localAt_of_even {s t : Int} (before : s ≤ t)
    (none : ∀ transition ∈ zone.transitions, ¬(s < transition.1 ∧ transition.1 ≤ t)) :
    zone.localAt t = zone.localAt s + (t - s) := by
  have same := @offsetFrom_congr zone.initial _ _ _ before none
  rw [localAt, localAt, offsetAt, offsetAt, same]
  omega

end Zone

end Foundation
