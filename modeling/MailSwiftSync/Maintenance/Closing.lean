import Mathlib.Tactic.Ring
import MailSwiftSync.Maintenance.Window

/-!
# When a window closes

The module documentation of the source describes a window by its occurrences: a time is in the
window when some occurrence has started and not yet ended, and an occurrence is over once the
instant its end denotes has passed.
-/

namespace MailSwiftSync.Maintenance

open Foundation

namespace MaintenanceWindow

variable (window : MaintenanceWindow)

/-! ## Wall-clock times -/

/-- Some occurrence contains a wall-clock time. -/
def Open (shown : Int) : Prop :=
  ∃ date, window.opensOn (weekdayOf date) = true ∧
    (window.occurrence date).1 ≤ shown ∧ shown < (window.occurrence date).2

/-- A time at which the occurrences from another one on have come to an end. -/
structure ClosesAt (shown close : Int) : Prop where
  later : shown < close
  openUntil : ∀ between, shown ≤ between → between < close → window.Open between
  closed : ¬window.Open close

variable {window}

theorem ClosesAt.isOpen {shown close : Int} (closes : window.ClosesAt shown close) :
    window.Open shown :=
  closes.openUntil shown le_rfl closes.later

/-- The end of a span does not move while time passes. -/
theorem ClosesAt.advance {shown close further : Int} (closes : window.ClosesAt shown close)
    (onwards : shown ≤ further) (before : further < close) : window.ClosesAt further close where
  later := before
  openUntil between after := closes.openUntil between (le_trans onwards after)
  closed := closes.closed

theorem ClosesAt.unique {shown close other : Int} (closes : window.ClosesAt shown close)
    (closesOther : window.ClosesAt shown other) : close = other := by
  apply le_antisymm
  · exact not_lt.mp fun earlier =>
      closesOther.closed (closes.openUntil other (le_of_lt closesOther.later) earlier)
  · exact not_lt.mp fun earlier =>
      closes.closed (closesOther.openUntil close (le_of_lt closes.later) earlier)

theorem lengthMinutes_pos (window : MaintenanceWindow) : 0 < window.lengthMinutes := by
  have start := window.startMinute.isLt
  have stop := window.endMinute.isLt
  rw [lengthMinutes, minutesPerDay]
  split
  · omega
  · split <;> omega

theorem lengthMinutes_le (window : MaintenanceWindow) : window.lengthMinutes ≤ 1440 := by
  have start := window.startMinute.isLt
  have stop := window.endMinute.isLt
  rw [lengthMinutes, minutesPerDay]
  split
  · omega
  · split <;> omega

/-- An occurrence opens on its date and lasts at most a day. -/
theorem occurrence_bounds (window : MaintenanceWindow) (date : Int) :
    date * day ≤ (window.occurrence date).1 ∧
      (window.occurrence date).1 < (date + 1) * day ∧
      (window.occurrence date).1 < (window.occurrence date).2 ∧
      (window.occurrence date).2 ≤ (window.occurrence date).1 + day := by
  have start := window.startMinute.isLt
  have positive := lengthMinutes_pos window
  have bounded := lengthMinutes_le window
  simp only [occurrence, day, minute]
  omega

/-- Occurrences are a day apart. -/
theorem occurrence_shift (window : MaintenanceWindow) (date days : Int) :
    window.occurrence (date + days) =
      ((window.occurrence date).1 + days * day, (window.occurrence date).2 + days * day) := by
  simp only [occurrence, Prod.mk.injEq]
  constructor <;> ring

theorem dateOf_eq {date shown : Int} (started : date * day ≤ shown)
    (ended : shown < (date + 1) * day) : dateOf shown = date := by
  simp only [dateOf, day] at started ended ⊢
  omega

/-- An occurrence that contains a time opened on the day or the day before. -/
theorem date_of_open {date shown : Int} (started : (window.occurrence date).1 ≤ shown)
    (notEnded : shown < (window.occurrence date).2) :
    date = dateOf shown - 1 ∨ date = dateOf shown := by
  have bounds := occurrence_bounds window date
  simp only [dateOf, day] at bounds ⊢
  omega

/-- The end of an occurrence is outside the window unless the next one starts there. -/
theorem occurrence_of_open_end {date : Int} (isOpen : window.Open (window.occurrence date).2) :
    window.opensOn (weekdayOf (date + 1)) = true ∧
      (window.occurrence (date + 1)).1 = (window.occurrence date).2 := by
  obtain ⟨other, opens, started, notEnded⟩ := isOpen
  have start := window.startMinute.isLt
  have positive := lengthMinutes_pos window
  have bounded := lengthMinutes_le window
  simp only [occurrence, day, minute] at started notEnded ⊢
  obtain rfl : other = date + 1 := by omega
  exact ⟨opens, by omega⟩

theorem dateOf_end {date : Int}
    (nextStarts : (window.occurrence (dateOf (window.occurrence date).2)).1 =
      (window.occurrence date).2) :
    dateOf (window.occurrence date).2 = date + 1 := by
  have start := window.startMinute.isLt
  have positive := lengthMinutes_pos window
  have bounded := lengthMinutes_le window
  simp only [dateOf, occurrence, day, minute] at nextStarts ⊢
  omega

theorem chained_succ (days : Nat) (stop : Int) :
    window.chained (days + 1) stop =
      if (window.occurrence (dateOf stop)).1 ≠ stop ||
          !window.opensOn (weekdayOf (dateOf stop)) then some stop
      else window.chained days (window.occurrence (dateOf stop)).2 := rfl

/-- What the chain of occurrences finds: the end of the span. -/
theorem chained_eq_some {days : Nat} {date shown close : Int}
    (openUntil : ∀ between, shown ≤ between → between < (window.occurrence date).2 →
      window.Open between)
    (notEnded : shown < (window.occurrence date).2)
    (isClose : window.chained days (window.occurrence date).2 = some close) :
    window.ClosesAt shown close := by
  induction days generalizing date with
  | zero => cases isClose
  | succ days ih =>
    rw [chained_succ] at isClose
    split at isClose
    next ends =>
      obtain rfl := Option.some.inj isClose
      refine ⟨notEnded, openUntil, fun isOpen => ?_⟩
      have next := occurrence_of_open_end isOpen
      have bounds := occurrence_bounds window (date + 1)
      have sameDate : dateOf (window.occurrence date).2 = date + 1 := by
        apply dateOf_eq <;> omega
      rw [sameDate, Bool.or_eq_true, decide_eq_true_eq, next.1] at ends
      rcases ends with notNext | notOpening
      · exact notNext next.2
      · cases notOpening
    next continues =>
      rw [Bool.or_eq_true, not_or, decide_eq_true_eq, not_not, Bool.not_eq_true',
        Bool.not_eq_false] at continues
      have sameDate := dateOf_end continues.1
      rw [sameDate] at continues isClose
      have bounds := occurrence_bounds window (date + 1)
      apply ih _ _ isClose
      · intro between after before
        by_cases early : between < (window.occurrence date).2
        · exact openUntil between after early
        · exact ⟨date + 1, continues.2, by omega, before⟩
      · omega

/-- A chain with no end is of full days. -/
theorem chained_eq_none {days : Nat} {date : Int}
    (never : window.chained days (window.occurrence date).2 = none) :
    ∀ offset : Nat, offset < days →
      window.opensOn (weekdayOf (date + 1 + offset)) = true ∧
        (window.occurrence (date + 1)).1 = (window.occurrence date).2 := by
  induction days generalizing date with
  | zero =>
    intro offset inside
    omega
  | succ days ih =>
    rw [chained_succ] at never
    split at never
    next ends => cases never
    next continues =>
      rw [Bool.or_eq_true, not_or, decide_eq_true_eq, not_not, Bool.not_eq_true',
        Bool.not_eq_false] at continues
      have sameDate := dateOf_end continues.1
      rw [sameDate] at continues never
      intro offset inside
      refine ⟨?_, continues.1⟩
      cases offset with
      | zero => simpa using continues.2
      | succ offset =>
        have later := (ih never offset (by omega)).1
        have same : date + 1 + ((offset + 1 : Nat) : Int) = date + 1 + 1 + offset := by
          push_cast
          ring
        rw [same]
        exact later

/-- A window that never closes is always open. -/
theorem open_of_chained_eq_none {date : Int}
    (never : window.chained 7 (window.occurrence date).2 = none) (shown : Int) :
    window.Open shown := by
  have links := chained_eq_none never
  have full := (links 0 (by omega)).2
  have everyDay : ∀ other, window.opensOn (weekdayOf other) = true := by
    intro other
    have link := (links ((other - (date + 1)) % 7).toNat (by omega)).1
    rw [@weekdayOf_congr _ other (by omega)] at link
    exact link
  have next := occurrence_shift window date 1
  have here := occurrence_shift window date (dateOf shown - date)
  have before := occurrence_shift window date (dateOf shown - 1 - date)
  have bounds := occurrence_bounds window date
  rw [add_sub_cancel] at here before
  rw [next] at full
  by_cases started : (window.occurrence (dateOf shown)).1 ≤ shown
  · refine ⟨dateOf shown, everyDay _, started, ?_⟩
    rw [here] at started ⊢
    simp only [dateOf, day] at *
    omega
  · refine ⟨dateOf shown - 1, everyDay _, ?_, ?_⟩
    · rw [here] at started
      rw [before]
      simp only [dateOf, day] at *
      omega
    · rw [here] at started
      rw [before]
      simp only [dateOf, day] at *
      omega

theorem closeAt_eq (shown : Int) :
    window.closeAt shown =
      ((([dateOf shown - 1, dateOf shown].filter fun date => window.opensOn (weekdayOf date)).map
        window.occurrence).find? fun occurrence =>
          occurrence.1 ≤ shown && decide (shown < occurrence.2)).map fun occurrence =>
        window.chained 7 occurrence.2 := rfl

theorem closeAt_eq_none {shown : Int} : window.closeAt shown = none ↔ ¬window.Open shown := by
  rw [closeAt_eq, Option.map_eq_none_iff, List.find?_eq_none]
  simp only [List.mem_map, List.mem_filter, List.mem_cons, List.not_mem_nil, or_false,
    Bool.and_eq_true, decide_eq_true_eq]
  constructor
  · intro outside isOpen
    obtain ⟨date, opens, started, notEnded⟩ := isOpen
    exact outside _ ⟨date, ⟨date_of_open started notEnded, opens⟩, rfl⟩ ⟨started, notEnded⟩
  · intro notOpen occurrence isOccurrence inside
    obtain ⟨date, dated, rfl⟩ := isOccurrence
    exact notOpen ⟨date, dated.2, inside.1, inside.2⟩

/-- The occurrence a close comes from. -/
theorem closeAt_occurrence {shown : Int} {close : Option Int}
    (isClose : window.closeAt shown = some close) :
    ∃ date, window.opensOn (weekdayOf date) = true ∧ (window.occurrence date).1 ≤ shown ∧
      shown < (window.occurrence date).2 ∧
      window.chained 7 (window.occurrence date).2 = close := by
  rw [closeAt_eq, Option.map_eq_some_iff] at isClose
  obtain ⟨occurrence, isFound, isChained⟩ := isClose
  have inside := List.find?_some isFound
  have isOccurrence := List.mem_of_find?_eq_some isFound
  rw [List.mem_map] at isOccurrence
  obtain ⟨date, isDate, rfl⟩ := isOccurrence
  rw [List.mem_filter] at isDate
  rw [Bool.and_eq_true, decide_eq_true_eq, decide_eq_true_eq] at inside
  exact ⟨date, isDate.2, inside.1, inside.2, isChained⟩

theorem closesAt_of_closeAt {shown close : Int}
    (isClose : window.closeAt shown = some (some close)) :
    window.ClosesAt shown close := by
  obtain ⟨date, opens, started, notEnded, isChained⟩ := closeAt_occurrence isClose
  apply chained_eq_some _ notEnded isChained
  intro between after before
  exact ⟨date, opens, le_trans started after, before⟩

theorem open_of_closeAt {shown : Int} (never : window.closeAt shown = some none) (other : Int) :
    window.Open other := by
  obtain ⟨date, _, _, _, isChained⟩ := closeAt_occurrence never
  exact open_of_chained_eq_none isChained other

/-- The close that is computed is the end of the span. -/
theorem closeAt_eq_some {shown close : Int} :
    window.closeAt shown = some (some close) ↔ window.ClosesAt shown close := by
  constructor
  · exact closesAt_of_closeAt
  · intro closes
    cases isClose : window.closeAt shown with
    | none => exact absurd closes.isOpen (closeAt_eq_none.mp isClose)
    | some found =>
      cases found with
      | none => exact absurd (open_of_closeAt isClose close) closes.closed
      | some other => rw [closes.unique (closesAt_of_closeAt isClose)]

/-! ## Instants -/

variable (window) in
/-- An instant is in the window when its wall-clock time is, and the end of the occurrence has
not passed. -/
def Inside (zone : TimeZone) (now : Int) : Prop :=
  window.Open (zone.rules.localAt now) ∧
    ∀ close, window.ClosesAt (zone.rules.localAt now) close → now < resolveLocal zone close

variable {zone : TimeZone}

theorem closesInAt_of_close {now close : Int}
    (isClose : window.closeAt (zone.rules.localAt now) = some (some close)) :
    window.closesInAt zone now =
      if now < resolveLocal zone close then some (some (resolveLocal zone close - now))
      else none := by
  simp only [closesInAt, isClose, Option.bind_eq_bind, Option.bind_some]
  by_cases passed : now < resolveLocal zone close
  · rw [if_pos passed, if_neg (by omega), if_neg (by omega)]
  · rw [if_neg passed]
    split
    · rfl
    · rw [if_pos (by omega)]

theorem closesInAt_eq_some {now remaining : Int} :
    window.closesInAt zone now = some (some remaining) ↔
      ∃ close, window.ClosesAt (zone.rules.localAt now) close ∧ now < resolveLocal zone close ∧
        remaining = resolveLocal zone close - now := by
  constructor
  · intro reported
    cases isClose : window.closeAt (zone.rules.localAt now) with
    | none => simp [closesInAt, isClose] at reported
    | some found =>
      cases found with
      | none => simp [closesInAt, isClose] at reported
      | some close =>
        rw [closesInAt_of_close isClose] at reported
        split at reported
        next ahead =>
          exact ⟨close, closeAt_eq_some.mp isClose, ahead,
            (Option.some.inj (Option.some.inj reported)).symm⟩
        next passed => cases reported
  · intro closing
    obtain ⟨close, closes, ahead, rfl⟩ := closing
    rw [closesInAt_of_close (closeAt_eq_some.mpr closes), if_pos ahead]

/-- Membership has its documented meaning. -/
theorem containsAt_iff {now : Int} :
    window.containsAt zone now = true ↔ window.Inside zone now := by
  rw [containsAt]
  cases isClose : window.closeAt (zone.rules.localAt now) with
  | none =>
    rw [closeAt_eq_none] at isClose
    have outside : window.closesInAt zone now = none := by
      rw [← closeAt_eq_none] at isClose
      simp [closesInAt, isClose]
    rw [outside]
    exact iff_of_false Bool.false_ne_true fun inside => isClose inside.1
  | some found =>
    cases found with
    | none =>
      have open_ := open_of_closeAt isClose
      have unending : window.closesInAt zone now = some none := by
        simp [closesInAt, isClose]
      rw [unending]
      exact iff_of_true rfl ⟨open_ _, fun close closes => absurd (open_ close) closes.closed⟩
    | some close =>
      have closes := closeAt_eq_some.mp isClose
      rw [closesInAt_of_close isClose]
      constructor
      · intro inside
        refine ⟨closes.isOpen, fun other closesOther => ?_⟩
        rw [← closes.unique closesOther]
        by_contra passed
        rw [if_neg passed] at inside
        cases inside
      · intro inside
        rw [if_pos (inside.2 close closes)]
        rfl

/-! ## Closing as reported -/

section Reports

variable (window : MaintenanceWindow) (zone : TimeZone)

/-- The window closes when it says at an instant. -/
def ReportHolds (now : Int) : Prop :=
  ∀ remaining, window.closesInAt zone now = some (some remaining) →
    window.containsAt zone now = true ∧
      (∀ instant, now ≤ instant → instant < now + remaining →
        window.containsAt zone instant = true) ∧
      window.containsAt zone (now + remaining) = false

/-- No change of the clock breaks a span: while it lasts, the clock goes on to a time whose
close denotes the same instant, and a span that ends with the change ends outside the window. -/
def KeepsSpan (change : Int) : Prop :=
  ∀ close, window.ClosesAt (zone.rules.localAt (change - 1)) close →
    change - 1 < resolveLocal zone close →
      (change < resolveLocal zone close →
        ∃ other, window.ClosesAt (zone.rules.localAt change) other ∧
          resolveLocal zone other = resolveLocal zone close) ∧
      (resolveLocal zone close = change → ¬window.Inside zone change)

/-- For a close that the clock comes to show with the window open, and that is repeated, the library
does not answer with a later instant first. -/
def ClosesFirst : Prop :=
  ∀ instant close, window.ClosesAt (zone.rules.localAt (instant - 1)) close →
    zone.rules.localAt instant = close → ∀ first second,
      zone.fromLocalDatetime close = .ambiguous first second → first ≤ instant

end Reports

variable {window : MaintenanceWindow} {zone : TimeZone}

/-- A time that is shown denotes the instant that is answered first. -/
theorem resolveLocal_cases {instant shown : Int} (isShown : zone.rules.localAt instant = shown) :
    resolveLocal zone shown = instant ∨
      ∃ first second, zone.fromLocalDatetime shown = .ambiguous first second ∧
        resolveLocal zone shown = first := by
  rw [resolveLocal, firstShown]
  cases answer : zone.fromLocalDatetime shown with
  | none => exact absurd isShown ((zone.none shown).mp answer instant)
  | single only => exact .inl ((zone.single shown only answer instant).mp isShown).symm
  | ambiguous first second => exact .inr ⟨first, second, rfl, rfl⟩

theorem ClosesFirst.resolveLocal_le (closesFirst : window.ClosesFirst zone) {instant close : Int}
    (closes : window.ClosesAt (zone.rules.localAt (instant - 1)) close)
    (isShown : zone.rules.localAt instant = close) : resolveLocal zone close ≤ instant := by
  obtain same | ⟨first, second, answer, same⟩ := resolveLocal_cases isShown
  · exact same.le
  · exact same.trans_le (closesFirst instant close closes isShown first second answer)

/-- While the clock runs evenly, a span goes on until the instant its close denotes. -/
theorem span_of_even (first : window.ClosesFirst zone) {now close : Int}
    (closes : window.ClosesAt (zone.rules.localAt now) close) (instant : Int)
    (onwards : now ≤ instant) (before : instant < resolveLocal zone close)
    (even : ∀ transition ∈ zone.rules.transitions,
      ¬(now < transition.1 ∧ transition.1 ≤ instant)) :
    window.ClosesAt (zone.rules.localAt instant) close := by
  have runs := Zone.localAt_of_even onwards even
  apply closes.advance (by omega)
  by_contra passed
  have later := closes.later
  have evenly : ∀ reached, now ≤ reached → reached ≤ instant →
      zone.rules.localAt reached = zone.rules.localAt now + (reached - now) := by
    intro reached after early
    apply Zone.localAt_of_even after
    intro transition isTransition inside
    exact even transition isTransition ⟨inside.1, by omega⟩
  have shown := evenly (now + (close - zone.rules.localAt now)) (by omega) (by omega)
  have last := evenly (now + (close - zone.rules.localAt now) - 1) (by omega) (by omega)
  have ends : resolveLocal zone close ≤ now + (close - zone.rules.localAt now) :=
    first.resolveLocal_le (closes.advance (by omega) (by omega)) (by omega)
  omega

/-- A close is at one instant. -/
theorem inside_of_closesAt {instant close : Int}
    (closes : window.ClosesAt (zone.rules.localAt instant) close)
    (before : instant < resolveLocal zone close) : window.Inside zone instant :=
  ⟨closes.isOpen, fun _ closesOther => closes.unique closesOther ▸ before⟩

/-- With an even clock the instant a close denotes is outside. -/
theorem outside_of_even (first : window.ClosesFirst zone) {now close : Int}
    (closes : window.ClosesAt (zone.rules.localAt now) close)
    (before : now < resolveLocal zone close)
    (even : ∀ transition ∈ zone.rules.transitions,
      ¬(now < transition.1 ∧ transition.1 ≤ resolveLocal zone close)) :
    ¬window.Inside zone (resolveLocal zone close) := by
  intro inside
  have runs := Zone.localAt_of_even (le_of_lt before) even
  have lastEven := span_of_even first closes (resolveLocal zone close - 1) (by omega)
    (by omega) fun transition isTransition isBetween =>
      even transition isTransition ⟨isBetween.1, by omega⟩
  have runsLast : zone.rules.localAt (resolveLocal zone close - 1) =
      zone.rules.localAt now + (resolveLocal zone close - 1 - now) :=
    Zone.localAt_of_even (by omega) fun transition isTransition isBetween =>
      even transition isTransition ⟨isBetween.1, by omega⟩
  have next := lastEven.later
  rcases lt_or_eq_of_le (show zone.rules.localAt (resolveLocal zone close) ≤ close by omega) with
    early | onTime
  · have stillOpen : window.ClosesAt (zone.rules.localAt (resolveLocal zone close)) close :=
      closes.advance (by omega) early
    have ahead := inside.2 close stillOpen
    omega
  · exact closes.closed (onTime ▸ inside.1)

/-- A span that no change of the clock breaks lasts until the instant its close denotes. -/
theorem span_holds (first : window.ClosesFirst zone)
    (keeps : ∀ change ∈ zone.rules.transitions, window.KeepsSpan zone change.1)
    (length : Nat) {now close : Int} (closes : window.ClosesAt (zone.rules.localAt now) close)
    (before : now < resolveLocal zone close)
    (lasts : resolveLocal zone close - now ≤ length) :
    (∀ instant, now ≤ instant → instant < resolveLocal zone close →
      window.Inside zone instant) ∧ ¬window.Inside zone (resolveLocal zone close) := by
  induction length generalizing now close with
  | zero => omega
  | succ length ih =>
    by_cases changes : ∃ transition ∈ zone.rules.transitions,
        now < transition.1 ∧ transition.1 ≤ resolveLocal zone close
    · obtain ⟨change, isChange, after, inTime, isFirst⟩ := Zone.exists_first changes
      have evenBefore : ∀ instant, instant < change.1 →
          ∀ transition ∈ zone.rules.transitions,
            ¬(now < transition.1 ∧ transition.1 ≤ instant) := by
        intro instant early transition isTransition isBetween
        have later := isFirst transition isTransition isBetween.1
        omega
      have lastClose := span_of_even first closes (change.1 - 1) (by omega) (by omega)
        (evenBefore _ (by omega))
      have kept := keeps change isChange close lastClose (by omega)
      have untilChange : ∀ instant, now ≤ instant → instant < change.1 →
          window.Inside zone instant := fun instant onwards early =>
        inside_of_closesAt (span_of_even first closes _ onwards (by omega) (evenBefore _ early))
          (by omega)
      rcases lt_or_eq_of_le inTime with goesOn | ends
      · obtain ⟨other, closesOther, same⟩ := kept.1 goesOn
        have rest := ih closesOther (by omega) (by omega)
        rw [same] at rest
        refine ⟨fun instant onwards early => ?_, rest.2⟩
        rcases lt_or_ge instant change.1 with earlier | later
        · exact untilChange instant onwards earlier
        · exact rest.1 instant later early
      · refine ⟨fun instant onwards early => untilChange instant onwards (by omega), ?_⟩
        have outside := kept.2 ends.symm
        rwa [ends] at outside
    · have even : ∀ transition ∈ zone.rules.transitions,
          ¬(now < transition.1 ∧ transition.1 ≤ resolveLocal zone close) :=
        fun transition isTransition isBetween => changes ⟨transition, isTransition, isBetween⟩
      refine ⟨fun instant onwards early => ?_, outside_of_even first closes before even⟩
      apply inside_of_closesAt _ early
      apply span_of_even first closes _ onwards early
      intro transition isTransition isBetween
      exact even transition isTransition ⟨isBetween.1, by omega⟩

/-- An instant in a window that ever closes has a close. -/
theorem exists_closesAt {shown other : Int} (isOpen : window.Open shown)
    (closed : ¬window.Open other) : ∃ close, window.ClosesAt shown close := by
  cases isClose : window.closeAt shown with
  | none => exact absurd isOpen (closeAt_eq_none.mp isClose)
  | some found =>
    cases found with
    | none => exact absurd (open_of_closeAt isClose other) closed
    | some close => exact ⟨close, closeAt_eq_some.mp isClose⟩

theorem reportHolds_iff {now : Int} :
    window.ReportHolds zone now ↔
      ∀ close, window.ClosesAt (zone.rules.localAt now) close → now < resolveLocal zone close →
        (∀ instant, now ≤ instant → instant < resolveLocal zone close →
          window.Inside zone instant) ∧ ¬window.Inside zone (resolveLocal zone close) := by
  constructor
  · intro holds close closes ahead
    have report := holds _ (closesInAt_eq_some.mpr ⟨close, closes, ahead, rfl⟩)
    rw [add_sub_cancel] at report
    simp only [containsAt_iff] at report
    refine ⟨report.2.1, fun inside => ?_⟩
    rw [containsAt_iff.mpr inside] at report
    exact Bool.noConfusion report.2.2
  · intro holds remaining reported
    obtain ⟨close, closes, ahead, rfl⟩ := closesInAt_eq_some.mp reported
    have span := holds close closes ahead
    rw [add_sub_cancel]
    simp only [containsAt_iff]
    refine ⟨span.1 now le_rfl ahead, span.1, ?_⟩
    rw [← Bool.not_eq_true, containsAt_iff]
    exact span.2

/-- A change of the clock at which every report before and after holds breaks no span. -/
theorem keepsSpan_of_reports (holds : ∀ now, window.ReportHolds zone now) (change : Int) :
    window.KeepsSpan zone change := by
  intro close closes ahead
  have span := reportHolds_iff.mp (holds _) close closes ahead
  constructor
  · intro goesOn
    have inside := span.1 change (by omega) goesOn
    obtain ⟨other, closesOther⟩ := exists_closesAt inside.1 closes.closed
    have aheadOther := inside.2 other closesOther
    have spanOther := reportHolds_iff.mp (holds _) other closesOther aheadOther
    refine ⟨other, closesOther, ?_⟩
    rcases lt_trichotomy (resolveLocal zone other) (resolveLocal zone close) with
      earlier | same | later
    · exact absurd (span.1 _ (by omega) earlier) spanOther.2
    · exact same
    · exact absurd (spanOther.1 _ (by omega) later) span.2
  · intro ends inside
    exact span.2 (ends ▸ inside)

/-- Where reports hold, no close denotes a later instant than the first that shows it. -/
theorem closesFirst_of_reports (holds : ∀ now, window.ReportHolds zone now) :
    window.ClosesFirst zone := by
  intro instant close closes isShown first second answer
  have same : resolveLocal zone close = first := by
    rw [resolveLocal, firstShown, answer]
    rfl
  by_contra later
  have span := reportHolds_iff.mp (holds _) close closes (by omega)
  exact closes.closed (isShown ▸ (span.1 instant (by omega) (by omega)).1)

/-- Membership has its documented meaning, and a window closes when it says just when no close
denotes a later instant than the first and no change of the clock breaks a span. -/
theorem closes_when_it_says_iff (window : MaintenanceWindow) (zone : TimeZone) :
    (∀ now, (window.containsAt zone now = true ↔ window.Inside zone now) ∧
        window.ReportHolds zone now) ↔
      window.ClosesFirst zone ∧
        ∀ change ∈ zone.rules.transitions, window.KeepsSpan zone change.1 := by
  constructor
  · intro agrees
    have holds := fun now => (agrees now).2
    exact ⟨closesFirst_of_reports holds, fun change _ => keepsSpan_of_reports holds change.1⟩
  · rintro ⟨first, keeps⟩ now
    refine ⟨containsAt_iff, reportHolds_iff.mpr fun close closes ahead => ?_⟩
    exact span_holds first keeps (resolveLocal zone close - now).toNat closes ahead (by omega)

/-! ## A repeated hour -/

namespace RepeatedHour

/-- Central European time in 2026. -/
def centralEurope : Zone where
  initial := 60 * minute
  transitions :=
    [(1774746000 * 1000000000, 120 * minute), (1792890000 * 1000000000, 60 * minute)]
  sorted := by decide

/-- An answer with the later instant of a repeated time first. -/
def latestFirst : List Int → LocalResult
  | [] => .none
  | [instant] => .single instant
  | earliest :: next :: _ => .ambiguous next earliest

/-- The local zone of a host. -/
def host (rules : Zone) : TimeZone where
  rules := rules
  fromLocalDatetime shown := latestFirst (rules.instantsOf shown)
  none shown := by
    cases listed : rules.instantsOf shown with
    | nil =>
      refine iff_of_true rfl fun instant isShown => ?_
      rw [← Zone.mem_instantsOf, listed] at isShown
      cases isShown
    | cons instant later =>
      have isShown : rules.localAt instant = shown :=
        Zone.mem_instantsOf.mp (listed ▸ List.mem_cons_self)
      refine iff_of_false ?_ fun never => never instant isShown
      cases later with
      | nil => exact LocalResult.noConfusion
      | cons next later => exact LocalResult.noConfusion
  single shown instant answer := by
    intro other
    rw [← Zone.mem_instantsOf]
    match listed : rules.instantsOf shown with
    | [] | _ :: _ :: _ => rw [listed] at answer; cases answer
    | [only] =>
      rw [listed] at answer
      cases answer
      exact List.mem_singleton
  ambiguous shown first second answer := by
    have sorted : (rules.instantsOf shown).Pairwise (· < ·) := instantsFrom_sorted rules.sorted
    rw [← Zone.mem_instantsOf, ← Zone.mem_instantsOf]
    match listed : rules.instantsOf shown with
    | [] | [_] => rw [listed] at answer; cases answer
    | earliest :: next :: later =>
      rw [listed] at answer sorted
      obtain ⟨rfl, rfl⟩ := LocalResult.ambiguous.inj answer
      have ordered := (List.pairwise_cons.mp sorted).1 _ List.mem_cons_self
      exact ⟨ordered.ne', List.mem_cons_of_mem _ List.mem_cons_self, List.mem_cons_self⟩

/-- A window from 02:30 to 06:00. -/
def fromHalfPastTwo : MaintenanceWindow where
  startMinute := 150
  endMinute := 360
  days := none

/-- A window from 01:00 to 02:30. -/
def untilHalfPastTwo : MaintenanceWindow where
  startMinute := 60
  endMinute := 150
  days := none

/-- When the hour from two begins again, as the clock is put back. -/
def putBack : Int := 1792890000 * 1000000000

/-- At the first 02:15 of the day on which the hour from two is repeated, an hour and a quarter is
reported for a window that ends at 02:30, though half an hour later the clock shows 02:45.  At the
first 02:45 four hours and a quarter are reported for a window that starts at 02:30, though half an
hour later the clock shows the second 02:15. -/
theorem report_fails :
    MaintenanceWindow.parse "01:00-02:30" = .ok untilHalfPastTwo ∧
      untilHalfPastTwo.closesInAt (host centralEurope) (putBack - 45 * minute) =
        some (some (75 * minute)) ∧
      untilHalfPastTwo.containsAt (host centralEurope) (putBack - 15 * minute) = false ∧
      MaintenanceWindow.parse "02:30-06:00" = .ok fromHalfPastTwo ∧
      fromHalfPastTwo.closesInAt (host centralEurope) (putBack - 15 * minute) =
        some (some (255 * minute)) ∧
      fromHalfPastTwo.containsAt (host centralEurope) (putBack + 15 * minute) = false ∧
      ¬∀ (window : MaintenanceWindow) (zone : TimeZone) (now : Int),
        window.ReportHolds zone now := by
  have reported : untilHalfPastTwo.closesInAt (host centralEurope) (putBack - 45 * minute) =
      some (some (75 * minute)) := by
    decide +kernel
  have outside : untilHalfPastTwo.containsAt (host centralEurope) (putBack - 15 * minute) =
      false := by
    decide +kernel
  refine ⟨by decide +kernel, reported, outside, by decide +kernel, by decide +kernel,
    by decide +kernel, fun holds => ?_⟩
  have span := (holds untilHalfPastTwo (host centralEurope) (putBack - 45 * minute) _ reported).2.1
  have inside := span (putBack - 15 * minute) (by decide) (by decide)
  rw [outside] at inside
  cases inside

end RepeatedHour

end MaintenanceWindow

end MailSwiftSync.Maintenance
