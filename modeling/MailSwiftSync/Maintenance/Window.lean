import MailSwiftSync.Foundation.LocalTime
import MailSwiftSync.Message

/-!
# Maintenance windows

A window is a range of wall-clock times, optionally restricted to the weekdays on which it
opens.  Wall-clock times and instants are nanoseconds from the start of 1970, and dates are
days from then.
-/

namespace MailSwiftSync.Maintenance

open Foundation

/-! ## Dates -/

inductive Weekday where
  | mon
  | tue
  | wed
  | thu
  | fri
  | sat
  | sun
deriving DecidableEq, Repr

def Weekday.numDaysFromMonday : Weekday → Fin 7
  | .mon => 0
  | .tue => 1
  | .wed => 2
  | .thu => 3
  | .fri => 4
  | .sat => 5
  | .sun => 6

/-- Nanoseconds of a minute. -/
def minute : Int := 60000000000

def minutesPerDay : Int := 24 * 60

/-- Nanoseconds of a day. -/
def day : Int := 86400000000000

/-- The date of a wall-clock time. -/
def dateOf (shown : Int) : Int := shown / day

/-- `Datelike::weekday`.  The first day of 1970 is a Thursday. -/
def weekdayOf (date : Int) : Weekday :=
  match ((date + 3) % 7).toNat with
  | 0 => .mon
  | 1 => .tue
  | 2 => .wed
  | 3 => .thu
  | 4 => .fri
  | 5 => .sat
  | _ => .sun

/-- Weekdays repeat every week. -/
theorem weekdayOf_congr {date other : Int} (same : date % 7 = other % 7) :
    weekdayOf date = weekdayOf other := by
  have shifted : (date + 3) % 7 = (other + 3) % 7 := by omega
  rw [weekdayOf, weekdayOf, shifted]

/-! ## Windows -/

/-- A daily range of minutes since local midnight, the same minute twice for a full day, and the
days on which it opens. -/
structure MaintenanceWindow where
  startMinute : Fin 1440
  endMinute : Fin 1440
  days : Option (Vector Bool 7)
deriving DecidableEq, Repr

def usage : String :=
  "maintenance window must be HH:MM-HH:MM (24-hour, may wrap past midnight), optionally " ++
    "followed by @Mon,Tue,... naming the days each window opens"

/-- `ok_or(USAGE)`. -/
def orUsage {α : Type} (value : Option α) : Except String α :=
  value.elim (.error usage) .ok

/-- `split_once`. -/
def splitAtFirst (separator : Char) (text : String) : Option (String × String) :=
  if separator ∈ text.toList then
    some (String.ofList (text.toList.takeWhile (· ≠ separator)),
      String.ofList ((text.toList.dropWhile (· ≠ separator)).drop 1))
  else none

/-- `str::parse::<u32>`. -/
def parseU32 (text : String) : Option Nat :=
  let digits := if startsWith text "+" then text.toList.drop 1 else text.toList
  if digits = [] then none
  else if digits.all Char.isDigit then
    let value := digits.foldl (fun total digit => total * 10 + (digit.toNat - 48)) 0
    if value < 2 ^ 32 then some value else none
  else none

theorem clock_lt {hours minutes : Nat} (valid : ¬(23 < hours ∨ 59 < minutes)) :
    hours * 60 + minutes < 1440 := by
  omega

def parseClock (value : String) : Except String (Fin 1440) := do
  let (hours, minutes) ← orUsage (splitAtFirst ':' (trim value))
  let hours ← orUsage (parseU32 hours)
  let minutes ← orUsage (parseU32 minutes)
  if valid : 23 < hours ∨ 59 < minutes then .error usage
  else .ok ⟨hours * 60 + minutes, clock_lt valid⟩

/-- The abbreviations and names of the weekdays. -/
def weekdayNames : List (String × String × Weekday) :=
  [("mon", "monday", .mon), ("tue", "tuesday", .tue), ("wed", "wednesday", .wed),
    ("thu", "thursday", .thu), ("fri", "friday", .fri), ("sat", "saturday", .sat),
    ("sun", "sunday", .sun)]

def parseWeekday (token : String) : Except String Weekday :=
  let lower := String.ofList (token.toList.map Char.toLower)
  orUsage <| (weekdayNames.find? fun (short, long, _) => lower = short || lower = long).map
    fun (_, _, weekday) => weekday

def parseDays (spec : String) : Except String (Vector Bool 7) := do
  let days ← (spec.toList.splitOn ',').foldlM (fun (days : Vector Bool 7) token => do
    let token := trim (String.ofList token)
    if token = "" then .error usage
    else
      let weekday ← parseWeekday token
      return days.set weekday.numDaysFromMonday true) (Vector.replicate 7 false)
  if days.all (!·) then .error usage else return days

namespace MaintenanceWindow

def parse (spec : String) : Except String MaintenanceWindow := do
  let spec := trim spec
  let (timeRange, daysSpec) := match splitAtFirst '@' spec with
    | some (range, days) => (range, some days)
    | none => (spec, none)
  let (start, stop) ← orUsage (splitAtFirst '-' timeRange)
  let startMinute ← parseClock start
  let endMinute ← parseClock stop
  let days ← daysSpec.mapM parseDays
  return { startMinute, endMinute, days }

variable (window : MaintenanceWindow)

def opensOn (weekday : Weekday) : Bool :=
  window.days.all fun days => days.get weekday.numDaysFromMonday

def lengthMinutes : Int :=
  let start : Int := window.startMinute.val
  let stop : Int := window.endMinute.val
  if start = stop then minutesPerDay
  else if start < stop then stop - start
  else minutesPerDay - start + stop

/-- Wall-clock start and end of the occurrence that opens on a date. -/
def occurrence (date : Int) : Int × Int :=
  let start := date * day + window.startMinute.val * minute
  (start, start + window.lengthMinutes * minute)

/-- The end of the span of back-to-back occurrences that reaches an end, from a number of days
on as one that never closes. -/
def chained : Nat → Int → Option Int
  | 0, _ => none
  | days + 1, stop =>
    let nextDate := dateOf stop
    let (nextStart, nextEnd) := window.occurrence nextDate
    if nextStart ≠ stop || !window.opensOn (weekdayOf nextDate) then some stop
    else chained days nextEnd

/-- Wall-clock close of the occurrence containing a time: nothing outside every occurrence, and
no time for a window that never closes. -/
def closeAt (shown : Int) : Option (Option Int) :=
  let today := dateOf shown
  let occurrences := ([today - 1, today].filter fun date => window.opensOn (weekdayOf date)).map
    window.occurrence
  (occurrences.find? fun (start, stop) => start ≤ shown && decide (shown < stop)).map
    fun (_, stop) => window.chained 7 stop

end MaintenanceWindow

/-! ## Instants -/

/-- `LocalResult`. -/
inductive LocalResult where
  | none
  | single (instant : Int)
  | ambiguous (first second : Int)
deriving DecidableEq, Repr

/-- A time zone: its rules, and what the calendar library answers for a wall-clock time.  The two
instants of a repeated time come in either order. -/
structure TimeZone where
  rules : Zone
  /-- `from_local_datetime`. -/
  fromLocalDatetime : Int → LocalResult
  none : ∀ shown, fromLocalDatetime shown = .none ↔ ∀ instant, rules.localAt instant ≠ shown
  single : ∀ shown instant, fromLocalDatetime shown = .single instant →
    ∀ other, rules.localAt other = shown ↔ other = instant
  ambiguous : ∀ shown first second, fromLocalDatetime shown = .ambiguous first second →
    first ≠ second ∧ rules.localAt first = shown ∧ rules.localAt second = shown

/-- The first of a number of candidates, one minute apart, that the clock shows. -/
def firstShown (zone : TimeZone) : Nat → Int → Option Int
  | 0, _ => none
  | tries + 1, candidate =>
    match zone.fromLocalDatetime candidate with
    | .single instant => some instant
    | .ambiguous instant _ => some instant
    | .none => firstShown zone tries (candidate + minute)

/-- The instant a wall-clock time denotes. -/
def resolveLocal (zone : TimeZone) (shown : Int) : Int :=
  (firstShown zone 1441 shown).getD shown

namespace MaintenanceWindow

variable (window : MaintenanceWindow) (zone : TimeZone)

/-- Time until the window closes, nothing outside it, and no time for a window that never
closes. -/
def closesInAt (now : Int) : Option (Option Int) := do
  match ← window.closeAt (zone.rules.localAt now) with
  | none => some none
  | some close =>
    let remaining := resolveLocal zone close - now
    if remaining < 0 then none
    else if remaining = 0 then none
    else some (some remaining)

def containsAt (now : Int) : Bool := (window.closesInAt zone now).isSome

end MaintenanceWindow

end MailSwiftSync.Maintenance
