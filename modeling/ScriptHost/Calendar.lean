/-!
# The calendar

Days are counted from the start of 1970; months and days of the week are counted from 0.

* `Calendar.daysToMonth` — the number of days up to a month.
* `Calendar.dateOfDays` — the date of a number of days.
-/

namespace ScriptHost.Calendar

/-- The number of days from 1970 to the start of a month, which may lie outside the year. -/
def daysToMonth (year month : Int) : Int :=
  let y := year + month.fdiv 12
  let m := month % 12
  -- years are counted from March, so that the leap day is the last
  let (y, m) := if m < 2 then (y - 1, m + 10) else (y, m - 2)
  let era := y.fdiv 400
  let yearOfEra := y - 400 * era
  let dayOfYear := (153 * m + 2) / 5
  let dayOfEra := 365 * yearOfEra + yearOfEra / 4 - yearOfEra / 100 + dayOfYear
  146097 * era + dayOfEra - 719468

/-- Year, month and day of a number of days since 1970. -/
def dateOfDays (days : Int) : Int × Int × Int :=
  let z := days + 719468
  let era := z.fdiv 146097
  let dayOfEra := z - 146097 * era
  let yearOfEra := (dayOfEra - dayOfEra / 1460 + dayOfEra / 36524 - dayOfEra / 146096) / 365
  let dayOfYear := dayOfEra - (365 * yearOfEra + yearOfEra / 4 - yearOfEra / 100)
  let m := (5 * dayOfYear + 2) / 153
  let day := dayOfYear - (153 * m + 2) / 5 + 1
  let month := if m < 10 then m + 2 else m - 10
  (yearOfEra + 400 * era + (if month < 2 then 1 else 0), month, day)

/-- The days of the week, from Sunday on. -/
def weekdayNames : List String := ["Sun", "Mon", "Tue", "Wed", "Thu", "Fri", "Sat"]

/-- The months. -/
def monthNames : List String :=
  ["Jan", "Feb", "Mar", "Apr", "May", "Jun", "Jul", "Aug", "Sep", "Oct", "Nov", "Dec"]

end ScriptHost.Calendar
