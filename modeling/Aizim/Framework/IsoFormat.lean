import Aizim.Framework.Datetime
import Aizim.Framework.Text

/-!
# ISO 8601 datetimes

The spellings that the standard library's `datetime.fromisoformat` reads: calendar and week
dates, in basic or extended format, any one character as separator, a time of day of one to three
components with an optional fraction, and a timezone.  The program reads such a text in one place,
to check that a recorded time is a UTC time, so the reader here answers that question only,
`isUtcIsoformat`.
-/

namespace Aizim.IsoFormat

/-- The number a row of digits stands for, if all of them are digits and there are `width`. -/
def number? (width : ℕ) (cs : List Char) : Option ℕ :=
  if cs.length = width ∧ cs.all isAsciiDigit then some (Datetime.readDigits cs) else none

/-! ## Dates -/

/-- The first Monday of the ISO year, as days after the first representable one. -/
def firstMonday (year : ℕ) : ℕ :=
  let firstDay := Datetime.daysBeforeYear year
  let weekday := firstDay % 7
  if weekday ≤ 3 then firstDay - weekday else firstDay + 7 - weekday

/-- An ISO year has 53 weeks when it begins on a Thursday, or on a Wednesday in a leap year. -/
def weeksInYear (year : ℕ) : ℕ :=
  let weekday := Datetime.daysBeforeYear year % 7
  if weekday = 3 ∨ (weekday = 2 ∧ isLeap year) then 53 else 52

/-- The calendar date of an ISO week date. -/
def weekDate? (year week day : ℕ) : Option (ℕ × ℕ × ℕ) :=
  if 1 ≤ year ∧ year ≤ 9999 ∧ 1 ≤ week ∧ week ≤ weeksInYear year ∧ 1 ≤ day ∧ day ≤ 7 then
    some (Datetime.ofDays (firstMonday year + (week - 1) * 7 + (day - 1)))
  else none

/-- The place of the separator between date and time. -/
def separatorPlace (cs : List Char) : Option ℕ :=
  let digitAt := fun i => (cs[i]?).any isAsciiDigit
  if cs.length < 7 then none
  else if cs.length = 7 then some 7
  else if cs[4]? = some '-' then
    if cs[5]? = some 'W' then
      if cs.length > 8 ∧ cs[8]? = some '-' then
        if cs.length = 9 then none else if digitAt 10 then some 8 else some 10
      else some 8
    else some 10
  else if cs[4]? = some 'W' then
    let place := 7 + ((cs.drop 7).takeWhile isAsciiDigit).length
    if place < 9 then some place else if place % 2 = 0 then some 7 else some 8
  else some 8

/-- Read the date part. -/
def date? (cs : List Char) : Option (ℕ × ℕ × ℕ) := do
  let year ← number? 4 (cs.take 4)
  let extended := cs[4]? = some '-'
  let rest := if extended then cs.drop 5 else cs.drop 4
  if rest.head? = some 'W' then
    let week ← number? 2 ((rest.drop 1).take 2)
    let tail := rest.drop 3
    if tail.isEmpty then weekDate? year week 1
    else if decide (tail.head? = some '-') != decide extended then none
    else
      let day ← number? 1 (if extended then tail.drop 1 else tail)
      weekDate? year week day
  else
    let month ← number? 2 (rest.take 2)
    let tail := rest.drop 2
    if decide (tail.head? = some '-') != decide extended then none
    else
      let day ← number? 2 (if extended then tail.drop 1 else tail)
      some (year, month, day)

/-! ## Times -/

/-- Read the components after the first one, at most `fuel` more, and the fraction. -/
def timeRest? (extended : Bool) : (fuel : ℕ) → List Char → Option (List ℕ)
  | _, [] => some []
  | 0, c :: cs =>
    if (c == '.' || c == ',') && !cs.isEmpty && cs.all isAsciiDigit then
      some [Datetime.readDigits ((cs ++ List.replicate 6 '0').take 6)]
    else none
  | fuel + 1, c :: cs => do
    let cs ← if extended then (if c == ':' then some cs else none) else some (c :: cs)
    let component ← number? 2 (cs.take 2)
    let rest ← timeRest? extended fuel (cs.drop 2)
    some (component :: rest)

/-- Read a time of day, or the size of an offset. -/
def time? (cs : List Char) : Option (List ℕ) := do
  let hour ← number? 2 (cs.take 2)
  let rest ← timeRest? (cs[2]? = some ':') 2 (cs.drop 2)
  some (hour :: rest)

/-- The text is read as an aware datetime whose offset from UTC is zero. -/
def isUtcIsoformat (value : String) : Bool :=
  let cs := value.toList
  (do
    let place ← separatorPlace cs
    let (year, month, day) ← date? (cs.take place)
    let time := cs.drop (place + 1)
    let clock := time.takeWhile fun c => c != '+' && c != '-' && c != 'Z'
    let fields ← time? clock
    let _ ← Datetime.ofFields? year month day (fields.getD 0 0) (fields.getD 1 0)
      (fields.getD 2 0) (fields.getD 3 0)
    match time.drop clock.length with
    | ['Z'] => some true
    | 'Z' :: _ => none
    | _ :: offset => (time? offset).map fun (sizes : List ℕ) => sizes.all (· == 0)
    | [] => some false).getD false

example : isUtcIsoformat "2026-01-02T03:04:05.000006+00:00" = true := by decide

example : isUtcIsoformat "2026-W01-1T03+01:00" = false := by decide

end Aizim.IsoFormat
