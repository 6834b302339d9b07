import Mathlib.Data.String.Basic
import Mathlib.Tactic.IntervalCases

/-!
# Timezone-aware UTC datetimes

A `Datetime` is a calendar date and a time of day with microseconds, all in range, read as UTC.
`text` is its ISO 8601 text with the suffix `Z`; as in the standard library the fraction is
printed only when it is not zero.  `parse?` reads such a text and accepts nothing else:
`parse?_text` and `text_of_parse?` say that the two are inverse.

Texts are compared as texts wherever a database compares them, and datetimes as datetimes
wherever the program does; the two orders differ, because a text without a fraction sorts after
the texts of the same second that have one.
-/

namespace Aizim

/-! ## Calendar -/

/-- Leap years of the Gregorian calendar. -/
def isLeap (year : ℕ) : Bool :=
  year % 4 == 0 && (year % 100 != 0 || year % 400 == 0)

/-- The number of days of a month. -/
def daysInMonth (year month : ℕ) : ℕ :=
  match month with
  | 2 => if isLeap year then 29 else 28
  | 4 | 6 | 9 | 11 => 30
  | _ => 31

/-- Every field is in its range. -/
def datetimeValid (year month day hour minute second microsecond : ℕ) : Bool :=
  1 ≤ year && year ≤ 9999 && 1 ≤ month && month ≤ 12 && 1 ≤ day && day ≤ daysInMonth year month &&
    hour < 24 && minute < 60 && second < 60 && microsecond < 1000000

/-- A timezone-aware UTC datetime. -/
structure Datetime where
  year : ℕ
  month : ℕ
  day : ℕ
  hour : ℕ
  minute : ℕ
  second : ℕ
  microsecond : ℕ
  valid : datetimeValid year month day hour minute second microsecond = true
  deriving DecidableEq

/-! Times of the samples -/

lemma datetimeValid_noon : datetimeValid 2026 1 1 12 0 0 0 = true := by decide

lemma datetimeValid_halfPastTwelve : datetimeValid 2026 1 1 12 30 0 0 = true := by decide

lemma datetimeValid_oneOClock : datetimeValid 2026 1 1 13 0 0 0 = true := by decide

namespace Datetime

/-- The datetime with the given fields, if they are in range. -/
def ofFields? (year month day hour minute second microsecond : ℕ) : Option Datetime :=
  if h : datetimeValid year month day hour minute second microsecond = true then
    some ⟨year, month, day, hour, minute, second, microsecond, h⟩
  else none

/-- The fields from the most to the least significant one. -/
def key (d : Datetime) : List ℕ :=
  [d.year, d.month, d.day, d.hour, d.minute, d.second, d.microsecond]

/-- `a < b` of two aware datetimes. -/
instance : LT Datetime := ⟨fun a b => a.key < b.key⟩

instance (a b : Datetime) : Decidable (a < b) := inferInstanceAs (Decidable (a.key < b.key))

/-- `a <= b` of two aware datetimes. -/
instance : LE Datetime := ⟨fun a b => ¬ b < a⟩

instance (a b : Datetime) : Decidable (a ≤ b) := inferInstanceAs (Decidable (¬ b < a))

/-! ## Arithmetic -/

/-- The days of the years before this one. -/
def daysBeforeYear (year : ℕ) : ℕ :=
  (year - 1) * 365 + (year - 1) / 4 - (year - 1) / 100 + (year - 1) / 400

/-- The days of the year before this month. -/
def daysBeforeMonth (year month : ℕ) : ℕ :=
  ((List.range (month - 1)).map fun i => daysInMonth year (i + 1)).sum

/-- The microseconds since the first representable midnight. -/
def toMicroseconds (d : Datetime) : ℕ :=
  let days := daysBeforeYear d.year + daysBeforeMonth d.year d.month + (d.day - 1)
  (((days * 24 + d.hour) * 60 + d.minute) * 60 + d.second) * 1000000 + d.microsecond

/-- The month and day at an offset into the year, counting off at most twelve months. -/
def monthDay (year : ℕ) : (fuel month offset : ℕ) → ℕ × ℕ
  | 0, month, offset => (month, offset + 1)
  | fuel + 1, month, offset =>
    if offset < daysInMonth year month then (month, offset + 1)
    else monthDay year fuel (month + 1) (offset - daysInMonth year month)

/-- The date a number of days after the first one, by cycles of 400, 100, 4 and 1 years. -/
def ofDays (n : ℕ) : ℕ × ℕ × ℕ :=
  let n100 := n % 146097 / 36524
  let r100 := n % 146097 % 36524
  let n4 := r100 / 1461
  let n1 := r100 % 1461 / 365
  let year := n / 146097 * 400 + n100 * 100 + n4 * 4 + n1 + 1
  -- the last day of a cycle of four or four hundred years overflows into a next year
  if n1 = 4 ∨ n100 = 4 then (year - 1, 12, 31)
  else
    let (month, day) := monthDay year 11 1 (r100 % 1461 % 365)
    (year, month, day)

/-- The datetime a number of microseconds after the first representable midnight. -/
def ofMicroseconds? (n : ℕ) : Option Datetime :=
  let (year, month, day) := ofDays (n / 86400000000)
  let time := n % 86400000000
  ofFields? year month day (time / 3600000000) (time / 60000000 % 60) (time / 1000000 % 60)
    (time % 1000000)

/-- Subtract a positive duration, given in microseconds; `none` is the overflow error. -/
def sub? (d : Datetime) (microseconds : ℕ) : Option Datetime :=
  if microseconds ≤ d.toMicroseconds then ofMicroseconds? (d.toMicroseconds - microseconds)
  else none

/-! ## Text -/

/-- The last decimal digit of a number. -/
def digit (n : ℕ) : Char := Nat.digitChar (n % 10)

/-- The last `width` decimal digits of a number. -/
def digits : (width n : ℕ) → List Char
  | 0, _ => []
  | width + 1, n => digits width (n / 10) ++ [digit n]

/-- The number a row of decimal digits stands for. -/
def readDigits (cs : List Char) : ℕ :=
  cs.foldl (fun n c => n * 10 + (c.toNat - 48)) 0

@[simp] lemma digit_toNat (n : ℕ) : (digit n).toNat - 48 = n % 10 := by
  have h : n % 10 < 10 := Nat.mod_lt _ (by decide)
  unfold digit
  generalize n % 10 = k at h
  interval_cases k <;> rfl

lemma readDigits_digits (width n : ℕ) (h : n < 10 ^ width) :
    readDigits (digits width n) = n := by
  induction width generalizing n with
  | zero => simp_all [digits, readDigits]
  | succ width ih =>
    have hq : n / 10 < 10 ^ width := by
      rw [Nat.div_lt_iff_lt_mul (by decide), ← pow_succ]
      exact h
    have := ih _ hq
    simp only [readDigits] at this
    simp only [digits, readDigits, List.foldl_append, List.foldl_cons, List.foldl_nil, this,
      digit_toNat]
    omega

/-- The fraction of the second, absent when it is zero. -/
def fraction (microsecond : ℕ) : List Char :=
  if microsecond = 0 then [] else '.' :: digits 6 microsecond

/-- The characters of the canonical text. -/
def textChars (d : Datetime) : List Char :=
  digits 4 d.year ++ '-' :: digits 2 d.month ++ '-' :: digits 2 d.day ++
    'T' :: digits 2 d.hour ++ ':' :: digits 2 d.minute ++ ':' :: digits 2 d.second ++
    fraction d.microsecond ++ ['Z']

/-- The canonical text, as `isoformat` with `+00:00` replaced by `Z`. -/
def text (d : Datetime) : String := String.ofList d.textChars

/-- The number at a place of a text. -/
def numberAt (cs : List Char) (start width : ℕ) : ℕ :=
  readDigits ((cs.drop start).take width)

/-- The datetime whose fields stand at the places of a canonical text. -/
def readFields? (cs : List Char) : Option Datetime :=
  ofFields? (numberAt cs 0 4) (numberAt cs 5 2) (numberAt cs 8 2) (numberAt cs 11 2)
    (numberAt cs 14 2) (numberAt cs 17 2) (if cs.length = 27 then numberAt cs 20 6 else 0)

/-- Read a canonical text.  The last check leaves out every other spelling of a datetime. -/
def parse? (value : String) : Option Datetime :=
  (readFields? value.toList).filter fun d => d.text == value

lemma text_of_parse? {value : String} {d : Datetime} (h : parse? value = some d) :
    d.text = value := by
  unfold parse? at h
  simpa using (Option.filter_eq_some_iff.1 h).2

lemma ofFields?_self (d : Datetime) :
    ofFields? d.year d.month d.day d.hour d.minute d.second d.microsecond = some d :=
  dif_pos d.valid

lemma readFields?_textChars (d : Datetime) : readFields? d.textChars = some d := by
  have hself := ofFields?_self d
  have hv := d.valid
  simp only [datetimeValid, Bool.and_eq_true, decide_eq_true_eq] at hv
  obtain ⟨⟨⟨⟨⟨⟨⟨⟨⟨-, hyear⟩, -⟩, hmonth⟩, -⟩, hday⟩, hhour⟩, hminute⟩, hsecond⟩, hmicro⟩ := hv
  have hdays : daysInMonth d.year d.month ≤ 31 := by
    unfold daysInMonth
    split
    · split <;> omega
    all_goals omega
  have h2 : ∀ n, n < 100 → readDigits (digits 2 n) = n := fun n h => readDigits_digits 2 n h
  have h4 := readDigits_digits 4 d.year (by omega)
  have h6 := readDigits_digits 6 d.microsecond (by omega)
  simp only [digits, List.nil_append, List.cons_append] at h2 h4 h6
  -- the digits of each field are read back at the places where they were written
  by_cases h0 : d.microsecond = 0
  · simp only [readFields?, textChars, numberAt, fraction, digits, h0, if_true, List.nil_append,
      List.cons_append, List.append_nil, List.drop_zero, List.drop_succ_cons,
      List.take_succ_cons, List.take_zero, List.length_cons, List.length_nil, h4,
      h2 _ (show d.month < 100 by omega), h2 _ (show d.day < 100 by omega),
      h2 _ (show d.hour < 100 by omega), h2 _ (show d.minute < 100 by omega),
      h2 _ (show d.second < 100 by omega)]
    simpa [h0] using hself
  · simp only [readFields?, textChars, numberAt, fraction, digits, h0, if_false, List.nil_append,
      List.cons_append, List.drop_zero, List.drop_succ_cons,
      List.take_succ_cons, List.take_zero, List.length_cons, List.length_nil, h4, h6,
      h2 _ (show d.month < 100 by omega), h2 _ (show d.day < 100 by omega),
      h2 _ (show d.hour < 100 by omega), h2 _ (show d.minute < 100 by omega),
      h2 _ (show d.second < 100 by omega)]
    simpa using hself

/-- Reading a canonical text back gives the datetime it was printed from. -/
@[simp] lemma parse?_text (d : Datetime) : parse? d.text = some d := by
  simp [parse?, text, readFields?_textChars]

lemma text_injective {a b : Datetime} (h : a.text = b.text) : a = b := by
  simpa using congrArg parse? h

example : (ofFields? 2026 3 1 0 0 0 0).bind (fun d => d.sub? 1000000) =
    ofFields? 2026 2 28 23 59 59 0 := by
  decide

end Datetime

end Aizim
