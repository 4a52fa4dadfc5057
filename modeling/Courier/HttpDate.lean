import Courier.Clock
import Courier.Text.Ascii
import Courier.Text.Blank

/-!
# HTTP dates

The three notations of a date in a header : `Sun, 06 Nov 1994 08:49:37 GMT`,
`Sunday, 06-Nov-94 08:49:37 GMT` and `Sun Nov  6 08:49:37 1994`. A date counts only if its
time of day exists, its year is from 1970 up to 9999, and the day of the month and of the
week agree with the calendar.
-/

namespace Courier.HttpDate

/-- A date in its parts. Months and weekdays count from one, the week beginning on Monday. -/
structure Parts where
  year : Nat
  month : Nat
  day : Nat
  weekday : Nat
  hour : Nat
  minute : Nat
  second : Nat
  deriving Repr, DecidableEq

def months : List String :=
  ["Jan", "Feb", "Mar", "Apr", "May", "Jun", "Jul", "Aug", "Sep", "Oct", "Nov", "Dec"]

def weekdays : List String :=
  ["Monday", "Tuesday", "Wednesday", "Thursday", "Friday", "Saturday", "Sunday"]

/-- The place of a word in a list, counted from one. -/
def ordinal? (word : List Char) (words : List (List Char)) : Option Nat :=
  (words.findIdx? (· = word)).map (· + 1)

/-- The number that digits write, if there are `count` of them. -/
def number? (count : Nat) (cs : List Char) : Option Nat :=
  if cs.length = count ∧ cs.all Ascii.isDigit then
    some (cs.foldl (fun n c => n * 10 + (c.toNat - '0'.toNat)) 0)
  else none

/-- The characters from `first` up to `last`, excluded. -/
def slice (first last : Nat) (cs : List Char) : List Char :=
  (cs.drop first).take (last - first)

/-- Whether the text at `start` is `word`. -/
def has (start : Nat) (word : String) (cs : List Char) : Bool :=
  slice start (start + word.length) cs = word.toList

/-- Months between the characters that surround them. -/
def monthsBetween (before after : String) : List (List Char) :=
  months.map fun m => (before ++ m ++ after).toList

/-- The short names of the weekdays, followed by `close`. -/
def shortDays (close : String) : List (List Char) :=
  weekdays.map fun d => d.toList.take 3 ++ close.toList

/-- The notation `Sun, 06 Nov 1994 08:49:37 GMT`. -/
def fixed? (s : List Char) : Option Parts := do
  if s.length ≠ 29 ∨ !has 25 " GMT" s ∨ !has 16 " " s ∨ !has 19 ":" s ∨ !has 22 ":" s then none
  return {
    second := ← number? 2 (slice 23 25 s)
    minute := ← number? 2 (slice 20 22 s)
    hour := ← number? 2 (slice 17 19 s)
    day := ← number? 2 (slice 5 7 s)
    month := ← ordinal? (slice 7 12 s) (monthsBetween " " " ")
    year := ← number? 4 (slice 12 16 s)
    weekday := ← ordinal? (slice 0 5 s) (shortDays ", ") }

/-- A long weekday with a comma and a blank at the front, and what follows it. -/
def longDay? (s : List Char) : Option (Nat × List Char) :=
  (weekdays.findIdx? fun d => has 0 (d ++ ", ") s).map fun i =>
    (i + 1, s.drop ((weekdays.getD i "").length + 2))

/-- The notation `Sunday, 06-Nov-94 08:49:37 GMT`, with years from 1970 up to 2069. -/
def dashed? (s : List Char) : Option Parts := do
  if s.length < 23 then none
  let (weekday, s) ← longDay? s
  if s.length ≠ 22 ∨ !has 12 ":" s ∨ !has 15 ":" s ∨ !has 18 " GMT" s then none
  let short ← number? 2 (slice 7 9 s)
  return {
    second := ← number? 2 (slice 16 18 s)
    minute := ← number? 2 (slice 13 15 s)
    hour := ← number? 2 (slice 10 12 s)
    day := ← number? 2 (slice 0 2 s)
    month := ← ordinal? (slice 2 7 s) (monthsBetween "-" "-")
    year := if short < 70 then short + 2000 else short + 1900
    weekday := weekday }

/-- The notation `Sun Nov  6 08:49:37 1994`. -/
def plain? (s : List Char) : Option Parts := do
  if s.length ≠ 24 ∨ !has 10 " " s ∨ !has 13 ":" s ∨ !has 16 ":" s ∨ !has 19 " " s then none
  return {
    second := ← number? 2 (slice 17 19 s)
    minute := ← number? 2 (slice 14 16 s)
    hour := ← number? 2 (slice 11 13 s)
    day := ← if has 8 " " s then number? 1 (slice 9 10 s) else number? 2 (slice 8 10 s)
    month := ← ordinal? (slice 4 8 s) (monthsBetween "" " ")
    year := ← number? 4 (slice 20 24 s)
    weekday := ← ordinal? (slice 0 4 s) (shortDays " ") }

/-- Days from the first of January 1970 to a date of the Gregorian calendar. -/
def daysFrom1970 (year month day : Nat) : Int :=
  let y : Int := if month ≤ 2 then (year : Int) - 1 else year
  let era := y / 400
  let yearOfEra := y - era * 400
  let shifted : Int := if month > 2 then (month : Int) - 3 else (month : Int) + 9
  let dayOfYear := (153 * shifted + 2) / 5 + day - 1
  let dayOfEra := yearOfEra * 365 + yearOfEra / 4 - yearOfEra / 100 + dayOfYear
  era * 146097 + dayOfEra - 719468

/-- The days of a month. -/
def monthLength (year month : Nat) : Nat :=
  if month = 2 then
    if year % 4 = 0 ∧ (year % 100 ≠ 0 ∨ year % 400 = 0) then 29 else 28
  else if month = 4 ∨ month = 6 ∨ month = 9 ∨ month = 11 then 30
  else 31

/-- Whether the calendar has the date. -/
def Parts.valid (p : Parts) : Bool :=
  p.second < 60 ∧ p.minute < 60 ∧ p.hour < 24 ∧ 1970 ≤ p.year ∧ p.year ≤ 9999
    ∧ 1 ≤ p.day ∧ p.day ≤ monthLength p.year p.month
    ∧ (daysFrom1970 p.year p.month p.day + 3) % 7 + 1 = p.weekday

/-- The moment of a date, in nanoseconds since 1970. -/
def Parts.wall (p : Parts) : Int :=
  let seconds : Nat := p.hour * 3600 + p.minute * 60 + p.second
  (daysFrom1970 p.year p.month p.day * 86400 + seconds) * Courier.second

/-- The moment that a text writes in any of the three notations. -/
def parse? (s : String) : Option Int :=
  if s.toList.all (·.toNat < 128) then
    let cs := Text.trimChars s.toList
    ((fixed? cs).orElse fun _ => (dashed? cs).orElse fun _ => plain? cs).bind fun p =>
      if p.valid then some p.wall else none
  else none

end Courier.HttpDate
