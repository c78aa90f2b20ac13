/-!
# Points in time

A timestamp is a calendar date and a time of day in UTC, down to the nanosecond. Dates follow the
Gregorian calendar in both directions and stay within the years that a date can hold. A second
numbered 60 is a leap second and keeps its own number.
-/

namespace SimDepot

/-- The first year a date can hold. -/
def minYear : Int := -262143

/-- The last year a date can hold. -/
def maxYear : Int := 262142

/-- Every fourth year is a leap year, save the centuries that 400 does not divide. -/
def isLeapYear (year : Int) : Bool := year % 4 == 0 && (year % 100 != 0 || year % 400 == 0)

/-- The number of days of a month; zero for a number that is no month. -/
def daysInMonth (year : Int) (month : Nat) : Nat :=
  match month with
  | 1 | 3 | 5 | 7 | 8 | 10 | 12 => 31
  | 4 | 6 | 9 | 11 => 30
  | 2 => if isLeapYear year then 29 else 28
  | _ => 0

/-- A calendar date. -/
structure Date where
  /-- Year, negative before the year zero. -/
  year : Int
  /-- Month, from one. -/
  month : Nat
  /-- Day of the month, from one. -/
  day : Nat
  /-- The calendar has this day, in a year that a date can hold. -/
  valid : minYear ≤ year ∧ year ≤ maxYear ∧ 1 ≤ day ∧ day ≤ daysInMonth year month := by decide
  deriving DecidableEq, Repr

namespace Date

/-- The date with these numbers, if the calendar has one. -/
def ofParts? (year : Int) (month day : Nat) : Option Date :=
  if h : minYear ≤ year ∧ year ≤ maxYear ∧ 1 ≤ day ∧ day ≤ daysInMonth year month then
    some ⟨year, month, day, h⟩
  else none

theorem ofParts?_self (d : Date) : ofParts? d.year d.month d.day = some d := by
  simp [ofParts?, d.valid]

/-- The following day. -/
def next? (d : Date) : Option Date :=
  (ofParts? d.year d.month (d.day + 1)).or <|
    (ofParts? d.year (d.month + 1) 1).or (ofParts? (d.year + 1) 1 1)

/-- The preceding day. -/
def prev? (d : Date) : Option Date :=
  (ofParts? d.year d.month (d.day - 1)).or <|
    (ofParts? d.year (d.month - 1) (daysInMonth d.year (d.month - 1))).or
      (ofParts? (d.year - 1) 12 31)

end Date

/-- A time of day. -/
structure TimeOfDay where
  /-- Hour, from zero. -/
  hour : Nat
  /-- Minute, from zero. -/
  minute : Nat
  /-- Second, from zero; 60 is a leap second. -/
  second : Nat
  /-- Nanosecond within the second. -/
  nano : Nat
  /-- Clocks show this time. -/
  valid : hour < 24 ∧ minute < 60 ∧ second ≤ 60 ∧ nano < 1000000000 := by decide
  deriving DecidableEq, Repr

namespace TimeOfDay

/-- The time of day with these numbers, if clocks show one. -/
def ofParts? (hour minute second nano : Nat) : Option TimeOfDay :=
  if h : hour < 24 ∧ minute < 60 ∧ second ≤ 60 ∧ nano < 1000000000 then
    some ⟨hour, minute, second, nano, h⟩
  else none

theorem ofParts?_self (t : TimeOfDay) : ofParts? t.hour t.minute t.second t.nano = some t := by
  simp [ofParts?, t.valid]

/-- Minutes since midnight. -/
def minutes (t : TimeOfDay) : Int := t.hour * 60 + t.minute

end TimeOfDay

/-- A point in time, in UTC. -/
structure Timestamp where
  /-- The date. -/
  date : Date
  /-- The time of day. -/
  time : TimeOfDay
  deriving DecidableEq, Repr

namespace Timestamp

/-- The moment at which clocks that are `offset` minutes ahead of UTC show `date` and `time`; the
offset is less than a day. -/
def ofLocal? (date : Date) (time : TimeOfDay) (offset : Int) : Option Timestamp := do
  let total := time.minutes - offset
  let (date, total) ←
    if total < 0 then date.prev?.map (·, total + 1440)
    else if 1440 ≤ total then date.next?.map (·, total - 1440)
    else some (date, total)
  let time ← TimeOfDay.ofParts? (total.toNat / 60) (total.toNat % 60) time.second time.nano
  return ⟨date, time⟩

/-- Clocks on UTC show the moment itself. -/
theorem ofLocal?_zero (t : Timestamp) : ofLocal? t.date t.time 0 = some t := by
  obtain ⟨d, ⟨h, m, s, n, hv⟩⟩ := t
  have h1 : ((h : Int) * 60 + m).toNat = h * 60 + m := by omega
  have h2 : (h * 60 + m) / 60 = h := by omega
  have h3 : (h * 60 + m) % 60 = m := by omega
  have h4 : ¬ ((h : Int) * 60 + m < 0) := by omega
  have h5 : ¬ ((1440 : Int) ≤ h * 60 + m) := by omega
  simp [ofLocal?, TimeOfDay.minutes, h1, h2, h3, h4, h5, TimeOfDay.ofParts?, hv]

/-- The first moment of the epoch that clocks count from. -/
def epoch : Timestamp := ⟨⟨1970, 1, 1, by decide⟩, ⟨0, 0, 0, 0, by decide⟩⟩

instance : Inhabited Timestamp := ⟨epoch⟩

end Timestamp

end SimDepot
