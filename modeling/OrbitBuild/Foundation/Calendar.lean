import Mathlib.Algebra.Order.Group.Int
import Mathlib.Order.Monotone.Basic
import Mathlib.Tactic.SplitIfs

/-! # The proleptic Gregorian calendar

Dates and times of day, numbered from the first of January 1970. Every number of
seconds, before or after, belongs to exactly one date and time, which has a text of its
own.
-/

namespace Calendar

/-! ## Years -/

def isLeap (year : Int) : Bool := (year % 4 = 0 && year % 100 ≠ 0) || year % 400 = 0

def yearDays (year : Int) : Nat := if isLeap year then 366 else 365

/-- The number of the first day of a year, counted from 1970. -/
def yearStart (year : Int) : Int :=
  365 * (year - 1970) + (year - 1) / 4 - (year - 1) / 100 + (year - 1) / 400 - 477

/-- A year ends where the next begins. -/
theorem yearStart_succ (year : Int) : yearStart (year + 1) = yearStart year + yearDays year := by
  unfold yearStart yearDays isLeap
  simp only [Bool.or_eq_true, Bool.and_eq_true, decide_eq_true_eq]
  split <;> omega

theorem yearDays_pos (year : Int) : 0 < yearDays year := by
  unfold yearDays
  split <;> omega

/-- Later years begin later. -/
theorem yearStart_lt_iff {first second : Int} :
    yearStart first < yearStart second ↔ first < second := by
  apply StrictMono.lt_iff_lt
  apply strictMono_int_of_lt_succ
  intro year
  have days := yearDays_pos year
  rw [yearStart_succ]
  omega

/-- Four hundred years are 146097 days. -/
theorem yearStart_near (year : Int) :
    400 * yearStart year ≤ 146097 * (year - 1970) + 800 ∧
      146097 * (year - 1970) - 800 ≤ 400 * yearStart year := by
  unfold yearStart
  omega

/-- The year of a day. The average length of a year gives it up to one year. -/
def yearOf (day : Int) : Int :=
  let estimate := 1970 + 400 * day / 146097
  if day < yearStart estimate then estimate - 1
  else if yearStart (estimate + 1) ≤ day then estimate + 1
  else estimate

/-- A day lies in its year. -/
theorem yearOf_spec (day : Int) :
    yearStart (yearOf day) ≤ day ∧ day < yearStart (yearOf day + 1) := by
  unfold yearOf
  dsimp only
  obtain ⟨estimate, near⟩ : ∃ estimate, estimate = 1970 + 400 * day / 146097 := ⟨_, rfl⟩
  rw [← near]
  split
  · next early =>
      have before := (yearStart_near (estimate - 1)).1
      rw [Int.sub_add_cancel]
      exact ⟨by omega, early⟩
  · next started =>
      split
      · next late =>
          have after := (yearStart_near (estimate + 1 + 1)).2
          exact ⟨late, by omega⟩
      · next inside => exact ⟨Int.not_lt.mp started, Int.not_le.mp inside⟩

/-- A day belongs to a year from the first day of the year on. -/
theorem le_yearOf_iff {year day : Int} : year ≤ yearOf day ↔ yearStart year ≤ day := by
  obtain ⟨started, ends⟩ := yearOf_spec day
  constructor
  · intro before
    apply le_trans _ started
    rw [← not_lt, yearStart_lt_iff, not_lt]
    exact before
  · intro reached
    have before := yearStart_lt_iff.mp (lt_of_le_of_lt reached ends)
    omega

/-! ## Months -/

def monthDays (leap : Bool) : (month : Nat) → Nat
  | 2 => if leap then 29 else 28
  | 4 | 6 | 9 | 11 => 30
  | 1 | 3 | 5 | 7 | 8 | 10 | 12 => 31
  | _ => 0

/-- The days of the year before a month. -/
def monthStart (leap : Bool) : (month : Nat) → Nat
  | 0 => 0
  | month + 1 => monthStart leap month + monthDays leap month

/-- Later months begin later. -/
theorem monthStart_mono (leap : Bool) : Monotone (monthStart leap) :=
  monotone_nat_of_le_succ fun _ => Nat.le_add_right _ _

/-- The twelve months make up the year. -/
theorem monthStart_thirteen (year : Int) : monthStart (isLeap year) 13 = yearDays year := by
  unfold yearDays
  cases isLeap year <;> rfl

/-- The last of the first months that has begun on a day of the year. -/
def monthUpTo (leap : Bool) (day : Nat) : (month : Nat) → Nat
  | 0 => 1
  | month + 1 => if monthStart leap (month + 1) ≤ day then month + 1 else monthUpTo leap day month

/-- The search for the month finds one that the day lies in. -/
theorem monthUpTo_spec {leap : Bool} {day month : Nat}
    (inside : day < monthStart leap (month + 1)) :
    1 ≤ monthUpTo leap day month ∧ monthUpTo leap day month ≤ month ∧
      monthStart leap (monthUpTo leap day month) ≤ day ∧
      day < monthStart leap (monthUpTo leap day month + 1) := by
  induction month with
  | zero => cases inside
  | succ month ih =>
      unfold monthUpTo
      split
      · next begun => exact ⟨Nat.succ_pos month, Nat.le_refl _, begun, inside⟩
      · next later =>
          obtain ⟨positive, small, begun, ends⟩ := ih (Nat.lt_of_not_le later)
          exact ⟨positive, Nat.le_succ_of_le small, begun, ends⟩

/-- A day of the year is in one month. -/
theorem month_unique {leap : Bool} (day : Nat) {first second : Nat}
    (begunFirst : monthStart leap first ≤ day) (endsFirst : day < monthStart leap (first + 1))
    (begunSecond : monthStart leap second ≤ day)
    (endsSecond : day < monthStart leap (second + 1)) : first = second := by
  have before := (monthStart_mono leap).reflect_lt (lt_of_le_of_lt begunFirst endsSecond)
  have after := (monthStart_mono leap).reflect_lt (lt_of_le_of_lt begunSecond endsFirst)
  omega

/-! ## Dates -/

structure Date where
  year : Int
  month : Nat
  day : Nat
  month_pos : 1 ≤ month
  month_le : month ≤ 12
  day_pos : 1 ≤ day
  day_le : day ≤ monthDays (isLeap year) month
  deriving DecidableEq

namespace Date

/-- The day of the year, from zero. -/
def dayOfYear (date : Date) : Nat :=
  monthStart (isLeap date.year) date.month + (date.day - 1)

/-- The number of the day, counted from 1970. -/
def number (date : Date) : Int := yearStart date.year + date.dayOfYear

/-- A date comes before the end of its month. -/
theorem dayOfYear_lt_monthStart (date : Date) :
    date.dayOfYear < monthStart (isLeap date.year) (date.month + 1) := by
  have positive := date.day_pos
  have small := date.day_le
  rw [dayOfYear, monthStart]
  omega

/-- A date comes before the end of its year. -/
theorem dayOfYear_lt (date : Date) : date.dayOfYear < yearDays date.year := by
  rw [← monthStart_thirteen]
  exact lt_of_lt_of_le date.dayOfYear_lt_monthStart
    (monthStart_mono _ (Nat.succ_le_succ date.month_le))

/-- The year of a date's day number is the date's. -/
theorem yearOf_number (date : Date) : yearOf date.number = date.year := by
  have inside := date.dayOfYear_lt
  have next := yearStart_succ date.year
  have from_start : date.year ≤ yearOf date.number := by
    rw [le_yearOf_iff, number]
    omega
  have to_end : ¬ date.year + 1 ≤ yearOf date.number := by
    rw [le_yearOf_iff, number]
    omega
  omega

/-- A day has one date. -/
theorem number_injective {first second : Date} (same : first.number = second.number) :
    first = second := by
  have years : first.year = second.year := by
    rw [← first.yearOf_number, same, second.yearOf_number]
  have days : first.dayOfYear = second.dayOfYear := by
    rw [number, number, years] at same
    omega
  have months : first.month = second.month := by
    have endsFirst := first.dayOfYear_lt_monthStart
    have endsSecond := second.dayOfYear_lt_monthStart
    rw [years] at endsFirst
    rw [← days] at endsSecond
    refine month_unique first.dayOfYear ?_ endsFirst ?_ endsSecond
    · rw [dayOfYear, years]
      exact Nat.le_add_right _ _
    · rw [days, dayOfYear]
      exact Nat.le_add_right _ _
  have dates : first.day = second.day := by
    have positiveFirst := first.day_pos
    have positiveSecond := second.day_pos
    rw [dayOfYear, dayOfYear, years, months] at days
    omega
  cases first
  cases second
  simp_all only

end Date

/-! ## The date of a day -/

/-- The day of the year, from zero, of the day with this number. -/
def dayInYear (number : Int) : Nat := (number - yearStart (yearOf number)).toNat

def monthOf (number : Int) : Nat := monthUpTo (isLeap (yearOf number)) (dayInYear number) 12

def dayOf (number : Int) : Nat :=
  dayInYear number - monthStart (isLeap (yearOf number)) (monthOf number) + 1

/-- A day lies in its month. -/
theorem monthOf_spec (number : Int) :
    1 ≤ monthOf number ∧ monthOf number ≤ 12 ∧
      monthStart (isLeap (yearOf number)) (monthOf number) ≤ dayInYear number ∧
      dayInYear number < monthStart (isLeap (yearOf number)) (monthOf number + 1) := by
  apply monthUpTo_spec
  obtain ⟨started, ends⟩ := yearOf_spec number
  rw [yearStart_succ] at ends
  rw [monthStart_thirteen, dayInYear]
  omega

theorem monthOf_pos (number : Int) : 1 ≤ monthOf number := (monthOf_spec number).1

theorem monthOf_le (number : Int) : monthOf number ≤ 12 := (monthOf_spec number).2.1

theorem dayOf_pos (number : Int) : 1 ≤ dayOf number := Nat.le_add_left _ _

theorem dayOf_le (number : Int) :
    dayOf number ≤ monthDays (isLeap (yearOf number)) (monthOf number) := by
  obtain ⟨-, -, begun, ends⟩ := monthOf_spec number
  rw [monthStart] at ends
  rw [dayOf]
  omega

/-- The date of the day with this number. -/
def Date.ofNumber (number : Int) : Date :=
  ⟨yearOf number, monthOf number, dayOf number, monthOf_pos number, monthOf_le number,
    dayOf_pos number, dayOf_le number⟩

/-- The date of a day number has that number. -/
theorem Date.number_ofNumber (number : Int) : (Date.ofNumber number).number = number := by
  obtain ⟨started, -⟩ := yearOf_spec number
  obtain ⟨-, -, begun, -⟩ := monthOf_spec number
  have days : (Date.ofNumber number).dayOfYear = dayInYear number := by
    change monthStart (isLeap (yearOf number)) (monthOf number) + (dayOf number - 1) =
      dayInYear number
    rw [dayOf]
    omega
  rw [Date.number, days]
  change yearStart (yearOf number) + _ = _
  rw [dayInYear]
  omega

/-! ## Moments -/

/-- A date and a time of day. -/
structure Moment where
  date : Date
  hour : Nat
  minute : Nat
  second : Nat
  hour_lt : hour < 24
  minute_lt : minute < 60
  second_lt : second < 60
  deriving DecidableEq

namespace Moment

/-- The second of the day, from zero. -/
def secondOfDay (moment : Moment) : Nat :=
  moment.hour * 3600 + moment.minute * 60 + moment.second

/-- The seconds from the beginning of 1970. -/
def seconds (moment : Moment) : Int := moment.date.number * 86400 + moment.secondOfDay

/-- The seconds of a day run up to 86399. -/
theorem secondOfDay_lt (moment : Moment) : moment.secondOfDay < 86400 := by
  have hours := moment.hour_lt
  have minutes := moment.minute_lt
  have seconds := moment.second_lt
  rw [secondOfDay]
  omega

/-- A number of seconds belongs to one moment. -/
theorem seconds_injective {first second : Moment} (same : first.seconds = second.seconds) :
    first = second := by
  have insideFirst := first.secondOfDay_lt
  have insideSecond := second.secondOfDay_lt
  rw [seconds, seconds] at same
  have dates : first.date = second.date := Date.number_injective (by omega)
  have times : first.secondOfDay = second.secondOfDay := by
    rw [dates] at same
    omega
  rw [secondOfDay, secondOfDay] at times
  have minutesFirst := first.minute_lt
  have minutesSecond := second.minute_lt
  have secondsFirst := first.second_lt
  have secondsSecond := second.second_lt
  have hours : first.hour = second.hour := by omega
  have minutes : first.minute = second.minute := by omega
  have moments : first.second = second.second := by omega
  cases first
  cases second
  simp_all only

/-- The second of the day of a number of seconds. -/
def clock (seconds : Int) : Nat := (seconds % 86400).toNat

theorem hour_lt_of_clock (seconds : Int) : clock seconds / 3600 < 24 := by
  rw [clock]
  omega

theorem minute_lt_of_clock (seconds : Int) : clock seconds % 3600 / 60 < 60 := by
  omega

theorem second_lt_of_clock (seconds : Int) : clock seconds % 60 < 60 := by
  omega

/-- The moment that lies the given number of seconds after the beginning of 1970. -/
def ofSeconds (seconds : Int) : Moment :=
  ⟨Date.ofNumber (seconds / 86400), clock seconds / 3600, clock seconds % 3600 / 60,
    clock seconds % 60, hour_lt_of_clock seconds, minute_lt_of_clock seconds,
    second_lt_of_clock seconds⟩

/-- The moment of a number of seconds has that number. -/
theorem seconds_ofSeconds (seconds : Int) : (ofSeconds seconds).seconds = seconds := by
  have time : (ofSeconds seconds).secondOfDay = clock seconds := by
    change clock seconds / 3600 * 3600 + clock seconds % 3600 / 60 * 60 + clock seconds % 60 = _
    omega
  rw [Moment.seconds, time]
  change (Date.ofNumber (seconds / 86400)).number * 86400 + _ = _
  rw [Date.number_ofNumber, clock]
  omega

/-- A moment is determined by its number of seconds. -/
theorem ofSeconds_seconds (moment : Moment) : ofSeconds moment.seconds = moment :=
  seconds_injective (seconds_ofSeconds moment.seconds)

theorem year_ofSeconds (seconds : Int) : (ofSeconds seconds).date.year = yearOf (seconds / 86400) :=
  rfl

/-- The moments of a year and later ones. -/
theorem le_year_ofSeconds_iff {year seconds : Int} :
    year ≤ (ofSeconds seconds).date.year ↔ yearStart year * 86400 ≤ seconds := by
  rw [year_ofSeconds, le_yearOf_iff]
  omega

/-- A moment lies in a year or later exactly from the year's first second on. -/
theorem le_year_iff {year : Int} {moment : Moment} :
    year ≤ moment.date.year ↔ yearStart year * 86400 ≤ moment.seconds := by
  rw [← le_year_ofSeconds_iff, ofSeconds_seconds]

end Moment

/-! ## Text -/

/-- A number in decimal, filled up with zeros. -/
def padChars (width number : Nat) : List Char :=
  List.replicate (width - (Nat.toDigits 10 number).length) '0' ++ Nat.toDigits 10 number

/-- A year in at least four digits, with a sign if it is negative or has more. -/
def yearChars (year : Int) : List Char :=
  if year < 0 then '-' :: padChars 4 year.natAbs
  else if year ≤ 9999 then padChars 4 year.natAbs
  else '+' :: padChars 4 year.natAbs

def Moment.timeChars (moment : Moment) : List Char :=
  padChars 2 moment.hour ++ ':' :: (padChars 2 moment.minute ++ ':' :: padChars 2 moment.second)

/-- What follows the year. -/
def Moment.tailChars (moment : Moment) : List Char :=
  '-' :: (padChars 2 moment.date.month ++ '-' :: (padChars 2 moment.date.day ++
    ' ' :: moment.timeChars))

/-- `%Y-%m-%d %H:%M:%S`. -/
def Moment.text (moment : Moment) : String :=
  String.ofList (yearChars moment.date.year ++ moment.tailChars)

/-- Leading zeros do not change the number that is read. -/
theorem ofDigitChars_padChars (width number : Nat) :
    Nat.ofDigitChars 10 (padChars width number) 0 = number := by
  rw [padChars, Nat.ofDigitChars_append, Nat.ofDigitChars_replicate_zero, Nat.mul_zero,
    Nat.ofDigitChars_ten_toDigits]

theorem toString_injective {first second : Nat} (same : toString first = toString second) :
    first = second := by
  rw [Nat.toString_eq_ofList_toDigits, Nat.toString_eq_ofList_toDigits] at same
  have numbers := congrArg (fun digits => Nat.ofDigitChars 10 digits 0)
    (String.ofList_injective same)
  simpa only [Nat.ofDigitChars_ten_toDigits] using numbers

/-- Different numbers have different padded numerals. -/
theorem padChars_injective {width first second : Nat}
    (same : padChars width first = padChars width second) : first = second := by
  rw [← ofDigitChars_padChars width first, same, ofDigitChars_padChars]

theorem isDigit_of_mem_padChars {width number : Nat} {char : Char}
    (member : char ∈ padChars width number) : char.isDigit = true := by
  rcases List.mem_append.mp member with zero | digit
  · rw [List.eq_of_mem_replicate zero]
    rfl
  · exact Nat.isDigit_of_mem_toDigits (by decide) (by decide) digit

theorem length_padChars_two {number : Nat} (small : number < 100) :
    (padChars 2 number).length = 2 := by
  have digits : (Nat.toDigits 10 number).length ≤ 2 :=
    (Nat.length_toDigits_le_iff (by decide) (by decide)).mpr small
  rw [padChars, List.length_append, List.length_replicate, Nat.sub_add_cancel digits]

/-- Two digits and a separator, and what comes after them. -/
theorem padChars_append_inj {first second : Nat} {separator : Char} {rest other : List Char}
    (smallFirst : first < 100) (smallSecond : second < 100)
    (same : padChars 2 first ++ separator :: rest = padChars 2 second ++ separator :: other) :
    first = second ∧ rest = other := by
  have lengths : (padChars 2 first).length = (padChars 2 second).length := by
    rw [length_padChars_two smallFirst, length_padChars_two smallSecond]
  obtain ⟨digits, tails⟩ := List.append_inj same lengths
  exact ⟨padChars_injective digits, (List.cons.inj tails).2⟩

theorem not_mem_padChars {width number : Nat} {char : Char} (sign : char.isDigit = false) :
    char ∉ padChars width number := by
  intro member
  rw [isDigit_of_mem_padChars member] at sign
  cases sign

/-- A year with a sign is not written like one without. -/
theorem signed_ne_padChars {width first second : Nat} {sign : Char} (other : sign.isDigit = false) :
    sign :: padChars width first ≠ padChars width second := by
  intro same
  exact not_mem_padChars other (same ▸ List.mem_cons_self)

/-- Different years are written differently. -/
theorem yearChars_injective {first second : Int} (same : yearChars first = yearChars second) :
    first = second := by
  unfold yearChars at same
  split at same
  · split at same
    · have digits := padChars_injective (List.cons.inj same).2
      omega
    · split at same
      · exact (signed_ne_padChars rfl same).elim
      · cases (List.cons.inj same).1
  · split at same
    · split at same
      · exact (signed_ne_padChars rfl same.symm).elim
      · split at same
        · have digits := padChars_injective same
          omega
        · exact (signed_ne_padChars rfl same.symm).elim
    · split at same
      · cases (List.cons.inj same).1
      · split at same
        · exact (signed_ne_padChars rfl same).elim
        · have digits := padChars_injective (List.cons.inj same).2
          omega

theorem monthDays_le (leap : Bool) (month : Nat) : monthDays leap month ≤ 31 := by
  unfold monthDays
  split
  · cases leap <;> decide
  all_goals decide

namespace Moment

section Digits

variable (moment : Moment)

theorem month_lt : moment.date.month < 100 := by
  have small := moment.date.month_le
  omega

theorem day_lt : moment.date.day < 100 := by
  have small := moment.date.day_le.trans (monthDays_le _ _)
  omega

theorem hour_lt_hundred : moment.hour < 100 := Nat.lt_trans moment.hour_lt (by decide)

theorem minute_lt_hundred : moment.minute < 100 := Nat.lt_trans moment.minute_lt (by decide)

theorem second_lt_hundred : moment.second < 100 := Nat.lt_trans moment.second_lt (by decide)

/-- What follows the year takes fifteen places. -/
theorem length_tailChars : moment.tailChars.length = 15 := by
  simp only [tailChars, timeChars, List.length_append, List.length_cons,
    length_padChars_two moment.month_lt, length_padChars_two moment.day_lt,
    length_padChars_two moment.hour_lt_hundred, length_padChars_two moment.minute_lt_hundred,
    length_padChars_two moment.second_lt_hundred]

end Digits

/-- The time of day can be read back from its text. -/
theorem timeChars_injective {first second : Moment} (same : first.timeChars = second.timeChars) :
    first.hour = second.hour ∧ first.minute = second.minute ∧ first.second = second.second := by
  obtain ⟨hours, same⟩ := padChars_append_inj first.hour_lt_hundred second.hour_lt_hundred same
  obtain ⟨minutes, same⟩ :=
    padChars_append_inj first.minute_lt_hundred second.minute_lt_hundred same
  exact ⟨hours, minutes, padChars_injective same⟩

/-- A moment is known by its text. -/
theorem text_injective {first second : Moment} (same : first.text = second.text) :
    first = second := by
  have lengths : first.tailChars.length = second.tailChars.length := by
    rw [length_tailChars, length_tailChars]
  obtain ⟨years, tails⟩ := List.append_inj' (String.ofList_injective same) lengths
  obtain ⟨months, tails⟩ :=
    padChars_append_inj first.month_lt second.month_lt (List.cons.inj tails).2
  obtain ⟨days, times⟩ := padChars_append_inj first.day_lt second.day_lt tails
  obtain ⟨hours, minutes, moments⟩ := timeChars_injective times
  have dates := yearChars_injective years
  obtain ⟨⟨⟩⟩ := first
  obtain ⟨⟨⟩⟩ := second
  simp_all only

/-- The text of a moment is not that of a number. -/
theorem text_ne_repr (moment : Moment) (number : Nat) : moment.text ≠ toString number := by
  intro same
  have space : ' ' ∈ moment.text.toList := by
    rw [text, String.toList_ofList, tailChars]
    simp
  rw [same, Nat.toString_eq_ofList_toDigits, String.toList_ofList] at space
  have digit := Nat.isDigit_of_mem_toDigits (by decide) (by decide) space
  cases digit

end Moment

end Calendar
