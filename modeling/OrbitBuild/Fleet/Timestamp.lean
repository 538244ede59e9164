import OrbitBuild.Fleet.Table
import OrbitBuild.Foundation.Calendar

/-! # The timestamps in the table

A timestamp is an unsigned number of seconds that comes from another node, and `chrono`
takes a signed one. The largest timestamps wrap to instants before 1970, of which
`chrono` can represent the last 262 thousand years.
-/

universe u

open Calendar (Moment)

namespace OrbitBuild

variable {DateTime : Type u}

namespace Chrono

/-- The year of `NaiveDate::MIN`. -/
def minYear : Int := -262143

/-- The year of `NaiveDate::MAX`. -/
def maxYear : Int := 262142

/-- The instant is in a year that can be represented. -/
def Represents (seconds : Int) : Prop :=
  minYear ≤ (Moment.ofSeconds seconds).date.year ∧ (Moment.ofSeconds seconds).date.year ≤ maxYear

instance (seconds : Int) : Decidable (Represents seconds) := inferInstanceAs (Decidable (_ ∧ _))

/-- `DateTime::from_timestamp` fails outside of the years of `NaiveDate`, and `format` shows the
date and time in the proleptic Gregorian calendar. -/
structure Documented (chrono : Chrono DateTime) : Prop where
  fromTimestamp : ∀ seconds : Int64,
    (chrono.fromTimestamp seconds).isSome ↔ Represents seconds.toInt
  format : ∀ (seconds : Int64) (dateTime : DateTime),
    chrono.fromTimestamp seconds = some dateTime →
      chrono.format dateTime = (Moment.ofSeconds seconds.toInt).text

/-- The first second of the first year, counted back from 1970. -/
def reach : Nat := 8334601228800

/-- The seconds that chrono can represent. -/
theorem represents_iff {seconds : Int} :
    Represents seconds ↔ -(reach : Int) ≤ seconds ∧ seconds < 8210266876800 := by
  have upper : (Moment.ofSeconds seconds).date.year ≤ maxYear ↔
      ¬ maxYear + 1 ≤ (Moment.ofSeconds seconds).date.year := by
    omega
  have first : Calendar.yearStart minYear * 86400 = -(reach : Int) := by decide
  have last : Calendar.yearStart (maxYear + 1) * 86400 = 8210266876800 := by decide
  rw [Represents, upper, Moment.le_year_ofSeconds_iff, Moment.le_year_ofSeconds_iff, first, last,
    Int.not_le]

end Chrono

namespace Fleet

/-- The date and time of the timestamp where there is one, and its numeral elsewhere. -/
def timestampText (ts : UInt64) : String :=
  if Chrono.Represents ts.toNat then (Moment.ofSeconds ts.toNat).text else toString ts.toNat

/-- `ts as i64`. -/
theorem toInt_toInt64 (ts : UInt64) :
    ts.toInt64.toInt = if ts.toNat < 2 ^ 63 then (ts.toNat : Int) else ts.toNat - 2 ^ 64 := by
  rw [Int64.toInt, UInt64.toBitVec_toInt64, BitVec.toInt_eq_toNat_cond]
  have small := ts.toNat_lt
  change (if 2 * ts.toNat < 2 ^ 64 then (ts.toNat : Int) else ts.toNat - (2 ^ 64 : Nat)) = _
  split_ifs <;> omega

section Format

variable {chrono : Chrono DateTime} (documented : chrono.Documented)

include documented

/-- A timestamp is shown as its date in UTC, or as a number beyond chrono's reach. -/
theorem formatTimestamp_eq (ts : UInt64) :
    formatTimestamp chrono ts =
      if Chrono.Represents ts.toInt64.toInt then (Moment.ofSeconds ts.toInt64.toInt).text
      else toString ts.toNat := by
  have covered := documented.fromTimestamp ts.toInt64
  unfold formatTimestamp
  cases found : chrono.fromTimestamp ts.toInt64 with
  | none =>
      rw [found] at covered
      rw [if_neg fun represents => Bool.false_ne_true (covered.mpr represents)]
      rfl
  | some dateTime =>
      rw [found] at covered
      rw [if_pos (covered.mp rfl)]
      exact documented.format ts.toInt64 dateTime found

/-- Timestamps before the ones that wrap into the reach of `chrono` are shown as they should. -/
theorem formatTimestamp_of_lt {ts : UInt64} (early : ts.toNat < 2 ^ 64 - Chrono.reach) :
    formatTimestamp chrono ts = timestampText ts := by
  rw [formatTimestamp_eq documented, timestampText, toInt_toInt64]
  by_cases small : ts.toNat < 2 ^ 63
  · rw [if_pos small]
  · have wrapped : ¬ Chrono.Represents (ts.toNat - 2 ^ 64) := by
      rw [Chrono.represents_iff]
      omega
    have large : ¬ Chrono.Represents ts.toNat := by
      rw [Chrono.represents_iff]
      omega
    rw [if_neg small, if_neg wrapped, if_neg large]

/-- The others are shown as a date before 1970. -/
theorem formatTimestamp_of_le {ts : UInt64} (late : 2 ^ 64 - Chrono.reach ≤ ts.toNat) :
    ∃ moment : Moment, moment.date.year < 1970 ∧ formatTimestamp chrono ts = moment.text := by
  have small := ts.toNat_lt
  have large : ¬ ts.toNat < 2 ^ 63 := by
    rw [Chrono.reach] at late
    omega
  have represents : Chrono.Represents (ts.toNat - 2 ^ 64) := by
    rw [Chrono.represents_iff]
    omega
  refine ⟨Moment.ofSeconds (ts.toNat - 2 ^ 64), ?_, ?_⟩
  · rw [← Int.not_le, Moment.le_year_ofSeconds_iff]
    have epoch : Calendar.yearStart 1970 * 86400 = 0 := by decide
    omega
  · rw [formatTimestamp_eq documented, toInt_toInt64, if_neg large, if_pos represents]

/-- The moment they are shown as is the one that lies that many seconds after 1970 began. -/
theorem formatTimestamp_eq_text_iff {ts : UInt64} (early : ts.toNat < 2 ^ 64 - Chrono.reach)
    {moment : Moment} :
    formatTimestamp chrono ts = moment.text ↔
      moment.seconds = ts.toNat ∧ moment.date.year ≤ Chrono.maxYear := by
  rw [formatTimestamp_of_lt documented early, timestampText]
  constructor
  · intro shown
    split at shown
    · next represents =>
        rw [← Moment.text_injective shown]
        exact ⟨Moment.seconds_ofSeconds _, represents.2⟩
    · exact (moment.text_ne_repr ts.toNat shown.symm).elim
  · rintro ⟨lies, covered⟩
    have same : Moment.ofSeconds ts.toNat = moment := by
      rw [← lies, Moment.ofSeconds_seconds]
    have represents : Chrono.Represents ts.toNat := by
      rw [Chrono.Represents, same, Moment.le_year_iff, lies]
      refine ⟨?_, covered⟩
      have first : Calendar.yearStart Chrono.minYear * 86400 = -(Chrono.reach : Int) := by decide
      omega
    rw [if_pos represents, same]

/-- Different timestamps are shown differently. -/
theorem formatTimestamp_injective {first second : UInt64}
    (same : formatTimestamp chrono first = formatTimestamp chrono second) : first = second := by
  apply UInt64.toNat_inj.mp
  rw [formatTimestamp_eq documented, formatTimestamp_eq documented] at same
  split at same
  · split at same
    · have moments := congrArg Moment.seconds (Moment.text_injective same)
      rw [Moment.seconds_ofSeconds, Moment.seconds_ofSeconds, toInt_toInt64,
        toInt_toInt64] at moments
      have smallFirst := first.toNat_lt
      have smallSecond := second.toNat_lt
      split_ifs at moments <;> omega
    · exact (Moment.text_ne_repr _ _ same).elim
  · split at same
    · exact (Moment.text_ne_repr _ _ same.symm).elim
    · exact Calendar.toString_injective same

end Format

/-- **The timestamps shown.** Two timestamps are never shown alike. A timestamp is shown as the
date and time it stands for, or as its numeral where there is none, and never as a date before
1970, if and only if it is not one of those that wrap into the reach of `chrono`. -/
theorem formatTimestamp_faithful_iff {chrono : Chrono DateTime} (documented : chrono.Documented) :
    (∀ ts : UInt64,
      (formatTimestamp chrono ts = timestampText ts ∧
        ∀ moment : Moment, formatTimestamp chrono ts = moment.text → 1970 ≤ moment.date.year) ↔
      ts.toNat < 2 ^ 64 - Chrono.reach) ∧
    ∀ first second : UInt64,
      formatTimestamp chrono first = formatTimestamp chrono second → first = second := by
  refine ⟨fun ts => ?_, fun first second => formatTimestamp_injective documented⟩
  by_cases early : ts.toNat < 2 ^ 64 - Chrono.reach
  · refine iff_of_true ⟨formatTimestamp_of_lt documented early, ?_⟩ early
    intro moment shown
    have lies := ((formatTimestamp_eq_text_iff documented early).mp shown).1
    have epoch : Calendar.yearStart 1970 * 86400 = 0 := by decide
    rw [Moment.le_year_iff, lies, epoch]
    exact Int.natCast_nonneg _
  · refine iff_of_false (fun both => ?_) early
    obtain ⟨moment, before, shown⟩ :=
      formatTimestamp_of_le documented (Nat.le_of_not_lt early)
    have after := both.2 moment shown
    omega

/-- A `chrono` whose dates are those of the calendar. -/
def calendarChrono : Chrono Moment where
  fromTimestamp seconds :=
    if Chrono.Represents seconds.toInt then some (Moment.ofSeconds seconds.toInt) else none
  format := Moment.text

/-- The calendar does what is documented of chrono. -/
theorem calendarChrono_documented : calendarChrono.Documented where
  fromTimestamp seconds := by
    by_cases represents : Chrono.Represents seconds.toInt
    · simp only [calendarChrono, represents, ↓reduceIte, Option.isSome_some]
    · simp only [calendarChrono, represents, ↓reduceIte, Option.isSome_none, Bool.false_eq_true]
  format seconds dateTime found := by
    obtain ⟨-, same⟩ := Option.ite_none_right_eq_some.mp found
    cases same
    rfl

theorem formatTimestamp_newYear :
    formatTimestamp calendarChrono 1767225600 = "2026-01-01 00:00:00" := by
  have shown := ((formatTimestamp_faithful_iff calendarChrono_documented).1 1767225600).mpr
    (by decide)
  exact shown.1.trans (by decide +kernel)

/-- The last timestamp is shown as the last second before 1970. -/
theorem formatTimestamp_wraps :
    formatTimestamp calendarChrono 18446744073709551615 = "1969-12-31 23:59:59" ∧
      timestampText 18446744073709551615 = "18446744073709551615" := by
  decide +kernel

end Fleet

end OrbitBuild
