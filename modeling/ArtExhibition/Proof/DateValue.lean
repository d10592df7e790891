import ArtExhibition.Spec.DateValue
import ArtExhibition.Wire.Gregorian
import Mathlib.Tactic.Linarith

/-!
# When a cell shows its record's date

`formatDateToString` formats the time at which it is called, so at one moment all records with a date
show the same (`dateValue_eq_of_moment`). `dateValue_eq_dateText_iff`: two records show their own
dates, and tell by them whether these are equal, exactly when each value is computed on the day of
its record. By a Gregorian calendar these are the 24 hours of that day in UTC+07
(`computedOn_iff_of_gregorian`).
-/

namespace ArtExhibition

open DatePattern Gregorian

variable {model model' : HardvardMuseumObjectRecord} {date date' : CivilDate} {moment moment' : Moment}

def dateFields (date : CivilDate) : DateFields := ⟨date.day, date.month, date.year⟩

/-- The text of a date by a format, in western digits. -/
def dateText (format : DateFormat) (date : CivilDate) : String :=
  String.ofList (write .western (dateFields date) format.items)

/-- In UTC+07 and by the user's calendar it is the day of the date; the user's digits are western. -/
def ComputedOn (moment : Moment) (date : CivilDate) : Prop :=
  moment.current.numberingSystem = .western ∧
    moment.current.calendar (localDay utcPlus07 moment.now) = dateFields date

/-! ## Texts of dates -/

/-- A format that tells all of a date. -/
structure DateFormat.Complete (format : DateFormat) : Prop where
  separated : Separated format.items
  all : ∀ field, ∃ width, .number field width ∈ format.items

theorem complete_DDMMYYYY : DateFormatterType.DDMMYYYY.Complete where
  separated := by decide
  all
    | .day => ⟨2, by decide⟩
    | .month => ⟨2, by decide⟩
    | .year => ⟨4, by decide⟩

theorem dateFields_injective : Function.Injective dateFields := by
  intro date date' h
  obtain ⟨hday, hmonth, hyear⟩ := DateFields.mk.inj h
  exact CivilDate.ext hyear hmonth hday

theorem dateText_inj {format : DateFormat} (h : format.Complete) :
    dateText format date = dateText format date' ↔ date = date' := by
  rw [dateText, dateText, String.ofList_inj, write_eq_iff h.separated h.all,
    dateFields_injective.eq_iff, and_iff_right rfl]

theorem formatDateToString_eq_iff {format : DateFormat} (h : format.Complete) (text : String) :
    formatDateToString text (some format) moment = dateText format date ↔ ComputedOn moment date := by
  rw [formatDateToString, DateFormatter.string, dateText, String.ofList_inj]
  exact write_eq_iff h.separated h.all

theorem dateValue_eq {text : String} (h : model.firstDate = some text) :
    NewsTableCellViewModel.dateValue ⟨model⟩ moment =
      formatDateToString text (some DateFormatterType.DDMMYYYY) moment := by
  rw [NewsTableCellViewModel.dateValue, h]

/-- Whatever the text of the record's date is. -/
theorem shows_iff_computedOn {text : String} (h : model.firstDate = some text) :
    NewsTableCellViewModel.dateValue ⟨model⟩ moment = dateText DateFormatterType.DDMMYYYY date ↔
      ComputedOn moment date := by
  rw [dateValue_eq h, formatDateToString_eq_iff complete_DDMMYYYY]

/-! ## Own dates -/

/-- **At one moment all records with a date show the same.** -/
theorem dateValue_eq_of_moment (h : model.firstDate.isSome) (h' : model'.firstDate.isSome) :
    NewsTableCellViewModel.dateValue ⟨model⟩ moment = NewsTableCellViewModel.dateValue ⟨model'⟩ moment := by
  obtain ⟨text, htext⟩ := Option.isSome_iff_exists.1 h
  obtain ⟨text', htext'⟩ := Option.isSome_iff_exists.1 h'
  rw [dateValue_eq htext, dateValue_eq htext']
  rfl

/-- **Two records show their own dates**, so the same one only if these are equal, exactly when each
value is computed on its record's date. -/
theorem dateValue_eq_dateText_iff {model model' : HardvardMuseumObjectRecord} {date date' : CivilDate}
    {moment moment' : Moment}
    (h : model.firstDate = some (dateText DateFormatterType.YYYY_MM_DD date))
    (h' : model'.firstDate = some (dateText DateFormatterType.YYYY_MM_DD date')) :
    let shown := NewsTableCellViewModel.dateValue ⟨model⟩ moment
    let shown' := NewsTableCellViewModel.dateValue ⟨model'⟩ moment'
    (shown = dateText DateFormatterType.DDMMYYYY date ∧
        shown' = dateText DateFormatterType.DDMMYYYY date' ∧ (shown = shown' ↔ date = date')) ↔
      ComputedOn moment date ∧ ComputedOn moment' date' := by
  intro shown shown'
  have hshown : shown = dateText DateFormatterType.DDMMYYYY date ↔ ComputedOn moment date :=
    shows_iff_computedOn h
  have hshown' : shown' = dateText DateFormatterType.DDMMYYYY date' ↔ ComputedOn moment' date' :=
    shows_iff_computedOn h'
  rw [← hshown, ← hshown']
  constructor
  · exact fun ⟨hdate, hdate', _⟩ => ⟨hdate, hdate'⟩
  · rintro ⟨hdate, hdate'⟩
    refine ⟨hdate, hdate', ?_⟩
    rw [hdate, hdate', dateText_inj complete_DDMMYYYY]

/-! ## By a Gregorian calendar -/

/-- Since 15 October 1582, which is 141427 days before 1970, the days are those of the Gregorian
calendar, 719528 of which are before 1970. -/
def Locale.Gregorian (locale : Locale) : Prop :=
  ∀ day, -141427 ≤ day → locale.calendar day = dateFields (ofDayNumber (719528 + day).toNat)

/-- When a date begins in UTC+07. -/
def startOf (date : CivilDate) : ℚ := 86400 * (date.dayNumber - 719528) - utcPlus07

/-- **The 24 hours** in which a value is right. -/
theorem computedOn_iff_of_gregorian (hlocale : moment.current.Gregorian)
    (hclock : -141427 ≤ localDay utcPlus07 moment.now) :
    ComputedOn moment date ↔ moment.current.numberingSystem = .western ∧
      startOf date ≤ moment.now ∧ moment.now < startOf date + 86400 := by
  have hday : (719528 + localDay utcPlus07 moment.now).toNat = date.dayNumber ↔
      localDay utcPlus07 moment.now = (date.dayNumber : ℤ) - 719528 := by
    omega
  have hcast : (((date.dayNumber : ℤ) - 719528 : ℤ) : ℚ) = date.dayNumber - 719528 := by
    norm_cast
  rw [ComputedOn, hlocale _ hclock, dateFields_injective.eq_iff, ofDayNumber_eq_iff, hday, localDay,
    Int.floor_eq_iff, le_div_iff₀ (by norm_num), div_lt_iff₀ (by norm_num), hcast, startOf]
  refine and_congr_right fun _ => and_congr ?_ ?_ <;> constructor <;> intro h <;> linarith

/-- The clock of a user with a Gregorian calendar and western digits. -/
def gregorianMoment (now : ℚ) : Moment where
  now := now
  current := ⟨fun day => dateFields (ofDayNumber (719528 + day).toNat), .western⟩

/-- A record whose first image has this date. -/
def recordOf (date : String) : HardvardMuseumObjectRecord :=
  ⟨none, none, some [⟨some date, none, none, none⟩]⟩

theorem dateValue_on_its_day :
    NewsTableCellViewModel.dateValue ⟨recordOf "2022-08-10"⟩ (gregorianMoment 1660089600) =
      "10/08/2022" := by
  let date : CivilDate := ⟨2022, 8, 10, by decide, by decide, by decide⟩
  have hdate : (recordOf "2022-08-10").firstDate = some (dateText DateFormatterType.YYYY_MM_DD date) := by
    decide +kernel
  have hday : date.dayNumber = 738742 := by decide +kernel
  have hon : ComputedOn (gregorianMoment 1660089600) date := by
    -- the day begins at 17:00 UTC of the day before
    refine (computedOn_iff_of_gregorian (fun _ _ => rfl) (by decide +kernel)).2 ⟨rfl, ?_, ?_⟩
    · norm_num [startOf, hday, utcPlus07, gregorianMoment]
    · norm_num [startOf, hday, utcPlus07, gregorianMoment]
  have htext : dateText DateFormatterType.DDMMYYYY date = "10/08/2022" := by decide +kernel
  exact ((dateValue_eq_dateText_iff hdate hdate).2 ⟨hon, hon⟩).1.trans htext

/-- **Two records show one date**, which is neither's own. -/
theorem dateValue_shows_today :
    let date : CivilDate := ⟨2020, 1, 15, by decide, by decide, by decide⟩
    let date' : CivilDate := ⟨1999, 12, 31, by decide, by decide, by decide⟩
    let shown := NewsTableCellViewModel.dateValue ⟨recordOf "2020-01-15"⟩ (gregorianMoment 1660089600)
    let shown' := NewsTableCellViewModel.dateValue ⟨recordOf "1999-12-31"⟩ (gregorianMoment 1660089600)
    (recordOf "2020-01-15").firstDate = some (dateText DateFormatterType.YYYY_MM_DD date) ∧
      (recordOf "1999-12-31").firstDate = some (dateText DateFormatterType.YYYY_MM_DD date') ∧
      shown = "10/08/2022" ∧ shown ≠ dateText DateFormatterType.DDMMYYYY date ∧
      shown' = shown ∧ date' ≠ date := by
  intro date date' shown shown'
  refine ⟨by decide +kernel, by decide +kernel, by decide +kernel, by decide +kernel, ?_, by decide⟩
  exact dateValue_eq_of_moment rfl rfl

end ArtExhibition
