import Mathlib.Data.Rat.Floor
import ArtExhibition.Spec.Museum
import ArtExhibition.Wire.DatePattern

/-!
# The date in a cell of the news

`NewsTableCellViewModel.dateValue` and `String.formatDateToString`, with what `DateFormatter` does
for the patterns of numbers that `DatePattern` reads. Of a locale the formatter uses the calendar and
the digits; both are the user's choice. Times are seconds since 1970, in UTC.
-/

namespace ArtExhibition

open DatePattern

/-- What a day is called, the day of 1 January 1970 being 0, and in which digits. -/
structure Locale where
  calendar : ℤ → DateFields
  numberingSystem : NumberingSystem

/-- A date pattern that `DatePattern` reads. -/
structure DateFormat where
  pattern : String
  readable : (read pattern).isSome

def DateFormat.items (format : DateFormat) : List Item := (read format.pattern).get format.readable

namespace DateFormatterType

def YYMMDD : DateFormat := ⟨"yyyy/MM/dd", by decide⟩

def DDMMYYYY : DateFormat := ⟨"dd/MM/yyyy", by decide⟩

def YYYY_MM_DD : DateFormat := ⟨"yyyy-MM-dd", by decide⟩

end DateFormatterType

/-- `DateFormatter`; the time zone by its seconds ahead of UTC. -/
structure DateFormatter where
  timeZone : ℤ
  locale : Locale
  dateFormat : DateFormat

/-- The day that a date is of in a time zone. -/
def localDay (timeZone : ℤ) (date : ℚ) : ℤ := ⌊(date + timeZone) / 86400⌋

/-- `string(from:)`. -/
def DateFormatter.string (formatter : DateFormatter) (date : ℚ) : String :=
  let fields := formatter.locale.calendar (localDay formatter.timeZone date)
  String.ofList (write formatter.locale.numberingSystem fields formatter.dateFormat.items)

/-- What `Date()` and `Locale.current` are. -/
structure Moment where
  now : ℚ
  current : Locale

/-- `TimeZone(abbreviation: "UTC+07")`. -/
def utcPlus07 : ℤ := 7 * 3600

/-- `formatDateToString`: the text it is called on is not used. -/
def formatDateToString (_ : String) (format : Option DateFormat) (moment : Moment) : String :=
  let dateFormat := format.getD DateFormatterType.YYMMDD
  let dateFormatter : DateFormatter := ⟨utcPlus07, moment.current, dateFormat⟩
  dateFormatter.string moment.now

/-- `model.images?.first?.date`. -/
def HardvardMuseumObjectRecord.firstDate (model : HardvardMuseumObjectRecord) : Option String :=
  (model.images.bind List.head?).bind Image.date

def NewsTableCellViewModel.dateValue (viewModel : NewsTableCellViewModel) (moment : Moment) : String :=
  match viewModel.model.firstDate with
  | some date => formatDateToString date (some DateFormatterType.DDMMYYYY) moment
  | none => "None"

end ArtExhibition
