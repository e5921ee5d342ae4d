import Stackfort.TextOrder

/-! Clock readings and their stored text. A reading is a number of nanoseconds since the beginning of
year one, UTC. The store keeps `formatTime`, the RFC 3339 form that drops trailing zeros of the
fraction; columns are compared either as text, byte by byte, or through `julianday`, which SQLite
computes to the millisecond. Reading a column back with `parseTime` returns the same instant for
the four-digit years the format allows, so the rows of the model hold instants and `formatTime` is
applied where the code compares texts. -/

namespace Stackfort

open Text

/-- Nanoseconds since 0001-01-01T00:00:00Z. -/
abbrev Time := Nat

/-- A Go duration, in nanoseconds. -/
abbrev Duration := Int

/-- The nanoseconds of one second. -/
def second : Nat := 10 ^ 9

def minute : Nat := 60 * second

def hour : Nat := 60 * minute

/-- `value.Add(duration)`. -/
def Time.add (value : Time) (duration : Duration) : Time := ((value : Int) + duration).toNat

/-- Decimal digits padded to at least `width` places, as `time.Format` writes a year. -/
def paddedDecimal (width n : Nat) : List Char :=
  if n < 10 ^ width then decimal width n else Nat.toDigits 10 n

/-! ### Calendar -/

/-- Days from the beginning of year one to the beginning of a year. -/
def daysBeforeYear (year : Nat) : Nat :=
  365 * (year - 1) + ((year - 1) / 4 + (year - 1) / 400 - (year - 1) / 100)

def yearOfDays (days : Nat) : Nat :=
  Nat.findGreatest (fun year => daysBeforeYear year ≤ days) (days / 365 + 1)

def isLeapYear (year : Nat) : Bool := year % 4 == 0 && (year % 100 != 0 || year % 400 == 0)

/-- Days of a year before a month, January being month one. -/
def daysBeforeMonth (leap : Bool) (month : Nat) : Nat :=
  [0, 31, 59, 90, 120, 151, 181, 212, 243, 273, 304, 334].getD (month - 1) 0 +
    if leap && 2 < month then 1 else 0

def monthOfDays (leap : Bool) (days : Nat) : Nat :=
  Nat.findGreatest (fun month => daysBeforeMonth leap month ≤ days) 12

/-! ### Texts -/

def formatDate (days : Nat) : List Char :=
  let year := yearOfDays days
  let dayOfYear := days - daysBeforeYear year
  let month := monthOfDays (isLeapYear year) dayOfYear
  paddedDecimal 4 year ++ '-' :: decimal 2 month ++ '-' ::
    decimal 2 (dayOfYear - daysBeforeMonth (isLeapYear year) month + 1)

def formatClock (seconds : Nat) : List Char :=
  decimal 2 (seconds / 3600) ++ ':' :: decimal 2 (seconds / 60 % 60) ++ ':' :: decimal 2 (seconds % 60)

/-- The fraction of a second, without trailing zeros and without the point when it is zero. -/
def formatFraction (nanoseconds : Nat) : List Char :=
  if nanoseconds = 0 then [] else '.' :: stripped 9 nanoseconds

/-- `value.UTC().Format(time.RFC3339Nano)`. -/
def formatTime (value : Time) : String :=
  String.ofList (formatDate (value / second / 86400) ++ 'T' :: formatClock (value / second % 86400) ++
    formatFraction (value % second) ++ ['Z'])

/-- What `julianday` orders stored instants by: milliseconds, rounded to the nearest one but never
past the end of the second. -/
def julianday (value : Time) : Nat :=
  value / second * 1000 + min ((value % second + 500000) / 1000000) 999

end Stackfort
