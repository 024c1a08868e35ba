/-!
# Timestamps

Records carry the time in the form of RFC 3339, in universal time.

* `Timestamp.text`: the text of a time given in seconds since 1970 and nanoseconds.
-/

namespace FormatDaemon.Log.Timestamp

/-- A day of the calendar. -/
structure Day where
  year : Nat
  month : Nat
  day : Nat
  deriving DecidableEq, Repr

/-- The day some days after the first of January 1970. Years are counted from
March, so that a leap day ends one; an era is 400 years. -/
def dayOf (days : Nat) : Day :=
  let z := days + 719468
  let era := z / 146097
  let dayOfEra := z % 146097
  let yearOfEra := (dayOfEra - dayOfEra / 1460 + dayOfEra / 36524 - dayOfEra / 146096) / 365
  let dayOfYear := dayOfEra - (365 * yearOfEra + yearOfEra / 4 - yearOfEra / 100)
  let shifted := (5 * dayOfYear + 2) / 153
  let month := if shifted < 10 then shifted + 3 else shifted - 9
  { year := yearOfEra + era * 400 + if month ≤ 2 then 1 else 0
    month := month
    day := dayOfYear - (153 * shifted + 2) / 5 + 1 }

/-- A number with at least so many digits. -/
def padded (width n : Nat) : List Char :=
  let digits := Nat.toDigits 10 n
  List.replicate (width - digits.length) '0' ++ digits

/-- The fraction of a second, without zeros at its end; nothing for a whole second. -/
def fraction (nanos : Nat) : List Char :=
  if nanos = 0 then []
  else '.' :: ((padded 9 nanos).reverse.dropWhile (· = '0')).reverse

/-- The text of a time. -/
def text (seconds nanos : Nat) : String :=
  let day := dayOf (seconds / 86400)
  let s := seconds % 86400
  String.ofList <|
    padded 4 day.year ++ '-' :: padded 2 day.month ++ '-' :: padded 2 day.day ++
      'T' :: padded 2 (s / 3600) ++ ':' :: padded 2 (s / 60 % 60) ++ ':' :: padded 2 (s % 60) ++
      fraction nanos ++ ['Z']

example : dayOf 0 = ⟨1970, 1, 1⟩ ∧ dayOf 11016 = ⟨2000, 2, 29⟩ := by decide

end FormatDaemon.Log.Timestamp
