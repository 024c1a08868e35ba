import FormatDaemon.Number.Decimal
import FormatDaemon.Number.Limits
import FormatDaemon.Toml.Basic

/-!
# Words in TOML

Numbers, truth values, dates and times are words: they hold no blanks and no
delimiters, but for the blank between a date and a time.

* `ofWord?`: the value of a word.
* `isDate`, `isTime`: the words a blank may stand between.
-/

namespace FormatDaemon.Toml

/-- Whether a character is a decimal digit. -/
def isDigit (c : Char) : Bool := '0' ≤ c && c ≤ '9'

/-- Whether a character is an octal digit. -/
def isOctal (c : Char) : Bool := '0' ≤ c && c ≤ '7'

/-- Whether a character is a binary digit. -/
def isBinary (c : Char) : Bool := c = '0' || c = '1'

/-- Whether a character is a hexadecimal digit. -/
def isHex (c : Char) : Bool := isDigit c || ('a' ≤ c && c ≤ 'f') || ('A' ≤ c && c ≤ 'F')

/-- The value of a digit. -/
def digitValue (c : Char) : Nat :=
  if isDigit c then c.toNat - '0'.toNat else c.toLower.toNat - 'a'.toNat + 10

/-- The number some digits denote. -/
def numberOf (base : Nat) (digits : List Char) : Nat :=
  digits.foldl (fun n c => base * n + digitValue c) 0

/-- Digits with single underscores between them, without the underscores. -/
def digits? (isDigit : Char → Bool) : List Char → Option (List Char)
  | [] => none
  | [c] => if isDigit c then some [c] else none
  | c :: '_' :: rest => if isDigit c then (digits? isDigit rest).map (c :: ·) else none
  | c :: rest => if isDigit c then (digits? isDigit rest).map (c :: ·) else none

/-! ### Numbers -/

/-- The integer, if it fits 64 bits. -/
def integer? (n : Int) : Option Toml :=
  if -Limit.int64 ≤ n && n < Limit.int64 then some (.integer n) else none

/-- Decimal digits of a whole part, which has no zero in front. -/
def whole? (cs : List Char) : Option (List Char) :=
  match digits? isDigit cs with
  | some ['0'] => some ['0']
  | some ('0' :: _) => none
  | found => found

/-- A number with a sign, as it is read. -/
def signOf : List Char → Bool × List Char
  | '-' :: rest => (true, rest)
  | '+' :: rest => (false, rest)
  | cs => (false, cs)

/-- What stands before and behind the first character of a kind. -/
def cutAt (p : Char → Bool) (cs : List Char) : List Char × Option (List Char) :=
  match cs.dropWhile (!p ·) with
  | [] => (cs, none)
  | _ :: rest => (cs.takeWhile (!p ·), some rest)

/-- The power of ten behind a mark, if there is one. -/
def power? : Option (List Char) → Option Int
  | none => some 0
  | some cs => do
    let (negative, cs) := signOf cs
    let n := numberOf 10 (← digits? isDigit cs)
    return if negative then -n else n

/-- A real. One that is too large is refused unless it is negative: then it is not finite. -/
def real? (negative : Bool) (whole : List Char) (fraction : List Char) (power : Int) :
    Option Toml :=
  match Binary64.ofDecimal? negative (numberOf 10 (whole ++ fraction))
      (power - fraction.length) with
  | some x => some (.real (some x))
  | none => if negative then some (.real none) else none

/-- A decimal number behind its sign. -/
def decimal? (negative : Bool) (cs : List Char) : Option Toml := do
  let (mantissa, scale?) := cutAt (fun c => c = 'e' || c = 'E') cs
  let (whole, fraction?) := cutAt (· = '.') mantissa
  let whole ← whole? whole
  match fraction?, scale? with
  | none, none =>
    let n : Int := numberOf 10 whole
    integer? (if negative then -n else n)
  | none, some _ => real? negative whole [] (← power? scale?)
  | some fraction, _ => real? negative whole (← digits? isDigit fraction) (← power? scale?)

/-- A number. -/
def number? : List Char → Option Toml
  | '0' :: 'x' :: rest => do integer? (numberOf 16 (← digits? isHex rest))
  | '0' :: 'o' :: rest => do integer? (numberOf 8 (← digits? isOctal rest))
  | '0' :: 'b' :: rest => do integer? (numberOf 2 (← digits? isBinary rest))
  | cs =>
    let (negative, magnitude) := signOf cs
    if magnitude = ['i', 'n', 'f'] || magnitude = ['n', 'a', 'n'] then some (.real none)
    else decimal? negative magnitude

/-! ### Dates and times -/

/-- The number of two digits. -/
def pair? (a b : Char) : Option Nat :=
  if isDigit a && isDigit b then some (numberOf 10 [a, b]) else none

/-- Whether a number of two digits lies in a range. -/
def pairWithin (low high : Nat) (a b : Char) : Bool :=
  (pair? a b).any fun n => low ≤ n && n ≤ high

/-- The days of a month. -/
def daysOf (year month : Nat) : Nat :=
  if month = 2 then
    if year % 4 = 0 && (year % 100 != 0 || year % 400 = 0) then 29 else 28
  else if month = 4 || month = 6 || month = 9 || month = 11 then 30
  else 31

/-- Whether the digits are a day of the calendar. -/
def isDay (year : List Char) (month day : Nat) : Bool :=
  year.all isDigit && 1 ≤ month && month ≤ 12 && 1 ≤ day &&
    day ≤ daysOf (numberOf 10 year) month

/-- Whether a word is a date. -/
def isDate : List Char → Bool
  | [a, b, c, d, '-', m, n, '-', x, y] =>
    match pair? m n, pair? x y with
    | some month, some day => isDay [a, b, c, d] month day
    | _, _ => false
  | _ => false

/-- Whether some characters are the fraction of a second, or nothing. -/
def isFraction : List Char → Bool
  | [] => true
  | '.' :: digits => !digits.isEmpty && digits.all isDigit
  | _ => false

/-- Whether a word is a time. A minute may have a leap second. -/
def isTime : List Char → Bool
  | a :: b :: ':' :: c :: d :: ':' :: e :: f :: rest =>
    pairWithin 0 23 a b && pairWithin 0 59 c d && pairWithin 0 60 e f && isFraction rest
  | _ => false

/-- Whether a word is a difference to universal time, with its sign. -/
def isOffset : List Char → Bool
  | [sign, a, b, ':', c, d] =>
    (sign = '+' || sign = '-') && pairWithin 0 23 a b && pairWithin 0 59 c d
  | _ => false

/-- Whether a word is a time, with or without a difference to universal time. -/
def isZonedTime (cs : List Char) : Bool :=
  isTime cs ||
    ((cs.getLast? = some 'Z' || cs.getLast? = some 'z') && isTime cs.dropLast) ||
    (isTime (cs.take (cs.length - 6)) && isOffset (cs.drop (cs.length - 6)))

/-- Whether a word is a date, a time, or both. -/
def isMoment (cs : List Char) : Bool :=
  isDate cs || isTime cs ||
    (isDate (cs.take 10) &&
      match cs.drop 10 with
      | delimiter :: time =>
        (delimiter = 'T' || delimiter = 't' || delimiter = ' ') && isZonedTime time
      | [] => false)

/-- The value of a word. -/
def ofWord? (cs : List Char) : Option Toml :=
  if cs = ['t', 'r', 'u', 'e'] then some (.boolean true)
  else if cs = ['f', 'a', 'l', 's', 'e'] then some (.boolean false)
  else if isMoment cs then some (.moment (String.ofList cs))
  else number? cs

end FormatDaemon.Toml
