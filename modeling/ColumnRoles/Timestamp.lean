import ColumnRoles.Text.Blank

/-!
Moments as text, in the form of RFC 3339: date, time of day, offset. Reading is a little more
generous than writing: blanks may stand between the parts, and the date may be set off from the
time by a blank.
-/
namespace ColumnRoles.Timestamp

def isLeapYear (year : Int) : Bool :=
  year % 4 = 0 && (year % 100 ≠ 0 || year % 400 = 0)

def daysInMonth (year : Int) (month : Nat) : Nat :=
  match month with
  | 2 => if isLeapYear year then 29 else 28
  | 4 | 6 | 9 | 11 => 30
  | _ => 31

abbrev Rest := List Char

def skipBlanks (text : Rest) : Rest :=
  text.dropWhile Text.isBlank

def valueOf (digits : List Char) : Nat :=
  digits.foldl (fun n c => 10 * n + (c.toNat - '0'.toNat)) 0

def number? (width : Nat) (text : Rest) : Option (Nat × Rest) :=
  let digits := (text.take width).takeWhile Char.isDigit
  if digits.isEmpty then none else some (valueOf digits, text.drop digits.length)

def expect? (c : Char) : Rest → Option Rest
  | [] => none
  | d :: rest => if d = c then some rest else none

/-- A year: four digits at most, or any number of them behind a sign. -/
def year? (text : Rest) : Option (Int × Rest) :=
  match skipBlanks text with
  | '-' :: rest => (number? rest.length rest).map fun (n, rest) => (-(n : Int), rest)
  | '+' :: rest => (number? rest.length rest).map fun (n, rest) => ((n : Int), rest)
  | rest => (number? 4 rest).map fun (n, rest) => ((n : Int), rest)

def twoDigits? (text : Rest) : Option (Nat × Rest) :=
  number? 2 (skipBlanks text)

structure Date where
  year : Int
  month : Nat
  day : Nat
deriving DecidableEq, Repr

def firstDate : Date where
  year := -262143
  month := 1
  day := 1

def lastDate : Date where
  year := 262142
  month := 12
  day := 31

def date? (text : Rest) : Option (Date × Rest) := do
  let (year, rest) ← year? text
  let rest ← expect? '-' (skipBlanks rest)
  let (month, rest) ← twoDigits? rest
  let rest ← expect? '-' (skipBlanks rest)
  let (day, rest) ← twoDigits? rest
  if firstDate.year ≤ year && year ≤ lastDate.year && 1 ≤ month && month ≤ 12 && 1 ≤ day &&
      day ≤ daysInMonth year month then
    some ({ year, month, day }, rest)
  else none

def fraction? : Rest → Option Rest
  | '.' :: rest =>
    let digits := rest.takeWhile Char.isDigit
    if digits.isEmpty then none else some (rest.drop digits.length)
  | rest => some rest

/-- A time of day in seconds, without fractions. A minute may have a leap second, which counts as
part of the second before. -/
def time? (text : Rest) : Option (Nat × Rest) := do
  let (hour, rest) ← twoDigits? text
  let rest ← expect? ':' (skipBlanks rest)
  let (minute, rest) ← twoDigits? rest
  let rest ← expect? ':' (skipBlanks rest)
  let (second, rest) ← twoDigits? rest
  let rest ← fraction? rest
  if hour < 24 && minute < 60 && second ≤ 60 then
    some (3600 * hour + 60 * minute + min second 59, rest)
  else none

def hoursMinutes? : Rest → Option (Nat × Rest)
  | a :: b :: rest =>
    match rest.dropWhile fun c => c = ':' || Text.isBlank c with
    | c :: d :: rest =>
      if a.isDigit && b.isDigit && c.isDigit && d.isDigit && valueOf [a, b] < 24 && c < '6' then
        some (3600 * valueOf [a, b] + 60 * valueOf [c, d], rest)
      else none
    | _ => none
  | _ => none

def offset? : Rest → Option (Int × Rest)
  | 'Z' :: rest | 'z' :: rest => some (0, rest)
  | sign :: rest =>
    if sign = '+' then (hoursMinutes? rest).map fun (n, rest) => ((n : Int), rest)
    else if sign = '-' || sign = '\u2212' then
      (hoursMinutes? rest).map fun (n, rest) => (-(n : Int), rest)
    else if ((sign :: rest).take 3).map Char.toLower = ['u', 't', 'c'] then some (0, rest.drop 2)
    else none
  | [] => none

/-- The moment still lies in the calendar when the offset is taken away, by which it may move to the
day before or to the day after. -/
def isInCalendar (date : Date) (time : Nat) (offset : Int) : Bool :=
  let time := (time : Int) - offset
  (0 ≤ time || date ≠ firstDate) && (time < 86400 || date ≠ lastDate)

def isTimestamp (text : String) : Bool :=
  match date? text.toList with
  | some (date, c :: rest) =>
    if c = 'T' || c = 't' || c = ' ' then
      match time? rest with
      | some (time, rest) =>
        match offset? (skipBlanks rest) with
        | some (offset, rest) => (skipBlanks rest).isEmpty && isInCalendar date time offset
        | none => false
      | none => false
    else false
  | _ => false

def padded (width n : Nat) : List Char :=
  let digits := Nat.toDigits 10 n
  List.replicate (width - digits.length) '0' ++ digits

/-- Year, month and day of a day counted from the first of March of the year zero, by which the
leap day comes last in its year. -/
def civil (day : Nat) : Nat × Nat × Nat :=
  let era := day / 146097
  let dayOfEra := day % 146097
  let yearOfEra :=
    (dayOfEra - dayOfEra / 1460 + dayOfEra / 36524 - dayOfEra / 146096) / 365
  let dayOfYear := dayOfEra - (365 * yearOfEra + yearOfEra / 4 - yearOfEra / 100)
  let month := (5 * dayOfYear + 2) / 153
  let date := dayOfYear - (153 * month + 2) / 5 + 1
  if month < 10 then (400 * era + yearOfEra, month + 3, date)
  else (400 * era + yearOfEra + 1, month - 9, date)

def ofUnix (seconds nanoseconds : Nat) : String :=
  let (year, month, date) := civil (seconds / 86400 + 719468)
  let second := seconds % 86400
  let fraction :=
    if nanoseconds = 0 then []
    else if nanoseconds % 1000000 = 0 then '.' :: padded 3 (nanoseconds / 1000000)
    else if nanoseconds % 1000 = 0 then '.' :: padded 6 (nanoseconds / 1000)
    else '.' :: padded 9 nanoseconds
  String.ofList
    (padded 4 year ++ '-' :: padded 2 month ++ '-' :: padded 2 date ++ 'T' ::
      padded 2 (second / 3600) ++ ':' :: padded 2 (second / 60 % 60) ++ ':' ::
      padded 2 (second % 60) ++ fraction ++ ['Z'])

end ColumnRoles.Timestamp
