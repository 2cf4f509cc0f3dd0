import DocQuery.Decimal.Reading
import DocQuery.Text.Classes

/-!
# Dates

Days of the Gregorian calendar, as years, months and days.  A date is read from ten bytes of
text, in which the place of the hyphens decides whether the year or the day stands first.

White space in front of a number is skipped.  Months and days have one or two digits, years
have up to four, or any number of them behind a sign.

## Main definitions

- `Date`: a day that exists
- `Date.read?`: the date that a text means
- `Date.text`: how a date is written
-/

namespace DocQuery

open DocQuery.Text DocQuery.Decimal

/-! ## The calendar -/

/-- Whether a year has a 29th of February. -/
def isLeapYear (year : Int) : Bool :=
  year % 4 == 0 && (year % 100 != 0 || year % 400 == 0)

/-- How many days a month has. -/
def daysInMonth (year : Int) (month : Nat) : Nat :=
  if month = 2 then (if isLeapYear year then 29 else 28)
  else if month = 4 ∨ month = 6 ∨ month = 9 ∨ month = 11 then 30
  else 31

/-- A day of the calendar. -/
structure Date where
  /-- The year; the year 0 is the one before the year 1 -/
  year : Int
  /-- The month, from 1 to 12 -/
  month : Nat
  /-- The day of the month, from 1 -/
  day : Nat
  month_valid : 1 ≤ month ∧ month ≤ 12
  day_valid : 1 ≤ day ∧ day ≤ daysInMonth year month
deriving DecidableEq

namespace Date

/-- The date with the given year, month and day, if there is such a day. -/
def of? (year : Int) (month day : Nat) : Option Date :=
  if hm : 1 ≤ month ∧ month ≤ 12 then
    if hd : 1 ≤ day ∧ day ≤ daysInMonth year month then some ⟨year, month, day, hm, hd⟩
    else none
  else none

/-! ## Reading -/

/-- A number of at most `width` digits at the front of `cs`, and what follows it. -/
def readDigits? (width : Nat) (cs : List Char) : Option (Nat × List Char) :=
  let digits := (cs.take width).takeWhile Char.isDigit
  if digits = [] then none else some (Nat.ofDigitChars 10 digits 0, cs.drop digits.length)

/-- A month or a day. -/
def readPart? (cs : List Char) : Option (Nat × List Char) :=
  readDigits? 2 (cs.dropWhile isSpace)

/-- A year. -/
def readYear? (cs : List Char) : Option (Int × List Char) :=
  match cs.dropWhile isSpace with
  | '-' :: cs => (readDigits? cs.length cs).map fun (n, cs) => (-(n : Int), cs)
  | '+' :: cs => (readDigits? cs.length cs).map fun (n, cs) => ((n : Int), cs)
  | cs => (readDigits? 4 cs).map fun (n, cs) => ((n : Int), cs)

/-- What follows a hyphen. -/
def readHyphen? : List Char → Option (List Char)
  | '-' :: cs => some cs
  | _ => none

/-- Which part of a date stands first. -/
inductive Order where
  | yearFirst
  | dayFirst
deriving DecidableEq

/-- Reads all of `cs` as a date. -/
def readIn? : Order → List Char → Option Date
  | .yearFirst, cs => do
    let (year, cs) ← readYear? cs
    let (month, cs) ← readPart? (← readHyphen? cs)
    let (day, cs) ← readPart? (← readHyphen? cs)
    if cs = [] then of? year month day else none
  | .dayFirst, cs => do
    let (day, cs) ← readPart? cs
    let (month, cs) ← readPart? (← readHyphen? cs)
    let (year, cs) ← readYear? (← readHyphen? cs)
    if cs = [] then of? year month day else none

/-- Which part stands first in a text of ten bytes: the year if the fifth byte is a hyphen,
and otherwise the day if the third byte is one. -/
def order? (text : String) : Option Order :=
  let bytes := text.toUTF8.data
  let hyphen := '-'.toUInt8
  if bytes.size ≠ 10 then none
  else if bytes[4]? = some hyphen then some .yearFirst
  else if bytes[2]? = some hyphen then some .dayFirst
  else none

/-- The date that a text means. -/
def read? (text : String) : Option Date := do
  readIn? (← order? text) text.toList

/-! ## Writing -/

/-- The digits of `n`, with zeros in front up to the given width. -/
def padded (width n : Nat) : List Char :=
  let digits := natText n
  List.replicate (width - digits.length) '0' ++ digits

/-- A year with at least four digits; one that has more, or is negative, has a sign. -/
def yearText (year : Int) : List Char :=
  if year < 0 then '-' :: padded 4 year.natAbs
  else if 9999 < year then '+' :: padded 4 year.natAbs
  else padded 4 year.natAbs

/-- Year, month and day with hyphens between them. -/
def text (d : Date) : String :=
  String.ofList (yearText d.year ++ '-' :: padded 2 d.month ++ '-' :: padded 2 d.day)

/-! ## Examples -/

/-- Both orders are understood, the year is always written first. -/
example : (read? "15-02-2023").map text = some "2023-02-15" := by decide +kernel

/-- Signs and blanks are allowed in front of a year. -/
example : (read? "-024-01-15").map text = some "-0024-01-15" := by decide +kernel

/-- A day that does not exist is no date. -/
example : read? "2023-02-29" = none := by decide +kernel

end Date

end DocQuery
