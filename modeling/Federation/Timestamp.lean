import Federation.Text.Blank

/-!
# Times as names

A plan without a name is named after the time of its submission, as
`year_month_day_hour_minute_second`. A name that somebody chose can be such a time as well.

* `Timestamp.isText`: whether a name is such a time.
-/

namespace Federation

/-- A moment in local time. -/
structure Timestamp where
  year : Nat
  month : Nat
  day : Nat
  hour : Nat
  minute : Nat
  second : Nat
  deriving DecidableEq

namespace Timestamp

/-- A number with at least the given number of digits. -/
def padded (width n : Nat) : String :=
  let ds := Nat.toDigits 10 n
  String.ofList (List.replicate (width - ds.length) '0' ++ ds)

/-- The name of a plan submitted at this time. -/
def text (t : Timestamp) : String :=
  "_".intercalate
    [padded 4 t.year, padded 2 t.month, padded 2 t.day, padded 2 t.hour, padded 2 t.minute,
      padded 2 t.second]

/-! ## Reading -/

/-- The number written by exactly `width` digits. -/
def part? (width : Nat) (cs : List Char) : Option Nat :=
  if cs.length = width ∧ cs.all Char.isDigit then
    some (cs.foldl (fun acc c => 10 * acc + (c.toNat - 48)) 0)
  else none

/-- The number that the digits in front of a text write, and what follows it. -/
def digits? (cs : List Char) : Option (Nat × List Char) :=
  let ds := cs.takeWhile Char.isDigit
  if ds.isEmpty then none
  else (part? ds.length ds).map (·, cs.dropWhile Char.isDigit)

/-- The number of at most `width` digits in front of a text, perhaps after blanks. -/
def field? (width : Nat) (cs : List Char) : Option (Nat × List Char) :=
  let cs := cs.dropWhile Blank.contains
  (digits? (cs.take width)).map fun (n, rest) => (n, rest ++ cs.drop width)

/-- The year in front of a text, perhaps after blanks. After a sign it has any number of digits. -/
def year? (cs : List Char) : Option (Int × List Char) :=
  match cs.dropWhile Blank.contains with
  | '-' :: rest => (digits? rest).map fun (n, rest) => (-(n : Int), rest)
  | '+' :: rest => (digits? rest).map fun (n, rest) => ((n : Int), rest)
  | rest => (field? 4 rest).map fun (n, rest) => ((n : Int), rest)

/-- The numbers of at most two digits that follow, each after a low line. -/
def fields? : Nat → List Char → Option (List Nat)
  | 0, [] => some []
  | n + 1, '_' :: cs => (field? 2 cs).bind fun (x, rest) => (fields? n rest).map (x :: ·)
  | _, _ => none

/-! ## The calendar -/

/-- Whether a year has a 29th of February. -/
def isLeap (year : Int) : Bool :=
  year % 4 = 0 && (year % 100 ≠ 0 || year % 400 = 0)

/-- The number of days of a month. -/
def daysIn (year : Int) (month : Nat) : Nat :=
  if month = 2 then if isLeap year then 29 else 28
  else if month = 4 ∨ month = 6 ∨ month = 9 ∨ month = 11 then 30
  else 31

/-- Whether there is a day of the calendar with these numbers. -/
def isDay (year : Int) (month day : Nat) : Bool :=
  -262143 ≤ year && year ≤ 262142 && 1 ≤ month && month ≤ 12 && 1 ≤ day && day ≤ daysIn year month

/-- Whether a name is a time. Its numbers may have fewer digits than those of a name that was made,
and a minute may have a leap second. -/
def isText (s : String) : Bool :=
  match year? s.toList with
  | none => false
  | some (year, rest) =>
    match fields? 5 rest with
    | some [month, day, hour, minute, second] =>
      isDay year month day && hour ≤ 23 && minute ≤ 59 && second ≤ 60
    | _ => false

end Timestamp

end Federation
