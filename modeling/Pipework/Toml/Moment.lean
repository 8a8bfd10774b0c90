import Pipework.Number.Reading

/-!
# Dates and times

A `Moment` is a date, a time of day, or both, the latter perhaps with an offset from universal time.

* `Moment.read?` reads the usual written form. A `T` or one space stands between date and time, the
  seconds may be missing, and of a fraction nine digits count.
* `Moment.text` writes it with an upper-case `T` and `Z`, the seconds always, and the fraction without
  zeros at its end.
-/

namespace Pipework

/-- A day of the calendar. -/
structure Date where
  /-- The year, of four digits. -/
  year : Nat
  /-- The month, from 1. -/
  month : Nat
  /-- The day of the month, from 1. -/
  day : Nat
  deriving Repr, DecidableEq, Inhabited

/-- A time of day. -/
structure TimeOfDay where
  /-- The hour. -/
  hour : Nat
  /-- The minute. -/
  minute : Nat
  /-- The second. -/
  second : Nat := 0
  /-- Billionths of the second. -/
  nanosecond : Nat := 0
  deriving Repr, DecidableEq, Inhabited

/-- Distance from universal time. -/
inductive Offset where
  /-- Universal time itself. -/
  | utc
  /-- So many minutes ahead of it. -/
  | minutes (n : Int)
  deriving Repr, DecidableEq, Inhabited

/-- A date, a time, or both. -/
structure Moment where
  /-- The date. -/
  date : Option Date := none
  /-- The time. -/
  time : Option TimeOfDay := none
  /-- The offset of date and time. -/
  offset : Option Offset := none
  deriving Repr, DecidableEq, Inhabited

namespace Moment

open Number

/-- Number of days of a month. -/
def daysIn (year month : Nat) : Nat :=
  if month == 2 then
    if year % 4 == 0 && (year % 100 != 0 || year % 400 == 0) then 29 else 28
  else if [4, 6, 9, 11].contains month then 30
  else 31

/-! ## Reading -/

/-- A number of two digits and the text after it. -/
def twoDigits? : List Char → Option (Nat × List Char)
  | a :: b :: rest => if isDigit a && isDigit b then some (digitsValue [a, b], rest) else none
  | _ => none

/-- A date and the text after it. -/
def date? : List Char → Option (Date × List Char)
  | a :: b :: c :: d :: '-' :: rest => do
    guard ([a, b, c, d].all isDigit)
    let year := digitsValue [a, b, c, d]
    let (month, rest) ← twoDigits? rest
    match rest with
    | '-' :: rest =>
      let (day, rest) ← twoDigits? rest
      guard (1 ≤ month && month ≤ 12 && 1 ≤ day && day ≤ daysIn year month)
      some (⟨year, month, day⟩, rest)
    | _ => none
  | _ => none

/-- The seconds and their billionths, if the text goes on with them; else none of either. -/
def seconds? : List Char → Option (Nat × Nat × List Char)
  | ':' :: rest => do
    let (second, rest) ← twoDigits? rest
    guard (second ≤ 60)
    match rest with
    | '.' :: rest =>
      let digits := rest.takeWhile isDigit
      guard (!digits.isEmpty)
      let nine := (digits ++ List.replicate 9 '0').take 9
      some (second, digitsValue nine, rest.dropWhile isDigit)
    | _ => some (second, 0, rest)
  | rest => some (0, 0, rest)

/-- A time and the text after it. -/
def time? (cs : List Char) : Option (TimeOfDay × List Char) := do
  let (hour, rest) ← twoDigits? cs
  match rest with
  | ':' :: rest =>
    let (minute, rest) ← twoDigits? rest
    guard (hour ≤ 23 && minute ≤ 59)
    let (second, nanosecond, rest) ← seconds? rest
    some (⟨hour, minute, second, nanosecond⟩, rest)
  | _ => none

/-- Hours and minutes of an offset, with nothing after them. -/
def offsetMinutes? (cs : List Char) : Option Nat := do
  let (hours, rest) ← twoDigits? cs
  match rest with
  | ':' :: rest =>
    let (minutes, rest) ← twoDigits? rest
    guard (hours ≤ 23 && minutes ≤ 59 && rest.isEmpty)
    some (60 * hours + minutes)
  | _ => none

/-- An offset that fills the text; an empty text has none. -/
def offset? : List Char → Option (Option Offset)
  | [] => some none
  | ['Z'] | ['z'] => some (some .utc)
  | '+' :: rest => (offsetMinutes? rest).map fun n => some (.minutes n)
  | '-' :: rest => (offsetMinutes? rest).map fun n => some (.minutes (-n))
  | _ => none

/-- Stands between date and time. -/
def isDelimiter (c : Char) : Bool := c == 'T' || c == 't' || c == ' '

/-- The moment that a text stands for. -/
def read? (cs : List Char) : Option Moment :=
  match date? cs with
  | some (date, []) => some { date := date }
  | some (date, c :: rest) => do
    guard (isDelimiter c)
    let (time, rest) ← time? rest
    let offset ← offset? rest
    some { date := date, time := time, offset := offset }
  | none =>
    match time? cs with
    | some (time, []) => some { time := time }
    | _ => none

/-! ## Writing -/

/-- Digits with zeros in front up to a width. -/
def filled (width : Nat) (digits : List Char) : List Char :=
  List.replicate (width - digits.length) '0' ++ digits

/-- Decimal digits with zeros in front up to a width. -/
def padded (width n : Nat) : List Char := filled width (Nat.toDigits 10 n)

/-- The text of a date. -/
def dateText (d : Date) : List Char :=
  padded 4 d.year ++ '-' :: padded 2 d.month ++ '-' :: padded 2 d.day

/-- The point and the digits of a fraction of a second without zeros at the end; nothing if all are
zero. -/
def fractionText (nanosecond : Nat) : List Char :=
  if nanosecond == 0 then []
  else '.' :: ((padded 9 nanosecond).reverse.dropWhile (· == '0')).reverse

/-- The text of a time. -/
def timeText (t : TimeOfDay) : List Char :=
  padded 2 t.hour ++ ':' :: padded 2 t.minute ++ ':' :: padded 2 t.second ++
    fractionText t.nanosecond

/-- The text of an offset. -/
def offsetText : Offset → List Char
  | .utc => ['Z']
  | .minutes n =>
    (if n < 0 then '-' else '+') :: padded 2 (n.natAbs / 60) ++ ':' :: padded 2 (n.natAbs % 60)

/-- The text of a moment. -/
def text (m : Moment) : String :=
  let date := (m.date.map dateText).getD []
  let time := (m.time.map timeText).getD []
  let between := if m.date.isSome && m.time.isSome then ['T'] else []
  .ofList (date ++ between ++ time ++ (m.offset.map offsetText).getD [])

end Moment

end Pipework
