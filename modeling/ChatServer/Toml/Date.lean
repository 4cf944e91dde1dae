import ChatServer.Text.Digits
import ChatServer.Toml.Scan

/-!
# `Date`: dates and times

A date, a time, or a date and a time with or without an offset. The numbers must be in range, and
the day must exist in its month.
-/

namespace ChatServer.Toml

open Scan

/-- A number of exactly `width` decimal digits in a range. -/
def fixed (width low high : Nat) : Scan Nat := do
  let cs ← get
  let ds := cs.take width
  guard (ds.length = width && ds.all (Text.isDigit 10))
  set (cs.drop width)
  let n ← Text.number? 10 ds
  guard (low ≤ n && n ≤ high)
  pure n

/-- The number of days in a month. -/
def daysInMonth (year month : Nat) : Nat :=
  if month = 2 then
    if year % 4 = 0 && (year % 100 != 0 || year % 400 = 0) then 29 else 28
  else if month = 4 || month = 6 || month = 9 || month = 11 then 30
  else 31

/-- A day of the calendar. -/
def calendarDay : Scan Unit := do
  let year ← fixed 4 0 9999
  char '-'
  let month ← fixed 2 1 12
  char '-'
  let day ← fixed 2 1 31
  guard (day ≤ daysInMonth year month)

/-- A time of the day, to the second or to a part of one. -/
def timeOfDay : Scan Unit := do
  let _ ← fixed 2 0 23
  char ':'
  let _ ← fixed 2 0 59
  char ':'
  let _ ← fixed 2 0 60
  let _ ← option do
    char '.'
    let part ← stretch (Text.isDigit 10)
    guard (!part.isEmpty)

/-- The offset of a time from universal time. -/
def offset : Scan Unit :=
  char 'Z' <|> char 'z' <|> do
    char '+' <|> char '-'
    let _ ← fixed 2 0 23
    char ':'
    let _ ← fixed 2 0 59

/-- A date, a time or both. -/
def datetime : Scan Unit :=
  (do
    calendarDay
    let _ ← option do
      char 'T' <|> char 't' <|> char ' '
      timeOfDay
      let _ ← option offset) <|>
    timeOfDay

end ChatServer.Toml
