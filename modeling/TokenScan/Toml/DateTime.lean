import TokenScan.Toml.Text

/-!
# Dates and times

Days of the calendar and times of day as they are written in a configuration file: a date, a time,
or a date and a time with or without an offset from universal time. A day must exist in its month,
the hour is below 24 and the minute below 60; a second may be 60.

Nothing here computes with dates, so they are kept as they are spelled.
-/

namespace TokenScan.Toml

/-- Whether a year has a 29th of February. -/
def isLeapYear (year : Nat) : Bool := year % 4 == 0 && (year % 100 != 0 || year % 400 == 0)

/-- The number of days of a month. -/
def daysOfMonth (year month : Nat) : Nat :=
  if month = 2 then if isLeapYear year then 29 else 28
  else if month ∈ [4, 6, 9, 11] then 30
  else 31

/-- Reads a number with an exact count of digits, which lies between two bounds. -/
def field (count low high : Nat) : Reader Nat := do
  let value := positional 10 (← exactly (digit 10) count)
  guard (low ≤ value ∧ value ≤ high)
  return value

/-- Reads a day. -/
def date : Reader Unit := do
  let year ← field 4 0 9999
  mark '-'
  let month ← field 2 1 12
  mark '-'
  let _ ← field 2 1 (daysOfMonth year month)

/-- Reads a time of day. -/
def time : Reader Unit := do
  let _ ← field 2 0 23
  mark ':'
  let _ ← field 2 0 59
  mark ':'
  let _ ← field 2 0 60
  let _ ← maybe (mark '.' *> run1 Char.isDigit)

/-- Reads an offset from universal time. -/
def offset : Reader Unit := mark 'Z' <|> mark 'z' <|> do
  mark '+' <|> mark '-'
  let _ ← field 2 0 23
  mark ':'
  let _ ← field 2 0 59

/-- Reads a date, or a date and a time. -/
def dateAndTime : Reader Unit := do
  date
  let _ ← maybe do
    mark 'T' <|> mark 't' <|> mark ' '
    time
    let _ ← maybe offset

/-- Reads a date, a time, or both, and returns how it is spelled. -/
def dateTime : Reader String := spelling (dateAndTime <|> time)

end TokenScan.Toml
