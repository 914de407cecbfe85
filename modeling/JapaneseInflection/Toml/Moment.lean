import JapaneseInflection.Toml.Number

/-!
# Dates and times

* `date` reads a day of the Gregorian calendar, and `clock` a time of day.
* `moment` reads a date, a time, or both with an offset.
-/

namespace JapaneseInflection.Toml

/-- A number of the given count of digits. -/
def fixedNumber (count : Nat) : Reader Nat := do
  return valueOfDigits 10 (← Reader.charsWithExactly Char.isDigit count)

/-- Test for the years that have a twenty-ninth of February. -/
def isLeapYear (year : Nat) : Bool :=
  year % 4 == 0 && (year % 100 != 0 || year % 400 == 0)

/-- The number of days in a month. -/
def daysInMonth (year month : Nat) : Nat :=
  if month = 2 then if isLeapYear year then 29 else 28
  else if month = 4 || month = 6 || month = 9 || month = 11 then 30
  else 31

/-- A date, as year, month and day. -/
def date : Reader Date := do
  let year ← fixedNumber 4
  let _ ← Reader.char '-'
  let month ← fixedNumber 2
  let _ ← Reader.char '-'
  let day ← fixedNumber 2
  if 1 ≤ month && month ≤ 12 && 1 ≤ day && day ≤ daysInMonth year month then
    return { year, month, day }
  else failure

/-- A time of day. A minute may have a leap second. -/
def clock : Reader Clock := do
  let hour ← fixedNumber 2
  let _ ← Reader.char ':'
  let minute ← fixedNumber 2
  let _ ← Reader.char ':'
  let second ← fixedNumber 2
  let fraction ← (do
    let _ ← Reader.char '.'
    let first ← Reader.charWith Char.isDigit
    return first :: (← Reader.charsWith Char.isDigit)) <|> return []
  if hour ≤ 23 && minute ≤ 59 && second ≤ 60 then return { hour, minute, second, fraction }
  else failure

/-- An offset from universal time, in minutes. -/
def offset : Reader Int :=
  (do
    let _ ← Reader.charWith fun c => c == 'Z' || c == 'z'
    return 0) <|>
  (do
    let negative ← sign
    let hours ← fixedNumber 2
    let _ ← Reader.char ':'
    let minutes ← fixedNumber 2
    if hours ≤ 23 && minutes ≤ 59 then return signed negative (60 * hours + minutes) else failure)

/-- What stands between a date and a time. -/
def isDateEnd (c : Char) : Bool := c == 'T' || c == 't' || c == ' '

/-- A time after a date, with the offset if there is one. -/
def clockAfterDate : Reader (Clock × Option Int) := do
  let _ ← Reader.charWith isDateEnd
  let time ← clock
  return (time, ← Reader.optional offset)

/-- A date, a time, or both. Only a date with a time has an offset. -/
def moment : Reader Datum :=
  (do
    let day ← date
    match ← Reader.optional clockAfterDate with
    | none => return .moment { date := day, clock := none, offset := none }
    | some (time, shift) => return .moment { date := day, clock := time, offset := shift }) <|>
  (do return .moment { date := none, clock := ← clock, offset := none })

end JapaneseInflection.Toml
