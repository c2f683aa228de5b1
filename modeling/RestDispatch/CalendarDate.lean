import RestDispatch.Decimal.Numeral
import RestDispatch.Text.Letter

set_option autoImplicit false

/-!
Dates. A date is spelled by year, month and day, or by year, week and day of the week, with hyphens
between the parts or without. The years are those of four digits but zero.
-/
namespace RestDispatch

structure CalendarDate where
  year : Nat
  month : Nat
  day : Nat
deriving DecidableEq, Repr

inductive DateError where
  | unreadable
  | year (number : Nat)
  | month
  | day
deriving DecidableEq, Repr

def DateError.message (text : List Letter) : DateError → String
  | .unreadable => "Invalid isoformat string: " ++ Text.quotedLetters text
  | .year number => s!"year {number} is out of range"
  | .month => "month must be in 1..12"
  | .day => "day is out of range for month"

namespace CalendarDate

def isLeap (year : Nat) : Bool := year % 4 = 0 && (year % 100 ≠ 0 || year % 400 = 0)

def monthLengths (year : Nat) : List Nat :=
  [31, if isLeap year then 29 else 28, 31, 30, 31, 30, 31, 31, 30, 31, 30, 31]

def yearLength (year : Nat) : Nat := if isLeap year then 366 else 365

def daysBefore (year : Nat) : Nat :=
  let past := year - 1
  365 * past + past / 4 - past / 100 + past / 400

def firstWeekday (year : Nat) : Nat := daysBefore year % 7

def weeks (year : Nat) : Nat :=
  if firstWeekday year = 3 || (firstWeekday year = 2 && isLeap year) then 53 else 52

-- The day that comes some days after the start of a month, given the lengths of the months left.
def after (year month : Nat) : List Nat → Nat → CalendarDate
  | [], days => ⟨year + 1, 1, days + 1⟩
  | length :: rest, days =>
    if days < length then ⟨year, month, days + 1⟩ else after year (month + 1) rest (days - length)

def ofDay (year days : Nat) : CalendarDate := after year 1 (monthLengths year) days

-- The date of a day of a week, both counted from one. The first week has the first Thursday of its year, and may
-- start in the year before.
def ofWeek (year week day : Nat) : CalendarDate :=
  let days := 7 * (week - 1) + (day - 1)
  let start := firstWeekday year
  if 3 < start then ofDay year (days + (7 - start))
  else if days < start then ofDay (year - 1) (yearLength (year - 1) - (start - days))
  else ofDay year (days - start)

def checked (date : CalendarDate) : Except DateError CalendarDate :=
  if date.year = 0 || 9999 < date.year then .error (.year date.year)
  else if date.month = 0 then .error .month
  else
    match (monthLengths date.year)[date.month - 1]? with
    | none => .error .month
    | some length => if date.day = 0 || length < date.day then .error .day else .ok date

inductive Spelling where
  | byMonth (year month day : Nat)
  | byWeek (year week day : Nat)
deriving DecidableEq, Repr

-- The date that is spelled. A week that its year does not have is no spelling, and a year without a number has no
-- months.
def Spelling.date : Spelling → Except DateError CalendarDate
  | .byMonth year month day => checked ⟨year, month, day⟩
  | .byWeek year week day =>
    if week = 0 || weeks year < week || day = 0 || 7 < day then .error .unreadable
    else if year = 0 then .error .month
    else checked (ofWeek year week day)

def digits? (count : Nat) (cs : List Char) : Option (Nat × List Char) :=
  let front := cs.take count
  if front.length = count && front.all Char.isDigit then some (Decimal.digitsValue front, cs.drop count) else none

def next? (hyphens : Bool) (cs : List Char) : Option (List Char) :=
  match hyphens, cs with
  | false, cs => some cs
  | true, '-' :: cs => some cs
  | true, _ => none

def monthSpelling? (year : Nat) (hyphens : Bool) (cs : List Char) : Option Spelling := do
  let (month, cs) ← digits? 2 cs
  let cs ← next? hyphens cs
  let (day, _) ← digits? 2 cs
  some (.byMonth year month day)

def weekSpelling? (year : Nat) (hyphens : Bool) (cs : List Char) : Option Spelling := do
  let (week, cs) ← digits? 2 cs
  if cs.isEmpty then some (.byWeek year week 1)
  else do
    let cs ← next? hyphens cs
    let (day, _) ← digits? 1 cs
    some (.byWeek year week day)

def spelling? (cs : List Char) : Option Spelling := do
  let (year, cs) ← digits? 4 cs
  match cs with
  | '-' :: 'W' :: cs => weekSpelling? year true cs
  | 'W' :: cs => weekSpelling? year false cs
  | '-' :: cs => monthSpelling? year true cs
  | cs => monthSpelling? year false cs

def lengths : List Nat := [7, 8, 10]

def read (text : List Letter) : Except DateError CalendarDate :=
  match (Text.chars? text).filter fun cs => (String.ofList cs).utf8ByteSize ∈ lengths with
  | none => .error .unreadable
  | some cs =>
    match spelling? cs with
    | none => .error .unreadable
    | some spelling => spelling.date

end CalendarDate
end RestDispatch
