import AnalyticsTesting.Lib.PyNumber

set_option autoImplicit false

/-! # Instants as Python text

`time.strptime(text, "%Y-%m-%dT%H:%M:%S")` and `calendar.timegm`. A directive of the format is a
choice of character patterns, as in the regular expression the format is compiled to; none of them
matches a separator, so a text is cut at the separators first. -/

namespace PyTime

open PyNumber (digit? ofDigits)

/-! ## `strptime` -/

def anyDigit (c : Char) : Bool := (digit? c).isSome

def between (lo hi c : Char) : Bool := lo ≤ c && c ≤ hi

/-- The patterns of a directive, one predicate a character. -/
abbrev Directive := List (List (Char → Bool))

def yearField : Directive := [[anyDigit, anyDigit, anyDigit, anyDigit]]

def monthField : Directive :=
  [[between '1' '1', between '0' '2'], [between '0' '0', between '1' '9'], [between '1' '9']]

def dayField : Directive :=
  [[between '3' '3', between '0' '1'], [between '1' '2', anyDigit],
   [between '0' '0', between '1' '9'], [between '1' '9'], [between ' ' ' ', between '1' '9']]

def hourField : Directive :=
  [[between '2' '2', between '0' '3'], [between '0' '1', anyDigit], [anyDigit]]

def minuteField : Directive := [[between '0' '5', anyDigit], [anyDigit]]

def secondField : Directive :=
  [[between '6' '6', between '0' '1'], [between '0' '5', anyDigit], [anyDigit]]

/-- The number a field stands for, if one of the patterns matches all of it. -/
def Directive.read (d : Directive) (field : List Char) : Option Nat :=
  if d.any fun pattern =>
      pattern.length = field.length && (pattern.zip field).all fun p => p.1 p.2
  then some (ofDigits (field.filterMap digit?))
  else none

/-- Cut a text at the first separator. -/
def cut (separator : Char → Bool) (s : List Char) : Option (List Char × List Char) :=
  match s.dropWhile fun c => !separator c with
  | [] => none
  | _ :: rest => some (s.takeWhile fun c => !separator c, rest)

def isLeap (year : Nat) : Bool := year % 4 = 0 && (year % 100 ≠ 0 || year % 400 = 0)

/-- The days of each month of a year. -/
def monthLengths (year : Nat) : List Nat :=
  [31, if isLeap year then 29 else 28, 31, 30, 31, 30, 31, 31, 30, 31, 30, 31]

/-- A broken-down time; a leap second is counted as one. -/
structure StructTime where
  year : Nat
  month : Nat
  day : Nat
  hour : Nat
  minute : Nat
  second : Nat
  deriving DecidableEq

/-- `time.strptime(text, "%Y-%m-%dT%H:%M:%S")`; `none` where it raises `ValueError`. -/
def strptime (text : List Char) : Option StructTime := do
  let (year, rest) ← cut (· == '-') text
  let (month, rest) ← cut (· == '-') rest
  let (day, rest) ← cut (fun c => c == 'T' || c == 't') rest
  let (hour, rest) ← cut (· == ':') rest
  let (minute, second) ← cut (· == ':') rest
  let t : StructTime :=
    { year := ← yearField.read year
      month := ← monthField.read month
      day := ← dayField.read day
      hour := ← hourField.read hour
      minute := ← minuteField.read minute
      second := ← secondField.read second }
  -- the weekday is computed from the date, which has to exist
  if 1 ≤ t.year && t.day ≤ (monthLengths t.year).getD (t.month - 1) 0 then some t else none

/-! ## `timegm` -/

/-- `datetime.date(year, month, day).toordinal()`. -/
def toOrdinal (year month day : Nat) : Nat :=
  let y := year - 1
  y * 365 + y / 4 - y / 100 + y / 400 + ((monthLengths year).take (month - 1)).sum + day

/-- The ordinal of 1970-01-01. -/
def epochOrdinal : Int := 719163

/-- `calendar.timegm`. -/
def timegm (t : StructTime) : Int :=
  let days : Int := toOrdinal t.year t.month 1 - epochOrdinal + t.day - 1
  ((days * 24 + t.hour) * 60 + t.minute) * 60 + t.second

example : (strptime "2026-09-17T06:28:17".toList).map timegm = some 1789626497 ∧
    strptime "2026-02-29T00:00:00".toList = none := by
  decide +kernel

end PyTime
