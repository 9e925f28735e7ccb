import Planwright.Value.Shape
import Planwright.Double.Reading

set_option autoImplicit false

/-!
# Timestamps

An instant of the calendar, as nanoseconds since the first instant of 1970 in universal time.
It is written as date, `T`, time and `Z`, with no places of a second or three, six or nine of
them, the fewest that are exact.  It is read with any number of places and any offset.
-/

namespace Planwright

/-- An instant, in nanoseconds since the beginning of 1970. -/
structure Timestamp where
  nanos : Int
  deriving DecidableEq, Repr, Inhabited

namespace Timestamp

/-- Whether a year has a leap day. -/
def isLeap (year : Int) : Bool := year % 4 == 0 && (year % 100 != 0 || year % 400 == 0)

/-- How many days a month has. -/
def daysIn (year : Int) (month : Nat) : Nat :=
  match month with
  | 2 => if isLeap year then 29 else 28
  | 4 | 6 | 9 | 11 => 30
  | _ => 31

/-- Days from the beginning of 1970 to a date of the proleptic calendar.  Years are counted from
March, so that the leap day is the last of its year. -/
def daysFromDate (year : Int) (month day : Nat) : Int :=
  let y := if month ≤ 2 then year - 1 else year
  let era := y.fdiv 400
  let yearOfEra := y - era * 400
  let monthFromMarch : Int := ((month : Int) + 9) % 12
  let dayOfYear := (153 * monthFromMarch + 2) / 5 + day - 1
  let dayOfEra := yearOfEra * 365 + yearOfEra / 4 - yearOfEra / 100 + dayOfYear
  era * 146097 + dayOfEra - 719468

/-- The date of a day counted from the beginning of 1970. -/
def dateFromDays (days : Int) : Int × Nat × Nat :=
  let z := days + 719468
  let era := z.fdiv 146097
  let dayOfEra := z - era * 146097
  let yearOfEra := (dayOfEra - dayOfEra / 1460 + dayOfEra / 36524 - dayOfEra / 146096) / 365
  let dayOfYear := dayOfEra - (365 * yearOfEra + yearOfEra / 4 - yearOfEra / 100)
  let monthFromMarch := (5 * dayOfYear + 2) / 153
  let day := dayOfYear - (153 * monthFromMarch + 2) / 5 + 1
  let month := if monthFromMarch < 10 then monthFromMarch + 3 else monthFromMarch - 9
  let year := yearOfEra + era * 400
  (if month ≤ 2 then year + 1 else year, month.toNat, day.toNat)

/-- A number written with at least `width` digits. -/
def padded (width n : Nat) : List Char :=
  let ds := Nat.toDigits 10 n
  List.replicate (width - ds.length) '0' ++ ds

/-- A year: four digits, and a sign outside the range of four digits. -/
def yearText (year : Int) : List Char :=
  if 0 ≤ year ∧ year ≤ 9999 then padded 4 year.toNat
  else (if year < 0 then '-' else '+') :: padded 4 year.natAbs

/-- The places of a second. -/
def placesText (nanos : Nat) : List Char :=
  if nanos = 0 then []
  else if nanos % 1000000 = 0 then '.' :: padded 3 (nanos / 1000000)
  else if nanos % 1000 = 0 then '.' :: padded 6 (nanos / 1000)
  else '.' :: padded 9 nanos

/-- Writes an instant. -/
def text (t : Timestamp) : String :=
  let seconds := t.nanos.fdiv 1000000000
  let nanos := (t.nanos - seconds * 1000000000).toNat
  let days := seconds.fdiv 86400
  let second := (seconds - days * 86400).toNat
  let (year, month, day) := dateFromDays days
  String.ofList (yearText year ++ '-' :: padded 2 month ++ '-' :: padded 2 day
    ++ 'T' :: padded 2 (second / 3600) ++ ':' :: padded 2 (second / 60 % 60)
    ++ ':' :: padded 2 (second % 60) ++ placesText nanos ++ ['Z'])

/-! ## Reading -/

/-- A number of exactly `width` digits, and the rest. -/
def number? (width : Nat) (s : List Char) : Option (Nat × List Char) :=
  let ds := s.take width
  if ds.length = width ∧ ds.all Double.isDigit then some (Double.digitsValue ds, s.drop width)
  else none

/-- The rest after an expected character. -/
def expect? (c : Char) : List Char → Option (List Char)
  | d :: rest => if d = c then some rest else none
  | [] => none

/-- Three numbers of two digits, except the first, with separators between them. -/
def triple? (width : Nat) (sep : Char) (s : List Char) :
    Option (Nat × Nat × Nat × List Char) := do
  let (a, s) ← number? width s
  let s ← expect? sep s
  let (b, s) ← number? 2 s
  let s ← expect? sep s
  let (c, s) ← number? 2 s
  return (a, b, c, s)

/-- The nanoseconds of the places of a second: nine of them count. -/
def places? (s : List Char) : Option (Nat × List Char) :=
  match s with
  | '.' :: rest =>
    let (ds, rest) := Double.takeDigits rest
    if ds.isEmpty then none
    else some (Double.digitsValue ((ds ++ List.replicate 9 '0').take 9), rest)
  | _ => some (0, s)

/-- The seconds of an offset from universal time, with nothing after it. -/
def offset? (s : List Char) : Option Int :=
  let clock (rest : List Char) : Option Int := do
    let (hours, rest) ← number? 2 rest
    let rest ← expect? ':' rest
    let (minutes, rest) ← number? 2 rest
    if rest.isEmpty ∧ hours < 24 ∧ minutes < 60 then some ((hours * 60 + minutes) * 60) else none
  match s with
  | ['Z'] => some 0
  | ['z'] => some 0
  | '+' :: rest => clock rest
  | '-' :: rest => (clock rest).map (-·)
  | _ => none

/-- Reads an instant. -/
def read? (s : List Char) : Option Timestamp := do
  let (year, month, day, s) ← triple? 4 '-' s
  let s ← match s with
    | 'T' :: rest => some rest
    | 't' :: rest => some rest
    | ' ' :: rest => some rest
    | _ => none
  let (hour, minute, second, s) ← triple? 2 ':' s
  let (nanos, s) ← places? s
  let offset ← offset? s
  if 1 ≤ month ∧ month ≤ 12 ∧ 1 ≤ day ∧ day ≤ daysIn year month ∧ hour < 24 ∧ minute < 60
      ∧ second < 60 then
    let clock : Int := (hour * 60 + minute) * 60 + second
    some ⟨(daysFromDate year month day * 86400 + clock - offset) * 1000000000 + nanos⟩
  else none

/-- Reads an instant from a value. -/
def ofValue : Shape Timestamp
  | .text s =>
    match read? s.toList with
    | some t => .ok t
    | none => .error .outOfRange
  | _ => .error .wrongType

/-- Writes an instant as a value. -/
def toValue (t : Timestamp) : Value := .text t.text

end Timestamp

end Planwright
