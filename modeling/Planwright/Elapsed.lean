import Planwright.Value.Shape

set_option autoImplicit false

/-!
# Elapsed time

Times spent are reported in whole milliseconds that fit 64 bits, what is left of a millisecond
being dropped.  A clock that ran backwards spent no time.
-/

namespace Planwright

/-- A time spent, in whole milliseconds. -/
structure Elapsed where
  millis : Nat
  deriving DecidableEq, Repr, Inhabited

namespace Elapsed

/-- The longest time that can be reported. -/
def limit : Nat := (1 <<< 64) - 1

/-- A number of milliseconds, cut off at the limit. -/
def ofMillis (n : Nat) : Elapsed := ⟨min n limit⟩

/-- A number of nanoseconds. -/
def ofNanos (n : Nat) : Elapsed := ofMillis (n / 1000000)

/-- The time from one instant to another, both in nanoseconds. -/
def between (start finish : Int) : Elapsed := ⟨(Int.tdiv (finish - start) 1000000).toNat⟩

/-- A time spent as text. -/
def text (e : Elapsed) : String := toString e.millis ++ "ms"

/-- Reads a time spent. -/
def ofValue : Shape Elapsed := fun v => (Shape.natural 64 v).map Elapsed.mk

/-- Writes a time spent. -/
def toValue (e : Elapsed) : Value := .ofNat e.millis

end Elapsed

/-! ## Spans of time in messages

A span is written in the largest unit of which it holds at least one, with as many decimal
places as are needed. -/

/-- The places of a fraction of `width` digits, without the zeros at its end. -/
def fractionPlaces (width fraction : Nat) : List Char :=
  let digits := Nat.toDigits 10 fraction
  let padded := List.replicate (width - digits.length) '0' ++ digits
  (padded.reverse.dropWhile (· == '0')).reverse

/-- A span of nanoseconds counted in a unit of `10 ^ width` nanoseconds. -/
def spanIn (width : Nat) (unit : String) (nanos : Nat) : String :=
  let fraction := nanos % Nat.pow 10 width
  toString (nanos / Nat.pow 10 width)
    ++ (if fraction = 0 then "" else "." ++ String.ofList (fractionPlaces width fraction)) ++ unit

/-- A span of nanoseconds as text. -/
def spanText (nanos : Nat) : String :=
  if 1000000000 ≤ nanos then spanIn 9 "s" nanos
  else if 1000000 ≤ nanos then spanIn 6 "ms" nanos
  else if 1000 ≤ nanos then spanIn 3 "µs" nanos
  else spanIn 0 "ns" nanos

end Planwright
