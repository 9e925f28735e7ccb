set_option autoImplicit false

/-!
# What a double denotes

A double is taken apart into a sign and a magnitude, the magnitude of a finite one being
`significand * 2 ^ exponent` with natural `significand`.  Every exact rule about the text or the
remainder of doubles is stated on these parts, in integer arithmetic.
-/

namespace Planwright.Double

/-- The size of a double, its sign put aside. -/
inductive Magnitude where
  | nan
  | infinite
  /-- `significand * 2 ^ exponent` -/
  | finite (significand : Nat) (exponent : Int)
  deriving DecidableEq, Repr, Inhabited

/-- A double taken apart. -/
structure Parts where
  negative : Bool
  magnitude : Magnitude
  deriving DecidableEq, Repr, Inhabited

/-- The number of bits of the fraction field. -/
def fractionBits : Nat := 52

/-- The exponent of the smallest positive double, `2 ^ minExponent`. -/
def minExponent : Int := -1074

/-- Takes a bit pattern of 64 bits apart: one sign bit, eleven exponent bits, and the fraction. -/
def partsOfBits (bits : Nat) : Parts :=
  let field : Nat := (bits >>> 52) % (1 <<< 11)
  let fraction : Nat := bits % (1 <<< 52)
  let magnitude :=
    if field = 2047 then
      if fraction = 0 then .infinite else .nan
    else if field = 0 then .finite fraction minExponent
    else .finite (fraction + (1 <<< 52)) ((field : Int) - 1075)
  ⟨bits >>> 63 == 1, magnitude⟩

/-- Takes a double apart. -/
def parts (x : Float) : Parts := partsOfBits x.toBits.toNat

/-- Whether the double is a number below zero. -/
def isBelowZero (x : Float) : Bool :=
  match parts x with
  | ⟨true, .finite m _⟩ => m != 0
  | ⟨true, .infinite⟩ => true
  | _ => false

/-- The double `± significand * 2 ^ exponent`, for a value that is a double: the significand is
moved to 53 bits, or as far as the smallest exponent allows. -/
def ofParts (negative : Bool) (significand : Nat) (exponent : Int) : Float :=
  let sign : Nat := if negative then 1 <<< 63 else 0
  if significand = 0 then Float.ofBits (UInt64.ofNat sign)
  else
    let length : Nat := significand.log2 + 1
    let wanted : Int := max minExponent (exponent + length - 53)
    let m : Nat :=
      if wanted ≤ exponent then significand <<< (exponent - wanted).toNat
      else significand >>> (wanted - exponent).toNat
    let field : Nat := if m < 1 <<< 52 then 0 else (wanted + 1075).toNat
    Float.ofBits (UInt64.ofNat (sign + (field <<< 52) + m % (1 <<< 52)))

/-- The remainder of a division that truncates: it has the sign of the dividend and is exact.
There is none for a zero divisor or an infinite dividend. -/
def remainder (x y : Float) : Float :=
  match parts x, parts y with
  | ⟨negative, .finite mx ex⟩, ⟨_, .finite my ey⟩ =>
    if my = 0 then 0.0 / 0.0
    else
      let e := min ex ey
      let a : Nat := mx <<< (ex - e).toNat
      let b : Nat := my <<< (ey - e).toNat
      ofParts negative (a % b) e
  | ⟨_, .finite _ _⟩, ⟨_, .infinite⟩ => x
  | _, _ => 0.0 / 0.0

/-- The integer that a double truncates to, if it is finite. -/
def truncated? (x : Float) : Option Int :=
  match parts x with
  | ⟨negative, .finite m e⟩ =>
    let size : Nat := if 0 ≤ e then m <<< e.toNat else m >>> (-e).toNat
    some (if negative then -(size : Int) else size)
  | _ => none

/-- The integer that a double equals, if it is one. -/
def integral? (x : Float) : Option Int :=
  match parts x with
  | ⟨negative, .finite m e⟩ =>
    let signed (size : Nat) : Int := if negative then -(size : Int) else size
    if 0 ≤ e then some (signed (m <<< e.toNat))
    else if m % (1 <<< (-e).toNat) = 0 then some (signed (m >>> (-e).toNat))
    else none
  | _ => none

/-- The whole number nearest to a double, a half away from zero.  It keeps the sign, also that of a
zero.  A double without places is left as it is, and so is one that is not finite. -/
def nearestWhole (x : Float) : Float :=
  match parts x with
  | ⟨negative, .finite m e⟩ =>
    if e < 0 then
      let places := (-e).toNat
      let whole := Float.ofNat ((m + (1 <<< (places - 1))) >>> places)
      if negative then -whole else whole
    else x
  | _ => x

/-! ## The total order of doubles

Doubles as bit patterns are linearly ordered: negative ones by falling magnitude, then positive
ones by rising magnitude, so that `-0.0` stands below `0.0` and the patterns of "not a number" at
both ends. -/

/-- A key whose order as an integer is the total order of doubles. -/
def orderKey (x : Float) : Int :=
  let bits : Nat := x.toBits.toNat
  if bits < 1 <<< 63 then bits else ((1 <<< 63 : Nat) : Int) - bits - 1

end Planwright.Double
